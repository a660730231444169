import PanelProbe.Proofs.Run.LastStored
import PanelProbe.Proofs.Scenario.Shape

/-!
Where the identifiers come from that a run of the canonical scenario deletes: from the replies to
its own creations, except that a user that was only listed is deleted when no creation of a user
showed an identifier.
-/

set_option autoImplicit false

namespace PanelProbe.Run

/-- A reply with a status showed an identifier to a request for the collection of a kind. -/
def Shown (method : Http.Method) (status : Nat) (shown? : Json → Option ResourceId)
    (setting : Setting) (requests : List Http.Request) (kind : ResourceKind)
    (id : ResourceId) : Prop :=
  ∃ earlier request later body, requests = earlier ++ request :: later ∧
    request.method = method ∧ request.url = setting.bases.api ++ kind.collection ∧
    setting.server earlier request = .outcome (.response status (.json body)) ∧
    shown? body = some id

abbrev Created := Shown .post 201 createdId?

abbrev Listed := Shown .get 200 listedId?

/-- A request deletes a resource that was created by the requests before it. -/
def DeletesOwn (setting : Setting) (earlier : List Http.Request) (request : Http.Request) : Prop :=
  ∃ kind id, Deletes setting.bases (kind, id) request ∧ Created setting earlier kind id

theorem Shown.append {method : Http.Method} {status : Nat} {shown? : Json → Option ResourceId}
    {setting : Setting} {requests : List Http.Request} {kind : ResourceKind} {id : ResourceId}
    (h : Shown method status shown? setting requests kind id) (more : List Http.Request) :
    Shown method status shown? setting (requests ++ more) kind id := by
  obtain ⟨earlier, request, later, body, rfl, found⟩ := h
  exact ⟨earlier, request, later ++ more, body, by simp, found⟩

private theorem split_left {α : Type} {first second earlier later : List α} {a : α}
    (h : first ++ second = earlier ++ a :: later) (absent : a ∉ second) :
    ∃ rest, first = earlier ++ a :: rest := by
  rcases List.append_eq_append_iff.1 h with ⟨rest, -, tail⟩ | ⟨rest, head, tail⟩
  · rw [tail] at absent
    simp at absent
  · cases rest with
    | nil =>
      rw [List.nil_append] at tail
      rw [← tail] at absent
      simp at absent
    | cons b rest =>
      obtain ⟨rfl, -⟩ := List.cons.inj tail
      exact ⟨rest, head⟩

private theorem split_right {α : Type} {first second earlier later : List α} {a : α}
    (h : first ++ second = earlier ++ a :: later) (absent : a ∉ first) :
    ∃ rest, earlier = first ++ rest ∧ second = rest ++ a :: later := by
  rcases List.append_eq_append_iff.1 h with ⟨rest, head, tail⟩ | ⟨rest, head, tail⟩
  · exact ⟨rest, head, tail⟩
  · cases rest with
    | nil => exact ⟨[], by rw [head]; simp, tail.symm⟩
    | cons b rest =>
      obtain ⟨rfl, -⟩ := List.cons.inj tail
      rw [head] at absent
      simp at absent

section History

variable {setting : Setting} {list : List Phase} {kind : ResourceKind} {id : ResourceId}
  {method : Http.Method} {status : Nat} {shown? : Json → Option ResourceId}

private theorem shown_of_stored {before after : List Turn} {t : Turn} {capture : Capture}
    (split : history setting list = before ++ t :: after) (stored : t.stored? kind = some id)
    (shape : t.step.shape = ⟨method, kind.collection, .api, status, capture⟩)
    (shows : ∀ body, capture.id? kind body = some id → shown? body = some id) :
    Shown method status shown? setting ((history setting list).filterMap Turn.request?) kind
      id := by
  have follows := follows_history setting list
  rw [split] at follows
  obtain ⟨request, body, course, found⟩ := Turn.course_of_stored stored
  have sent : t.request? = some request := by rw [Turn.request?, course]
  obtain ⟨replied, asked, s, url⟩ := follows.sent sent
  obtain ⟨rfl, path, scope, rfl, rfl⟩ := Shape.mk.inj shape
  rw [course] at replied
  injection replied with _ reply
  refine ⟨before.filterMap Turn.request?, request, after.filterMap Turn.request?, body, ?_, asked,
    ?_, reply.symm, shows body found⟩
  · rw [split, List.filterMap_append, List.filterMap_cons_some sent]
  · rw [url, scope, path, Session.renderPath, s.substitute_plain kind.collection_plain]
    rfl

private theorem turn_of_shown
    (h : Shown method status shown? setting ((history setting list).filterMap Turn.request?)
      kind id) :
    ∃ before t after request body, history setting list = before ++ t :: after ∧
      t.course = .sent request (.outcome (.response status (.json body))) ∧
      t.step.method = method ∧ shown? body = some id ∧
      ∃ s : Session, setting.bases.of t.step.scope ++ s.renderPath t.step.path =
        setting.bases.api ++ kind.collection := by
  obtain ⟨earlier, request, later, body, requests, asked, place, reply, shown⟩ := h
  obtain ⟨first, rest, taken, before, behind⟩ := List.filterMap_eq_append_iff.1 requests
  obtain ⟨idle, t, after, rfl, none, sent, -⟩ := List.filterMap_eq_cons_iff.1 behind
  have split : history setting list = (first ++ idle) ++ t :: after := by
    rw [taken, List.append_assoc]
  have follows := follows_history setting list
  rw [split] at follows
  obtain ⟨course, method, s, url⟩ := follows.sent sent
  have quiet : idle.filterMap Turn.request? = [] := List.filterMap_eq_nil_iff.2 none
  rw [List.filterMap_append, before, quiet, List.append_nil, reply] at course
  exact ⟨first ++ idle, t, after, request, body, split, course, method.symm.trans asked, shown, s,
    url.symm.trans place⟩

theorem opening_of_url {step : Step} {s : Session} {place : String} (scope : step.scope = .api)
    (url : setting.bases.of step.scope ++ s.renderPath step.path = setting.bases.api ++ place) :
    opening step.path <+: place.toList := by
  rw [scope] at url
  have path : s.renderPath step.path = place := by
    simpa [Http.Bases.of] using url
  rw [← path]
  exact s.opening_isPrefix_renderPath step.path

private theorem url_ne_of_root {step : Step} {s : Session} (scope : step.scope = .root)
    (plain : '\x7b' ∉ step.path.toList) (apart : step.path.toList.getLast?.getD 's' ≠ 's') :
    setting.bases.of step.scope ++ s.renderPath step.path ≠
      setting.bases.api ++ ResourceKind.user.collection := by
  intro url
  rw [scope, Session.renderPath, s.substitute_plain plain] at url
  have ends := congrArg (fun text => text.toList.getLast?) url
  have users : ResourceKind.user.collection.toList.getLast? = some 's' := by decide
  simp only [String.toList_append, List.getLast?_append, users, Option.some_or] at ends
  cases last : step.path.toList.getLast? with
  | none =>
    rw [last] at apart
    exact apart rfl
  | some c =>
    rw [last, Option.some_or] at ends
    rw [last, ends] at apart
    exact apart rfl

private theorem shown_iff {capture : Capture} (shows : ∀ body, capture.id? kind body = shown? body)
    (shape : ∀ t ∈ history setting list, t.step.capture = capture →
      t.step.shape = ⟨method, kind.collection, .api, status, capture⟩)
    (reach : ∀ t ∈ history setting list, t.step.method = method → ∀ s : Session,
      setting.bases.of t.step.scope ++ s.renderPath t.step.path =
        setting.bases.api ++ kind.collection → t.step.capture = capture) :
    Shown method status shown? setting ((history setting list).filterMap Turn.request?) kind id ↔
      ∃ t ∈ history setting list, t.step.capture = capture ∧ t.stored? kind = some id := by
  constructor
  · intro h
    obtain ⟨before, t, after, request, body, split, course, asked, shown, s, url⟩ :=
      turn_of_shown h
    have member : t ∈ history setting list := by simp [split]
    have kept : t.step.capture = capture := reach t member asked s url
    have expect : t.step.expect = status := congrArg Shape.expect (shape t member kept)
    refine ⟨t, member, kept, ?_⟩
    simp [Turn.stored?, Turn.body?, course, expect, kept, shows, shown]
  · rintro ⟨t, member, kept, stored⟩
    obtain ⟨before, after, split⟩ := List.append_of_mem member
    refine shown_of_stored split stored (shape t member kept) ?_
    intro body found
    rw [← shows body, found]

end History

/-! The turns of the canonical scenario. -/

section Canonical

variable {f : Fixture} {admin : Credentials} {list : List Phase}
  (canonical : Scenario.canonical? f admin = some list)

include canonical

private theorem sublist_shapes (setting : Setting) :
    ((history setting list).map fun t => t.step.shape).Sublist Scenario.shapes := by
  have steps := (map_step_history setting list).map Step.shape
  rwa [Scenario.map_shape_canonical canonical, List.map_map] at steps

theorem mem_shapes {setting : Setting} {t : Turn} (member : t ∈ history setting list) :
    t.step.shape ∈ Scenario.shapes :=
  (sublist_shapes canonical setting).subset (List.mem_map_of_mem member)

variable {setting : Setting} {kind : ResourceKind} {id : ResourceId}

theorem created_iff :
    Created setting ((history setting list).filterMap Turn.request?) kind id ↔
      ∃ t ∈ history setting list,
        t.step.capture = .createdId kind ∧ t.stored? kind = some id := by
  apply shown_iff
  · intro body
    exact if_pos rfl
  · intro t member capture
    exact Scenario.creation_shape _ (mem_shapes canonical member) kind kind.mem_all capture
  · intro t member method s url
    obtain ⟨scope, reach⟩ := Scenario.creation_of_post _ (mem_shapes canonical member) method
    exact reach kind kind.mem_all (opening_of_url scope url)

private theorem listed_iff :
    Listed setting ((history setting list).filterMap Turn.request?) .user id ↔
      ∃ t ∈ history setting list,
        t.step.capture = .firstListedId .user ∧ t.stored? .user = some id := by
  apply shown_iff
  · intro body
    rfl
  · intro t member capture
    exact Scenario.listing_shape _ (mem_shapes canonical member) .user (by decide) capture
  · intro t member method s url
    rcases Scenario.listing_of_get _ (mem_shapes canonical member) method with
      ⟨scope, plain, apart⟩ | ⟨scope, reach⟩
    · exact absurd url (url_ne_of_root scope plain apart)
    · exact reach (opening_of_url scope url)

theorem origin_canonical
    (held : (View.through {} (history setting list)).session.id? kind = some id) :
    Created setting ((history setting list).filterMap Turn.request?) kind id ∨
      kind = .user ∧
      Listed setting ((history setting list).filterMap Turn.request?) .user id ∧
      ¬∃ other, Created setting ((history setting list).filterMap Turn.request?) .user other := by
  obtain ⟨before, t, after, split, stored, last⟩ := (follows_history setting list).origin held
  have member : t ∈ history setting list := by simp [split]
  obtain ⟨request, body, -, found⟩ := Turn.course_of_stored stored
  rcases Capture.eq_of_id? found with ⟨capture, -⟩ | ⟨capture, -⟩
  · exact .inl ((created_iff canonical).2 ⟨t, member, capture, stored⟩)
  · have shape := Scenario.listing_shape _ (mem_shapes canonical member) kind kind.mem_all capture
    have same : Capture.firstListedId kind = .firstListedId .user :=
      capture.symm.trans (congrArg Shape.capture shape)
    obtain rfl : kind = .user := Capture.firstListedId.inj same
    refine .inr ⟨rfl, (listed_iff canonical).2 ⟨t, member, capture, stored⟩, ?_⟩
    rintro ⟨other, created⟩
    obtain ⟨u, taken, creation, kept⟩ := (created_iff canonical).1 created
    -- The creation cannot stand before the listing, and behind it nothing was stored any more.
    have order := Scenario.listing_first.sublist (sublist_shapes canonical setting)
    rw [split, List.map_append, List.map_cons, List.pairwise_append] at order
    rw [split] at taken
    rcases List.mem_append.1 taken with earlier | later
    · exact order.2.2 u.step.shape (List.mem_map_of_mem earlier) t.step.shape
        List.mem_cons_self .user (by decide) creation capture
    · rcases List.mem_cons.1 later with rfl | later
      · rw [capture] at creation
        cases creation
      · rw [last u later] at kept
        cases kept

theorem method_ne_delete {request : Http.Request}
    (member : request ∈ (history setting list).filterMap Turn.request?) :
    request.method ≠ .delete := by
  obtain ⟨t, taken, sent⟩ := List.mem_filterMap.1 member
  obtain ⟨before, after, split⟩ := List.append_of_mem taken
  have follows := follows_history setting list
  rw [split] at follows
  obtain ⟨-, method, -⟩ := follows.sent sent
  rw [method]
  exact Scenario.method_ne_delete _ (mem_shapes canonical taken)

end Canonical

section Whole

variable {setting : Setting} {answer : List Http.Request → Http.Request → Http.Outcome}
  (answers : setting.server.Answers answer) {list : List Phase}

include answers

private theorem shown_whole_iff {method : Http.Method} {status : Nat}
    {shown? : Json → Option ResourceId}
    {kind : ResourceKind} {id : ResourceId} (other : method ≠ .delete) :
    Shown method status shown? setting (run setting list).state.requests kind id ↔
      Shown method status shown? setting ((history setting list).filterMap Turn.request?) kind
        id := by
  rw [(completes answers list).sent]
  constructor
  · rintro ⟨earlier, request, later, body, split, asked, found⟩
    have absent : request ∉
        deletionsDue setting (phases setting list (start setting)).state := by
      intro due
      obtain ⟨target, -, rfl⟩ := List.mem_map.1 due
      exact other asked.symm
    obtain ⟨rest, taken⟩ := split_left split absent
    exact ⟨earlier, request, rest, body, taken, asked, found⟩
  · intro h
    exact h.append _

private theorem deletion_of_split {f : Fixture} {admin : Credentials}
    (canonical : Scenario.canonical? f admin = some list) {earlier later : List Http.Request}
    {request : Http.Request}
    (split : (run setting list).state.requests = earlier ++ request :: later)
    (method : request.method = .delete) :
    ∃ kind id rest, earlier = (history setting list).filterMap Turn.request? ++ rest ∧
      Deletes setting.bases (kind, id) request ∧
      (View.through {} (history setting list)).session.id? kind = some id := by
  rw [(completes answers list).sent] at split
  have absent : request ∉ (history setting list).filterMap Turn.request? := by
    intro member
    exact method_ne_delete canonical member method
  obtain ⟨rest, before, due⟩ := split_right split absent
  have member : request ∈ deletionsDue setting (phases setting list (start setting)).state := by
    simp [due]
  obtain ⟨⟨kind, id⟩, held, rfl⟩ := List.mem_map.1 member
  rw [(completes answers list).session, Session.mem_held] at held
  exact ⟨kind, id, rest, before, deletes_deletionRequest.2 rfl, held.2⟩

private theorem deletion_of_held {kind : ResourceKind} {id : ResourceId}
    (held : (phases setting list (start setting)).state.session.id? kind = some id) :
    ∃ rest later, (run setting list).state.requests =
      (history setting list).filterMap Turn.request? ++ rest ++
        deletionRequest setting.bases (phases setting list (start setting)).state.session.access
          (kind, id) :: later := by
  have member := Session.mem_held.2 ⟨kind.mem_all, held⟩
  obtain ⟨before, after, targets⟩ := List.append_of_mem member
  rw [(completes answers list).sent, deletionsDue, targets, List.map_append, List.map_cons,
    ← List.append_assoc]
  exact ⟨_, _, rfl⟩

private theorem held_of_stored {kind : ResourceKind} {id : ResourceId} {t : Turn}
    (member : t ∈ history setting list) (stored : t.stored? kind = some id) :
    ∃ last, (phases setting list (start setting)).state.session.id? kind = some last := by
  rw [(completes answers list).session, ← Option.ne_none_iff_exists', ne_eq,
    (follows_history setting list).id?_eq_none_iff, not_not]
  exact ⟨t, member, by rw [stored]; exact Option.some_ne_none id⟩

end Whole

/-- Against a server that answers every request, a run of the canonical scenario deletes nothing but
what it created itself, if and only if it created a user or was shown none in the listing; and
whatever else it deletes is the user that was listed first. -/
theorem deletes_own_iff {f : Fixture} {admin : Credentials} {list : List Phase}
    (canonical : Scenario.canonical? f admin = some list) (setting : Setting)
    (answer : List Http.Request → Http.Request → Http.Outcome) :
    let setting := setting.answering answer
    let requests := (run setting list).state.requests
    ((∀ earlier request later, requests = earlier ++ request :: later →
        request.method = .delete → DeletesOwn setting earlier request) ↔
      ((∃ id, Listed setting requests .user id) → ∃ id, Created setting requests .user id)) ∧
    ∀ earlier request later, requests = earlier ++ request :: later →
      request.method = .delete → DeletesOwn setting earlier request ∨
        ∃ id, Deletes setting.bases (.user, id) request ∧ Listed setting earlier .user id := by
  intro setting requests
  have answers : setting.server.Answers answer := answers_answering _ answer
  refine ⟨⟨?_, ?_⟩, ?_⟩
  · rintro own ⟨id, listed⟩
    obtain ⟨t, member, -, stored⟩ :=
      (listed_iff canonical).1 ((shown_whole_iff answers (by decide)).1 listed)
    -- Something of a user is held, so a deletion is sent, and being its own it names a creation.
    obtain ⟨last, held⟩ := held_of_stored answers member stored
    obtain ⟨rest, more, split⟩ := deletion_of_held answers held
    obtain ⟨kind, other, deletes, created⟩ := own _ _ _ split rfl
    obtain ⟨rfl, rfl⟩ := Prod.mk.inj (deletes_deletionRequest.1 deletes)
    refine ⟨last, ?_⟩
    show Created setting (run setting list).state.requests .user last
    rw [split]
    exact created.append _
  · intro covered earlier request later split method
    obtain ⟨kind, id, rest, rfl, deletes, held⟩ := deletion_of_split answers canonical split method
    rcases origin_canonical canonical held with created | ⟨rfl, listed, never⟩
    · exact ⟨kind, id, deletes, created.append rest⟩
    · obtain ⟨other, created⟩ := covered ⟨id, (shown_whole_iff answers (by decide)).2 listed⟩
      exact absurd ⟨other, (shown_whole_iff answers (by decide)).1 created⟩ never
  · intro earlier request later split method
    obtain ⟨kind, id, rest, rfl, deletes, held⟩ := deletion_of_split answers canonical split method
    rcases origin_canonical canonical held with created | ⟨rfl, listed, -⟩
    · exact .inl ⟨kind, id, deletes, created.append rest⟩
    · exact .inr ⟨id, deletes, listed.append rest⟩

def sample : List Phase :=
  (Scenario.canonical? ⟨1700000000, ⟨2024, 3, 5⟩⟩ {}).getD []

theorem canonical_sample :
    Scenario.canonical? ⟨1700000000, ⟨2024, 3, 5⟩⟩ {} = some sample := rfl

theorem numbering_deletes_own :
    Scenario.canonical? ⟨1700000000, ⟨2024, 3, 5⟩⟩ {} = some sample ∧
    ∀ earlier request later,
      (run (numbered.answering numbering) sample).state.requests = earlier ++ request :: later →
      request.method = .delete → DeletesOwn (numbered.answering numbering) earlier request := by
  obtain ⟨own, -⟩ := deletes_own_iff canonical_sample numbered numbering
  refine ⟨canonical_sample, own.2 ?_⟩
  rintro ⟨id, earlier, request, later, body, -, method, -, reply, -⟩
  rw [answers_answering numbered numbering] at reply
  simp [numbering, method] at reply

/-- Lists the user 1 and rejects everything else. -/
def rejecting (_ : List Http.Request) (request : Http.Request) : Http.Outcome :=
  if request.method = .get ∧ request.url = "http://api.test/api/v1/admin/users" then
    .response 200 (.json (.ofMembers [("data", .array [.ofMembers [("id", .int 1)]])]))
  else .response 500 .empty

def unwilling : Setting := numbered.answering rejecting

/-- A user that was there before is deleted when no user can be created. -/
theorem listed_user_deleted :
    Scenario.canonical? ⟨1700000000, ⟨2024, 3, 5⟩⟩ {} = some sample ∧
      ∃ earlier request later, (run unwilling sample).state.requests = earlier ++ request :: later ∧
        request.method = .delete ∧ Deletes unwilling.bases (.user, ⟨"1"⟩) request ∧
        ¬DeletesOwn unwilling earlier request := by
  have answers : unwilling.server.Answers rejecting := answers_answering numbered rejecting
  have held : (phases unwilling sample (start unwilling)).state.session.id? .user =
      some ⟨"1"⟩ := by
    rw [(completes answers sample).session]
    decide +kernel
  obtain ⟨rest, later, split⟩ := deletion_of_held answers held
  refine ⟨canonical_sample, _, _, later, split, rfl, deletes_deletionRequest.2 rfl, ?_⟩
  rintro ⟨kind, id, -, earlier, request, more, body, -, -, -, reply, -⟩
  rw [answers] at reply
  unfold rejecting at reply
  split at reply <;> cases reply

end PanelProbe.Run
