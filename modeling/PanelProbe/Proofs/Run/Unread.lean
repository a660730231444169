import PanelProbe.Proofs.Run.Provenance
import PanelProbe.Proofs.Run.Whole

/-!
Bodies that nobody reads. A step reads the body of its reply only if it keeps something of it and
the status is the expected one; whatever stands in the other bodies, a run sends, records, prints
and holds the same.
-/

set_option autoImplicit false

namespace PanelProbe

namespace Run

def Reply.bare : Reply → Reply
  | .outcome (.response status _) => .outcome (.response status .empty)
  | .outcome (.failure cause) => .outcome (.failure cause)
  | .crash message => .crash message

private theorem Reply.crash?_bare (reply : Reply) : reply.bare.crash? = reply.crash? := by
  rcases reply with (⟨status, body⟩ | ⟨cause⟩) | message <;> rfl

end Run

open Run in
def Step.Reads (step : Step) (reply : Reply) : Prop :=
  step.capture ≠ .nothing ∧ ∃ body, reply = .outcome (.response step.expect body)

namespace Run

/-- What shows of a turn to those who do not see its reply. -/
structure Outline where
  step : Step
  next : View
  request? : Option Http.Request
  row? : Option Row
  crash? : Option String

def Turn.outline (t : Turn) : Outline :=
  ⟨t.step, t.next, t.request?, t.row?, t.crash?⟩

private theorem Turn.after_of_unread {step : Step} {view : View} {request : Http.Request}
    {reply : Reply}
    (unread : ¬step.Reads reply) : Turn.after ⟨step, view, .sent request reply⟩ = view.session := by
  rcases reply with (⟨status, body⟩ | ⟨cause⟩) | message
  · by_cases expected : status = step.expect
    · have idle : step.capture = .nothing := by
        by_contra busy
        exact unread ⟨busy, body, by rw [expected]⟩
      cases body with
      | json value => simp [Turn.after, Turn.body?, expected, idle, Capture.kept, Capture.keep?]
      | raw text => rfl
      | empty => rfl
    · cases body with
      | json value => simp [Turn.after, Turn.body?, expected]
      | raw text => rfl
      | empty => rfl
  · rfl
  · rfl

private theorem Turn.row?_of_bare (step : Step) (view : View) (request : Http.Request)
    {reply other : Reply} (h : reply.bare = other.bare) :
    Turn.row? ⟨step, view, .sent request reply⟩ = Turn.row? ⟨step, view, .sent request other⟩ := by
  have keeps : ∀ r : Reply, Turn.row? ⟨step, view, .sent request r.bare⟩ =
      Turn.row? ⟨step, view, .sent request r⟩ := by
    rintro ((⟨status, body⟩ | ⟨cause⟩) | message) <;> rfl
  rw [← keeps reply, h, keeps other]

private theorem Turn.outline_of_bare {step : Step} {view : View} {request : Http.Request}
    {reply other : Reply} (h : other.bare = reply.bare) (read : step.Reads reply → other = reply) :
    Turn.outline ⟨step, view, .sent request other⟩ =
      Turn.outline ⟨step, view, .sent request reply⟩ := by
  by_cases reads : step.Reads reply
  · rw [read reads]
  · have unread : ¬step.Reads other := by
      rintro ⟨busy, body, rfl⟩
      rcases reply with (⟨status, body'⟩ | ⟨cause⟩) | message
      · simp only [Reply.bare, Reply.outcome.injEq, Http.Outcome.response.injEq, and_true] at h
        exact reads ⟨busy, body', by rw [h]⟩
      · cases h
      · cases h
    have next : Turn.next ⟨step, view, .sent request other⟩ =
        Turn.next ⟨step, view, .sent request reply⟩ := by
      simp only [Turn.next, after_of_unread unread, after_of_unread reads]
      rfl
    have row := Turn.row?_of_bare step view request h
    have crash : other.crash? = reply.crash? := by
      rw [← other.crash?_bare, h, reply.crash?_bare]
    simp only [Turn.outline, next, row]
    simp only [Turn.crash?, crash]
    rfl

/-- A server replies to the request of a turn like the one it met, up to a body that is not read. -/
def Turn.SeenFrom (server : Server) (t : Turn) : Prop :=
  ∀ request reply, t.course = .sent request reply →
    (server t.view.requests request).bare = reply.bare ∧
      (t.step.Reads reply → server t.view.requests request = reply)

section Outlines

variable {a b : Setting} (bases : b.bases = a.bases)

include bases

private theorem outline_turn {step : Step} {v : View} (seen : (turn a step v).SeenFrom b.server) :
    (turn b step v).outline = (turn a step v).outline := by
  cases missing : step.missing? v.session with
  | some kind => simp only [turn, missing, Turn.outline]
  | none =>
    cases given : Payload.given? v.session step.payload with
    | none => simp only [turn, missing, given, Turn.outline]
    | some payload =>
      simp only [Turn.SeenFrom, turn, missing, given, Course.sent.injEq, and_imp] at seen
      obtain ⟨bare, read⟩ := seen _ _ rfl rfl
      simp only [turn, missing, given, bases]
      exact Turn.outline_of_bare bare read

private theorem outline_turns {list : List Step} {v : View}
    (seen : ∀ t ∈ turns a list v, t.SeenFrom b.server) :
    (turns b list v).map Turn.outline = (turns a list v).map Turn.outline := by
  induction list generalizing v with
  | nil => rfl
  | cons first rest ih =>
    simp only [turns, List.mem_cons, forall_eq_or_imp] at seen
    obtain ⟨here, later⟩ := seen
    have one := outline_turn bases here
    have crash : (turn b first v).crash? = (turn a first v).crash? := congrArg Outline.crash? one
    have next : (turn b first v).next = (turn a first v).next := congrArg Outline.next one
    simp only [turns, List.map_cons, one, crash, next]
    cases ended : (turn a first v).crash? with
    | some message => rfl
    | none =>
      rw [ended] at later
      simp only [ih later]

private theorem outline_block {p : Phase} {v : View}
    (seen : ∀ t ∈ block a p v, t.SeenFrom b.server) :
    (block b p v).map Turn.outline = (block a p v).map Turn.outline := by
  unfold block at seen ⊢
  cases missing : p.missing? v.session with
  | some kind => rfl
  | none =>
    rw [missing] at seen
    exact outline_turns bases seen

end Outlines

section Equal

variable {ts us : List Turn} (same : ts.map Turn.outline = us.map Turn.outline)

include same

private theorem filterMap_of_outline {α : Type} (shown : Outline → Option α) :
    ts.filterMap (fun t => shown t.outline) = us.filterMap (fun t => shown t.outline) := by
  have mapped := congrArg (List.filterMap shown) same
  rwa [List.filterMap_map, List.filterMap_map] at mapped

private theorem findSome?_of_outline :
    ts.findSome? Turn.crash? = us.findSome? Turn.crash? := by
  have mapped := congrArg (List.findSome? Outline.crash?) same
  rwa [List.findSome?_map, List.findSome?_map] at mapped

private theorem through_of_outline (v : View) : v.through ts = v.through us := by
  have mapped := congrArg (List.foldl (fun _ o => Outline.next o) v) same
  rwa [List.foldl_map, List.foldl_map] at mapped

end Equal

section Histories

variable {a b : Setting} (bases : b.bases = a.bases)

include bases

private theorem outline_blocks {list : List Phase} {v : View}
    (seen : ∀ t ∈ (blocks a list v).flatten, t.SeenFrom b.server) :
    (blocks b list v).flatten.map Turn.outline = (blocks a list v).flatten.map Turn.outline := by
  induction list generalizing v with
  | nil => rfl
  | cons first rest ih =>
    simp only [blocks, List.flatten_cons, List.mem_append] at seen
    have one := outline_block bases fun t member => seen t (.inl member)
    have crash := findSome?_of_outline one
    have next := through_of_outline one v
    simp only [blocks, List.flatten_cons, List.map_append, one, crash, next]
    cases ended : (block a first v).findSome? Turn.crash? with
    | some message => rfl
    | none =>
      rw [ended] at seen
      rw [ih fun t member => seen t (.inr member)]

private theorem outline_history {list : List Phase}
    (seen : ∀ t ∈ history a list, t.SeenFrom b.server) :
    (history b list).map Turn.outline = (history a list).map Turn.outline :=
  outline_blocks bases seen

end Histories

/-! Deletions look at the status alone. -/

private theorem bare_replies {a b : Server}
    (alike : ∀ earlier request, (b earlier request).bare = (a earlier request).bare)
    (earlier requests : List Http.Request) :
    (b.replies earlier requests).map Reply.bare = (a.replies earlier requests).map Reply.bare := by
  induction requests generalizing earlier with
  | nil => rfl
  | cons request rest ih =>
    have one := alike earlier request
    simp only [Server.replies]
    rcases replyA : a earlier request with (⟨status, body⟩ | ⟨cause⟩) | message <;>
      rcases replyB : b earlier request with (⟨status', body'⟩ | ⟨cause'⟩) | message' <;>
      rw [replyA, replyB] at one <;>
      simp_all [Reply.bare]

private theorem deletionRows_of_bare {replies others : List Reply}
    (h : others.map Reply.bare = replies.map Reply.bare) (targets : List Target) :
    deletionRows targets others = deletionRows targets replies := by
  have keeps : ∀ rs : List Reply, deletionRows targets (rs.map Reply.bare) =
      deletionRows targets rs := by
    intro rs
    rw [deletionRows, deletionRows, List.zip_map_right, List.filterMap_map]
    apply List.filterMap_congr
    rintro ⟨target, (⟨status, body⟩ | ⟨cause⟩) | message⟩ - <;> rfl
  rw [← keeps others, h, keeps replies]

private theorem findSome?_of_bare {replies others : List Reply}
    (h : others.map Reply.bare = replies.map Reply.bare) :
    others.findSome? Reply.crash? = replies.findSome? Reply.crash? := by
  have keeps : ∀ rs : List Reply, (rs.map Reply.bare).findSome? Reply.crash? =
      rs.findSome? Reply.crash? := by
    intro rs
    rw [List.findSome?_map]
    exact congrArg (List.findSome? · rs) (funext Reply.crash?_bare)
  rw [← keeps others, h, keeps replies]

/-- The setting with a server that gives the replies of a script in their order. -/
def Setting.scripted (setting : Setting) (script : Nat → Reply) : Setting :=
  { setting with server := fun earlier _ => script earlier.length }

/-- The steps whose requests a run sends, in the order of the requests. -/
def senders (setting : Setting) (list : List Phase) : List Step :=
  (history setting list).filterMap fun t => t.request?.map fun _ => t.step

theorem sender_of_sent {setting : Setting} {list : List Phase} {t : Turn}
    (member : t ∈ history setting list) {request : Http.Request} {reply : Reply}
    (course : t.course = .sent request reply) :
    (senders setting list)[t.view.requests.length]? = some t.step ∧
      reply = setting.server t.view.requests request := by
  obtain ⟨before, after, split⟩ := List.append_of_mem member
  have follows := follows_history setting list
  rw [split] at follows
  have sent : t.request? = some request := by rw [Turn.request?, course]
  have equal : t = turn setting t.step (View.through {} before) := follows.eq_turn
  have view : t.view = View.through {} before := by rw [equal]; rfl
  have earlier : t.view.requests = before.filterMap Turn.request? := by
    rw [view]
    exact (follows_append.1 follows).1.requests_through
  obtain ⟨replied, -, -⟩ := follows.sent sent
  rw [course, ← earlier] at replied
  injection replied with _ reply
  have aligned : ∀ ts : List Turn,
      (ts.filterMap fun t => t.request?.map fun _ => t.step).length =
        (ts.filterMap Turn.request?).length := by
    intro ts
    induction ts with
    | nil => rfl
    | cons u rest ih => cases asked : u.request? <;> simp [asked, ih]
  refine ⟨?_, reply⟩
  rw [senders, split, List.filterMap_append, earlier, ← aligned before, List.getElem?_append_right
    (le_refl _), Nat.sub_self, List.filterMap_cons, sent]
  rfl

/-- Two scripts that agree on every crash, cause and status, and on the bodies that the steps of the
run read, lead to the same requests, the same rows, the same console text and the same session, and
the runs end alike; the times of recording may differ. -/
theorem unread_bodies (setting : Setting) (clock : Nat → String) (list : List Phase)
    (first second : Nat → Reply) (alike : ∀ i, (second i).bare = (first i).bare)
    (read : ∀ i step, (senders (setting.scripted first) list)[i]? = some step →
      step.Reads (first i) → second i = first i) :
    let one := run (setting.scripted first) list
    let other := run (({ setting with clock := clock } : Setting).scripted second) list
    other.state.requests = one.state.requests ∧
    other.state.ledger.map Entry.row = one.state.ledger.map Entry.row ∧
    other.state.console = one.state.console ∧
    other.state.session = one.state.session ∧
    other.crash = one.crash := by
  intro one other
  let a : Setting := setting.scripted first
  let b : Setting := ({ setting with clock := clock } : Setting).scripted second
  have seen : ∀ t ∈ history a list, t.SeenFrom b.server := by
    intro t member request reply course
    obtain ⟨sender, replied⟩ := sender_of_sent member course
    have met : reply = first t.view.requests.length := replied
    subst met
    exact ⟨alike _, read _ _ sender⟩
  have outlines : (history b list).map Turn.outline = (history a list).map Turn.outline :=
    outline_history (show b.bases = a.bases from rfl) seen
  have ends : ending b list = ending a list := through_of_outline outlines {}
  have targets : closingTargets b list = closingTargets a list := by
    rw [closingTargets, closingTargets, ends]
  have deletions : closingRequests b list = closingRequests a list := by
    rw [closingRequests, closingRequests, targets, ends]
    rfl
  have replies :
      (closingReplies b list).map Reply.bare = (closingReplies a list).map Reply.bare := by
    rw [closingReplies, closingReplies, deletions, ends]
    exact bare_replies (fun earlier request => alike earlier.length) _ _
  have width : (closingReplies b list).length = (closingReplies a list).length := by
    simpa using congrArg List.length replies
  have p : Amounts a list one := amounts_run a list
  have q : Amounts b list other := amounts_run b list
  have rows : other.state.ledger.map Entry.row = one.state.ledger.map Entry.row := by
    rw [q.rows, p.rows, targets, deletionRows_of_bare replies]
    congr 1
    exact filterMap_of_outline outlines Outline.row?
  refine ⟨?_, rows, ?_, ?_, ?_⟩
  · rw [q.requests, p.requests, deletions, width]
    congr 1
    exact filterMap_of_outline outlines Outline.request?
  · have printed : other.state.console = echoes b (other.state.ledger.map Entry.row) :=
      echoed_run b list
    have expected : one.state.console = echoes a (one.state.ledger.map Entry.row) :=
      echoed_run a list
    rw [printed, expected, rows]
    rfl
  · rw [q.session, p.session, ends, targets, width]
  · rw [q.crash, p.crash, findSome?_of_bare replies, findSome?_of_outline outlines]

/-- Registration, the fourth request, is answered with a token, and everything else rejected with
some body. -/
def rejectingWith (body : Http.Body) (i : Nat) : Reply :=
  if i = 3 then .outcome (.response 201 (.json (.ofMembers [("access_token", .string "t")])))
  else .outcome (.response 500 body)

def forged : Http.Body :=
  .json (.ofMembers [("access_token", .string "forged"), ("id", .int 7)])

theorem forged_unread :
    (∀ i, (rejectingWith .empty i).bare = (rejectingWith forged i).bare) ∧
    (∀ i step, (senders (numbered.scripted (rejectingWith forged)) sample)[i]? = some step →
      step.Reads (rejectingWith forged i) → rejectingWith .empty i = rejectingWith forged i) ∧
    (run (numbered.scripted (rejectingWith .empty)) sample).state.session =
      (run (numbered.scripted (rejectingWith forged)) sample).state.session := by
  have alike : ∀ i, (rejectingWith .empty i).bare = (rejectingWith forged i).bare := by
    intro i
    by_cases registration : i = 3
    · simp [rejectingWith, registration]
    · simp [rejectingWith, registration, Reply.bare]
  have read : ∀ i step,
      (senders (numbered.scripted (rejectingWith forged)) sample)[i]? = some step →
        step.Reads (rejectingWith forged i) → rejectingWith .empty i = rejectingWith forged i := by
    rintro i step sender ⟨-, body, reply⟩
    by_cases registration : i = 3
    · simp [rejectingWith, registration]
    · -- No step of the scenario expects the status of a rejection.
      have expect : 500 = step.expect := by
        simp only [rejectingWith, if_neg registration, Reply.outcome.injEq,
          Http.Outcome.response.injEq] at reply
        exact reply.1
      obtain ⟨t, member, asked⟩ := List.mem_filterMap.1 (List.mem_of_getElem? sender)
      obtain ⟨request, -, rfl⟩ := Option.map_eq_some_iff.1 asked
      have apart : ∀ sh ∈ Scenario.shapes, sh.expect ≠ 500 := by decide
      exact absurd expect.symm (apart _ (mem_shapes canonical_sample member))
  exact ⟨alike, read,
    (unread_bodies numbered numbered.clock sample _ _ alike read).2.2.2.1⟩

end Run

end PanelProbe
