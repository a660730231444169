import PanelProbe.Proofs.Run.Bearer
import PanelProbe.Proofs.Run.Interruption
import PanelProbe.Proofs.Run.Login
import PanelProbe.Proofs.Run.Unread
import PanelProbe.Proofs.Scenario.Identifier
import PanelProbe.Proofs.Scenario.Supply

/-!
Runs against a server that does what the scenario expects of it: nothing is left out, everything
passes, and in the end just what was created is deleted.
-/

set_option autoImplicit false

namespace PanelProbe

def Json.HasText (body : Json) (addresses : List String) : Prop :=
  ∃ address ∈ addresses, ∃ text, body.at? address = some (.string text) ∧ text ≠ ""

def Json.HasId (body : Json) : Prop :=
  (∃ n, body.at? "data.id" = some (.number n)) ∨
    ∃ text, body.at? "data.id" = some (.string text) ∧ text ≠ ""

private theorem Json.firstText?_ne_none_iff {body : Json} {addresses : List String} :
    body.firstText? addresses ≠ none ↔ body.HasText addresses := by
  simp only [ne_eq, firstText?_eq_none_iff, HasText, not_forall, exists_prop]

private theorem createdId?_ne_none {body : Json} (h : body.HasId) : createdId? body ≠ none := by
  rcases h with ⟨n, found⟩ | ⟨text, found, filled⟩
  · rw [createdId?_of_filled found rfl, Json.ofJson?_eq_some_iff.2 (.number n)]
    exact Option.some_ne_none _
  · rw [createdId?_of_filled found rfl, Json.ofJson?_eq_some_iff.2 (.string filled)]
    exact Option.some_ne_none _

/-- A body gives what the steps behind a step need of it. -/
def Step.Supplied (step : Step) (body : Http.Body) : Prop :=
  match step.capture with
  | .nothing | .firstListedId _ => True
  | .tokens | .accessToken => ∃ json, body = .json json ∧
      json.HasText ["access_token", "data.access_token"] ∧
      (step.name = "Admin Login" → json.HasText ["refresh_token", "data.refresh_token"])
  | .createdId _ => ∃ json, body = .json json ∧ json.HasId

namespace Run

def Turn.Served (t : Turn) : Prop :=
  ∀ request reply, t.course = .sent request reply →
    ∃ body, reply = .outcome (.response t.step.expect body) ∧ t.step.Supplied body

/-- A server does what is expected of it in a run: it serves the steps and accepts the deletions. -/
structure Conforms (setting : Setting) (list : List Phase) : Prop where
  steps : ∀ t ∈ history setting list, t.Served
  deletions : ∀ reply ∈ closingReplies setting list, ∃ body, reply = .outcome (.response 200 body)

def Turn.Passes (t : Turn) : Prop :=
  ∃ request body, t.course = .sent request (.outcome (.response t.step.expect body)) ∧
    t.step.Supplied body

namespace Turn

variable {t : Turn}

theorem Passes.crash? (h : t.Passes) : t.crash? = none := by
  obtain ⟨request, body, course, -⟩ := h
  rw [Turn.crash?, course]
  rfl

theorem Passes.request? (h : t.Passes) : ∃ request, t.request? = some request := by
  obtain ⟨request, body, course, -⟩ := h
  exact ⟨request, by rw [Turn.request?, course]⟩

theorem Passes.row? (h : t.Passes) : ∃ row, t.row? = some row ∧ row.status = .pass := by
  obtain ⟨request, body, course, -⟩ := h
  refine ⟨_, by rw [Turn.row?, course], ?_⟩
  exact judged_pass_iff.2 ⟨body, rfl⟩

private theorem Passes.supplied (h : t.Passes) :
    ∃ body, t.step.Supplied body ∧ ∀ json, body = .json json → t.body? = some json := by
  obtain ⟨request, body, course, supplied⟩ := h
  refine ⟨body, supplied, ?_⟩
  rintro json rfl
  exact body?_eq_some_iff.2 ⟨request, course⟩

theorem Passes.stored? (h : t.Passes) {kind : ResourceKind}
    (creation : t.step.capture = .createdId kind) : t.stored? kind ≠ none := by
  obtain ⟨body, supplied, replied⟩ := h.supplied
  simp only [Step.Supplied, creation] at supplied
  obtain ⟨json, rfl, shows⟩ := supplied
  rw [Turn.stored?, replied json rfl, creation, Option.bind_some, Capture.id?, if_pos rfl]
  exact createdId?_ne_none shows

theorem Passes.refresh? (h : t.Passes) (login : t.step.flow.IsLogin) : t.refresh? ≠ none := by
  obtain ⟨name, keeps⟩ := login
  change t.step.name = "Admin Login" at name
  change t.step.capture = .tokens at keeps
  obtain ⟨body, supplied, replied⟩ := h.supplied
  simp only [Step.Supplied, keeps] at supplied
  obtain ⟨json, rfl, access, refresh⟩ := supplied
  obtain ⟨token, found⟩ := Option.ne_none_iff_exists'.1 (Json.firstText?_ne_none_iff.2 access)
  change json.firstText? Capture.accessAddresses = some token at found
  rw [Turn.refresh?, replied json rfl, keeps, Option.bind_some, Capture.refresh?, found]
  exact Json.firstText?_ne_none_iff.2 (refresh name)

end Turn

structure Holds (s : Session) (earlier : List Flow) : Prop where
  ids : ∀ kind, Creates earlier kind → s.id? kind ≠ none
  token : (∃ e ∈ earlier, e.IsLogin) → s.refresh ≠ none

namespace Holds

variable {setting : Setting} {earlier : List Flow}

theorem sent {step : Step} {v : View} (holds : Holds v.session earlier)
    (fed : step.flow.Fed earlier) :
    ∃ request, (turn setting step v).course =
      .sent request (setting.server v.requests request) := by
  have missing : step.missing? v.session = none := by
    rw [Step.missing?_eq_none_iff]
    intro kind mentioned
    exact holds.ids kind (fed.ids kind (Step.mem_required.2 mentioned))
  have given : Payload.given? v.session step.payload ≠ none := by
    rw [ne_eq, given?_eq_none_iff]
    rintro ⟨renewal, tokenless⟩
    have renews : step.flow.renews = true := by
      rw [Step.flow, renewal]
      rfl
    exact holds.token (fed.token renews) tokenless
  obtain ⟨payload, given⟩ := Option.ne_none_iff_exists'.1 given
  obtain ⟨request, course, -⟩ := course_sent setting missing given
  exact ⟨request, course⟩

theorem next {t : Turn} (holds : Holds t.view.session earlier) (passes : t.Passes) :
    Holds t.after (earlier ++ [t.step.flow]) := by
  constructor
  · rintro kind ⟨e, member, creation⟩
    rw [Turn.id?_after, ne_eq, Option.or_eq_none_iff]
    rintro ⟨nothing, empty⟩
    rcases List.mem_append.1 member with before | here
    · exact holds.ids kind ⟨e, before, creation⟩ empty
    · rw [List.mem_singleton.1 here] at creation
      exact passes.stored? creation nothing
  · rintro ⟨e, member, login⟩
    rw [Turn.refresh_after, ne_eq, Option.or_eq_none_iff]
    rintro ⟨nothing, empty⟩
    rcases List.mem_append.1 member with before | here
    · exact holds.token ⟨e, before, login⟩ empty
    · rw [List.mem_singleton.1 here] at login
      exact passes.refresh? login nothing

end Holds

/-- Turns take some steps one by one, all of which pass and give what they were to give. -/
structure Takes (v : View) (earlier : List Flow) (steps : List Step) (ts : List Turn) : Prop where
  order : ts.map Turn.step = steps
  passes : ∀ t ∈ ts, t.Passes
  holds : Holds (v.through ts).session (earlier ++ steps.map Step.flow)

namespace Takes

variable {v : View} {earlier : List Flow}

theorem nil (holds : Holds v.session earlier) : Takes v earlier [] [] := by
  refine ⟨rfl, by simp, ?_⟩
  rw [List.map_nil, List.append_nil]
  exact holds

theorem append {first second : List Step} {ts us : List Turn} (one : Takes v earlier first ts)
    (more : Takes (v.through ts) (earlier ++ first.map Step.flow) second us) :
    Takes v earlier (first ++ second) (ts ++ us) where
  order := by rw [List.map_append, one.order, more.order]
  passes := List.forall_mem_append.2 ⟨one.passes, more.passes⟩
  holds := by
    rw [View.through_append, List.map_append, ← List.append_assoc]
    exact more.holds

variable {steps : List Step} {ts : List Turn}

theorem calm (h : Takes v earlier steps ts) : ts.findSome? Turn.crash? = none := by
  rw [List.findSome?_eq_none_iff]
  intro t member
  exact (h.passes t member).crash?

private theorem length_requests (h : Takes v earlier steps ts) :
    (ts.filterMap Turn.request?).length = steps.length := by
  rw [← h.order, List.length_map, List.length_filterMap_eq_countP, List.countP_eq_length]
  intro t member
  obtain ⟨request, sent⟩ := (h.passes t member).request?
  exact Option.isSome_iff_exists.2 ⟨request, sent⟩

private theorem length_rows (h : Takes v earlier steps ts) :
    (ts.filterMap Turn.row?).length = steps.length := by
  rw [← h.order, List.length_map, List.length_filterMap_eq_countP, List.countP_eq_length]
  intro t member
  obtain ⟨row, recorded, -⟩ := (h.passes t member).row?
  exact Option.isSome_iff_exists.2 ⟨row, recorded⟩

private theorem rows_pass (h : Takes v earlier steps ts) :
    ∀ row ∈ ts.filterMap Turn.row?, row.status = .pass := by
  intro row member
  obtain ⟨t, taken, recorded⟩ := List.mem_filterMap.1 member
  obtain ⟨own, same, passed⟩ := (h.passes t taken).row?
  obtain rfl : row = own := Option.some.inj (recorded.symm.trans same)
  exact passed

end Takes

section Taken

variable {setting : Setting} {v : View} {earlier : List Flow}

private theorem takes_turn {step : Step} (holds : Holds v.session earlier)
    (fed : step.flow.Fed earlier)
    (served : (turn setting step v).Served) : Takes v earlier [step] [turn setting step v] := by
  have sent : ∃ request, (turn setting step v).course =
      .sent request (setting.server v.requests request) := holds.sent fed
  obtain ⟨request, course⟩ := sent
  obtain ⟨body, reply, supplied⟩ := served request _ course
  rw [reply] at course
  have passes : (turn setting step v).Passes := ⟨request, body, course, supplied⟩
  have met : Holds (turn setting step v).view.session earlier := holds
  refine ⟨rfl, ?_, met.next passes⟩
  intro t member
  rw [List.mem_singleton.1 member]
  exact passes

private theorem takes_turns {steps : List Step} (holds : Holds v.session earlier)
    (fed : StepsFed earlier (steps.map Step.flow))
    (served : ∀ t ∈ turns setting steps v, t.Served) :
    Takes v earlier steps (turns setting steps v) := by
  -- A step needs no more than what those before it gave, which the session holds by then.
  induction steps generalizing v earlier with
  | nil => exact .nil holds
  | cons first rest ih =>
    obtain ⟨here, behind⟩ := fed
    have one : Takes v earlier [first] [turn setting first v] :=
      takes_turn holds here (served (turn setting first v) List.mem_cons_self)
    have calm : (turn setting first v).crash? = none :=
      (one.passes _ (List.mem_singleton_self _)).crash?
    simp only [turns, calm] at served ⊢
    have more := ih one.holds behind fun t member => served t (List.mem_cons_of_mem _ member)
    exact one.append more

private theorem takes_block {p : Phase} (holds : Holds v.session earlier)
    (gate : ∀ kind ∈ p.gate, Creates earlier kind) (fed : StepsFed earlier (p.steps.map Step.flow))
    (served : ∀ t ∈ block setting p v, t.Served) :
    Takes v earlier p.steps (block setting p v) := by
  have ready : p.missing? v.session = none := by
    rw [Phase.missing?, List.find?_eq_none]
    intro kind member
    rw [Option.isNone_iff_eq_none]
    exact holds.ids kind (gate kind member)
  have whole : block setting p v = turns setting p.steps v := by
    rw [block, ready]
  rw [whole] at served ⊢
  exact takes_turns holds fed served

private theorem takes_blocks {list : List Phase} (holds : Holds v.session earlier)
    (fed : PhasesFed earlier (list.map Phase.flows))
    (served : ∀ t ∈ (blocks setting list v).flatten, t.Served) :
    Takes v earlier (list.flatMap Phase.steps) (blocks setting list v).flatten := by
  induction list generalizing v earlier with
  | nil => exact .nil holds
  | cons first rest ih =>
    obtain ⟨gate, here, behind⟩ := fed
    have one : Takes v earlier first.steps (block setting first v) := by
      apply takes_block holds gate here
      intro t member
      exact served t (List.mem_append_left _ member)
    simp only [blocks, one.calm, List.flatten_cons, List.flatMap_cons] at served ⊢
    have more := ih one.holds behind fun t member => served t (List.mem_append_right _ member)
    exact one.append more

end Taken

section Canonical

variable {f : Fixture} {admin : Credentials} {list : List Phase} {setting : Setting}
  (canonical : Scenario.canonical? f admin = some list)

include canonical

private theorem length_steps : (list.flatMap Phase.steps).length = 31 := by
  have entries := congrArg List.length (Scenario.map_entry_canonical canonical)
  rw [List.length_map] at entries
  exact entries

private theorem created_unique {kind : ResourceKind} {id other : ResourceId}
    (created : Created setting ((history setting list).filterMap Turn.request?) kind id)
    (again : Created setting ((history setting list).filterMap Turn.request?) kind other) :
    id = other := by
  obtain ⟨t, t_mem, creation, stored⟩ := (created_iff canonical).1 created
  obtain ⟨u, u_mem, repetition, kept⟩ := (created_iff canonical).1 again
  have once : Scenario.entries.Pairwise fun one other => ∀ kind ∈ ResourceKind.all,
      one.2.capture = .createdId kind → other.2.capture ≠ .createdId kind := by decide
  obtain ⟨before, after, split⟩ := List.append_of_mem t_mem
  obtain ⟨earlier, later⟩ := pairwise_history canonical once split
  rw [split] at u_mem
  rcases List.mem_append.1 u_mem with first | rest
  · exact absurd creation (earlier u first kind kind.mem_all repetition)
  · rcases List.mem_cons.1 rest with rfl | second
    · exact Option.some.inj (stored.symm.trans kept)
    · exact absurd repetition (later u second kind kind.mem_all creation)

variable (plain : '\x7b' ∉ admin.username.toList) (conforms : Conforms setting list)

include plain conforms

private theorem takes_history : Takes {} [] (list.flatMap Phase.steps) (history setting list) := by
  have empty : Holds ({} : View).session [] := by
    refine ⟨?_, ?_⟩
    · rintro kind ⟨e, member, -⟩
      cases member
    · rintro ⟨e, member, -⟩
      cases member
  exact takes_blocks empty (Scenario.phasesFed_canonical canonical plain) conforms.steps

private theorem exists_created (kind : ResourceKind) : ∃ t ∈ history setting list,
    t.step.capture = .createdId kind ∧ ∃ id, t.stored? kind = some id := by
  have takes := takes_history canonical plain conforms
  have listed : ∀ kind ∈ ResourceKind.all, ∃ sh ∈ Scenario.shapes,
      sh.capture = .createdId kind := by decide
  obtain ⟨sh, member, creation⟩ := listed kind kind.mem_all
  rw [← Scenario.map_shape_canonical canonical, ← takes.order, List.map_map] at member
  obtain ⟨t, taken, rfl⟩ := List.mem_map.1 member
  have stored := (takes.passes t taken).stored? creation
  exact ⟨t, taken, creation, Option.ne_none_iff_exists'.1 stored⟩

private theorem exists_ids : ∃ ids : ResourceKind → ResourceId,
    closingTargets setting list = ResourceKind.all.map (fun kind => (kind, ids kind)) ∧
      ∀ kind, Created setting ((history setting list).filterMap Turn.request?) kind (ids kind) := by
  have each : ∀ kind, ∃ id, (ending setting list).session.id? kind = some id ∧
      Created setting ((history setting list).filterMap Turn.request?) kind id := by
    intro kind
    obtain ⟨t, member, creation, id, stored⟩ := exists_created canonical plain conforms kind
    have made : Created setting ((history setting list).filterMap Turn.request?) kind id :=
      (created_iff canonical).2 ⟨t, member, creation, stored⟩
    have filled : (ending setting list).session.id? kind ≠ none := by
      rw [ne_eq, ending, (follows_history setting list).id?_eq_none_iff, not_not]
      exact ⟨t, member, by rw [stored]; exact Option.some_ne_none id⟩
    obtain ⟨last, held⟩ := Option.ne_none_iff_exists'.1 filled
    -- A user that was only listed would be held if no user had been created.
    rcases origin_canonical canonical held with created | ⟨rfl, -, never⟩
    · exact ⟨last, held, created⟩
    · exact absurd ⟨id, made⟩ never
  choose ids held created using each
  exact ⟨ids, Session.held_eq_map held ResourceKind.all, created⟩

end Canonical

private theorem deletionRows_pass {targets : List Target} {results : List Http.Outcome}
    (accepted : ∀ result ∈ results, ∃ body, result = .response 200 body) :
    ∀ row ∈ List.zipWith deletionRow targets results, row.status = .pass := by
  intro row member
  rw [← List.map_uncurry_zip_eq_zipWith] at member
  obtain ⟨⟨target, result⟩, zipped, rfl⟩ := List.mem_map.1 member
  exact judged_pass_iff.2 (accepted result (List.of_mem_zip zipped).2)

theorem Conforms.accepted {setting : Setting} {list : List Phase} (h : Conforms setting list) :
    ∃ results : List Http.Outcome, closingReplies setting list = results.map .outcome ∧
      results.length = (closingTargets setting list).length ∧
      ∀ result ∈ results, ∃ body, result = .response 200 body := by
  rcases answersAll_or_crash setting.server (ending setting list).requests
    (closingRequests setting list) with all | ⟨front, request, back, message, due, answered, crash⟩
  · obtain ⟨results, replies⟩ := exists_outcomes_of_answersAll all
    have length : results.length = (closingRequests setting list).length := length_replies replies
    rw [closingRequests, List.length_map] at length
    refine ⟨results, replies, length, ?_⟩
    intro result member
    have reply : Reply.outcome result ∈ closingReplies setting list := by
      rw [closingReplies, replies]
      exact List.mem_map_of_mem member
    obtain ⟨body, same⟩ := h.deletions _ reply
    exact ⟨body, Reply.outcome.inj same⟩
  · -- A crash would be among the replies.
    have found : (closingReplies setting list).findSome? Reply.crash? = some message := by
      rw [closingReplies, due]
      exact (replies_of_crash answered crash).2
    obtain ⟨reply, member, broken⟩ := List.exists_of_findSome?_eq_some found
    obtain ⟨body, rfl⟩ := h.deletions reply member
    cases broken

def generous : Json :=
  .ofMembers [("access_token", .string "t"), ("refresh_token", .string "r"),
    ("data", .ofMembers [("id", .string "a/\x7bplan_id\x7d")])]

/-- Answers every request with this body, and with the status of a creation where something is
created. -/
def friendly : Setting where
  server := fun _ request => .outcome <| .response
    (if request.method = .post ∧ request.url ∈
      ["http://api.test/api/v1/auth/register", "http://api.test/api/v1/admin/users",
        "http://api.test/api/v1/admin/nodes", "http://api.test/api/v1/admin/plans"]
    then 201 else 200) (.json generous)
  bases := ⟨"http://api.test", "http://api.test/api/v1"⟩
  clock := fun _ => ""

def Reply.status? : Reply → Option Nat
  | .outcome (.response status _) => some status
  | _ => none

def Course.status? : Course → Option Nat
  | .sent _ reply => reply.status?
  | _ => none

private theorem supplied_generous (step : Step) : step.Supplied (.json generous) := by
  have access : generous.HasText ["access_token", "data.access_token"] :=
    Json.firstText?_ne_none_iff.1 (by decide +kernel)
  have refresh : generous.HasText ["refresh_token", "data.refresh_token"] :=
    Json.firstText?_ne_none_iff.1 (by decide +kernel)
  have place : generous.at? "data.id" = some (.string "a/\x7bplan_id\x7d") :=
    Json.textAt_iff.1 (by decide +kernel)
  have id : generous.HasId := .inr ⟨_, place, by decide⟩
  rw [Step.Supplied]
  cases step.capture with
  | nothing | firstListedId => trivial
  | tokens | accessToken => exact ⟨generous, rfl, access, fun _ => refresh⟩
  | createdId => exact ⟨generous, rfl, id⟩

private theorem conforms_friendly : Conforms friendly sample := by
  have statuses : (∀ t ∈ history friendly sample, t.course.status? = some t.step.expect) ∧
      ∀ reply ∈ closingReplies friendly sample, reply.status? = some 200 := by decide +kernel
  constructor
  · intro t member request reply course
    have expect := statuses.1 t member
    obtain ⟨-, rfl⟩ := sender_of_sent member course
    rw [course] at expect
    refine ⟨_, ?_, supplied_generous t.step⟩
    exact congrArg (fun status => Reply.outcome (.response status _)) (Option.some.inj expect)
  · intro reply member
    have accepted := statuses.2 reply member
    rcases reply with (⟨status, body⟩ | cause) | message
    · obtain rfl : status = 200 := Option.some.inj accepted
      exact ⟨body, rfl⟩
    · cases accepted
    · cases accepted

end Run

end PanelProbe
