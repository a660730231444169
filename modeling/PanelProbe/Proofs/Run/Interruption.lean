import PanelProbe.Proofs.Run.LastStored

/-!
Cleaning up that is broken off. The deletion that crashes is the last one that is sent: what is held
behind it stays held and is not deleted, so all that is held is deleted just when no deletion but
the last crashes.
-/

set_option autoImplicit false

namespace PanelProbe.Run

def Server.AnswersAll (server : Server) : List Http.Request → List Http.Request → Prop
  | _, [] => True
  | earlier, request :: rest =>
    (∃ result, server earlier request = .outcome result) ∧
      Server.AnswersAll server (earlier ++ [request]) rest

section Replies

variable {server : Server} {earlier : List Http.Request}

private theorem answersAll_append {first second : List Http.Request} :
    server.AnswersAll earlier (first ++ second) ↔
      server.AnswersAll earlier first ∧ server.AnswersAll (earlier ++ first) second := by
  induction first generalizing earlier with
  | nil => simp [Server.AnswersAll]
  | cons request rest ih =>
    simp only [List.cons_append, Server.AnswersAll, ih, List.append_assoc, List.nil_append,
      and_assoc]

theorem answersAll_or_crash (server : Server) (earlier requests : List Http.Request) :
    server.AnswersAll earlier requests ∨
      ∃ front request back message, requests = front ++ request :: back ∧
        server.AnswersAll earlier front ∧
        server (earlier ++ front) request = .crash message := by
  induction requests generalizing earlier with
  | nil => exact .inl trivial
  | cons request rest ih =>
    cases reply : server earlier request with
    | crash message =>
      refine .inr ⟨[], request, rest, message, rfl, trivial, ?_⟩
      rw [List.append_nil, reply]
    | outcome result =>
      rcases ih (earlier ++ [request]) with all | ⟨front, broken, back, message, rfl, some, crash⟩
      · exact .inl ⟨⟨result, reply⟩, all⟩
      · refine .inr ⟨request :: front, broken, back, message, rfl, ⟨⟨result, reply⟩, some⟩, ?_⟩
        rw [← crash, List.append_assoc, List.singleton_append]

theorem exists_outcomes_of_answersAll {requests : List Http.Request}
    (answered : server.AnswersAll earlier requests) :
    ∃ results : List Http.Outcome, server.replies earlier requests = results.map .outcome := by
  induction requests generalizing earlier with
  | nil => exact ⟨[], rfl⟩
  | cons request rest ih =>
    obtain ⟨⟨result, reply⟩, more⟩ := answered
    obtain ⟨results, replies⟩ := ih more
    refine ⟨result :: results, ?_⟩
    simp only [Server.replies, reply, replies, List.map_cons]

theorem replies_of_crash {front back : List Http.Request} {request : Http.Request}
    {message : String} (answered : server.AnswersAll earlier front)
    (crash : server (earlier ++ front) request = .crash message) :
    (server.replies earlier (front ++ request :: back)).length = front.length + 1 ∧
      (server.replies earlier (front ++ request :: back)).findSome? Reply.crash? =
        some message := by
  induction front generalizing earlier with
  | nil =>
    rw [List.append_nil] at crash
    simp [Server.replies, crash, Reply.crash?]
  | cons first rest ih =>
    obtain ⟨⟨result, reply⟩, more⟩ := answered
    have behind : server ((earlier ++ [first]) ++ rest) request = .crash message := by
      rw [← crash, List.append_assoc, List.singleton_append]
    obtain ⟨length, found⟩ := ih more behind
    simp only [List.cons_append, Server.replies, reply]
    exact ⟨congrArg (· + 1) length, found⟩

end Replies

def deletionsSent (setting : Setting) (s : State) : List Http.Request :=
  (cleanup setting s).state.requests.drop s.requests.length

theorem deletionsSent_eq_take (setting : Setting) (s : State) :
    deletionsSent setting s = (deletionsDue setting s).take
      (setting.server.replies s.requests (deletionsDue setting s)).length := by
  rw [deletionsSent, (removes_cleanup setting s).requests, List.drop_left, deletionsDue,
    List.map_take]

private theorem deletionsSent_of_answersAll {setting : Setting} {s : State}
    (answered : setting.server.AnswersAll s.requests (deletionsDue setting s)) :
    deletionsSent setting s = deletionsDue setting s := by
  obtain ⟨results, replies⟩ := exists_outcomes_of_answersAll answered
  have length := length_replies replies
  rw [deletionsSent_eq_take, replies, List.length_map, length, List.take_length]

/-- A cleanup is broken off by the reply to one of the deletions that are due. -/
structure BreaksOff (setting : Setting) (s : State) (front : List Http.Request)
    (request : Http.Request) (back : List Http.Request) (message : String) : Prop where
  due : deletionsDue setting s = front ++ request :: back
  answered : setting.server.AnswersAll s.requests front
  reply : setting.server (s.requests ++ front) request = .crash message

namespace BreaksOff

variable {setting : Setting} {s : State} {front back : List Http.Request} {request : Http.Request}
  {message : String}

theorem sent (h : BreaksOff setting s front request back message) :
    deletionsSent setting s = front ++ [request] := by
  have split : front ++ request :: back = (front ++ [request]) ++ back := by simp
  have length : front.length + 1 = (front ++ [request]).length := by simp
  rw [deletionsSent_eq_take, h.due, (replies_of_crash h.answered h.reply).1, split, length,
    List.take_left]

theorem crash (h : BreaksOff setting s front request back message) :
    (cleanup setting s).crash = some message := by
  rw [(removes_cleanup setting s).crash, h.due]
  exact (replies_of_crash h.answered h.reply).2

theorem session (h : BreaksOff setting s front request back message) :
    (cleanup setting s).state.session =
      s.session.without ((s.session.held ResourceKind.all).take (front.length + 1)) := by
  rw [(removes_cleanup setting s).session, h.due, (replies_of_crash h.answered h.reply).1]

theorem held (h : BreaksOff setting s front request back message) :
    (cleanup setting s).state.session.held ResourceKind.all =
      (s.session.held ResourceKind.all).drop (front.length + 1) := by
  rw [h.session]
  exact Session.held_without (by decide) (List.take_append_drop _ _).symm

end BreaksOff

theorem breaksOff_or_answersAll (setting : Setting) (s : State) :
    setting.server.AnswersAll s.requests (deletionsDue setting s) ∨
      ∃ front request back message, BreaksOff setting s front request back message := by
  rcases answersAll_or_crash setting.server s.requests (deletionsDue setting s) with
    all | ⟨front, request, back, message, due, answered, reply⟩
  · exact .inl all
  · exact .inr ⟨front, request, back, message, due, answered, reply⟩

private theorem deletionsSent_prefix (setting : Setting) (s : State) :
    deletionsSent setting s <+: deletionsDue setting s := by
  rw [deletionsSent_eq_take]
  exact List.take_prefix _ _

private theorem sends_all_iff (setting : Setting) (s : State) :
    deletionsSent setting s = deletionsDue setting s ↔
      setting.server.AnswersAll s.requests (deletionsDue setting s).dropLast := by
  rcases breaksOff_or_answersAll setting s with all | ⟨front, request, back, message, broken⟩
  · refine iff_of_true (deletionsSent_of_answersAll all) ?_
    obtain ⟨last, split⟩ := List.dropLast_prefix (deletionsDue setting s)
    rw [← split, answersAll_append] at all
    exact all.1
  · rw [broken.sent, broken.due]
    constructor
    · intro whole
      have none : back = [] := by simpa using whole
      rw [none, List.dropLast_concat]
      exact broken.answered
    · intro answered
      by_contra more
      have behind : back ≠ [] := by
        rintro rfl
        exact more rfl
      -- The crash would be among the answers.
      rw [List.dropLast_append_of_ne_nil (List.cons_ne_nil _ _),
        List.dropLast_cons_of_ne_nil behind, answersAll_append] at answered
      obtain ⟨result, reply⟩ := answered.2.1
      rw [broken.reply] at reply
      cases reply

private theorem deletes_each_iff (setting : Setting) (s : State) :
    (∀ kind id, s.session.id? kind = some id → (deletionsSent setting s).countP
        (fun r => decide (Deletes setting.bases (kind, id) r)) = 1) ↔
      deletionsSent setting s = deletionsDue setting s := by
  constructor
  · intro each
    obtain ⟨rest, due⟩ := deletionsSent_prefix setting s
    have none : rest = [] := by
      by_contra more
      obtain ⟨request, member⟩ := List.exists_mem_of_ne_nil rest more
      have inside : request ∈ deletionsDue setting s := by
        rw [← due]
        exact List.mem_append_right _ member
      obtain ⟨⟨kind, id⟩, held, rfl⟩ := List.mem_map.1 inside
      have slot : s.session.id? kind = some id := (Session.mem_held.1 held).2
      have behind : 0 < rest.countP fun r => decide (Deletes setting.bases (kind, id) r) :=
        List.countP_pos_iff.2 ⟨_, member, decide_eq_true (deletes_deletionRequest.2 rfl)⟩
      -- One deletion of it is sent and another one left, but only one is due.
      have once := countP_deletionsDue setting s (kind, id)
      rw [← due, List.countP_append, each kind id slot, if_pos slot] at once
      omega
    rw [← due, none, List.append_nil]
  · intro all kind id slot
    have once := countP_deletionsDue setting s (kind, id)
    rw [if_pos slot] at once
    rw [all, once]

/-- A cleanup sends one deletion for each held resource if and only if all deletions that are due,
but for the last, are answered. The first that crashes is the last that is sent, and what is held
behind it stays held. -/
theorem deletes_all_held_iff (setting : Setting) (s : State) :
    let due := deletionsDue setting s
    let sent := deletionsSent setting s
    ((∀ kind id, s.session.id? kind = some id →
        sent.countP (fun r => decide (Deletes setting.bases (kind, id) r)) = 1) ↔
      setting.server.AnswersAll s.requests due.dropLast) ∧
    ∀ front request back message, due = front ++ request :: back →
      setting.server.AnswersAll s.requests front →
      setting.server (s.requests ++ front) request = .crash message →
      sent = front ++ [request] ∧ (cleanup setting s).crash = some message ∧
      (cleanup setting s).state.session.held ResourceKind.all =
        (s.session.held ResourceKind.all).drop (front.length + 1) := by
  intro due sent
  refine ⟨(deletes_each_iff setting s).trans (sends_all_iff setting s), ?_⟩
  intro front request back message split answered reply
  have broken : BreaksOff setting s front request back message := ⟨split, answered, reply⟩
  exact ⟨broken.sent, broken.crash, broken.held⟩

def explosive : Setting where
  server := fun _ request =>
    if request.method = .delete then .crash "server exploded" else .outcome (.response 200 .empty)
  bases := ⟨"http://api.test", "http://api.test/api/v1"⟩
  clock := fun _ => ""

def laden : State where
  session := { user := some ⟨"1"⟩, node := some ⟨"2"⟩, plan := some ⟨"3"⟩ }

/-- The crash of the first deletion leaves the node and the plan without one. -/
theorem node_and_plan_left :
    laden.session.id? .node = some ⟨"2"⟩ ∧ laden.session.id? .plan = some ⟨"3"⟩ ∧
    (deletionsSent explosive laden).map Http.Request.url =
      ["http://api.test/api/v1/admin/users/1"] ∧
    (∀ kind ∈ [ResourceKind.node, .plan], ∀ id ∈ laden.session.id? kind,
      (deletionsSent explosive laden).countP
        (fun r => decide (Deletes explosive.bases (kind, id) r)) = 0) ∧
    (cleanup explosive laden).state.session = { node := some ⟨"2"⟩, plan := some ⟨"3"⟩ } := by
  decide +kernel

end PanelProbe.Run
