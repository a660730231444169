import PanelProbe.Proofs.Run.Deletion
import PanelProbe.Proofs.Run.History

/-!
Runs against a server that answers every request: the requests and the ledger are those of the
turns, followed by those of the deletions of what is held then.
-/

set_option autoImplicit false

namespace PanelProbe.Run

structure Completes (setting : Setting) (list : List Phase)
    (answer : List Http.Request → Http.Request → Http.Outcome) : Prop where
  session : (phases setting list (start setting)).state.session =
    (View.through {} (history setting list)).session
  requests : (phases setting list (start setting)).state.requests =
    (history setting list).filterMap Turn.request?
  crash : (run setting list).crash = none
  sent : (run setting list).state.requests = (history setting list).filterMap Turn.request? ++
    deletionsDue setting (phases setting list (start setting)).state
  ledger : (run setting list).state.ledger = stamped setting.clock 0
    ((history setting list).filterMap Turn.row? ++ List.zipWith deletionRow
      ((phases setting list (start setting)).state.session.held ResourceKind.all)
      (outcomes answer ((history setting list).filterMap Turn.request?)
        (deletionsDue setting (phases setting list (start setting)).state)))

theorem completes {setting : Setting} {answer : List Http.Request → Http.Request → Http.Outcome}
    (answers : setting.server.Answers answer) (list : List Phase) :
    Completes setting list answer := by
  have follows := follows_history setting list
  obtain ⟨view, ledger, crash⟩ := makes_history setting list
  obtain ⟨session, requests⟩ := View.mk.inj view
  have asked : (phases setting list (start setting)).state.requests =
      (history setting list).filterMap Turn.request? :=
    requests.trans follows.requests_through
  have calm : (phases setting list (start setting)).crash = none := by
    rw [crash, List.findSome?_eq_none_iff]
    exact Follows.calm answers follows
  have answered := replies_of_answers answers
    (phases setting list (start setting)).state.requests
    (deletionsDue setting (phases setting list (start setting)).state)
  obtain ⟨sent, recorded, -, ended⟩ := cleanup_answered answered
  have concluded : run setting list =
      ⟨(cleanup setting (phases setting list (start setting)).state).state, none⟩ := by
    simp only [run, conclude, calm, Option.isSome_none, Bool.false_eq_true, if_false, ended]
    rfl
  refine ⟨session, asked, by rw [concluded], ?_, ?_⟩
  · rw [concluded, sent, asked]
  · rw [concluded, recorded, ledger, stamped_append, asked]
    simp [start, State.log]

end PanelProbe.Run
