import PanelProbe.Proofs.Run.Echo
import PanelProbe.Proofs.Run.Exit

/-!
Whole runs, also those that are broken off: the turns of the history, and then the deletions of what
is held behind them, as far as these are answered.
-/

set_option autoImplicit false

namespace PanelProbe.Run

def ending (setting : Setting) (list : List Phase) : View :=
  View.through {} (history setting list)

def closingTargets (setting : Setting) (list : List Phase) : List Target :=
  (ending setting list).session.held ResourceKind.all

def closingRequests (setting : Setting) (list : List Phase) : List Http.Request :=
  (closingTargets setting list).map
    (deletionRequest setting.bases (ending setting list).session.access)

/-- The replies to those requests, up to the first crash. -/
def closingReplies (setting : Setting) (list : List Phase) : List Reply :=
  setting.server.replies (ending setting list).requests (closingRequests setting list)

structure Amounts (setting : Setting) (list : List Phase) (p : Progress) : Prop where
  requests : p.state.requests = (history setting list).filterMap Turn.request? ++
    (closingRequests setting list).take (closingReplies setting list).length
  rows : p.state.ledger.map Entry.row = (history setting list).filterMap Turn.row? ++
    deletionRows (closingTargets setting list) (closingReplies setting list)
  session : p.state.session = (ending setting list).session.without
    ((closingTargets setting list).take (closingReplies setting list).length)
  crash : p.crash = ((closingReplies setting list).findSome? Reply.crash? <|>
    (history setting list).findSome? Turn.crash?)

private theorem requests_ending (setting : Setting) (list : List Phase) :
    (ending setting list).requests = (history setting list).filterMap Turn.request? :=
  (follows_history setting list).requests_through

theorem amounts_run (setting : Setting) (list : List Phase) :
    Amounts setting list (run setting list) := by
  obtain ⟨view, ledger, crash⟩ := makes_history setting list
  obtain ⟨s, same, kept, concluded, ended⟩ :=
    cleanup_conclude setting (phases setting list (start setting))
  have met : s.view = ending setting list := same.trans view
  have session : s.session = (ending setting list).session := congrArg View.session met
  have requests : s.requests = (ending setting list).requests := congrArg View.requests met
  have removed := removes_cleanup setting s
  have due : deletionsDue setting s = closingRequests setting list := by
    rw [deletionsDue, session]
    rfl
  have replies : setting.server.replies s.requests (deletionsDue setting s) =
      closingReplies setting list := by
    rw [requests, due]
    rfl
  rw [replies, session] at removed
  refine ⟨?_, ?_, ?_, ?_⟩
  · show (conclude setting _).state.requests = _
    rw [concluded, removed.requests, requests, requests_ending, session, closingRequests,
      List.map_take]
    rfl
  · show (conclude setting _).state.ledger.map Entry.row = _
    rw [concluded, removed.ledger, kept, ledger, List.map_append, List.map_append,
      map_row_stamped, map_row_stamped]
    rfl
  · show (conclude setting _).state.session = _
    rw [concluded, removed.session, session]
    rfl
  · show (conclude setting _).crash = _
    rw [ended, removed.crash, crash]

end PanelProbe.Run
