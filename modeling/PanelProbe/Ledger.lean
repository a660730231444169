import PanelProbe.Console

/-!
The ledger of a run: one entry for each recorded step, in the order of recording, and the console
row that echoes an entry.
-/

set_option autoImplicit false

namespace PanelProbe

inductive Status
  | pass | fail
  deriving DecidableEq, Repr

def Status.name : Status → String
  | .pass => "PASS"
  | .fail => "FAIL"

/-- One recorded step; `stamp` is the time of recording as it is written to result files. -/
structure Entry where
  name : String
  status : Status
  details : String
  stamp : String
  deriving DecidableEq, Repr

def Entry.passed (e : Entry) : Bool := e.status == .pass

def Entry.summary (e : Entry) : String := e.name ++ ": " ++ e.details

/-- The recorded steps, first one first. -/
abbrev Ledger := List Entry

namespace Ledger

def passedCount (l : Ledger) : Nat := l.countP Entry.passed

def failures (l : Ledger) : List Entry := l.filter fun e => !e.passed

end Ledger

namespace Console

/-- What is printed when an entry is recorded: a failure always, a pass only when verbose. -/
def echo (colored verbose : Bool) (e : Entry) : String :=
  if e.passed then
    if verbose then
      "  " ++ mark colored true ++ " " ++ e.name ++ ": " ++ styled colored .dimmed e.details ++ "\n"
    else ""
  else "  " ++ mark colored false ++ " " ++ e.summary ++ "\n"

end Console

end PanelProbe
