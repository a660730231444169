import PanelProbe.Run.Cleanup
import PanelProbe.Run.Step

/-!
A whole run: the phases in order, each one left out when its gate is not met, and then cleaning up,
also when a phase crashed.
-/

set_option autoImplicit false

namespace PanelProbe.Run

private def note (message : String) : Log.Event :=
  { level := .info, speaker := .runner, message }

def phase (setting : Setting) (p : Phase) (s : State) : Progress :=
  match p.missing? s.session with
  | some kind =>
    ⟨s.log (note ("Skipping " ++ p.name ++ " phase: no " ++ kind.name ++ " id captured")), none⟩
  | none => steps setting p.steps (s.log (note ("Testing " ++ p.name ++ " endpoints...")))

def phases (setting : Setting) : List Phase → State → Progress
  | [], s => ⟨s, none⟩
  | first :: rest, s =>
    match phase setting first s with
    | ⟨s, none⟩ => phases setting rest s
    | crashed => crashed

def aborted : Log.Event where
  level := .error
  speaker := .runner
  message := "phase execution aborted; running cleanup before propagating"

def start (setting : Setting) : State :=
  State.log {} (note ("Starting API tests for " ++ setting.bases.root))

/-- Cleans up after the phases. A crash of the phases is passed on, unless cleaning up crashes
too. -/
def conclude (setting : Setting) (p : Progress) : Progress :=
  let s := if p.crash.isSome then p.state.log aborted else p.state
  let cleaned := cleanup setting s
  ⟨cleaned.state, cleaned.crash <|> p.crash⟩

def run (setting : Setting) (list : List Phase) : Progress :=
  conclude setting (phases setting list (start setting))

end PanelProbe.Run
