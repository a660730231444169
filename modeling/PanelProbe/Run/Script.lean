import PanelProbe.Run.State
import PanelProbe.Text.Replace

/-!
Scripted servers: rules tried in order, each with conditions on the request and a number of times
it may be used, and a reply for everything else.
-/

set_option autoImplicit false

namespace PanelProbe.Run

/-- A rule replies to the requests that meet all its conditions, as often as `times` allows. -/
structure Rule where
  method : Option String := none
  suffix : Option String := none
  part : Option String := none
  bearer : Option String := none
  times : Option Nat := none
  reply : Reply

structure Script where
  rules : List Rule
  default : Reply

namespace Rule

def fits (rule : Rule) (request : Http.Request) : Bool :=
  let url := request.url.toList
  rule.method.all (· == request.method.name) &&
    rule.suffix.all (fun e => Text.endsWith e.toList url) &&
    rule.part.all (fun p => Text.occursIn p.toList url) &&
    rule.bearer.all (fun t => request.header? "Authorization" == some ("Bearer " ++ t))

def available (rule : Rule) : Bool := rule.times.all (0 < ·)

def used (rule : Rule) : Rule := { rule with times := rule.times.map (· - 1) }

end Rule

namespace Script

def answer (request : Http.Request) : List Rule → Option (Reply × List Rule)
  | [] => none
  | rule :: rest =>
    if rule.fits request && rule.available then some (rule.reply, rule.used :: rest)
    else (answer request rest).map fun a => (a.1, rule :: a.2)

def after (script : Script) (request : Http.Request) : Script :=
  match answer request script.rules with
  | some (_, rules) => { script with rules }
  | none => script

def reply (script : Script) (request : Http.Request) : Reply :=
  match answer request script.rules with
  | some (reply, _) => reply
  | none => script.default

def server (script : Script) : Server :=
  fun earlier request => (earlier.foldl Script.after script).reply request

end Script

end PanelProbe.Run
