/-!
Events of the diagnostic log: a level, the part of the program that speaks, a message and named
values.
-/

set_option autoImplicit false

namespace PanelProbe.Log

inductive Level
  | trace | debug | info | warn | error
  deriving DecidableEq, Repr

def Level.rank : Level → Nat
  | .trace => 0
  | .debug => 1
  | .info => 2
  | .warn => 3
  | .error => 4

def Level.name : Level → String
  | .trace => "TRACE"
  | .debug => "DEBUG"
  | .info => "INFO"
  | .warn => "WARN"
  | .error => "ERROR"

inductive Speaker
  | command | executor | runner | scenario | cleanup
  deriving DecidableEq, Repr

def Speaker.target : Speaker → String
  | .command => "api_tester::cli"
  | .executor => "api_tester::http::executor"
  | .runner => "api_tester::harness::runner"
  | .scenario => "api_tester::harness::phases"
  | .cleanup => "api_tester::harness::cleanup"

structure Event where
  level : Level
  speaker : Speaker
  message : String
  fields : List (String × String) := []
  deriving DecidableEq, Repr

def Event.line (e : Event) : String :=
  e.fields.foldl (fun text f => text ++ " " ++ f.1 ++ "=" ++ f.2) (e.level.name ++ " " ++ e.message)

def steering : List (Char × String) :=
  [('\x07', "07"), ('\x08', "08"), ('\x0c', "0c"), ('\x1b', "1b"), ('\x7f', "7f")]

/-- A character as messages are shown: what steers a terminal is spelled out. -/
def spelled (c : Char) : String :=
  match steering.lookup c with
  | some code => "\\x" ++ code
  | none =>
    if 0x80 ≤ c.toNat && c.toNat ≤ 0x9F then
      "\\u\x7b" ++ String.ofList (Nat.toDigits 16 c.toNat) ++ "\x7d"
    else c.toString

def Event.shown (e : Event) : String :=
  { e with message := String.join (e.message.toList.map spelled) }.line

def Event.sorted (e : Event) : Event :=
  { e with fields := e.fields.mergeSort fun a b => !(b.1 < a.1) }

end PanelProbe.Log
