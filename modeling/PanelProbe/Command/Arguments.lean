import PanelProbe.Config.Basic
import PanelProbe.Text.Cut

/-!
The arguments of the command, read from left to right. A value may be attached to its option or
follow it; an option that waits for its value is settled when the next option is met or the
arguments end, so the first fault that is settled is the one that counts.
-/

set_option autoImplicit false

namespace PanelProbe

structure Arguments where
  url : Option String := none
  verbose : Bool := false
  config : Option String := none
  outputDirectory : Option String := none
  timeout : Option Nat := none
  strict : Bool := false
  deriving DecidableEq, Repr

namespace Arguments

def overrides (a : Arguments) : Overrides :=
  ⟨a.url, a.outputDirectory, a.timeout, a.strict⟩

inductive Misuse
  | unknown
  | missingValue
  | badNumber
  | repeated
  | needlessValue
  deriving DecidableEq, Repr

inductive Halt
  | help
  | version
  | misuse (cause : Misuse)
  deriving DecidableEq, Repr

inductive Setting
  | url | config | outputDirectory | timeout
  deriving DecidableEq, Repr

inductive Switch
  | verbose | strict | help | version
  deriving DecidableEq, Repr

def setting? (name : String) : Option Setting :=
  [("url", Setting.url), ("config", .config), ("output-dir", .outputDirectory),
    ("timeout", .timeout)].lookup name

def switch? (name : String) : Option Switch :=
  [("verbose", Switch.verbose), ("strict", .strict), ("help", .help), ("version", .version)].lookup
    name

def letter? (c : Char) : Option Switch :=
  [('v', Switch.verbose), ('h', .help), ('V', .version)].lookup c

def once {α : Type} (held : Option α) (value : Except Misuse α) : Except Halt (Option α) :=
  match held, value with
  | some _, _ => .error (.misuse .repeated)
  | none, .ok x => .ok (some x)
  | none, .error cause => .error (.misuse cause)

def path (text : String) : Except Misuse String :=
  if text.isEmpty then .error .missingValue else .ok text

def seconds (text : String) : Except Misuse Nat :=
  match Text.word? text.toList with
  | some n => .ok n
  | none => .error .badNumber

def set (a : Arguments) (option : Setting) (value : String) : Except Halt Arguments :=
  match option with
  | .url => (once a.url (.ok value)).map fun url => { a with url }
  | .config => (once a.config (path value)).map fun config => { a with config }
  | .outputDirectory =>
    (once a.outputDirectory (path value)).map fun outputDirectory => { a with outputDirectory }
  | .timeout => (once a.timeout (seconds value)).map fun timeout => { a with timeout }

def turnOn (a : Arguments) : Switch → Except Halt Arguments
  | .verbose => if a.verbose then .error (.misuse .repeated) else .ok { a with verbose := true }
  | .strict => if a.strict then .error (.misuse .repeated) else .ok { a with strict := true }
  | .help => .error .help
  | .version => .error .version

/-- What the reader of arguments keeps: the arguments so far, an option that is not settled with
the value it has got, and whether only positional arguments may follow. -/
structure Reader where
  arguments : Arguments := {}
  pending : Option (Setting × Option String) := none
  closed : Bool := false

def Reader.settle (r : Reader) : Except Halt Reader :=
  match r.pending with
  | none => .ok r
  | some (_, none) => .error (.misuse .missingValue)
  | some (option, some value) =>
    (r.arguments.set option value).map fun arguments => { r with arguments, pending := none }

def Reader.turnOn (r : Reader) (switch : Switch) : Except Halt Reader := do
  let r ← r.settle
  let arguments ← r.arguments.turnOn switch
  .ok { r with arguments }

def Reader.named (r : Reader) (name : String) (attached : Option String) : Except Halt Reader :=
  match setting? name, switch? name, attached with
  | some option, _, some value => do
    let r ← r.settle
    let arguments ← r.arguments.set option value
    .ok { r with arguments }
  | some option, _, none => do
    let r ← r.settle
    .ok { r with pending := some (option, none) }
  | none, some _, some _ => .error (.misuse .needlessValue)
  | none, some switch, none => r.turnOn switch
  | none, none, _ => .error (.misuse .unknown)

def Reader.letters (r : Reader) (letters : List Char) : Except Halt Reader :=
  letters.foldlM (fun r c =>
    match letter? c with
    | some switch => r.turnOn switch
    | none => .error (.misuse .unknown)) r

/-- Reads one argument. There are no positional arguments, so what is no option must be the value
of one that waits. -/
def Reader.read (r : Reader) (argument : String) : Except Halt Reader :=
  if r.closed then .error (.misuse .unknown)
  else
    match argument.toList with
    | ['-', '-'] => .ok { r with closed := true }
    | '-' :: '-' :: text =>
      let (name, attached) := Text.cut '=' text
      r.named (String.ofList name) (attached.map String.ofList)
    | '-' :: c :: letters => r.letters (c :: letters)
    | _ =>
      match r.pending with
      | some (option, none) => .ok { r with pending := some (option, some argument) }
      | _ => .error (.misuse .unknown)

def parse (arguments : List String) : Except Halt Arguments := do
  let r ← arguments.foldlM Reader.read {}
  let r ← r.settle
  .ok r.arguments

end Arguments

end PanelProbe
