import PanelProbe.Log.Event
import PanelProbe.Text.Ascii
import PanelProbe.Text.Blank
import PanelProbe.Text.Cut
import PanelProbe.Text.Direction
import PanelProbe.Text.Numeral
import PanelProbe.Text.Pattern

/-!
Which events reach the log. A filter is a list of directives between commas; of those that apply to
an event, the most specific decides from which level on the event passes.
-/

set_option autoImplicit false

namespace PanelProbe.Log

/-- Lets pass, from a level on or not at all, the events whose target begins with a text and which
have a field if one is named. An empty target means all. A directive for spans applies to no event,
because no event is inside a span. -/
structure Directive where
  target : String
  field : Option String := none
  forSpans : Bool := false
  least : Option Level
  deriving DecidableEq, Repr

abbrev Filter := List Directive

def levelNames : List (String × Option Level) :=
  [("off", none), ("error", some .error), ("warn", some .warn), ("info", some .info),
    ("debug", some .debug), ("trace", some .trace)]

/-- Reads a level, by name in any case or by its place among the names. -/
def level? (text : List Char) : Option (Option Level) :=
  match Text.word? text with
  | some n => levelNames[n]?.map Prod.snd
  | none => levelNames.lookup (Text.lower (String.ofList text))

def leastOf? (text : List Char) : Option (Option Level) :=
  if text.isEmpty then some (some .trace) else level? text

def beginsTarget (c : Char) : Bool :=
  if c.toNat < 0x80 then c.isAlphanum || "-:_".toList.contains c
  else Text.direction c != .neutral && Text.direction c != .mark

/-- A field may be asked for with a value: a number or a pattern. -/
def isValue (text : List Char) : Bool :=
  (Text.word? text).isSome || Text.isPattern text

/-- Reads what stands in brackets behind a target: a span, or a field in braces with or without a
value. `part` cuts out a part by its place and length; the text begins at `start`. Gives the field,
whether the directive is for spans, and the number of characters read. -/
def scope? (part : Nat → Nat → List Char) (start : Nat) (text : List Char) :
    Option (Option String × Bool × Nat) :=
  let span := text.takeWhile fun c => c != ']' && c != '\x7b'
  match text.drop span.length with
  | ']' :: _ => some (none, true, span.length + 1)
  | _ :: more =>
    let field := more.takeWhile (· != '\x7d')
    let (name, value) := Text.cut '=' (part (start + span.length + 1) field.length)
    match more.drop field.length with
    | _ :: ']' :: _ =>
      if field.isEmpty || !(value.all fun v => isValue (v.takeWhile (· != '='))) then none
      else
        some (some (String.ofList name), !span.isEmpty || value.isSome,
          span.length + field.length + 3)
    | _ => none
  | [] => none

/-- Reads a directive: a level, or a target with a scope and a level behind an equals sign, each of
which may lack. Its parts are found behind the blanks in front but counted from the beginning, so
a blank in front is no part of it and yet shifts them. -/
def Directive.parse? (text : List Char) : Option Directive :=
  let word := Text.trim text
  let part (start count : Nat) := (text.drop start).take count
  let target := word.takeWhile fun c => c != '=' && c != '['
  let n := target.length
  if !(word.head?.map fun c => c == '[' || beginsTarget c).getD false then none
  else
    match word.drop n with
    | '[' :: more => do
      let (field, forSpans, read) ← scope? part (n + 1) more
      let target := String.ofList (part 0 n)
      match more.drop read with
      | [] => some { target, field, forSpans, least := some .trace }
      | '=' :: _ =>
        some { target, field, forSpans, least := ← leastOf? (text.drop (n + read + 2)) }
      | _ => none
    | _ :: _ => do
      some { target := String.ofList (part 0 n), least := ← leastOf? (text.drop (n + 1)) }
    | [] =>
      match level? text with
      | some least => some { target := "", least }
      | none => some { target := String.ofList text, least := some .trace }

def Filter.parse? (text : String) : Option Filter :=
  ((text.toList.splitOn ',').filter (!·.isEmpty)).mapM Directive.parse?

def Directive.covers (d : Directive) (e : Event) : Bool :=
  !d.forSpans && d.target.toList.isPrefixOf e.speaker.target.toList &&
    d.field.all fun name => name == "message" || (e.fields.lookup name).isSome

/-- The second directive is at least as specific as the first: it has the longer target, or a
field, or the later field. -/
def Directive.yields (d e : Directive) : Bool :=
  if d.target.length ≠ e.target.length then d.target.length < e.target.length
  else
    match d.field, e.field with
    | some a, some b => !(b < a)
    | some _, none => false
    | none, _ => true

/-- The least level that passes for an event: the most specific directive decides, of equal ones
the last. Without any directive errors pass. -/
def Filter.least (f : Filter) (e : Event) : Option Level :=
  if f.isEmpty then some .error
  else
    let deciding := (f.filter (·.covers e)).foldl (fun best d =>
      match best with
      | some b => if b.yields d then some d else some b
      | none => some d) (none : Option Directive)
    deciding.bind Directive.least

def Filter.passes (f : Filter) (e : Event) : Bool :=
  match f.least e with
  | some level => level.rank ≤ e.level.rank
  | none => false

def Filter.standard (verbose : Bool) : Filter :=
  if verbose then
    [{ target := "api_tester", least := some .debug }, { target := "", least := some .info }]
  else [{ target := "api_tester", least := some .info }, { target := "", least := some .warn }]

def Filter.choose (given : Option String) (verbose : Bool) : Filter :=
  (given.bind Filter.parse?).getD (Filter.standard verbose)

end PanelProbe.Log
