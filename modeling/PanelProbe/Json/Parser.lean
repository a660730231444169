import PanelProbe.Json.Token

/-!
From tokens to values: a machine that reads one token at a time and keeps the containers it is
inside of on a stack.
-/

set_option autoImplicit false

namespace PanelProbe.Json

/-- What a finished value becomes: the document, the next item of an array (items newest first),
or the member of an object under a key. -/
inductive Slot
  | document
  | item (items : List Json)
  | member (members : Members) (key : String)

inductive Phase
  | value (slot : Slot)
  | arrayStart
  | afterItem (items : List Json)
  | objectStart
  | key (members : Members)
  | colon (members : Members) (key : String)
  | afterMember (members : Members)
  | finished (value : Json)

/-- The machine: the phase, and the slots of the containers that are still open. -/
structure Build where
  phase : Phase
  containers : List Slot

namespace Build

def depthLimit : Nat := 127

def fill : Slot → Json → Phase
  | .document, v => .finished v
  | .item items, v => .afterItem (v :: items)
  | .member members key, v => .afterMember (Members.insert key v members)

def enter (slot : Slot) (phase : Phase) (containers : List Slot) : Option Build :=
  if containers.length < depthLimit then some ⟨phase, slot :: containers⟩ else none

def begin (slot : Slot) (containers : List Slot) : Token → Option Build
  | .null => some ⟨fill slot .null, containers⟩
  | .bool b => some ⟨fill slot (.bool b), containers⟩
  | .number n => some ⟨fill slot (.number n), containers⟩
  | .string s => some ⟨fill slot (.string s), containers⟩
  | .openArray => enter slot .arrayStart containers
  | .openObject => enter slot .objectStart containers
  | _ => none

def close (v : Json) : List Slot → Option Build
  | [] => none
  | slot :: containers => some ⟨fill slot v, containers⟩

def next (b : Build) (token : Token) : Option Build :=
  match b.phase with
  | .value slot => begin slot b.containers token
  | .arrayStart =>
    if token = .closeArray then close (.array []) b.containers
    else begin (.item []) b.containers token
  | .afterItem items =>
    if token = .comma then some ⟨.value (.item items), b.containers⟩
    else if token = .closeArray then close (.array items.reverse) b.containers
    else none
  | .objectStart =>
    match token with
    | .closeObject => close (.object []) b.containers
    | .string key => some ⟨.colon [] key, b.containers⟩
    | _ => none
  | .key members =>
    match token with
    | .string key => some ⟨.colon members key, b.containers⟩
    | _ => none
  | .colon members key =>
    if token = .colon then some ⟨.value (.member members key), b.containers⟩ else none
  | .afterMember members =>
    if token = .comma then some ⟨.key members, b.containers⟩
    else if token = .closeObject then close (.object members) b.containers
    else none
  | .finished _ => none

def start : Build := ⟨.value .document, []⟩

def run (b : Build) (tokens : List Token) : Option Build := tokens.foldlM next b

def result? (b : Build) : Option Json :=
  match b.phase with
  | .finished v => some v
  | _ => none

end Build

def ofTokens? (tokens : List Token) : Option Json :=
  (Build.start.run tokens).bind Build.result?

/-- Reads a JSON text: one value, white space around its tokens, nothing else. -/
def parse? (text : String) : Option Json :=
  (tokens? text.toList).bind ofTokens?

end PanelProbe.Json
