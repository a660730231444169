/-!
TOML documents as trees, and the rules by which headers and assignments build them: a table is
defined once, and what one form of definition has begun another may not always extend.
-/

set_option autoImplicit false

namespace PanelProbe

inductive Toml.Origin
  /-- Written as a value, and so complete. -/
  | inline
  /-- Named by a header. -/
  | header
  /-- Named only as part of a longer header. -/
  | implied
  /-- Named by the dotted key of an assignment. -/
  | dotted
  deriving DecidableEq, Repr

/-- A TOML value. Floats and moments are known by their kind alone. -/
inductive Toml
  | string (value : String)
  | integer (value : Int)
  | float
  | boolean (value : Bool)
  | moment
  | array (items : List Toml)
  | table (origin : Toml.Origin) (members : List (String × Toml))
  /-- The tables that headers in double brackets have begun, the newest first. -/
  | tables (items : List (List (String × Toml)))
  deriving Repr

namespace Toml

abbrev Members := List (String × Toml)

def Members.put (key : String) (value : Toml) : Members → Members
  | [] => [(key, value)]
  | (k, v) :: rest =>
    if k = key then (k, value) :: rest else (k, v) :: Members.put key value rest

def Members.add? (key : String) (value : Toml) (members : Members) : Option Members :=
  match members.lookup key with
  | none => some (members ++ [(key, value)])
  | some _ => none

/-- Changes the table that a header's keys lead to, making the tables on the way. Of several tables
under one key the newest is meant. -/
def Members.atHeader? (change : Members → Option Members) :
    List String → Members → Option Members
  | [], members => change members
  | key :: keys, members =>
    match members.lookup key with
    | none => (Members.atHeader? change keys []).map fun t => members.put key (.table .implied t)
    | some (.table .inline _) => none
    | some (.table origin t) =>
      (Members.atHeader? change keys t).map fun t => members.put key (.table origin t)
    | some (.tables (t :: older)) =>
      (Members.atHeader? change keys t).map fun t => members.put key (.tables (t :: older))
    | some _ => none

/-- Adds a member to the table that dotted keys lead to. Such keys enter no table that a header or
braces have defined, and the table reached must be one that dotted keys have made. -/
def Members.assign? (last : String) (value : Toml) :
    List String → Members → Option Members
  | [], members => members.add? last value
  | key :: keys, members =>
    match members.lookup key with
    | none => (Members.assign? last value keys []).map fun t => members.put key (.table .dotted t)
    | some (.table .dotted t) =>
      (Members.assign? last value keys t).map fun t => members.put key (.table .dotted t)
    | some (.table .implied t) =>
      if keys.isEmpty then none
      else (Members.assign? last value keys t).map fun t => members.put key (.table .implied t)
    | some (.tables (t :: older)) =>
      if keys.isEmpty then none
      else (Members.assign? last value keys t).map fun t => members.put key (.tables (t :: older))
    | some _ => none

/-- Defines a table by its header; one that was only implied keeps what it holds. -/
def Members.define? (last : String) (members : Members) : Option Members :=
  match members.lookup last with
  | none => some (members.put last (.table .header []))
  | some (.table .implied t) => some (members.put last (.table .header t))
  | some _ => none

def Members.extend? (last : String) (members : Members) : Option Members :=
  match members.lookup last with
  | none => some (members.put last (.tables [[]]))
  | some (.tables ts) => some (members.put last (.tables ([] :: ts)))
  | some _ => none

structure Key where
  way : List String
  last : String
  deriving DecidableEq, Repr

def ofAssignments? (assignments : List (Key × Toml)) : Option Toml :=
  (assignments.foldlM (fun members (a : Key × Toml) =>
    Members.assign? a.1.last a.2 a.1.way members) []).map (.table .inline)

inductive Statement
  | assignment (key : Key) (value : Toml)
  | header (key : Key)
  | repeatedHeader (key : Key)

/-- A document being built: its root, and the keys of the table that assignments go to. -/
structure Builder where
  root : Members := []
  current : List String := []

def Builder.state? (b : Builder) : Statement → Option Builder
  | .assignment key value =>
    (b.root.atHeader? (Members.assign? key.last value key.way) b.current).map fun root =>
      { b with root }
  | .header key =>
    (b.root.atHeader? (Members.define? key.last) key.way).map fun root =>
      ⟨root, key.way ++ [key.last]⟩
  | .repeatedHeader key =>
    (b.root.atHeader? (Members.extend? key.last) key.way).map fun root =>
      ⟨root, key.way ++ [key.last]⟩

def ofStatements? (statements : List Statement) : Option Members :=
  (statements.foldlM Builder.state? {}).map Builder.root

end Toml

end PanelProbe
