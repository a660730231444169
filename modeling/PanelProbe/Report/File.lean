import PanelProbe.Report.Summary
import PanelProbe.Storage.Basic

/-!
Result files: summary and entries of a run as indented JSON, under a name made of the start time.
A name that is taken gets the least number that makes it free, so no file is ever replaced.
-/

set_option autoImplicit false

namespace PanelProbe.Report

def entryJson (e : Entry) : Json :=
  .object [
    ("test", .string e.name),
    ("status", .string e.status.name),
    ("details", .string e.details),
    ("timestamp", .string e.stamp)]

def document (s : Summary) (l : Ledger) : Json :=
  .object [("summary", s.toJson), ("results", .array (l.map entryJson))]

def content (s : Summary) (l : Ledger) : String := (document s l).pretty

def stem (started : Calendar.Instant) : String :=
  "api_test_results_" ++ started.compactText

def fileName (started : Calendar.Instant) : String := stem started ++ ".json"

/-- The name tried after `attempt` names were taken. -/
def candidate (started : Calendar.Instant) (attempt : Nat) : String :=
  if attempt = 0 then fileName started
  else stem started ++ "_" ++ toString attempt ++ ".json"

/-- Creates the file under the first free candidate among `tries` from `attempt` on; `directory`
is the path that leads to `place`. -/
def createFrom (tree : Storage.Tree) (directory : String) (place : List String)
    (started : Calendar.Instant) (data : ByteArray) :
    Nat → Nat → Except Storage.Failure (Storage.Tree × String)
  | 0, _ => .error .exists
  | tries + 1, attempt => do
    let name := candidate started attempt
    let path := Storage.join directory name
    Storage.Tree.checkPath path
    match tree.createNew place name data with
    | .ok tree => .ok (tree, path)
    | .error .exists => createFrom tree directory place started data tries (attempt + 1)
    | .error e => .error e

/-- Creates the file in a directory. One more candidate than there are things in the tree are
tried, so one of them is free. -/
def create (tree : Storage.Tree) (directory : String) (place : List String)
    (started : Calendar.Instant) (data : ByteArray) :
    Except Storage.Failure (Storage.Tree × String) :=
  createFrom tree directory place started data (tree.length + 1) 0

/-- Makes the directory at a path if it lacks and creates the result file in it. Gives the tree
afterwards and the path of the file. -/
def persist (tree : Storage.Tree) (cwd : List String) (directory : String)
    (started : Calendar.Instant) (s : Summary) (l : Ledger) :
    Storage.Tree × Except Storage.Failure String :=
  match tree.makeDirectory cwd directory with
  | (tree, .error e) => (tree, .error e)
  | (tree, .ok place) =>
    match create tree directory place started (content s l).toUTF8 with
    | .ok (tree, path) => (tree, .ok path)
    | .error e => (tree, .error e)

end PanelProbe.Report
