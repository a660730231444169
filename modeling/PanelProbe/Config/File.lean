import PanelProbe.Config.Basic
import PanelProbe.Storage.Basic
import PanelProbe.Toml.Parser

/-!
Configuration files: the values a TOML document gives, the place where a file is looked for, and
its reading. A value that is absent keeps its default, one of the wrong type spoils the file, and
keys that mean nothing are allowed.
-/

set_option autoImplicit false

namespace PanelProbe

namespace Toml

/-- The value under a key as `read` takes it, or the default when the key is absent. -/
def Members.value? {α : Type} (members : Members) (key : String) (default : α)
    (read : Toml → Option α) : Option α :=
  match members.lookup key with
  | none => some default
  | some value => read value

def text? : Toml → Option String
  | .string s => some s
  | _ => none

def flag? : Toml → Option Bool
  | .boolean b => some b
  | _ => none

def natural? : Toml → Option Nat
  | .integer n => if 0 ≤ n then some n.toNat else none
  | _ => none

/-- The members of a section: a table has them by name and an array by position; a moment has
none. -/
def section? (names : List String) : Toml → Option Members
  | .table _ members => some members
  | .array items => some (names.zip items)
  | .tables items => some (names.zip (items.reverse.map (.table .header)))
  | .moment => some []
  | _ => none

end Toml

namespace Config

def credentials? (value : Toml) : Option Credentials := do
  let members ← value.section? ["username", "password"]
  let standard : Credentials := {}
  some {
    username := ← members.value? "username" standard.username Toml.text?
    password := ← members.value? "password" standard.password Toml.text? }

def output? (value : Toml) : Option String := do
  let members ← value.section? ["results_dir"]
  members.value? "results_dir" ({} : Config).resultsDirectory Toml.text?

def ofMembers? (members : Toml.Members) : Option Config := do
  let standard : Config := {}
  some {
    baseUrl := ← members.value? "base_url" standard.baseUrl Toml.text?
    apiPrefix := ← members.value? "api_prefix" standard.apiPrefix Toml.text?
    timeout := ← members.value? "timeout_secs" standard.timeout Toml.natural?
    admin := ← members.value? "admin" standard.admin credentials?
    resultsDirectory := ← members.value? "output" standard.resultsDirectory output?
    failOnError := ← members.value? "fail_on_error" standard.failOnError Toml.flag? }

def ofText (text : String) : Except Error Config :=
  match Toml.parse? text with
  | none => .error (.configText "not a TOML document")
  | some members =>
    match ofMembers? members with
    | none => .error (.configText "a value of the wrong type")
    | some c => .ok c

structure Places where
  home : Option String := none
  configHome : Option String := none

/-- The place of the user's configuration file. A directory for configurations counts only if its
path is rooted. -/
def Places.filePath? (places : Places) : Option String := do
  let home ← places.home.filter (!·.isEmpty)
  let directory := match places.configHome.filter fun d => d.toList.head? == some '/' with
    | some directory => directory
    | none => Storage.join home ".config"
  some (Storage.join (Storage.join directory "singbox-api-tester") "config.toml")

def ofFile (tree : Storage.Tree) (cwd : List String) (path : String) : Except Error Config :=
  match tree.readText cwd path with
  | .error failure => .error (.fileRead path failure.message)
  | .ok text => ofText text

/-- Loads the configuration: from the file that is named, else from the user's own file if it
exists, else by default. -/
def load (tree : Storage.Tree) (cwd : List String) (places : Places) (named : Option String) :
    Except Error Config :=
  match named with
  | some path => ofFile tree cwd path
  | none =>
    match places.filePath?.filter (tree.pathExists cwd) with
    | some path => ofFile tree cwd path
    | none => .ok {}

end Config

end PanelProbe
