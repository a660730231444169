import PanelProbe.Error
import PanelProbe.Json.Basic
import PanelProbe.Text.Ascii

/-!
Calls as a scenario describes them, and the requests they become once the base addresses and the
access token are known.
-/

set_option autoImplicit false

namespace PanelProbe.Http

inductive Method
  | get | post | put | delete
  deriving DecidableEq, Repr

def Method.name : Method → String
  | .get => "GET"
  | .post => "POST"
  | .put => "PUT"
  | .delete => "DELETE"

def Method.parse (text : String) : Except Error Method :=
  match [Method.get, .post, .put, .delete].find? fun m => m.name == Text.upper text with
  | some m => .ok m
  | none => .error (.unsupportedMethod text)

/-- The base a path is appended to: the server itself or its versioned API. -/
inductive Scope
  | root | api
  deriving DecidableEq, Repr

structure Call where
  method : Method
  path : String
  scope : Scope := .api
  payload : Option Json := none
  headers : List (String × String) := []
  authorized : Bool := true

structure Bases where
  root : String
  api : String
  deriving DecidableEq, Repr

def Bases.of (bases : Bases) : Scope → String
  | .root => bases.root
  | .api => bases.api

structure Request where
  method : Method
  url : String
  headers : List (String × String)
  query : Option Json
  json : Option Json

/-- Sets a header: a name that is present already, whatever its case, keeps its place and
spelling and gets the new value. -/
def setHeader (name value : String) : List (String × String) → List (String × String)
  | [] => [(name, value)]
  | (n, v) :: rest =>
    if Text.sameIgnoringCase n name then (n, value) :: rest
    else (n, v) :: setHeader name value rest

def Request.header? (request : Request) (name : String) : Option String :=
  (request.headers.find? fun h => Text.sameIgnoringCase h.1 name).map Prod.snd

/-- The headers written by a call in order: the content type, the caller's own, and the token of a
call that is authorized. -/
def Call.writtenHeaders (call : Call) (token : Option String) : List (String × String) :=
  ("Content-Type", "application/json") :: call.headers ++
    match call.authorized, token with
    | true, some t => [("Authorization", "Bearer " ++ t)]
    | _, _ => []

/-- The request a call becomes. A GET carries its payload as a query, POST and PUT as JSON, and
DELETE carries none. -/
def Call.resolve (call : Call) (bases : Bases) (token : Option String) : Request where
  method := call.method
  url := bases.of call.scope ++ call.path
  headers := (call.writtenHeaders token).foldl (fun hs h => setHeader h.1 h.2 hs) []
  query := if call.method = .get then call.payload else none
  json := if call.method = .post ∨ call.method = .put then call.payload else none

end PanelProbe.Http
