import PanelProbe.Http.Form
import PanelProbe.Http.Request
import PanelProbe.Json.Printer
import PanelProbe.Text.Base64
import PanelProbe.Url.Parser

/-!
Messages as they go over the wire, and the requests that have none. The address is a normal URL of
a web scheme, credentials in it become a header, and the query payload is part of the target.
-/

set_option autoImplicit false

namespace PanelProbe.Http

/-- What a client sends: the request line comes from method and target. -/
structure Message where
  method : Method
  url : Url
  headers : List (String × String)
  body : Option String

def Message.target (m : Message) : String :=
  String.ofList m.url.target

inductive Refusal
  /-- Its address, headers or query cannot be written. -/
  | malformed
  /-- Its address is a URL, but none of the web. -/
  | address (url : Url)

def Refusal.message : Refusal → String
  | .malformed => "builder error"
  | .address url => s!"builder error for url ({String.ofList url.text})"

def isTokenChar (c : Char) : Bool :=
  c.isAlphanum || "!#$%&'*+-.^_|~\x60".toList.contains c

/-- A header can be written: its name is a token, and its value has no control but the tab. -/
def isHeader (header : String × String) : Bool :=
  !header.1.isEmpty && header.1.toList.all isTokenChar &&
    header.2.toList.all fun c => c == '\t' || (0x20 ≤ c.toNat && c.toNat ≠ 0x7F)

def decoded? (text : List Char) : Option String :=
  String.fromUTF8? (ByteArray.mk (Percent.decode text).toArray)

/-- Moves credentials out of the address into the value of an `authorization` header. -/
def cutCredentials (url : Url) : Url × Option String :=
  match decoded? url.username with
  | none => (url, none)
  | some username =>
    let password := url.password.bind decoded?
    if username.isEmpty && password.isNone then (url, none)
    else
      let pair := username ++ ":" ++ password.getD ""
      ({ url with username := [], password := none },
        some ("Basic " ++ String.ofList (Base64.encode (Percent.bytes pair.toList))))

def longestAddress : Nat := 65534

/-- The address belongs to the web: its scheme is one of two, its host has no character that only
URLs admit, and it is not too long. -/
def isWebAddress (url : Url) : Bool :=
  (url.scheme == "http" || url.scheme == "https") &&
    url.hostText.all (fun c => !"\"\x60\x7b\x7d".toList.contains c) &&
    (Percent.bytes url.text).length ≤ longestAddress

def addMissing (name value : String) (headers : List (String × String)) : List (String × String) :=
  if headers.any (·.1 == name) then headers else headers ++ [(name, value)]

def agent : String := "singbox-api-tester/0.1.0"

/-- The headers of a message, names in lower case: the client's own give way to the request's. -/
def wireHeaders (credentials : Option String) (request : Request) (body : Option String) :
    List (String × String) :=
  let given := (credentials.map fun value => ("authorization", value)).toList ++
    request.headers.map fun h => (Text.lower h.1, h.2)
  let typed := if body.isSome then addMissing "content-type" "application/json" given else given
  let named := addMissing "user-agent" agent (addMissing "accept" "*/*" typed)
  match body with
  | some text => addMissing "content-length" (toString text.utf8ByteSize) named
  | none => named

def Request.address (request : Request) (url : Url) : Except Refusal Url :=
  match request.query with
  | none => .ok url
  | some payload =>
    match Form.pairs? payload with
    | some pairs => .ok { url with query := Form.append url.query pairs }
    | none => .error .malformed

def hasHost (url : Url) : Bool :=
  match url.host with
  | some (.name text) => !text.isEmpty
  | some _ => true
  | none => false

def Request.message (request : Request) : Except Refusal Message :=
  match Url.parse request.url.toList with
  | .error _ => .error .malformed
  | .ok url =>
    if !hasHost url then .error (.address url)
    else
      let (url, credentials) := cutCredentials url
      if !request.headers.all isHeader then .error .malformed
      else do
        let url ← request.address url
        if !isWebAddress url then .error (.address url)
        else
          let body := request.json.map Json.compact
          .ok { method := request.method, url, body
                headers := wireHeaders credentials request body }

end PanelProbe.Http
