import PanelProbe.Error
import PanelProbe.Http.Request
import PanelProbe.Scenario.Fixture
import PanelProbe.Text.Blank
import PanelProbe.Url.Parser

/-!
The configuration of a run: its defaults, the values given on the command line, and the checked
form in which a run uses it.
-/

set_option autoImplicit false

namespace PanelProbe

structure Config where
  baseUrl : String := "http://localhost:8080"
  apiPrefix : String := "/api/v1"
  /-- How long a request may take, in seconds. -/
  timeout : Nat := 30
  admin : Credentials := {}
  resultsDirectory : String := "."
  failOnError : Bool := false
  deriving DecidableEq, Repr

structure Overrides where
  baseUrl : Option String := none
  resultsDirectory : Option String := none
  timeout : Option Nat := none
  strict : Bool := false
  deriving DecidableEq, Repr

namespace Config

def apiBase (c : Config) : String :=
  c.baseUrl ++ c.apiPrefix

def bases (c : Config) : Http.Bases :=
  ⟨c.baseUrl, c.apiBase⟩

/-- Replaces values; strictness is only ever added. -/
def override (c : Config) (o : Overrides) : Config :=
  { c with
    baseUrl := o.baseUrl.getD c.baseUrl
    resultsDirectory := o.resultsDirectory.getD c.resultsDirectory
    timeout := o.timeout.getD c.timeout
    failOnError := c.failOnError || o.strict }

def withoutSlashes (text : List Char) : List Char :=
  Text.dropEnd (· == '/') text

/-- A base address without blanks around it and slashes at its end; it must be a URL of the web. -/
def checkedBaseUrl (raw : String) : Except Error String :=
  let text := withoutSlashes (Text.trim raw.toList)
  match Url.parse text with
  | .error fault => .error (.baseUrl raw fault.message)
  | .ok url =>
    if url.scheme == "http" || url.scheme == "https" then .ok (String.ofList text)
    else .error (.baseUrl raw s!"scheme '{url.scheme}' is not http or https")

def rootedPath (path : String) : String :=
  let text := path.toList
  String.ofList (withoutSlashes (if text.head? == some '/' then text else '/' :: text))

/-- The configuration a run uses: values are replaced, then the address is checked and trimmed, then
the time limit is checked. -/
def resolve (c : Config) (o : Overrides) : Except Error Config := do
  let c := c.override o
  let baseUrl ← checkedBaseUrl c.baseUrl
  if c.timeout = 0 then .error (.setting "timeout_secs must be greater than 0")
  else .ok { c with baseUrl, apiPrefix := rootedPath c.apiPrefix }

end Config

end PanelProbe
