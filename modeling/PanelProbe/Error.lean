/-!
What can go wrong before a run starts or when its results are stored. Trouble on the way to the
server is no error: it is recorded in the ledger.
-/

set_option autoImplicit false

namespace PanelProbe

inductive Error
  | unsupportedMethod (text : String)
  | setting (detail : String)
  | configText (detail : String)
  | baseUrl (url reason : String)
  | client (detail : String)
  | io (detail : String)
  | fileRead (path detail : String)
  | json (detail : String)
  deriving DecidableEq, Repr

def Error.message : Error → String
  | .unsupportedMethod text =>
    "Unsupported HTTP method '" ++ text ++ "'. Supported methods: GET, POST, PUT, DELETE"
  | .setting detail => "Configuration error: " ++ detail
  | .configText detail => "Invalid configuration file: " ++ detail
  | .baseUrl url reason => "Invalid base URL '" ++ url ++ "': " ++ reason
  | .client detail => "Failed to build HTTP client: " ++ detail
  | .io detail => "IO error: " ++ detail
  | .fileRead path detail => "Failed to read file '" ++ path ++ "': " ++ detail
  | .json detail => "JSON error: " ++ detail

end PanelProbe
