import PanelProbe.Command.Arguments

/-!
What the command says about itself and about arguments it does not understand.
-/

set_option autoImplicit false

namespace PanelProbe.Arguments

def versionText : String := "api-tester 0.1.0\n"

def helpRows : List (String × String) :=
  [("      --url <URL>", "Base URL of the API server (default: http://localhost:8080)"),
    ("  -v, --verbose", "Print every step, not only failures"),
    ("      --config <CONFIG>", "Config file (default: platform config dir / config.toml)"),
    ("      --output-dir <OUTPUT_DIR>", "Directory the JSON result file is written to"),
    ("      --timeout <TIMEOUT>", "Per-request timeout in seconds"),
    ("      --strict", "Exit with status 1 when any step failed"),
    ("  -h, --help", "Print help"),
    ("  -V, --version", "Print version")]

def helpColumn : Nat := 33

def helpText : String :=
  "Test sing-box-web API endpoints\n\nUsage: api-tester [OPTIONS]\n\nOptions:\n" ++
    String.join (helpRows.map fun (option, use) =>
      option ++ String.ofList (List.replicate (helpColumn - option.length) ' ') ++ use ++ "\n")

def Misuse.message : Misuse → String
  | .unknown => "error: unexpected argument found"
  | .missingValue => "error: a value is required"
  | .badNumber => "error: invalid number of seconds"
  | .repeated => "error: an argument cannot be used multiple times"
  | .needlessValue => "error: unexpected value for an option"

end PanelProbe.Arguments
