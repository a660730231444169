import PanelProbe.Command.Help
import PanelProbe.Config.File
import PanelProbe.Http.Network
import PanelProbe.Log.Filter
import PanelProbe.Report.File
import PanelProbe.Report.Printed
import PanelProbe.Run.Basic
import PanelProbe.Scenario.Canonical

/-!
The whole command as a function of what surrounds it: it reads arguments and configuration, runs
the scenario against the network, reports, and stores the results.
-/

set_option autoImplicit false

namespace PanelProbe.Command

/-- What surrounds the command. The duration is that of the run, and the clock stamps the entries
of its ledger. -/
structure Surroundings where
  files : Storage.Tree
  cwd : List String
  places : Config.Places
  logFilter : Option String := none
  colored : Bool := false
  network : Http.Network
  fixture : Fixture
  started : Calendar.Instant
  duration : Report.Duration
  clock : Nat → String

/-- What the command does: the code it ends with, what it prints, the line that says what went
wrong, the events it logs, and the files afterwards. -/
structure Effect where
  code : Nat
  printed : String := ""
  complaint : Option String := none
  log : List Log.Event := []
  files : Storage.Tree

def misuseCode : Nat := 2

def crashCode : Nat := 101

def errorLine (e : Error) : String :=
  "Error: " ++ e.message

def resolved (c : Config) : Log.Event where
  level := .info
  speaker := .command
  message := "configuration resolved"
  fields := [("base_url", c.baseUrl), ("api", c.apiBase)]

def setting (s : Surroundings) (verbose : Bool) (c : Config) : Run.Setting where
  server := fun _ request => .outcome (s.network.perform request)
  bases := c.bases
  verbose := verbose
  colored := s.colored
  clock := s.clock

def savedLine (colored : Bool) (path : String) : String :=
  "\nDetailed results saved to: " ++ Console.styled colored .cyan path ++ "\n"

def conclude (s : Surroundings) (verbose : Bool) (c : Config) (p : Run.State)
    (log : List Log.Event) : Effect :=
  let summary := Report.Summary.ofLedger p.ledger s.duration s.started
  let printed := p.console ++ Report.printed s.colored verbose summary p.ledger
  match Report.persist s.files s.cwd c.resultsDirectory s.started summary p.ledger with
  | (files, .error failure) =>
    { code := 1, printed, log, files, complaint := some (errorLine (.io failure.message)) }
  | (files, .ok path) =>
    { code := Report.exitCode c.failOnError summary
      printed := printed ++ savedLine s.colored path, log, files }

def probe (s : Surroundings) (verbose : Bool) (c : Config) : Effect :=
  let passing := List.filter (Log.Filter.choose s.logFilter verbose).passes
  match Scenario.canonical? s.fixture c.admin with
  | none =>
    { code := crashCode, complaint := some Scenario.windowOverflow, files := s.files
      log := passing [resolved c] }
  | some phases =>
    let p := Run.run (setting s verbose c) phases
    let log := passing (resolved c :: p.state.events)
    match p.crash with
    | some message =>
      { code := crashCode, printed := p.state.console, complaint := some message, log
        files := s.files }
    | none => conclude s verbose c p.state log

def configuration (s : Surroundings) (a : Arguments) : Except Error Config :=
  (Config.load s.files s.cwd s.places a.config).bind (·.resolve a.overrides)

def perform (s : Surroundings) (arguments : List String) : Effect :=
  match Arguments.parse arguments with
  | .error .help => { code := 0, printed := Arguments.helpText, files := s.files }
  | .error .version => { code := 0, printed := Arguments.versionText, files := s.files }
  | .error (.misuse cause) =>
    { code := misuseCode, complaint := some cause.message, files := s.files }
  | .ok a =>
    match configuration s a with
    | .error e => { code := 1, complaint := some (errorLine e), files := s.files }
    | .ok c => probe s a.verbose c

end PanelProbe.Command
