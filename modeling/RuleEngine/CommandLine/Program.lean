import RuleEngine.CommandLine.Demo

/-!
# The program

All that the program does, but for reading files and printing.
-/

namespace RuleEngine

/-- What is seen of a run of the program. -/
structure Outcome where
  exitCode : Nat
  output : String
  failure : Option Failure

namespace CommandLine

/-- What is printed for the version. -/
def versionText : String := "ruleval 0.1.0\n"

/-- What is printed for help. -/
def helpText : String :=
  String.join ([
    "Usage: ruleval [OPTIONS] <COMMAND>",
    "",
    "Commands:",
    "  demo  Replay the tag and flag validation scenarios",
    "  eval  Evaluate one expression against a JSON record",
    "  help  Print this message or the help of the given subcommand(s)",
    "",
    "Options:",
    "  -c, --config <CONFIG>  Engine configuration file (TOML)",
    "      --lenient          Resolve unknown functions at evaluation time instead of compile time",
    "  -d, --debug            Enable debug logging",
    "  -h, --help             Print help",
    "  -V, --version          Print version"].map (· ++ "\n"))

/-- The configuration of an invocation, from its file if it names one. -/
def config? (file? : String → Option String) (i : Invocation) : Except Failure Config :=
  let loaded : Except Failure Config :=
    match i.configPath with
    | none => .ok {}
    | some path =>
      match (file? path).bind Config.ofToml? with
      | some config => .ok config
      | none => .error (.configNotLoaded path)
  loaded.map fun config =>
    if i.lenient then { config with strictFunctions := false } else config

/-- Runs a command on the texts of the files there are. -/
def run (file? : String → Option String) (i : Invocation) : Outcome :=
  match config? file? i with
  | .error f => ⟨1, "", some f⟩
  | .ok config =>
    let job : Job Unit :=
      match i.command with
      | .demo => Demo.run
      | .evaluate expression recordPath => Job.evaluateCommand file? expression recordPath
    match job.run ⟨Engine.ofConfig config, ""⟩ with
    | (.ok (), d) => ⟨0, d.printed, none⟩
    | (.error f, d) => ⟨1, d.printed, some f⟩

/-- Runs what the arguments ask for. -/
def runRequest (file? : String → Option String) : Request → Outcome
  | .run i => run file? i
  | .help => ⟨0, helpText, none⟩
  | .version => ⟨0, versionText, none⟩
  | .misuse => ⟨2, "", none⟩

end CommandLine

end RuleEngine
