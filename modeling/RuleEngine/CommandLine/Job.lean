import RuleEngine.CommandLine
import RuleEngine.Config.Toml
import RuleEngine.Engine
import RuleEngine.Json.Reader
import RuleEngine.Value.Text

/-!
# Running commands

A command is run on the texts of the files that it reads. It prints as it goes,
and what it has printed stays when it fails. `CommandLine.run` gives all that
can be seen of the program: the exit code, the output, and the failure.
-/

namespace RuleEngine

/-- Why a command failed. -/
inductive Failure where
  | configNotLoaded (path : String)
  | recordNotRead (path : String)
  | recordNotJson
  | recordUnsupported (cause : Error)
  | expressionNotCompiled (cause : Error)
  | expressionNotEvaluated (cause : Error)
  | tagRuleNotCompiled (cause : Error)
  | flagRuleNotCompiled (source : String) (cause : Error)
  /-- A failure of the engine that nothing more is said of. -/
  | engine (e : Error)

/-- A failure and the failures inside its elements, from the outside in. -/
def Error.chain : Error → List Error
  | .inElement function index cause => .inElement function index cause :: cause.chain
  | e => [e]

namespace Failure

/-- A failure in words. -/
def message : Failure → String
  | configNotLoaded path => "Failed to load config from " ++ path
  | recordNotRead path => "Failed to read record from " ++ path
  | recordNotJson => "Record is not valid JSON"
  | recordUnsupported _ => "Unsupported record"
  | expressionNotCompiled _ => "Failed to compile expression"
  | expressionNotEvaluated _ => "Failed to evaluate expression"
  | tagRuleNotCompiled _ => "Failed to compile tag rule"
  | flagRuleNotCompiled source _ => "Failed to compile flag rule " ++ source
  | engine e => e.message

/-- The failures of the engine behind a failure, from the outside in. -/
def causes : Failure → List Error
  | configNotLoaded _ => []
  | recordNotRead _ => []
  | recordNotJson => []
  | recordUnsupported cause => cause.chain
  | expressionNotCompiled cause => cause.chain
  | expressionNotEvaluated cause => cause.chain
  | tagRuleNotCompiled cause => cause.chain
  | flagRuleNotCompiled _ cause => cause.chain
  | engine e => e.chain.drop 1

/-- Whether the causes say all that there is to say: they are failures of a rule
    or of a record, and none of a pattern. -/
def isExplained (f : Failure) : Bool :=
  match f with
  | recordUnsupported cause => cause.kind ≠ .invalidPattern
  | expressionNotCompiled cause => cause.kind ≠ .invalidPattern
  | expressionNotEvaluated cause => cause.kind ≠ .invalidPattern
  | _ => false

/-- What is said of a failure. -/
def report (f : Failure) : String :=
  "Error: " ++ f.message ++ "\n" ++
    match f.causes with
    | [] => ""
    | causes =>
      "\nCaused by:\n" ++ String.join (causes.map fun e => "    " ++ e.message ++ "\n")

end Failure

/-- What a command works with: its engine, and what it has printed. -/
structure Desk where
  engine : Engine
  printed : String

/-- A running command. What it printed remains when it fails. -/
abbrev Job := ExceptT Failure (StateM Desk)

namespace Job

/-- Prints a line. -/
def printLine (line : String) : Job Unit :=
  modify fun d => { d with printed := d.printed ++ line ++ "\n" }

/-- A result of the engine, a failure being put in context. -/
def ofResult {α : Type} (context : Error → Failure) (result : Except Error α) : Job α :=
  match result with
  | .ok a => return a
  | .error e => throw (context e)

/-- Compiles a rule, a failure being put in context. -/
def compile (context : Error → Failure) (source : String) : Job Compiled := do
  ofResult context ((← get).engine.compile source)

/-- The value of a rule on a record. -/
def evaluate (context : Error → Failure) (rule : Compiled) (record : Record) : Job Value := do
  let d ← get
  let (result, engine) := d.engine.evaluate rule record
  set { d with engine := engine }
  ofResult context result

/-- Whether a rule holds of a record. -/
def holds (context : Error → Failure) (rule : Compiled) (record : Record) : Job Bool := do
  let d ← get
  let (result, engine) := d.engine.evaluateRecord rule record
  set { d with engine := engine }
  ofResult context result

/-- The record in a file; without a file, the empty one. -/
def readRecord (file? : String → Option String) (path? : Option String) : Job Record := do
  match path? with
  | none => return []
  | some path =>
    match file? path with
    | none => throw (.recordNotRead path)
    | some text =>
      match Json.read? text with
      | none => throw .recordNotJson
      | some json => ofResult .recordUnsupported (Record.ofJson json)

/-- Prints the value of an expression on the record in a file. -/
def evaluateCommand (file? : String → Option String) (expression : String)
    (recordPath : Option String) : Job Unit := do
  let record ← readRecord file? recordPath
  let rule ← compile .expressionNotCompiled expression
  let value ← evaluate .expressionNotEvaluated rule record
  printLine value.text

end Job

end RuleEngine
