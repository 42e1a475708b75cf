/-!
# The command line

The program is called with options, a command, and the options and arguments of
that command. `Request.ofArgs` reads the arguments; what it does not
understand is a misuse.
-/

namespace RuleEngine

/-- What to do. -/
inductive Command where
  /-- Shows what rules do on some records. -/
  | demo
  /-- Evaluates an expression against the record in a file. -/
  | evaluate (expression : String) (recordPath : Option String)

/-- A command with the settings that it runs under. -/
structure Invocation where
  configPath : Option String
  lenient : Bool
  command : Command

/-- What the arguments ask for. -/
inductive Request where
  | run (invocation : Invocation)
  | help
  | version
  | misuse

namespace CommandLine

/-! ### Options -/

/-- An option under its long name and its letter; some take a value. -/
structure Switch where
  long : String
  letter : Option Char
  valued : Bool

/-- The option that every command has. -/
def helpSwitch : Switch := ⟨"help", some 'h', false⟩

/-- The options before the command. -/
def globalSwitches : List Switch :=
  [⟨"config", some 'c', true⟩, ⟨"lenient", none, false⟩, ⟨"debug", some 'd', false⟩, helpSwitch,
    ⟨"version", some 'V', false⟩]

/-- The options of the command that evaluates. -/
def evaluateSwitches : List Switch :=
  [⟨"record", some 'r', true⟩, helpSwitch]

/-- An option that was given, with its value. -/
abbrev Given := String × String

/-- The value in the next argument. An argument with a hyphen is another option,
    unless it is the hyphen alone. -/
def nextValue? (rest : List String) : Option (String × List String) :=
  match rest with
  | value :: rest => if value.startsWith "-" && value ≠ "-" then none else some (value, rest)
  | [] => none

/-- Options given by letters after one hyphen. The last of them may have its
    value right after it. -/
def givenByLetters? (switches : List Switch) (rest : List String) :
    List Char → Option (List Given × List String)
  | [] => some ([], rest)
  | c :: letters => do
    let switch ← switches.find? fun s => s.letter = some c
    if switch.valued then
      match letters with
      | [] =>
        let (value, rest) ← nextValue? rest
        return ([(switch.long, value)], rest)
      | '=' :: value => return ([(switch.long, String.ofList value)], rest)
      | value => return ([(switch.long, String.ofList value)], rest)
    else
      let (others, rest) ← givenByLetters? switches rest letters
      return ((switch.long, "") :: others, rest)

/-- An option given by its long name, with a value after an equals sign or in the
    next argument. -/
def givenByName? (switches : List Switch) (rest : List String) (cs : List Char) :
    Option (List Given × List String) := do
  let name := cs.takeWhile (· ≠ '=')
  let switch ← switches.find? fun s => s.long = String.ofList name
  match switch.valued, cs.drop name.length with
  | true, _ :: value => return ([(switch.long, String.ofList value)], rest)
  | true, [] =>
    let (value, rest) ← nextValue? rest
    return ([(switch.long, value)], rest)
  | false, [] => return ([(switch.long, "")], rest)
  | false, _ => none

/-- What an argument is. -/
inductive Argument where
  | options (given : List Given) (rest : List String)
  | plain
  /-- Two hyphens: no options follow. -/
  | separator
  | misuse

/-- What an argument is, given the options there are and the arguments after it. -/
def argument (switches : List Switch) (arg : String) (rest : List String) : Argument :=
  let ofGiven (given : Option (List Given × List String)) : Argument :=
    match given with
    | some (given, rest) => .options given rest
    | none => .misuse
  match arg.toList with
  | ['-', '-'] => .separator
  | ['-'] => .plain
  | '-' :: '-' :: name => ofGiven (givenByName? switches rest name)
  | '-' :: letters => ofGiven (givenByLetters? switches rest letters)
  | _ => .plain

/-- Whether options were given once each, and values are not empty. -/
def areProper (switches : List Switch) (given : List Given) : Bool :=
  (given.map (·.1)).Nodup &&
    given.all fun g => g.2 ≠ "" || switches.any fun s => s.long = g.1 && !s.valued

/-- Whether an option was given. -/
def isGiven (given : List Given) (name : String) : Bool :=
  given.any (·.1 = name)

/-- The value that an option was given. -/
def value? (given : List Given) (name : String) : Option String :=
  (given.find? (·.1 = name)).map (·.2)

/-! ### Commands -/

/-- The arguments of the command that evaluates: one expression, and options
    before and after it. -/
def evaluateRequest (make : Command → Request) (given : List Given)
    (expression : Option String) (separated : Bool) : Nat → List String → Request
  | 0, _ => .misuse
  | _ + 1, [] =>
    match expression with
    | some e => make (.evaluate e (value? given "record"))
    | none => .misuse
  | bound + 1, arg :: rest =>
    match if separated then .plain else argument evaluateSwitches arg rest with
    | .plain =>
      if expression.isSome then .misuse
      else evaluateRequest make given (some arg) separated bound rest
    | .separator => evaluateRequest make given expression true bound rest
    | .options more rest =>
      if !areProper evaluateSwitches (given ++ more) then .misuse
      else if isGiven more "help" then .help
      else evaluateRequest make (given ++ more) expression separated bound rest
    | .misuse => .misuse

/-- The arguments of the demonstration: none. -/
def demoRequest (make : Command → Request) : List String → Request
  | [] => make .demo
  | ["--"] => make .demo
  | arg :: rest =>
    match argument [helpSwitch] arg rest with
    | .options _ _ => .help
    | _ => .misuse

/-- The arguments of the help command: at most one command. -/
def helpRequest : List String → Request
  | [] => .help
  | [command] => if command ∈ ["demo", "eval", "help"] then .help else .misuse
  | _ => .misuse

/-- Options, a command, and what belongs to the command. -/
def request (given : List Given) : Nat → List String → Request
  | 0, _ => .misuse
  | _ + 1, [] => .misuse
  | bound + 1, arg :: rest =>
    match argument globalSwitches arg rest with
    | .plain =>
      let make (command : Command) : Request :=
        .run ⟨value? given "config", isGiven given "lenient", command⟩
      if arg = "demo" then demoRequest make rest
      else if arg = "eval" then evaluateRequest make [] none false (rest.length + 1) rest
      else if arg = "help" then helpRequest rest
      else .misuse
    | .separator => .misuse
    | .options more rest =>
      if !areProper globalSwitches (given ++ more) then .misuse
      else if isGiven more "help" then .help
      else if isGiven more "version" then .version
      else request (given ++ more) bound rest
    | .misuse => .misuse

end CommandLine

/-- What the arguments of the program ask for. -/
def Request.ofArgs (args : List String) : Request :=
  CommandLine.request [] (args.length + 1) args

/-- The files that a command reads. -/
def Invocation.paths (i : Invocation) : List String :=
  i.configPath.toList ++
    match i.command with
    | .demo => []
    | .evaluate _ recordPath => recordPath.toList

end RuleEngine
