import RuleEngine.Config
import RuleEngine.Error
import RuleEngine.Pattern.Automaton
import RuleEngine.Pattern.Literal
import RuleEngine.Pattern.Matcher
import RuleEngine.Pattern.Notation

/-!
# Patterns

A pattern is a regular expression ready to be matched. Its text and its size
are limited by the configuration; what is within the limits matches as its text
says, whatever the limits are.
-/

namespace RuleEngine

/-- A regular expression ready to be matched. -/
structure Pattern where
  text : String
  machine : Machine

namespace Pattern

/-- The pattern of a text that is a regular expression whose automata are of limited
    size. One that lists texts needs no automata. -/
def ofText? (text : String) (sizeLimit : Nat) : Except PatternProblem Pattern :=
  match Regex.read? text with
  | none => .error .malformed
  | some regex =>
    match regex.listed? with
    | some texts => .ok ⟨text, Machine.ofTexts texts⟩
    | none =>
      if regex.fits sizeLimit then .ok ⟨text, Machine.ofRegex regex⟩
      else .error (.tooLarge sizeLimit)

/-- The pattern of a text within the limits of a configuration. -/
def build (config : Config) (text : String) : Except Error Pattern :=
  let problem? : Except PatternProblem Pattern :=
    if config.maxPatternLength < text.utf8ByteSize then
      .error (.tooLong text.utf8ByteSize config.maxPatternLength)
    else ofText? text config.regexSizeLimit
  problem?.mapError (.invalidPattern text ·)

/-- Whether a pattern matches somewhere in a text. -/
def occursIn (pattern : Pattern) (subject : String) : Bool :=
  pattern.machine.matchesIn subject

end Pattern

end RuleEngine
