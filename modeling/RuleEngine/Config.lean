/-!
# Configuration

What a rule engine can be told: whether unknown functions are refused when a
rule is compiled, and the limits on rules, patterns and caches.
-/

namespace RuleEngine

/-- The settings of an engine. -/
structure Config where
  /-- Whether a rule that calls an unknown function is refused at once. -/
  strictFunctions : Bool := true
  /-- How deep expressions and evaluations may be nested. -/
  maxDepth : Nat := 64
  /-- The length of patterns, in bytes. -/
  maxPatternLength : Nat := 4096
  /-- The size of compiled patterns, in bytes. -/
  regexSizeLimit : Nat := 1048576
  /-- How many entries each cache holds. -/
  cacheCapacity : Nat := 1024
  deriving DecidableEq

end RuleEngine
