import RuleEngine.CommandLine.Job

/-!
# The demonstration

Rules on the tags and flags of a feature switch: a tag has to name an issue, and
a flag has to carry such a tag and, by a stricter rule, to be rolled out to more
than a tenth.
-/

namespace RuleEngine

namespace Demo

/-- The pattern of a tag that names an issue. -/
def tagPattern : String := "^JIRA:[a-zA-Z]\x7b3\x7d[a-zA-Z]*$"

/-- The rule on tags. -/
def tagRule : String := "regexMatch(tag, \"" ++ tagPattern ++ "\")"

/-- The rule that some tag of a flag names an issue. -/
def tagClause : String := "any(\"regexMatch(Value, \\\"" ++ tagPattern ++ "\\\")\", Tags)"

/-- The rules on flags. -/
def flagRules : List String :=
  [tagClause, tagClause ++ " && any(\"RolloutPercent > 10\", Segments)"]

/-- The tags that are judged. -/
def tags : List String :=
  ["JIRA:EPLT", "FOO:BAR", "JIRA:TS", "JIRA:TLA", "JIRA:EP123",
    "EXTRA_STUFF kljalkj JIRA:EPLT EXTRA"]

/-- A switch with its tags and the shares that it is rolled out to, each under
    the number of the tag or the segment. -/
structure Flag where
  id : Nat
  tags : List (Nat × String)
  segments : List (Nat × Nat)

/-- The flags that are judged. -/
def flags : List Flag := [
  ⟨1, [], []⟩,
  ⟨2, [(3, "FOO:BAR"), (6, "JIRA:EPLT")], []⟩,
  ⟨4, [(5, "JIRA:EPLT")], []⟩,
  ⟨7, [(8, "JIRA:EP12")], []⟩,
  ⟨9, [(10, "JIRA:EPLT")], [(11, 20)]⟩,
  ⟨12, [(13, "JIRA:EPLT")], [(14, 5)]⟩]

/-- The record of a flag. -/
def Flag.record (f : Flag) : Record :=
  let number (n : Nat) : Value := .integer (Int64.ofNat n)
  [("ID", number f.id),
    ("Key", .string ""),
    ("Segments", .list (f.segments.map fun (id, percent) =>
      .record [("ID", number id), ("RolloutPercent", number percent)])),
    ("Tags", .list (f.tags.map fun (id, value) =>
      .record [("ID", number id), ("Value", .string value)]))]

/-- Prints whether a rule holds of something. -/
def judge (rule : Compiled) (what : String) (record : Record) : Job Unit := do
  let valid ← Job.holds .engine rule record
  Job.printLine ("   - is " ++ what ++ " valid? " ++ if valid then "true" else "false")

/-- Judges the flags by a rule. -/
def judgeFlags (source : String) : Job Unit := do
  let rule ← Job.compile (.flagRuleNotCompiled source) source
  Job.printLine ("🚩 Validating flags with " ++ rule.source)
  flags.forM fun f => judge rule ("flag " ++ toString f.id) f.record
  Job.printLine ""

/-- Judges the tags, and the flags by each rule. -/
def run : Job Unit := do
  Job.printLine "🏷️  Validating tags"
  let rule ← Job.compile .tagRuleNotCompiled tagRule
  tags.forM fun tag => judge rule ("tag (" ++ tag ++ ")") [("tag", .string tag)]
  Job.printLine ""
  flagRules.forM judgeFlags
  Job.printLine "✅ Done"

end Demo

end RuleEngine
