import RuleEngine.Pattern.Reader
import RuleEngine.Pattern.Tree

/-!
# Repetitions

How often a part of a pattern is repeated: `*`, `+`, `?` or counts in braces,
each with a question mark that changes its greed and not what matches.
-/

namespace RuleEngine

namespace Regex

/-- The largest count of a repetition. -/
def largestCount : Nat := 4294967295

/-- The count of a repetition, if digits are there. Blanks around the digits are
    passed over in any case. -/
def count? : Read (Option Nat) := do
  modify fun r => { r with rest := r.rest.dropWhile CharClass.isBlank }
  let digits ← takeAllSpaced Char.isDigit
  let _ ← takeAllSpaced CharClass.isBlank
  if digits.isEmpty then return none
  let n := digits.foldl (fun n c => 10 * n + (c.toNat - '0'.toNat)) 0
  require (n ≤ largestCount)
  return some n

/-- The counts of a repetition after its opening brace. -/
def counts : Read (Nat × Option Nat) := do
  skipBlanks
  let least ← count?
  match least, ← takeSpaced with
  | some least, ',' =>
    if (← peek?) == some '\x7d' then
      let _ ← take
      return (least, none)
    else
      match ← count?, ← take with
      | some most, '\x7d' =>
        require (least ≤ most)
        return (least, some most)
      | _, _ => failure
  | some least, '\x7d' => return (least, some least)
  | _, _ => failure

/-- The greed of a repetition, which a question mark changes. -/
def greed : Read Bool := do
  let f ← flags
  if (← peek?) == some '?' then
    drop 1
    return f.swapGreed
  else return !f.swapGreed

/-- The repetitions after a part; several may follow each other. -/
def repetitions (part : Part Regex) : Nat → Read (Part Regex)
  | 0 => failure
  | bound + 1 => do
    skipBlanks
    let again (least : Nat) (most : Option Nat) : Read (Part Regex) := do
      let greedy ← greed
      repetitions ⟨repeated part.value least most greedy, part.height + 1⟩ bound
    match ← peek? with
    | some '*' =>
      drop 1
      again 0 none
    | some '+' =>
      drop 1
      again 1 none
    | some '?' =>
      drop 1
      again 0 (some 1)
    | some '\x7b' =>
      drop 1
      let (least, most) ← counts
      skipBlanks
      again least most
    | _ => return part

end Regex

end RuleEngine
