import RuleEngine.Pattern.Escape

/-!
# Classes in brackets

A class lists characters, ranges, escapes, named classes and further classes.
The two sides of `&&`, `--` and `~~` are intersected, subtracted, or taken apart
from what they share. A circumflex at the start takes what is not listed.
-/

namespace RuleEngine

namespace Regex

/-- An operation between two sets in a class. -/
inductive SetOp where
  | inter
  | diff
  | symmDiff

/-- The set that an operation makes of two sets. -/
def SetOp.apply (op : SetOp) (s t : CharSet) : CharSet :=
  match op with
  | inter => s.inter t
  | diff => s.diff t
  | symmDiff => s.symmDiff t

/-- A class being read: its last operation with what stands before it, and what
    has been read since. -/
structure ClassReader where
  before : Option (SetOp × Part CharSet)
  parts : List (Part CharSet)

/-- What has been read since the last operation. -/
def ClassReader.union (r : ClassReader) : Part CharSet :=
  let heights := r.parts.map (·.height)
  ⟨CharSet.unions (r.parts.map (·.value)),
    heights.foldl max 0 + if heights.length ≤ 1 then 0 else 1⟩

/-- All that has been read. -/
def ClassReader.result (f : Flags) (r : ClassReader) : Part CharSet :=
  match r.before with
  | none => r.union
  | some (op, left) =>
    ⟨op.apply (folded f left.value) (folded f r.union.value), max left.height r.union.height + 1⟩

/-- One character of a class, which without the `u` flag must be ASCII. -/
def classChar (c : Char) : Read Char := do
  require ((← flags).unicode || c.toNat < 128)
  return c

/-- A character or an escape in a class. -/
def classItem : Read Escape := do
  let c ← take
  if c = '\\' then escape else return .char c false

/-- A character, a range or an escape in a class. -/
def classRange : Read CharSet := do
  let first ← classItem
  skipBlanks
  let next ← peek?
  require next.isSome
  let second ← peekSecond?
  if next != some '-' || second == some ']' || second == some '-' then
    match first with
    | .char c _ => return CharSet.singleton (← classChar c)
    | .set s => return s
    | .anchor _ => failure
  else
    let _ ← takeSpaced
    match first, ← classItem with
    | .char low _, .char high _ =>
      let low ← classChar low
      let high ← classChar high
      require (low ≤ high)
      return CharSet.range low.toNat high.toNat
    | _, _ => failure

/-- A named class, if the text after its bracket is one, and its length. A
    circumflex takes what the class does not hold in either case. -/
def namedClassAt? (f : Flags) (rest : List Char) : Option (CharSet × Nat) :=
  match rest with
  | ':' :: rest =>
    let negative := rest.head? == some '^'
    let body := if negative then rest.drop 1 else rest
    let name := body.takeWhile (· ≠ ':')
    match body.drop name.length, namedClass? (String.ofList name) with
    | ':' :: ']' :: _, some s =>
      let s := folded f s
      some (if negative then negated f s else s, name.length + 3 + if negative then 1 else 0)
    | _, _ => none
  | _ => none

/-- Hyphens at the start of a class, which stand for themselves. -/
def leadingHyphens : Nat → Read (List (Part CharSet))
  | 0 => failure
  | bound + 1 => do
    if (← peek?) == some '-' then
      let _ ← takeSpaced
      return ⟨CharSet.singleton '-', 0⟩ :: (← leadingHyphens bound)
    else return []

mutual

/-- A class after its opening bracket. -/
def bracketed : Nat → Read (Part CharSet)
  | 0 => failure
  | bound + 1 => do
    skipBlanks
    let negative := (← peek?) == some '^'
    if negative then
      let _ ← takeSpaced
    let hyphens ← leadingHyphens bound
    let first ← if hyphens.isEmpty && (← peek?) == some ']' then do
        let _ ← takeSpaced
        pure [⟨CharSet.singleton ']', 0⟩]
      else pure hyphens
    let inner ← classRest ⟨none, first⟩ bound
    let f ← flags
    let s := folded f inner.value
    return ⟨← allowed f (if negative then negated f s else s), inner.height + 1⟩

/-- The rest of a class, with its closing bracket. -/
def classRest (r : ClassReader) : Nat → Read (Part CharSet)
  | 0 => failure
  | bound + 1 => do
    skipBlanks
    let f ← flags
    let apply (op : SetOp) : Read (Part CharSet) := do
      drop 2
      classRest ⟨some (op, r.result f), []⟩ bound
    match (← get).rest with
    | [] => failure
    | ']' :: _ =>
      drop 1
      return r.result f
    | '[' :: rest =>
      match namedClassAt? f rest with
      | some (s, length) =>
        drop (length + 1)
        let s ← allowed f s
        classRest { r with parts := r.parts ++ [⟨s, 0⟩] } bound
      | none =>
        drop 1
        let inner ← bracketed bound
        classRest { r with parts := r.parts ++ [inner] } bound
    | '&' :: '&' :: _ => apply .inter
    | '-' :: '-' :: _ => apply .diff
    | '~' :: '~' :: _ => apply .symmDiff
    | _ =>
      let s ← classRange
      classRest { r with parts := r.parts ++ [⟨s, 0⟩] } bound

end

end Regex

end RuleEngine
