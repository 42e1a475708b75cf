/-!
# Sets of characters

A set of characters is a list of ranges of code points in increasing order,
with a gap between any two. `CharSet.ofRanges` brings any ranges into that
form, and the other sets are made from it.
-/

namespace RuleEngine

/-- The code points from `low` to `high`, both included. -/
structure CharRange where
  low : Nat
  high : Nat
  deriving DecidableEq

/-- A set of characters. -/
structure CharSet where
  ranges : List CharRange
  deriving DecidableEq

namespace CharSet

/-- The largest code point. -/
def lastCodePoint : Nat := 0x10FFFF

/-- All code points. -/
def all : CharSet := ⟨[⟨0, lastCodePoint⟩]⟩

/-- Whether a code point is in one of the ranges, which increase. -/
def inRanges (n : Nat) : List CharRange → Bool
  | [] => false
  | r :: rest => if n < r.low then false else n ≤ r.high || inRanges n rest

/-- Whether a character is in a set. -/
def contains (s : CharSet) (c : Char) : Bool :=
  inRanges c.toNat s.ranges

/-- How many code points there are in a set. -/
def size (s : CharSet) : Nat :=
  s.ranges.foldl (fun n r => n + (r.high + 1 - r.low)) 0

/-- Joins a range with the ranges after it that overlap or touch it, and those
    with each other; their lower ends do not decrease. -/
def joinFrom (r : CharRange) : List CharRange → List CharRange
  | [] => [r]
  | s :: rest =>
    if s.low ≤ r.high + 1 then joinFrom ⟨r.low, max r.high s.high⟩ rest else r :: joinFrom s rest

/-- Joins ranges that overlap or touch; their lower ends do not decrease. -/
def joinRanges : List CharRange → List CharRange
  | [] => []
  | r :: rest => joinFrom r rest

/-- The set of the code points in any of some ranges. -/
def ofRanges (ranges : List CharRange) : CharSet :=
  ⟨joinRanges ((ranges.filter fun r => r.low ≤ r.high).mergeSort fun a b => a.low ≤ b.low)⟩

/-- The code points from `low` to `high`; none if these are in the wrong order. -/
def range (low high : Nat) : CharSet :=
  ofRanges [⟨low, high⟩]

/-- One character. -/
def singleton (c : Char) : CharSet :=
  ⟨[⟨c.toNat, c.toNat⟩]⟩

/-- Some characters. -/
def ofChars (cs : List Char) : CharSet :=
  ofRanges (cs.map fun c => ⟨c.toNat, c.toNat⟩)

/-- The characters in either of two sets. -/
def union (s t : CharSet) : CharSet :=
  ofRanges (s.ranges ++ t.ranges)

/-- The code points from `start` on that no range holds. -/
def gaps (start : Nat) : List CharRange → List CharRange
  | [] => if start ≤ lastCodePoint then [⟨start, lastCodePoint⟩] else []
  | r :: rest =>
    if start < r.low then ⟨start, r.low - 1⟩ :: gaps (r.high + 1) rest else gaps (r.high + 1) rest

/-- The code points that are not in a set. -/
def complement (s : CharSet) : CharSet :=
  ⟨gaps 0 s.ranges⟩

/-- The characters in both of two sets: what neither of the complements holds. -/
def inter (s t : CharSet) : CharSet :=
  (s.complement.union t.complement).complement

/-- The characters of a set that are not in another. -/
def diff (s t : CharSet) : CharSet :=
  s.inter t.complement

/-- The characters in one of two sets only. -/
def symmDiff (s t : CharSet) : CharSet :=
  (s.diff t).union (t.diff s)

/-- The characters in any of some sets. -/
def unions (sets : List CharSet) : CharSet :=
  ofRanges (sets.flatMap (·.ranges))

/-! ### Written ranges

Tables of characters are written as hexadecimal numbers and pairs `low-high`
with blanks between them. -/

/-- What has been read of a table: the ranges so far (last first), the lower
    end of the range being read, and the number being read. -/
structure TableReader where
  ranges : List CharRange
  low : Option Nat
  number : Option Nat

/-- The value of a hexadecimal digit. -/
def hexDigit? (c : Char) : Option Nat :=
  if '0' ≤ c ∧ c ≤ '9' then some (c.toNat - '0'.toNat)
  else if 'a' ≤ c ∧ c ≤ 'f' then some (c.toNat - 'a'.toNat + 10)
  else if 'A' ≤ c ∧ c ≤ 'F' then some (c.toNat - 'A'.toNat + 10)
  else none

/-- Ends the range being read. -/
def TableReader.flush (t : TableReader) : TableReader :=
  match t.number with
  | none => t
  | some n => ⟨⟨t.low.getD n, n⟩ :: t.ranges, none, none⟩

/-- Reads one character of a table. -/
def TableReader.step (t : TableReader) (c : Char) : TableReader :=
  match hexDigit? c with
  | some d => { t with number := some (16 * t.number.getD 0 + d) }
  | none => if c = '-' then { t with low := t.number, number := none } else t.flush

/-- The set that a table writes. -/
def ofTable (text : String) : CharSet :=
  ofRanges ((text.toList.foldl TableReader.step ⟨[], none, none⟩).flush).ranges

end CharSet

end RuleEngine
