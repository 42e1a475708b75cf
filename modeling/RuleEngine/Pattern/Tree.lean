import RuleEngine.Text.CharClass

/-!
# Regular expressions

The tree of a regular expression, in a form that many texts share: sequences and
choices are flat, texts that meet are one, and a choice between sets is a set.
What matters is where it matches, not which part of the text it takes. Groups
and the greed of repetitions do not change that; they are kept because two
expressions that differ in them are not shared.
-/

namespace RuleEngine

/-- Conditions on the two sides of a boundary between characters. `crlf` counts
    a carriage return before a line feed as part of the end of a line; `ascii`
    takes words to consist of ASCII characters. -/
inductive Anchor where
  | textStart
  | textEnd
  | lineStart (crlf : Bool)
  | lineEnd (crlf : Bool)
  | wordEdge (ascii : Bool)
  | noWordEdge (ascii : Bool)
  | wordStart (ascii : Bool)
  | wordEnd (ascii : Bool)
  | noWordBefore (ascii : Bool)
  | noWordAfter (ascii : Bool)
  deriving DecidableEq

/-- A place between two characters, or at an end of the text. -/
structure Boundary where
  before : Option Char
  after : Option Char

/-- Whether a side of a boundary belongs to a word. -/
def Anchor.inWord (ascii : Bool) (side : Option Char) : Bool :=
  side.any (if ascii then CharClass.asciiWord else CharClass.word).contains

/-- Whether a boundary meets a condition. -/
def Anchor.holds (a : Anchor) (b : Boundary) : Bool :=
  match a with
  | textStart => b.before.isNone
  | textEnd => b.after.isNone
  | lineStart false => b.before.isNone || b.before == some '\n'
  | lineStart true =>
    b.before.isNone || b.before == some '\n' || (b.before == some '\r' && b.after != some '\n')
  | lineEnd false => b.after.isNone || b.after == some '\n'
  | lineEnd true =>
    b.after.isNone || b.after == some '\r' || (b.after == some '\n' && b.before != some '\r')
  | wordEdge ascii => inWord ascii b.before != inWord ascii b.after
  | noWordEdge ascii => inWord ascii b.before == inWord ascii b.after
  | wordStart ascii => !inWord ascii b.before && inWord ascii b.after
  | wordEnd ascii => inWord ascii b.before && !inWord ascii b.after
  | noWordBefore ascii => !inWord ascii b.before
  | noWordAfter ascii => !inWord ascii b.after

/-- A regular expression. -/
inductive Regex where
  | empty
  /-- Characters one after the other; there is at least one. -/
  | text (cs : List Char)
  | chars (set : CharSet)
  | anchor (a : Anchor)
  /-- A group that is counted, and how many were counted before it. -/
  | group (number : Nat) (body : Regex)
  | seq (first second : Regex)
  | alt (left right : Regex)
  /-- At least `least` times in sequence, and at most `most` times if given.
      Where both more and fewer match, `greedy` takes more. -/
  | times (body : Regex) (least : Nat) (most : Option Nat) (greedy : Bool)
  deriving DecidableEq

namespace Regex

/-! ### Properties -/

/-- Whether all that it can match is the empty text. -/
def isZeroWidth : Regex → Bool
  | empty => true
  | text cs => cs.isEmpty
  | chars _ => false
  | anchor _ => true
  | group _ body => isZeroWidth body
  | seq first second => isZeroWidth first && isZeroWidth second
  | alt left right => isZeroWidth left && isZeroWidth right
  | times body _ most _ => most.isSome && isZeroWidth body

/-- The least number of characters that a match takes, if there can be a match. -/
def leastWidth? : Regex → Option Nat
  | empty => some 0
  | text cs => some cs.length
  | chars set => if set.ranges.isEmpty then none else some 1
  | anchor _ => some 0
  | group _ body => leastWidth? body
  | seq first second => return (← leastWidth? first) + (← leastWidth? second)
  | alt left right => return min (← leastWidth? left) (← leastWidth? right)
  | times body least _ _ => return least * (← leastWidth? body)

/-- Whether each match takes characters. -/
def takesText (r : Regex) : Bool :=
  r.leastWidth?.any (0 < ·)

/-- Whether a condition stands before all characters of each match. -/
def startsAt (a : Anchor) : Regex → Bool
  | empty | text _ | chars _ => false
  | anchor b => a = b
  | group _ body => startsAt a body
  | seq first second => startsAt a first || (isZeroWidth first && startsAt a second)
  | alt left right => startsAt a left && startsAt a right
  | times body least _ _ => 0 < least && startsAt a body

/-- Whether a condition stands behind all characters of each match. -/
def endsAt (a : Anchor) : Regex → Bool
  | empty | text _ | chars _ => false
  | anchor b => a = b
  | group _ body => endsAt a body
  | seq first second => endsAt a second || (isZeroWidth second && endsAt a first)
  | alt left right => endsAt a left && endsAt a right
  | times body least _ _ => 0 < least && endsAt a body

/-- Whether it has no conditions and counts no groups, so that a match is decided
    by the characters it takes alone. -/
def isPlain : Regex → Bool
  | empty | text _ | chars _ => true
  | anchor _ | group _ _ => false
  | seq first second => isPlain first && isPlain second
  | alt left right => isPlain left && isPlain right
  | times body _ _ _ => isPlain body

/-! ### Building -/

/-- One character of a set; a single one is a text. -/
def ofSet (s : CharSet) : Regex :=
  match s.ranges with
  | [r] => if r.low = r.high && r.low.isValidChar then text [Char.ofNat r.low] else chars s
  | _ => chars s

/-- A repetition. Of an expression that has no width, once is as good as often. -/
def repeated (body : Regex) (least : Nat) (most : Option Nat) (greedy : Bool) : Regex :=
  let once := body.isZeroWidth
  let least := if once then min least 1 else least
  let most := if once then some (min (most.getD 1) 1) else most
  if least = 0 ∧ most = some 0 then empty
  else if least = 1 ∧ most = some 1 then body
  else times body least most greedy

/-- The parts of a sequence; none of them is a sequence. -/
def factors : Regex → List Regex
  | empty => []
  | seq first second => first :: factors second
  | r => [r]

/-- An expression before others; texts that meet are one. -/
def consFactor (r : Regex) (rest : List Regex) : List Regex :=
  match r, rest with
  | text cs, text ds :: rest => text (cs ++ ds) :: rest
  | r, rest => r :: rest

/-- The sequence of parts. -/
def ofFactors : List Regex → Regex
  | [] => empty
  | [r] => r
  | r :: rest => seq r (ofFactors rest)

/-- Some expressions one after the other. -/
def sequence (rs : List Regex) : Regex :=
  ofFactors ((rs.flatMap factors).foldr consFactor [])

/-- The branches of a choice; none of them is a choice. -/
def branches : Regex → List Regex
  | alt left right => left :: branches right
  | r => [r]

/-- The choice of branches; of none, what never matches. -/
def ofBranches : List Regex → Regex
  | [] => chars ⟨[]⟩
  | [r] => r
  | r :: rest => alt r (ofBranches rest)

/-- The character of a text that has only one. -/
def letter? : Regex → Option Char
  | text [c] => some c
  | _ => none

/-- The set of an expression that is one. -/
def set? : Regex → Option CharSet
  | chars set => some set
  | _ => none

/-- The texts of expressions that are all texts. -/
def texts? (rs : List Regex) : Option (List (List Char)) :=
  rs.mapM fun
    | text cs => some cs
    | _ => none

/-- Branches that are all characters, or all sets, as one set. -/
def merged? (rs : List Regex) : Option Regex :=
  match rs.mapM letter?, rs.mapM set? with
  | some cs, _ => some (ofSet (CharSet.ofChars cs))
  | _, some sets => some (ofSet (CharSet.unions sets))
  | none, none => none

/-- The choice of branches, or the set that it amounts to. -/
def choiceOf (rs : List Regex) : Regex :=
  (merged? rs).getD (ofBranches rs)

/-- The parts with which two sequences both start. -/
def commonFactors : List Regex → List Regex → List Regex
  | r :: rs, s :: ss => if r = s then r :: commonFactors rs ss else []
  | _, _ => []

/-- The parts of a sequence of several. -/
def sequenceFactors? : Regex → Option (List Regex)
  | seq first second => some (factors (seq first second))
  | _ => none

/-- Branches that are all sequences, with the parts with which they all start
    taken before the choice. -/
def shared? (rs : List Regex) : Option Regex :=
  match rs.mapM sequenceFactors? with
  | some (first :: others) =>
    let common := others.foldl commonFactors first
    if common.isEmpty then none
    else
      let rest := (first :: others).map fun parts => sequence (parts.drop common.length)
      some (sequence (common ++ [choiceOf (rest.flatMap branches)]))
  | _ => none

/-- One of some expressions. -/
def choice (rs : List Regex) : Regex :=
  match rs.flatMap branches with
  | [r] => r
  | rs => (merged? rs <|> shared? rs).getD (ofBranches rs)

end Regex

end RuleEngine
