import RuleEngine.Pattern.Tree
import RuleEngine.Text.Utf8

/-!
# Literals of a pattern

What the matches of a regular expression begin with is, for many expressions, one
of few texts. Where these are whole matches the expression does nothing but list
texts (`Regex.listed?`), and it is enough to look for them.

Lists of literals are kept short: long literals are cut, and where too many would
be needed there is no list at all. So an expression that lists many or long texts
does not count as a list.
-/

namespace RuleEngine

/-- What some matches begin with. -/
inductive Literal where
  /-- A text that is a match. -/
  | whole (cs : List Char)
  /-- The first bytes of a match, with more to follow. -/
  | start (bytes : List UInt8)
  deriving DecidableEq

namespace Literal

/-- The bytes of a literal. -/
def bytes : Literal → List UInt8
  | whole cs => Utf8.encode cs
  | start bs => bs

/-- Whether a literal is a match. -/
def isWhole : Literal → Bool
  | whole _ => true
  | start _ => false

/-- A literal with more to follow. -/
def opened (l : Literal) : Literal :=
  start l.bytes

/-- A literal cut to so many bytes. -/
def cut (size : Nat) (l : Literal) : Literal :=
  if l.bytes.length ≤ size then l else start (l.bytes.take size)

/-- A literal after another. -/
def after (l : Literal) : Literal → Literal
  | whole cs =>
    match l with
    | whole ds => whole (cs ++ ds)
    | start bs => start (Utf8.encode cs ++ bs)
  | start bs => start bs

/-- Literals with the same bytes beside each other made one, which is a match if
    all of them are. -/
def joinEqual : List Literal → List Literal
  | [] => []
  | l :: rest =>
    match joinEqual rest with
    | [] => [l]
    | m :: rest =>
      if l.bytes = m.bytes then (if l.isWhole && m.isWhole then l else l.opened) :: rest
      else l :: m :: rest

/-- The literals that can be preferred: those that begin with no literal that is
    preferred before them. -/
def preferred (ls : List Literal) : List Literal :=
  ls.foldl (fun kept l => if kept.any (·.bytes.isPrefixOf l.bytes) then kept else kept ++ [l]) []

/-- The bytes with which two texts both start. -/
def commonStart : List UInt8 → List UInt8 → List UInt8
  | a :: as, b :: bs => if a = b then a :: commonStart as bs else []
  | _, _ => []

/-- The bytes with which all literals start. -/
def sharedStart : List Literal → List UInt8
  | [] => []
  | l :: rest => rest.foldl (fun bs m => commonStart bs m.bytes) l.bytes

end Literal

/-- The literals that matches begin with, in the order in which they are
    preferred; none where matches may begin with anything. -/
abbrev Literals := Option (List Literal)

namespace Literals

/-- The most bytes of a literal. -/
def longest : Nat := 100

/-- The most literals of a list. -/
def largest : Nat := 250

/-- The most characters that a set may add. -/
def mostOfSet : Nat := 10

/-- The most times that a repetition is written out. -/
def mostTimes : Nat := 10

/-- The literals of the empty text. -/
def unit : Literals :=
  some [.whole []]

/-- Literals within the limit on their length. -/
def trimmed (ls : Literals) : Literals :=
  ls.map (·.map (Literal.cut longest))

/-- Literals with more to follow. -/
def opened (ls : Literals) : Literals :=
  ls.map (·.map Literal.opened)

/-- Whether none of the literals is a match, so that nothing can be added. -/
def isClosed (ls : Literals) : Bool :=
  ls.all fun ls => ls.all (!·.isWhole)

/-- The literals of what stands after something with other literals. -/
def append (first second : Literals) : Literals :=
  let many : Bool :=
    match first, second with
    | some ls, some ms => largest < ls.length * ms.length
    | _, _ => false
  trimmed (match first, if many then none else second with
    | some ls, some ms => some (Literal.joinEqual (ls.flatMap fun l =>
        if l.isWhole then ms.map (·.after l) else [l]))
    | some ls, none => if ls.any (·.bytes.isEmpty) then none else opened (some ls)
    | none, _ => none)

/-- The literals of a sequence, part by part until nothing can be added. -/
def sequence (parts : List Literals) : Literals :=
  parts.foldl (fun ls part => if ls.isClosed then ls else ls.append part) unit

/-- Literals cut to the first bytes, where this may make room. -/
def shortened (ls : List Literal) : List Literal :=
  Literal.joinEqual (ls.map (Literal.cut 4))

/-- The literals of either of two expressions. -/
def union (first second : Literals) : Literals := do
  let ls ← first
  let ms ← second
  if ls.length + ms.length ≤ largest then return Literal.joinEqual (ls ++ ms)
  let ls := shortened ls
  let ms := shortened ms
  if ls.length + ms.length ≤ largest then return Literal.joinEqual (ls ++ ms)
  none

/-- The literals of a choice. -/
def choice (branches : List Literals) : Literals :=
  branches.foldl union (some [])

/-- The literals of a set. -/
def ofSet (s : CharSet) : Literals :=
  if mostOfSet < s.size then none
  else some (s.ranges.flatMap fun r =>
    ((List.range' r.low (r.high + 1 - r.low)).filter (·.isValidChar)).map fun n =>
      .whole [Char.ofNat n])

/-- The literals of a repetition. -/
def times (ls : Literals) (least : Nat) (most : Option Nat) (greedy : Bool) : Literals :=
  if least = 0 then
    let ls := if most = some 1 then ls else ls.opened
    if greedy then ls.union unit else unit.union ls
  else
    let written := sequence (List.replicate (min least mostTimes) ls)
    if most = some least && least ≤ mostTimes then written else written.opened

end Literals

namespace Regex

/-- The literals of an expression, in parts where it is a sequence or a choice. -/
inductive LiteralParts where
  | single (ls : Literals)
  | sequence (parts : List Literals)
  | choice (branches : List Literals)

/-- The literals of a whole expression. -/
def LiteralParts.whole : LiteralParts → Literals
  | single ls => ls
  | sequence parts => Literals.sequence parts
  | choice branches => Literals.choice branches

/-- The literals of the parts of a sequence. -/
def LiteralParts.factors : LiteralParts → List Literals
  | sequence parts => parts
  | p => [p.whole]

/-- The literals of the branches of a choice. -/
def LiteralParts.branches : LiteralParts → List Literals
  | choice branches => branches
  | p => [p.whole]

/-- The literals of an expression in parts. A condition counts as the empty
    text. -/
def literalParts : Regex → LiteralParts
  | empty | anchor _ => .single Literals.unit
  | text cs => .single (Literals.trimmed (some [.whole cs]))
  | chars set => .single (Literals.ofSet set)
  | group _ body => .single (literalParts body).whole
  | seq first second => .sequence ((literalParts first).whole :: (literalParts second).factors)
  | alt left right => .choice ((literalParts left).whole :: (literalParts right).branches)
  | times body least most greedy => .single ((literalParts body).whole.times least most greedy)

/-- The literals of an expression. -/
def literals (r : Regex) : Literals :=
  r.literalParts.whole

/-! ### Lists of texts -/

/-- Whether texts often hold a byte. -/
def isFrequent (byte : UInt8) : Bool :=
  0x80 ≤ byte || Char.ofNat byte.toNat ∈ "\n\r (),-./0129:_|abcdefghilmnoprstuvxy".toList

/-- Literals reduced to what they share, where that is short and rare or tells
    enough. `count` is how many there were at first. -/
def reduced (count : Nat) (ls : List Literal) : List Literal :=
  let shared := Literal.sharedStart ls
  let cutTo (size : Nat) : List Literal := Literal.joinEqual (ls.map (Literal.cut size))
  let few := ls.all (·.isWhole) && ls.length ≤ 16
  if 1 < count && shared.length ≤ 3 && shared.head?.any (!isFrequent ·) then cutTo 1
  else if 4 < shared.length || (1 < shared.length && !few) then cutTo shared.length
  else ls

/-- Literals made fewer by making them shorter, in steps of a length to keep and
    the number that is few enough. -/
def lessened : List (Nat × Nat) → List Literal → List Literal
  | [], ls => ls
  | (size, few) :: steps, ls =>
    if ls.length ≤ few then ls
    else lessened steps (Literal.preferred (ls.map (Literal.cut size)))

/-- Whether literals can be made few and still tell enough, so that it is better
    to look for them first and then to match. -/
def isReducible (ls : List Literal) : Bool :=
  let short := lessened [(5, 10), (4, 10), (3, 64), (2, 64), (1, 10)] ls
  short ≠ ls && short.length ≤ 64 && short.all fun l => 2 < l.bytes.length

/-- The text of a literal that is a match. -/
def wholeText? : Literal → Option (List Char)
  | .whole cs => some cs
  | .start _ => none

/-- How many texts are always looked up, however long they are. -/
def manyTexts : Nat := 3000

/-- The texts that an expression lists, if it does nothing but that. -/
def listed? (r : Regex) : Option (List (List Char)) := do
  if !r.isPlain then none
  let few? : Option (List (List Char)) := do
    let ls := Literal.joinEqual (← r.literals)
    if ls.any (·.bytes.isEmpty) then none
    let ls := reduced ls.length (Literal.preferred ls)
    let texts ← ls.mapM wholeText?
    if texts.isEmpty || isReducible ls then none
    return texts
  let many? : Option (List (List Char)) := do
    let texts ← texts? r.branches
    if texts.length < manyTexts then none
    return texts
  few? <|> many?

end Regex

end RuleEngine
