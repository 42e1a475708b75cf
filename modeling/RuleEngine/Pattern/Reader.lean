import RuleEngine.Pattern.Flags

/-!
# Reading patterns

A pattern is read from left to right. What is read depends on the flags in force
and on the groups that there were.
-/

namespace RuleEngine

namespace Regex

/-- What reading has left, and what it has met. -/
structure Reader where
  rest : List Char
  flags : Flags
  /-- The names of the groups so far. -/
  names : List String
  /-- How many groups have been counted. -/
  groups : Nat

/-- A reader of some part of a pattern. -/
abbrev Read := StateT Reader Option

/-- A part of a pattern, and how deep it is nested. -/
structure Part (α : Type) where
  value : α
  height : Nat

/-- The next character, which is left where it is. -/
def peek? : Read (Option Char) :=
  return (← get).rest.head?

/-- Passes over so many characters. -/
def drop (count : Nat) : Read Unit :=
  modify fun r => { r with rest := r.rest.drop count }

/-- The flags in force. -/
def flags : Read Flags :=
  return (← get).flags

/-- Fails unless a condition holds. -/
def require (b : Bool) : Read Unit :=
  if b then pure () else failure

/-- The next character. -/
def take : Read Char := do
  match (← get).rest with
  | c :: rest =>
    modify fun r => { r with rest := rest }
    return c
  | [] => failure

/-- Takes a text if it is next. -/
def takeText (text : String) : Read Bool := do
  if text.toList.isPrefixOf (← get).rest then
    drop text.length
    return true
  else return false

/-- Blanks and comments, where these are passed over; `comment` says whether the
    characters are those of a comment. -/
def skipped (comment : Bool) : List Char → List Char
  | [] => []
  | c :: rest =>
    if comment then skipped (c != '\n') rest
    else if CharClass.isBlank c then skipped false rest
    else if c = '#' then skipped true rest
    else c :: rest

/-- Passes over blanks and comments, where the flags say so. -/
def skipBlanks : Read Unit := do
  if (← flags).spaced then modify fun r => { r with rest := skipped false r.rest }

/-- The next character, and the blanks after it passed over. -/
def takeSpaced : Read Char := do
  let c ← take
  skipBlanks
  return c

/-- The first of some characters after blanks and at most one `#`. -/
def pastBlanks? (hash : Bool) : List Char → Option Char
  | [] => none
  | c :: rest =>
    if CharClass.isBlank c then pastBlanks? hash rest
    else if c = '#' && !hash then pastBlanks? true rest
    else some c

/-- The next character after blanks, the present one left out. A comment counts
    as its first character. -/
def peekSecond? : Read (Option Char) := do
  let r ← get
  let rest := r.rest.drop 1
  return if r.flags.spaced then pastBlanks? false rest <|> rest.head? else rest.head?

/-- The next characters as long as they are of some kind, and the blanks after
    each of them passed over. -/
def takeWhileSpaced (isPart : Char → Bool) : Nat → Read (List Char)
  | 0 => failure
  | bound + 1 => do
    match ← peek? with
    | some c =>
      if isPart c then
        let _ ← takeSpaced
        return c :: (← takeWhileSpaced isPart bound)
      else return []
    | none => return []

/-- All the next characters of some kind, and the blanks after each of them
    passed over. -/
def takeAllSpaced (isPart : Char → Bool) : Read (List Char) := do
  takeWhileSpaced isPart ((← get).rest.length + 1)

/-- A set that may stand in a pattern: without the `u` flag, one of ASCII
    characters, since other bytes are not characters. -/
def allowed (f : Flags) (s : CharSet) : Read CharSet := do
  require (f.unicode || s.ranges.all (·.high < 128))
  return s

end Regex

end RuleEngine
