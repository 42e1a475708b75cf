import RuleEngine.Text.CharClass
import RuleEngine.Text.Folding

/-!
# Flags

Letters in a group change how the rest of it is read: whether case counts, what
the point and the anchors match, whether blanks count, and whether classes hold
the characters of all scripts.
-/

namespace RuleEngine

namespace Regex

/-- What letters in `(?...)` switch. -/
structure Flags where
  /-- `i`: letters match in either case. -/
  ignoreCase : Bool := false
  /-- `s`: the point matches the end of a line. -/
  dotAll : Bool := false
  /-- `m`: the anchors `^` and `$` match at lines. -/
  multiLine : Bool := false
  /-- `x`: blanks and comments in the pattern are passed over. -/
  spaced : Bool := false
  /-- `u`: classes hold the characters of all scripts. -/
  unicode : Bool := true
  /-- `R`: lines may end with a carriage return. -/
  crlf : Bool := false
  /-- `U`: repetitions are greedy only with a question mark. -/
  swapGreed : Bool := false

/-- A set with the other cases of its characters, if case is ignored. -/
def folded (f : Flags) (s : CharSet) : CharSet :=
  if f.ignoreCase then (if f.unicode then s.foldCase else s.foldAsciiCase) else s

/-- What is not in a set. Without the `u` flag a class speaks of bytes. -/
def negated (f : Flags) (s : CharSet) : CharSet :=
  if f.unicode then s.complement else s.complement.inter (CharSet.range 0 0xFF)

/-- The class that a letter stands for after a backslash, of all characters or of
    the ASCII ones. -/
def letterSet? (unicode : Bool) (c : Char) : Option CharSet :=
  match c with
  | 'd' => some (if unicode then CharClass.digit else CharClass.asciiDigit)
  | 's' => some (if unicode then CharClass.blank else CharClass.asciiBlank)
  | 'w' => some (if unicode then CharClass.word else CharClass.asciiWord)
  | _ => none

/-- The class that a letter stands for; a capital letter takes what is not in the
    class of the small one. -/
def letterClass? (f : Flags) (c : Char) : Option CharSet :=
  if c.isUpper then (letterSet? f.unicode c.toLower).map (negated f) else letterSet? f.unicode c

end Regex

end RuleEngine
