import RuleEngine.Pattern.Property
import RuleEngine.Pattern.Reader
import RuleEngine.Pattern.Tree

/-!
# Escapes

What a backslash and the characters after it stand for: a character, a set of
characters, or an anchor.
-/

namespace RuleEngine

namespace Regex

/-- What an escape stands for. -/
inductive Escape where
  /-- A character; `byte` says that it was written as the number of a byte. -/
  | char (c : Char) (byte : Bool)
  | set (s : CharSet)
  | anchor (a : Anchor)

/-- The character of a code point. -/
def charOf? (n : Nat) : Option Char :=
  if n.isValidChar then some (Char.ofNat n) else none

/-- So many hexadecimal digits. -/
def hexDigits : Nat → Nat → Read Nat
  | 0, n => return n
  | count + 1, n => do
    match CharSet.hexDigit? (← takeSpaced) with
    | some d => hexDigits count (16 * n + d)
    | none => failure

/-- Hexadecimal digits up to a brace. -/
def bracedDigits : Read Nat := do
  let digits ← takeAllSpaced (· ≠ '\x7d')
  let _ ← takeSpaced
  require (!digits.isEmpty)
  match digits.mapM CharSet.hexDigit? with
  | some ds => return ds.foldl (fun n d => 16 * n + d) 0
  | none => failure

/-- The number of a character after `\x`, `\u` or `\U`. -/
def hexEscape (width : Nat) : Read Escape := do
  let braced := (← peek?) == some '\x7b'
  let n ← if braced then do
      let _ ← takeSpaced
      bracedDigits
    else hexDigits width 0
  match charOf? n with
  | some c => return .char c (!braced && width == 2)
  | none => failure

/-- The class after `\p` or `\P`. -/
def propertyEscape (negative : Bool) : Read Escape := do
  let first ← takeSpaced
  let query ← if first = '\x7b' then do
      let written ← takeAllSpaced (· ≠ '\x7d')
      let _ ← take
      pure (String.ofList written)
    else do
      require (first ≠ '\\')
      pure first.toString
  let f ← flags
  require f.unicode
  match propertyQuery? query with
  | some s =>
    let s := folded f s
    return .set (if negative then s.complement else s)
  | none => failure

/-- The anchor after `\b`: an edge of a word, or the one that a word in braces
    names. Braces with anything else count a repetition. -/
def wordAnchor : Read Escape := do
  let ascii := !(← flags).unicode
  let isPart (c : Char) : Bool := c.isAlpha || c == '-'
  if (← peek?) != some '\x7b' then return .anchor (.wordEdge ascii)
  let brace ← get
  let _ ← takeSpaced
  match ← peek? with
  | none => failure
  | some c =>
    if isPart c then
      let word ← takeAllSpaced isPart
      require ((← take) == '\x7d')
      match String.ofList word with
      | "start" => return .anchor (.wordStart ascii)
      | "end" => return .anchor (.wordEnd ascii)
      | "start-half" => return .anchor (.noWordBefore ascii)
      | "end-half" => return .anchor (.noWordAfter ascii)
      | _ => failure
    else
      set brace
      return .anchor (.wordEdge ascii)

/-- What follows a backslash. -/
def escape : Read Escape := do
  let f ← flags
  let c ← take
  let ascii := !f.unicode
  match c with
  | 'x' =>
    skipBlanks
    hexEscape 2
  | 'u' =>
    skipBlanks
    hexEscape 4
  | 'U' =>
    skipBlanks
    hexEscape 8
  | 'p' =>
    skipBlanks
    propertyEscape false
  | 'P' =>
    skipBlanks
    propertyEscape true
  | 'a' => return .char '\x07' false
  | 'f' => return .char '\x0c' false
  | 't' => return .char '\t' false
  | 'n' => return .char '\n' false
  | 'r' => return .char '\r' false
  | 'v' => return .char '\x0b' false
  | 'A' => return .anchor .textStart
  | 'z' => return .anchor .textEnd
  | 'b' => wordAnchor
  | 'B' => return .anchor (.noWordEdge ascii)
  | '<' => return .anchor (.wordStart ascii)
  | '>' => return .anchor (.wordEnd ascii)
  | c =>
    match letterClass? f c with
    | some s => return .set (← allowed f s)
    | none =>
      require (c.toNat < 128 && !c.isAlphanum)
      return .char c false

end Regex

end RuleEngine
