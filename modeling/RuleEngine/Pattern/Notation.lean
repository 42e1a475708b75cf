import RuleEngine.Pattern.Bracket
import RuleEngine.Pattern.Repetition
import RuleEngine.Text.Recent

/-!
# The notation of regular expressions

Characters, classes, escapes and groups stand in sequence, with repetitions
after them and bars between alternatives. `Regex.read?` gives the tree of a
text, or none where the text is no regular expression.

Reading goes down into groups and classes and along sequences; the texts of a
group and of what follows it are read separately, so three steps for each
character are enough, and that is the bound on the recursion.
-/

namespace RuleEngine

namespace Regex

/-! ### Groups -/

/-- A flag and what it sets. -/
def setFlag? (on : Bool) (c : Char) (f : Flags) : Option Flags :=
  match c with
  | 'i' => some { f with ignoreCase := on }
  | 's' => some { f with dotAll := on }
  | 'm' => some { f with multiLine := on }
  | 'x' => some { f with spaced := on }
  | 'u' => some { f with unicode := on }
  | 'R' => some { f with crlf := on }
  | 'U' => some { f with swapGreed := on }
  | _ => none

/-- The flags of letters, each of which occurs once; a hyphen switches off what
    follows it, and something follows it. -/
def setFlags? (seen : List Char) (on : Bool) (f : Flags) : List Char → Option Flags
  | [] => if seen.head? == some '-' then none else some f
  | c :: rest =>
    if c ∈ seen then none
    else if c = '-' then setFlags? (c :: seen) false f rest
    else (setFlag? on c f).bind fun f => setFlags? (c :: seen) on f rest

/-- Whether a character may stand in the name of a group. -/
def isNameChar (c : Char) : Bool :=
  c ∈ ['_', '.', '[', ']'] || Recent.alphanumeric.contains c

/-- The name of a group, up to its closing bracket; no two groups share one. -/
def groupName : Read Unit := do
  let r ← get
  let name := r.rest.takeWhile (· ≠ '>')
  require (name.length < r.rest.length && !name.isEmpty && name.all isNameChar)
  require (name.head?.any fun c => c == '_' || Recent.alphabetic.contains c)
  require (String.ofList name ∉ r.names)
  set { r with rest := r.rest.drop (name.length + 1), names := String.ofList name :: r.names }

/-- How a group starts. -/
inductive GroupStart where
  /-- With its number, if it is counted. -/
  | group (number : Option Nat)
  /-- Flags for the rest of the group around them. -/
  | flags

/-- The number of a group that is counted now. -/
def groupNumber : Read Nat :=
  modifyGet fun r => (r.groups, { r with groups := r.groups + 1 })

/-- What stands after an opening parenthesis before the contents of the group. -/
def groupStart : Read GroupStart := do
  skipBlanks
  let rest := (← get).rest
  let starts (text : String) : Bool := text.toList.isPrefixOf rest
  require (!(starts "?=" || starts "?!" || starts "?<=" || starts "?<!"))
  if (← takeText "?P<") then
    groupName
    return .group (← groupNumber)
  else if (← takeText "?<") then
    groupName
    return .group (← groupNumber)
  else if (← takeText "?") then
    let r ← get
    let letters := r.rest.takeWhile fun c => c ≠ ':' && c ≠ ')'
    match setFlags? [] true r.flags letters, r.rest.drop letters.length with
    | some f, c :: rest =>
      set { r with rest := rest, flags := f }
      if c = ':' then return .group none
      require (!letters.isEmpty)
      return .flags
    | _, _ => failure
  else return .group (← groupNumber)

/-- A group of what it holds; only a counted one is kept. -/
def grouped (number : Option Nat) (body : Regex) : Regex :=
  match number with
  | some number => .group number body
  | none => body

/-! ### Sequences and alternatives -/

/-- A character, which without the `u` flag must not be a byte beyond ASCII. -/
def literal (c : Char) (byte : Bool) : Read (Part Regex) := do
  let f ← flags
  require (f.unicode || !byte || c.toNat < 128)
  return ⟨ofSet (folded f (CharSet.singleton c)), 0⟩

/-- The set of the point. -/
def dot (f : Flags) : CharSet :=
  if f.dotAll then CharSet.all
  else if f.crlf then (CharSet.ofChars ['\n', '\r']).complement
  else (CharSet.singleton '\n').complement

/-- A part that is neither a group nor a class. -/
def primitive : Read (Part Regex) := do
  let f ← flags
  let c ← take
  match c with
  | '\\' =>
    match ← escape with
    | .char c byte => literal c byte
    | .set s => return ⟨ofSet s, 0⟩
    | .anchor a => return ⟨.anchor a, 0⟩
  | '.' =>
    require f.unicode
    return ⟨ofSet (dot f), 0⟩
  | '^' => return ⟨.anchor (if f.multiLine then .lineStart f.crlf else .textStart), 0⟩
  | '$' => return ⟨.anchor (if f.multiLine then .lineEnd f.crlf else .textEnd), 0⟩
  | c => literal c false

/-- The height of parts that stand beside each other. -/
def heightOf (parts : List (Part Regex)) : Nat :=
  (parts.map (·.height)).foldl max 0 + if parts.length ≤ 1 then 0 else 1

mutual

/-- Alternatives, up to the end of the group. -/
def alternatives : Nat → Read (List (Part Regex))
  | 0 => failure
  | bound + 1 => do
    let parts ← parts bound
    let branch : Part Regex := ⟨sequence (parts.map (·.value)), heightOf parts⟩
    if (← peek?) == some '|' then
      drop 1
      return branch :: (← alternatives bound)
    else return [branch]

/-- Parts in sequence, up to the end of the alternative. -/
def parts : Nat → Read (List (Part Regex))
  | 0 => failure
  | bound + 1 => do
    skipBlanks
    match ← peek? with
    | none | some '|' | some ')' => return []
    | some '*' | some '+' | some '?' | some '\x7b' => failure
    | some '(' =>
      drop 1
      let outer ← flags
      match ← groupStart with
      | .flags =>
        skipBlanks
        let next ← peek?
        require (next ∉ [some '*', some '+', some '?', some '\x7b'])
        return ⟨.empty, 0⟩ :: (← parts bound)
      | .group number =>
        let branches ← alternatives bound
        require ((← take) == ')')
        modify fun r => { r with flags := outer }
        let value := grouped number (choice (branches.map (·.value)))
        let first ← repetitions ⟨value, heightOf branches + 1⟩ bound
        return first :: (← parts bound)
    | some '[' =>
      drop 1
      let s ← bracketed bound
      let first ← repetitions ⟨ofSet s.value, s.height⟩ bound
      return first :: (← parts bound)
    | some _ =>
      let p ← primitive
      let first ← repetitions p bound
      return first :: (← parts bound)

end

/-- How deep a pattern may be nested. -/
def nestingLimit : Nat := 250

/-- A whole pattern. -/
def whole (bound : Nat) : Read Regex := do
  let branches ← alternatives bound
  require (← get).rest.isEmpty
  require (heightOf branches ≤ nestingLimit)
  return choice (branches.map (·.value))

/-- The tree of a pattern. -/
def read? (pattern : String) : Option Regex :=
  (whole (3 * pattern.length + 3)).run' ⟨pattern.toList, {}, [], 0⟩

end Regex

end RuleEngine
