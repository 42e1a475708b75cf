import RuleEngine.Config
import RuleEngine.Numeric.Decimal
import RuleEngine.Numeric.Word
import RuleEngine.Text.CharSet

/-!
# Settings as TOML

A configuration is read from a TOML document with a key for each setting that
differs from the default, and nothing else. `Config.ofToml?` gives none for
any other text; `Config.toToml` writes all settings.
-/

namespace RuleEngine

namespace Toml

/-! ### Values -/

/-- A value that a setting may have. -/
inductive Scalar where
  | boolean (b : Bool)
  | integer (n : Int)

/-- Digits of a base, with single underscores between them. -/
def digits? (isDigit : Char → Bool) : List Char → Option (List Char)
  | [] => none
  | [c] => if isDigit c then some [c] else none
  | c :: '_' :: rest => if isDigit c then (digits? isDigit rest).map (c :: ·) else none
  | c :: rest => if isDigit c then (digits? isDigit rest).map (c :: ·) else none

/-- The number that digits of a base write. -/
def ofDigits (base : Nat) (cs : List Char) : Nat :=
  cs.foldl (fun n c => base * n + (CharSet.hexDigit? c).getD 0) 0

/-- A number in decimal notation, without zeros before it. -/
def decimal? (cs : List Char) : Option Nat :=
  match digits? Decimal.isDigit cs with
  | some ['0'] => some 0
  | some ('0' :: _) => none
  | some ds => some (ofDigits 10 ds)
  | none => none

/-- A number without sign. -/
def magnitude? (cs : List Char) : Option Nat :=
  match cs with
  | '0' :: 'x' :: rest => (digits? (CharSet.hexDigit? · |>.isSome) rest).map (ofDigits 16)
  | '0' :: 'o' :: rest => (digits? (fun c => '0' ≤ c && c ≤ '7') rest).map (ofDigits 8)
  | '0' :: 'b' :: rest => (digits? (fun c => c == '0' || c == '1') rest).map (ofDigits 2)
  | _ => decimal? cs

/-- A 64-bit integer. -/
def integer? (cs : List Char) : Option Int :=
  let n? : Option Int :=
    match cs with
    | '+' :: rest => (decimal? rest).map fun n => n
    | '-' :: rest => (decimal? rest).map fun n => -n
    | _ => (magnitude? cs).map fun n => n
  n?.filter fun n => (int64? n).isSome

/-- The value that a word writes. -/
def scalar? (cs : List Char) : Option Scalar :=
  if cs = "true".toList then some (.boolean true)
  else if cs = "false".toList then some (.boolean false)
  else (integer? cs).map .integer

/-! ### Keys -/

/-- Whether a character may stand in a key without quotes. -/
def isBareKeyChar (c : Char) : Bool :=
  c.isAlphanum || c == '_' || c == '-'

/-- The character of so many hexadecimal digits. -/
def numberedChar? (count : Nat) (cs : List Char) : Option Char := do
  let ds := cs.take count
  if ds.length < count then none
  let n := (← ds.mapM CharSet.hexDigit?).foldl (fun n d => 16 * n + d) 0
  if n.isValidChar then some (Char.ofNat n) else none

/-- The characters of a key in double quotes, in reverse, and what follows it.
    The first `skip` characters belong to an escape already read. -/
def quotedFrom? (skip : Nat) (read : List Char) : List Char → Option (List Char × List Char)
  | [] => none
  | c :: rest =>
    match skip with
    | skip + 1 => quotedFrom? skip read rest
    | 0 =>
      if c = '"' then some (read, rest)
      else if c = '\\' then
        match rest with
        | 'u' :: tail => (numberedChar? 4 tail).bind fun d => quotedFrom? 5 (d :: read) rest
        | 'U' :: tail => (numberedChar? 8 tail).bind fun d => quotedFrom? 9 (d :: read) rest
        | 'b' :: _ => quotedFrom? 1 ('\x08' :: read) rest
        | 't' :: _ => quotedFrom? 1 ('\t' :: read) rest
        | 'n' :: _ => quotedFrom? 1 ('\n' :: read) rest
        | 'f' :: _ => quotedFrom? 1 ('\x0c' :: read) rest
        | 'r' :: _ => quotedFrom? 1 ('\r' :: read) rest
        | '"' :: _ => quotedFrom? 1 ('"' :: read) rest
        | '\\' :: _ => quotedFrom? 1 ('\\' :: read) rest
        | _ => none
      else quotedFrom? 0 (c :: read) rest

/-- The key at the start of a line, and what follows it. -/
def key? (cs : List Char) : Option (String × List Char) :=
  match cs with
  | '"' :: rest =>
    (quotedFrom? 0 [] rest).map fun (read, rest) => (String.ofList read.reverse, rest)
  | '\'' :: rest =>
    let name := rest.takeWhile (· ≠ '\'')
    if name.length < rest.length then some (String.ofList name, rest.drop (name.length + 1))
    else none
  | _ =>
    let name := cs.takeWhile isBareKeyChar
    if name.isEmpty then none else some (String.ofList name, cs.drop name.length)

/-! ### Lines -/

/-- Blanks within a line. -/
def isBlank (c : Char) : Bool :=
  c == ' ' || c == '\t'

/-- Whether nothing stands in the rest of a line, or only a comment without
    control characters. -/
def endsLine (cs : List Char) : Bool :=
  match cs.dropWhile isBlank with
  | [] => true
  | '#' :: rest => rest.all fun c => c == '\t' || (0x20 ≤ c.toNat && c.toNat ≠ 0x7F)
  | _ => false

/-- The key and the value of a line; neither if the line is empty. -/
def line? (cs : List Char) : Option (Option (String × Scalar)) := do
  if endsLine cs then return none
  let (key, rest) ← key? (cs.dropWhile isBlank)
  match rest.dropWhile isBlank with
  | '=' :: rest =>
    let rest := rest.dropWhile isBlank
    let word := rest.takeWhile fun c => !isBlank c && c ≠ '#'
    let value ← scalar? word
    if endsLine (rest.drop word.length) then return (key, value) else none
  | _ => none

/-- The lines of a text without their ends, the last one of which has none. -/
def lines (cs : List Char) : List (List Char) :=
  match cs with
  | [] => [[]]
  | '\n' :: rest => [] :: lines rest
  | '\r' :: '\n' :: rest => [] :: lines rest
  | c :: rest =>
    match lines rest with
    | [] => [[c]]
    | line :: others => (c :: line) :: others

/-- The entries of a document in order. -/
def document? (text : String) : Option (List (String × Scalar)) := do
  let cs :=
    match text.toList with
    | '\uFEFF' :: rest => rest
    | cs => cs
  let entries ← (lines cs).mapM line?
  return entries.filterMap id

end Toml

namespace Config

/-- A configuration with one setting changed. -/
def set? (config : Config) (key : String) (value : Toml.Scalar) : Option Config :=
  match key, value with
  | "strict_functions", .boolean b => some { config with strictFunctions := b }
  | "max_depth", .integer (.ofNat n) => some { config with maxDepth := n }
  | "max_pattern_length", .integer (.ofNat n) => some { config with maxPatternLength := n }
  | "regex_size_limit", .integer (.ofNat n) => some { config with regexSizeLimit := n }
  | "cache_capacity", .integer (.ofNat n) => some { config with cacheCapacity := n }
  | _, _ => none

/-- The configuration that a document writes, no key of which occurs twice. -/
def ofToml? (text : String) : Option Config := do
  let entries ← Toml.document? text
  if (entries.map (·.1)).Nodup then
    entries.foldlM (fun config entry => config.set? entry.1 entry.2) {}
  else none

/-- All settings as a document. -/
def toToml (config : Config) : String :=
  String.join [
    "strict_functions = ", if config.strictFunctions then "true" else "false", "\n",
    "max_depth = ", toString config.maxDepth, "\n",
    "max_pattern_length = ", toString config.maxPatternLength, "\n",
    "regex_size_limit = ", toString config.regexSizeLimit, "\n",
    "cache_capacity = ", toString config.cacheCapacity, "\n"]

end Config

end RuleEngine
