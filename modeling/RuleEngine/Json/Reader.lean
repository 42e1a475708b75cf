import RuleEngine.Json
import RuleEngine.Numeric.Decimal
import RuleEngine.Text.CharSet

/-!
# Reading JSON

`Json.Ordered.read?` gives the value of a text, or none where the text is not JSON.
Values nest to a limited depth. Of members under one key the last counts.

The value of a float is computed from its first digits, as many as 64 bits
hold, and a power of ten; so it need not be the float nearest to what is
written.
-/

namespace RuleEngine

namespace Json

/-! ### Numbers -/

/-- The largest exponent whose power of ten is multiplied in one step. -/
def largestPower : Nat := 308

/-- A power of ten as a float. -/
def powerOfTen (n : Nat) : Float :=
  Float.ofScientific 1 false n

/-- A float divided by a power of ten, in steps of the largest power. -/
def scaledDown (x : Float) (power : Nat) : Float :=
  if power ≤ largestPower then x / powerOfTen power
  else if x == 0 then x
  else scaledDown (x / powerOfTen largestPower) (power - largestPower)
termination_by power
decreasing_by simp [largestPower] at *; omega

/-- The float `significand * 10 ^ exponent`, which must not be infinite. -/
def floatOf? (significand : Nat) (exponent : Int) : Option Float :=
  let x := (UInt64.ofNat significand).toFloat
  if exponent < 0 then some (scaledDown x exponent.natAbs)
  else if exponent ≤ largestPower then
    let y := x * powerOfTen exponent.natAbs
    if y.isInf then none else some y
  else if x == 0 then some x
  else none

/-- The digits of a number that 64 bits hold, and how many more there are. The
    digits are those after a number that they continue. -/
def significant (n : Nat) : List Char → Nat × Nat
  | [] => (n, 0)
  | c :: rest =>
    let next := 10 * n + (Decimal.digit? c).getD 0
    if next < UInt64.size then significant next rest else (n, rest.length + 1)

/-- A number as written: its digits before and after the point, if there is one,
    and its exponent, if there is one. -/
structure Numeral where
  negative : Bool
  whole : List Char
  fraction : Option (List Char)
  exponent : Option Int

/-- The digits of an exponent with its sign. -/
def exponentAt? (cs : List Char) : Option (Int × List Char) :=
  let (negative, cs) :=
    match cs with
    | '-' :: rest => (true, rest)
    | '+' :: rest => (false, rest)
    | _ => (false, cs)
  let digits := cs.takeWhile Decimal.isDigit
  if digits.isEmpty then none
  else
    let n : Int := Decimal.ofDigits digits
    some (if negative then -n else n, cs.drop digits.length)

/-- The number at the start of some characters, and what follows it. -/
def numeralAt? (cs : List Char) : Option (Numeral × List Char) := do
  let (negative, cs) :=
    match cs with
    | '-' :: rest => (true, rest)
    | _ => (false, cs)
  let whole := cs.takeWhile Decimal.isDigit
  if whole.isEmpty || (whole.length > 1 && whole.head? == some '0') then none
  let cs := cs.drop whole.length
  let (fraction, cs) :=
    match cs with
    | '.' :: rest =>
      (some (rest.takeWhile Decimal.isDigit), rest.dropWhile Decimal.isDigit)
    | _ => (none, cs)
  if fraction.any List.isEmpty then none
  match cs with
  | 'e' :: rest | 'E' :: rest =>
    let (exponent, rest) ← exponentAt? rest
    return (⟨negative, whole, fraction, some exponent⟩, rest)
  | _ => return (⟨negative, whole, fraction, none⟩, cs)

/-- Exponents beyond this size say only that a number is zero or too large. -/
def largestExponent : Nat := 2147483647

/-- The magnitude of a number with a point or an exponent, or with too many
    digits for an integer. -/
def magnitude? (n : Numeral) : Option Float :=
  let (leading, dropped) := significant 0 n.whole
  let fraction := n.fraction.getD []
  let (digits, unused) := significant leading fraction
  let point : Int := dropped - (fraction.length - unused : Nat)
  match n.exponent with
  | none => floatOf? digits point
  | some e =>
    if e.natAbs ≤ largestExponent then
      floatOf? digits (max (-largestExponent) (min largestExponent (point + e)))
    else if digits ≠ 0 ∧ 0 < e then none
    else some 0

/-- The value of a number. Without point and exponent it is an integer if 64 bits
    hold it; a negative zero is a float. -/
def numberOf? (n : Numeral) : Option JsonNumber :=
  let value := Decimal.ofDigits n.whole
  let signed (x : Float) : JsonNumber := .float (if n.negative then -x else x)
  match n.fraction, n.exponent with
  | none, none =>
    if n.negative ∧ value = 0 then some (.float (-0.0))
    else
      match ofInt? (if n.negative then -value else value) with
      | some m => some m
      | none =>
        if value < UInt64.size then some (signed (UInt64.ofNat value).toFloat)
        else (magnitude? n).map signed
  | _, _ => (magnitude? n).map signed

/-! ### Strings -/

/-- The number of four hexadecimal digits, and what follows them. -/
def unitAt? : List Char → Option (Nat × List Char)
  | a :: b :: c :: d :: rest => do
    let a ← CharSet.hexDigit? a
    let b ← CharSet.hexDigit? b
    let c ← CharSet.hexDigit? c
    let d ← CharSet.hexDigit? d
    return (((a * 16 + b) * 16 + c) * 16 + d, rest)
  | _ => none

/-- The character after `\u`: four digits, or eight in two groups for a pair of
    surrogates, which never stand alone. The length is that of all after `\u`. -/
def unicodeAt? (cs : List Char) : Option (Char × Nat) := do
  let (high, rest) ← unitAt? cs
  if high < 0xD800 || 0xDFFF < high then return (Char.ofNat high, 4)
  if 0xDBFF < high then none
  match rest with
  | '\\' :: 'u' :: rest =>
    let (low, _) ← unitAt? rest
    if low < 0xDC00 || 0xDFFF < low then none
    return (Char.ofNat (0x10000 + (high - 0xD800) * 0x400 + (low - 0xDC00)), 10)
  | _ => none

/-- What the character after a backslash stands for. -/
def escaped? : Char → Option Char
  | '"' => some '"'
  | '\\' => some '\\'
  | '/' => some '/'
  | 'b' => some '\x08'
  | 'f' => some '\x0c'
  | 'n' => some '\n'
  | 'r' => some '\r'
  | 't' => some '\t'
  | _ => none

/-- The characters of a string up to its closing quote, in reverse, and what
    follows it. The first `skip` characters belong to an escape already read. -/
def stringFrom? (skip : Nat) (read : List Char) : List Char → Option (List Char × List Char)
  | [] => none
  | c :: rest =>
    match skip with
    | skip + 1 => stringFrom? skip read rest
    | 0 =>
      if c = '"' then some (read, rest)
      else if c = '\\' then
        match rest with
        | 'u' :: tail =>
          match unicodeAt? tail with
          | some (d, length) => stringFrom? (length + 1) (d :: read) rest
          | none => none
        | d :: _ =>
          match escaped? d with
          | some d => stringFrom? 1 (d :: read) rest
          | none => none
        | [] => none
      else if c.toNat < 0x20 then none
      else stringFrom? 0 (c :: read) rest

/-- A string after its opening quote. -/
def string? (cs : List Char) : Option (String × List Char) :=
  (stringFrom? 0 [] cs).map fun (read, rest) => (String.ofList read.reverse, rest)

/-! ### Values -/

/-- White space between the parts of JSON. -/
def isSpace (c : Char) : Bool :=
  c == ' ' || c == '\n' || c == '\t' || c == '\r'

/-- What follows white space. -/
def skipSpaces (cs : List Char) : List Char :=
  cs.dropWhile isSpace

/-- What follows a word that has to be there. -/
def word? (word : String) (value : Ordered) (cs : List Char) : Option (Ordered × List Char) :=
  if word.toList.isPrefixOf cs then some (value, cs.drop word.length) else none

mutual

/-- The value at the start of some characters, and what follows it. `depth` more
    levels may be opened; `bound` limits the recursion. -/
def valueAt? (depth : Nat) (cs : List Char) : Nat → Option (Ordered × List Char)
  | 0 => none
  | bound + 1 =>
    match skipSpaces cs with
    | 'n' :: _ => word? "null" .null (skipSpaces cs)
    | 't' :: _ => word? "true" (.boolean true) (skipSpaces cs)
    | 'f' :: _ => word? "false" (.boolean false) (skipSpaces cs)
    | '"' :: rest => (string? rest).map fun (s, rest) => (.string s, rest)
    | '[' :: rest =>
      if depth ≤ 1 then none
      else
        match skipSpaces rest with
        | ']' :: rest => some (.array [], rest)
        | rest =>
          match itemsAt? (depth - 1) [] rest bound with
          | some (items, rest) => some (.array items.reverse, rest)
          | none => none
    | '\x7b' :: rest =>
      if depth ≤ 1 then none
      else
        match skipSpaces rest with
        | '\x7d' :: rest => some (.object .empty, rest)
        | rest =>
          match membersAt? (depth - 1) .empty rest bound with
          | some (members, rest) => some (.object members, rest)
          | none => none
    | cs =>
      match numeralAt? cs with
      | some (n, rest) => (numberOf? n).map fun n => (.number n, rest)
      | none => none

/-- The items of an array up to its bracket, in reverse after those read. -/
def itemsAt? (depth : Nat) (read : List Ordered) (cs : List Char) :
    Nat → Option (List Ordered × List Char)
  | 0 => none
  | bound + 1 =>
    match valueAt? depth cs bound with
    | none => none
    | some (value, rest) =>
      match skipSpaces rest with
      | ',' :: rest => itemsAt? depth (value :: read) rest bound
      | ']' :: rest => some (value :: read, rest)
      | _ => none

/-- The members of an object up to its brace, with those read. -/
def membersAt? (depth : Nat) (read : Table Ordered) (cs : List Char) :
    Nat → Option (Table Ordered × List Char)
  | 0 => none
  | bound + 1 =>
    match skipSpaces cs with
    | '"' :: rest =>
      match string? rest with
      | none => none
      | some (key, rest) =>
        match skipSpaces rest with
        | ':' :: rest =>
          match valueAt? depth rest bound with
          | none => none
          | some (value, rest) =>
            let read := read.insert key value
            match skipSpaces rest with
            | ',' :: rest => membersAt? depth read rest bound
            | '\x7d' :: rest => some (read, rest)
            | _ => none
        | _ => none
    | _ => none

end

/-- How many arrays and objects may not be inside each other. -/
def nestingLimit : Nat := 128

/-- The value of a text. Every step reads a character or goes one level down
    after a character, so twice the characters bound the recursion. -/
def Ordered.read? (text : String) : Option Ordered :=
  match valueAt? nestingLimit text.toList (2 * text.length + 2) with
  | some (value, rest) => if (skipSpaces rest).isEmpty then some value else none
  | none => none

/-- The same without its order. -/
def read? (text : String) : Option Json :=
  (Ordered.read? text).map Subtype.val

end Json

end RuleEngine
