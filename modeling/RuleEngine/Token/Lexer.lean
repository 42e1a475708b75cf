import RuleEngine.Error
import RuleEngine.Numeric.Decimal
import RuleEngine.Text.CharClass

/-!
# Reading tokens

A rule is read from left to right; the longest token that starts at a character
is taken, and white space between tokens is passed over. `Token.lexeme` reads
one token, `Token.scan` all of them, each with the number of characters before
it, up to and including the end of the input.
-/

namespace RuleEngine

/-- The operators of two characters. -/
def Symbol.pair? (c d : Char) : Option Symbol :=
  match c, d with
  | '=', '=' => some equal
  | '=', '~' => some regexMatch
  | '!', '=' => some notEqual
  | '!', '~' => some regexNotMatch
  | '<', '=' => some lessEqual
  | '>', '=' => some greaterEqual
  | '&', '&' => some and
  | '|', '|' => some or
  | _, _ => none

/-- The operators and marks of one character. -/
def Symbol.single? (c : Char) : Option Symbol :=
  match c with
  | '+' => some plus
  | '-' => some minus
  | '*' => some star
  | '/' => some slash
  | '%' => some percent
  | '(' => some leftParen
  | ')' => some rightParen
  | ',' => some comma
  | '!' => some bang
  | '<' => some less
  | '>' => some greater
  | _ => none

namespace Token

/-! ### Names and numbers -/

/-- Whether a bare name may start with a character. -/
def isNameStart (c : Char) : Bool :=
  ('a' ≤ c && c ≤ 'z') || ('A' ≤ c && c ≤ 'Z') || c == '_'

/-- Whether a character may stand in a bare name. -/
def isNameChar (c : Char) : Bool :=
  isNameStart c || Decimal.isDigit c

/-- The token of a bare word: a truth value or a name. -/
def ofWord (word : String) : Token :=
  if word = "true" then boolean true
  else if word = "false" then boolean false
  else identifier word

/-- The fraction after the whole digits of a number: a point and the digits
    after it, or nothing where no digit follows the point. -/
def fraction : List Char → List Char
  | '.' :: rest =>
    let digits := rest.takeWhile Decimal.isDigit
    if digits.isEmpty then [] else '.' :: digits
  | _ => []

/-- The characters of a number from its start. -/
def numeral (cs : List Char) : List Char :=
  cs.takeWhile Decimal.isDigit ++ fraction (cs.dropWhile Decimal.isDigit)

/-! ### Strings -/

/-- What a backslash and the character after it stand for. An escape that is not
    known stands for itself, so the escapes of patterns survive. -/
def unescape (c : Char) : List Char :=
  match c with
  | 'n' => ['\n']
  | 't' => ['\t']
  | 'r' => ['\r']
  | '"' => ['"']
  | '\'' => ['\'']
  | '\\' => ['\\']
  | _ => ['\\', c]

/-- The text up to the closing quote, and how many characters it takes with the
    quote. There is none if the quote is missing. -/
def stringBody (quote : Char) : List Char → Option (List Char × Nat)
  | [] => none
  | c :: rest =>
    if c = quote then some ([], 1)
    else if c = '\\' then
      match rest with
      | [] => none
      | d :: rest => (stringBody quote rest).map fun (text, n) => (unescape d ++ text, n + 2)
    else (stringBody quote rest).map fun (text, n) => (c :: text, n + 1)

/-! ### Tokens -/

/-- The token that starts with `c`, and how many of the characters after `c`
    belong to it. -/
def lexeme (c : Char) (rest : List Char) : Except SyntaxProblem (Token × Nat) :=
  match rest.head?.bind (Symbol.pair? c) with
  | some s => .ok (symbol s, 1)
  | none =>
    match Symbol.single? c with
    | some s => .ok (symbol s, 0)
    | none =>
      if c = '=' then .error .lonelyEquals
      else if c = '&' then .error .lonelyAmpersand
      else if c = '|' then .error .lonelyBar
      else if c = '"' ∨ c = '\'' then
        match stringBody c rest with
        | some (text, n) => .ok (string (String.ofList text), n)
        | none => .error .unterminatedString
      else if c = '[' then
        let name := rest.takeWhile (· ≠ ']')
        if name.length = rest.length then .error .unterminatedName
        else if name.isEmpty then .error .emptyName
        else .ok (identifier (String.ofList name), name.length + 1)
      else if isNameStart c then
        let word := rest.takeWhile isNameChar
        .ok (ofWord (String.ofList (c :: word)), word.length)
      else if Decimal.isDigit c then
        let digits := numeral (c :: rest)
        .ok (number (String.ofList digits), digits.length - 1)
      else .error (.unexpectedCharacter c)

/-- The tokens of the characters from `offset` on, the first `skip` of which
    belong to a token read before. -/
def scanFrom (offset skip : Nat) : List Char → Except Error (List Spanned)
  | [] => .ok [⟨endOfInput, offset⟩]
  | c :: rest =>
    match skip with
    | skip + 1 => scanFrom (offset + 1) skip rest
    | 0 =>
      if CharClass.isBlank c then scanFrom (offset + 1) 0 rest
      else
        match lexeme c rest with
        | .error problem => .error (.badSyntax offset problem)
        | .ok (token, extra) =>
          match scanFrom (offset + 1) extra rest with
          | .error e => .error e
          | .ok tokens => .ok (⟨token, offset⟩ :: tokens)

/-- The tokens of a rule. -/
def scan (source : String) : Except Error (List Spanned) :=
  scanFrom 0 0 source.toList

end Token

end RuleEngine
