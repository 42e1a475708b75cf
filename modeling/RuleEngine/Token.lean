/-!
# Tokens

The words of a rule, as they are read from left to right.
-/

namespace RuleEngine

/-- Operators and punctuation marks. -/
inductive Symbol where
  | and
  | or
  | bang
  | equal
  | notEqual
  | less
  | greater
  | lessEqual
  | greaterEqual
  | regexMatch
  | regexNotMatch
  | plus
  | minus
  | star
  | slash
  | percent
  | leftParen
  | rightParen
  | comma
  deriving DecidableEq

/-- How an operator or a mark is written. -/
def Symbol.text : Symbol → String
  | and => "&&"
  | or => "||"
  | bang => "!"
  | equal => "=="
  | notEqual => "!="
  | less => "<"
  | greater => ">"
  | lessEqual => "<="
  | greaterEqual => ">="
  | regexMatch => "=~"
  | regexNotMatch => "!~"
  | plus => "+"
  | minus => "-"
  | star => "*"
  | slash => "/"
  | percent => "%"
  | leftParen => "("
  | rightParen => ")"
  | comma => ","

/-- One word of a rule. -/
inductive Token where
  | identifier (name : String)
  /-- A number, as written. -/
  | number (digits : String)
  /-- A string, with its escapes undone. -/
  | string (text : String)
  /-- One of the words `true` and `false`. -/
  | boolean (value : Bool)
  | symbol (symbol : Symbol)
  /-- What stands after the last word. -/
  | endOfInput
  deriving DecidableEq

/-- The description of a token in messages. -/
def Token.description : Token → String
  | identifier name => "identifier '" ++ name ++ "'"
  | number digits => "number " ++ digits
  | string text => "string \"" ++ text ++ "\""
  | boolean true => "'true'"
  | boolean false => "'false'"
  | symbol s => "'" ++ s.text ++ "'"
  | endOfInput => "end of input"

/-- A token and the number of characters before it. -/
structure Spanned where
  token : Token
  offset : Nat
  deriving DecidableEq

end RuleEngine
