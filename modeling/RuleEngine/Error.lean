import RuleEngine.Kind
import RuleEngine.Operator
import RuleEngine.Token

/-!
# Failures

Why a rule cannot be read, compiled or evaluated, or a record not be used. Each
failure says what went wrong; `Error.message` puts it into words.
-/

namespace RuleEngine

/-- Why a text is no rule. -/
inductive SyntaxProblem where
  | lonelyEquals
  | lonelyAmpersand
  | lonelyBar
  | unexpectedCharacter (c : Char)
  | unterminatedString
  | unterminatedName
  | emptyName
  | emptyExpression
  | trailing (found : Token)
  | tooDeep (limit : Nat)
  | unexpected (found : Token)
  | expected (wanted found : Token)
  | integerOutOfRange (digits : String)
  | other (text : String)
  deriving DecidableEq

/-- Why a function does not take its arguments. -/
inductive ArgumentProblem where
  | count (expected actual : Nat)
  | notAString (position : Nat) (actual : Kind)
  | notASequence (position : Nat) (actual : Kind)
  | notARecord (index : Nat) (actual : Kind)
  | other (reason : String)
  deriving DecidableEq

/-- What was done to operands of the wrong kinds, or with a result too large. -/
inductive Operation where
  | binary (op : BinaryOp)
  | unary (op : UnaryOp)
  /-- The use of a rule as a condition, before it runs. -/
  | condition
  /-- The use of the result of a rule as a condition. -/
  | conditionOf (source : String)
  | other (text : String)
  deriving DecidableEq

/-- One step into a record: to a field, or to an item of a list. -/
inductive PathStep where
  | field (name : String)
  | item (index : Nat)
  deriving DecidableEq

/-- A place in a record, from the outside in. The empty path is the record. -/
abbrev Path := List PathStep

/-- What sort of thing a JSON value is. -/
inductive JsonKind where
  | null
  | boolean
  | number
  | string
  | sequence
  | record
  deriving DecidableEq

/-- Why data is no record. -/
inductive ShapeProblem where
  | rootNotARecord (found : JsonKind)
  | itemNotARecord (found : JsonKind)
  | nestedRecord
  | integerTooLarge (n : Nat)
  | keyNotAString
  | other (text : String)
  deriving DecidableEq

/-- Why a text is no pattern. -/
inductive PatternProblem where
  | tooLong (length limit : Nat)
  | malformed
  | tooLarge (limit : Nat)
  | other (text : String)
  deriving DecidableEq

/-- A failure. -/
inductive Error where
  | badSyntax (offset : Nat) (problem : SyntaxProblem)
  | unknownFunction (name : String)
  | invalidArgument (function : String) (problem : ArgumentProblem)
  | typeMismatch (operation : Operation) (left : Kind) (right : Option Kind)
  | unsupportedShape (place : Path) (problem : ShapeProblem)
  | invalidPattern (pattern : String) (problem : PatternProblem)
  | duplicateFunction (name : String)
  | divisionByZero
  | overflow (operation : Operation)
  | recursionLimit (limit : Nat)
  /-- A failure on one element of a sequence. -/
  | inElement (function : String) (index : Nat) (cause : Error)
  deriving DecidableEq

/-- The classes of failures. -/
inductive ErrorKind where
  | badSyntax
  | unknownFunction
  | invalidArgument
  | typeMismatch
  | unsupportedShape
  | invalidPattern
  | duplicateFunction
  | arithmetic
  | recursionLimit
  deriving DecidableEq

namespace Error

/-- The class of a failure; on an element, that of its cause. -/
def kind : Error → ErrorKind
  | badSyntax .. => .badSyntax
  | unknownFunction .. => .unknownFunction
  | invalidArgument .. => .invalidArgument
  | typeMismatch .. => .typeMismatch
  | unsupportedShape .. => .unsupportedShape
  | invalidPattern .. => .invalidPattern
  | duplicateFunction .. => .duplicateFunction
  | divisionByZero => .arithmetic
  | overflow .. => .arithmetic
  | recursionLimit .. => .recursionLimit
  | inElement _ _ cause => cause.kind

/-- The failure inside all elements. -/
def rootCause : Error → Error
  | inElement _ _ cause => cause.rootCause
  | e => e

end Error

/-! ### Wording -/

/-- What is wrong with a text, in words. -/
def SyntaxProblem.message : SyntaxProblem → String
  | lonelyEquals => "expected '==' or '=~' after '='"
  | lonelyAmpersand => "expected '&&'"
  | lonelyBar => "expected '||'"
  | unexpectedCharacter c => "unexpected character '" ++ c.toString ++ "'"
  | unterminatedString => "unterminated string literal"
  | unterminatedName => "unterminated bracketed identifier"
  | emptyName => "empty bracketed identifier"
  | emptyExpression => "empty expression"
  | trailing found => "unexpected " ++ found.description ++ " after end of expression"
  | tooDeep limit => "expression nested deeper than " ++ toString limit ++ " levels"
  | unexpected found => "unexpected " ++ found.description
  | expected wanted found => "expected " ++ wanted.description ++ ", found " ++ found.description
  | integerOutOfRange digits => "integer literal out of range: " ++ digits
  | other text => text

/-- What is wrong with arguments, in words. -/
def ArgumentProblem.message : ArgumentProblem → String
  | count expected actual =>
    "expected " ++ toString expected ++ " arguments, but got " ++ toString actual
  | notAString position actual =>
    "argument " ++ toString position ++ " must be a string, got " ++ actual.name
  | notASequence position actual =>
    "argument " ++ toString position ++ " must be a sequence, got " ++ actual.name
  | notARecord index actual =>
    "element " ++ toString index ++ " must be a record, got " ++ actual.name
  | other reason => reason

/-- An operation as messages name it. -/
def Operation.text : Operation → String
  | binary op => op.text
  | unary op => op.text
  | condition => "condition"
  | conditionOf source => "condition '" ++ source ++ "'"
  | other text => text

/-- The steps after the first: a field stands after a point, an item in brackets. -/
def Path.tail : Path → String
  | [] => ""
  | .field name :: rest => "." ++ name ++ tail rest
  | .item index :: rest => "[" ++ toString index ++ "]" ++ tail rest

/-- A place as messages name it; the record itself has a name of its own. -/
def Path.text : Path → String
  | [] => "<record>"
  | .field name :: rest => name ++ tail rest
  | path => tail path

/-- The word for a sort of JSON value in messages. -/
def JsonKind.name : JsonKind → String
  | null => "null"
  | boolean => "boolean"
  | number => "number"
  | string => "string"
  | sequence => "sequence"
  | record => "record"

/-- What is wrong with data, in words. -/
def ShapeProblem.message : ShapeProblem → String
  | rootNotARecord found => "expected a record with named fields, found " ++ found.name
  | itemNotARecord found => "sequence elements must be records, found " ++ found.name
  | nestedRecord => "nested records are only supported as sequence elements"
  | integerTooLarge n => "integer " ++ toString n ++ " exceeds the signed 64-bit range"
  | keyNotAString => "key must be a string"
  | other text => text

/-- What is wrong with a pattern, in words. -/
def PatternProblem.message : PatternProblem → String
  | tooLong length limit =>
    "pattern is " ++ toString length ++ " bytes long, the limit is " ++ toString limit
  | malformed => "not a regular expression"
  | tooLarge limit => "compiled pattern exceeds " ++ toString limit ++ " bytes"
  | other text => text

namespace Error

/-- What is said of the operands of an operation. -/
def operands (left : Kind) : Option Kind → String
  | some right => "left=" ++ left.name ++ ", right=" ++ right.name
  | none => "operand=" ++ left.name

/-- A failure in words. -/
def message : Error → String
  | badSyntax offset problem =>
    "Syntax error at offset " ++ toString offset ++ ": " ++ problem.message
  | unknownFunction name => "Unknown function: " ++ name
  | invalidArgument function problem => function ++ ": " ++ problem.message
  | typeMismatch operation left right =>
    "Type mismatch in " ++ operation.text ++ ": " ++ operands left right
  | unsupportedShape place problem =>
    "Unsupported record shape at field '" ++ place.text ++ "': " ++ problem.message
  | invalidPattern pattern problem => "Invalid pattern '" ++ pattern ++ "': " ++ problem.message
  | duplicateFunction name => "Function already registered: " ++ name
  | divisionByZero => "Division by zero"
  | overflow operation => "Integer overflow in operator " ++ operation.text
  | recursionLimit limit => "Nesting depth limit of " ++ toString limit ++ " exceeded"
  | inElement function index cause =>
    function ++ ": element " ++ toString index ++ ": " ++ cause.message

end Error

end RuleEngine
