import RuleEngine.Error
import RuleEngine.Expr
import RuleEngine.Numeric.Decimal
import RuleEngine.Numeric.Word
import RuleEngine.Token.Lexer

/-!
# Reading expressions

A rule is read by recursive descent over its tokens, from the operators that
bind least to those that bind most: `||`, `&&`, one comparison or match, `+` and
`-`, then `*`, `/` and `%`, then `!` and unary minus, then literals, names,
calls and parentheses.

The depth of the tree is limited. Entering parentheses, the operand of a unary
operator or the right operand of a chain goes one level deeper, and what goes
deeper than the limit is refused. So the recursion is by the number of levels
left, and a parser that has none left is refused at the next entry.
-/

namespace RuleEngine

/-- Where a parser is: the tokens it has before it, and the levels it is deep. -/
structure Cursor where
  rest : List Spanned
  depth : Nat

/-- A parser. What it did to the cursor remains when it fails. -/
abbrev Parse := ExceptT Error (StateM Cursor)

namespace Parse

/-! ### Tokens and levels -/

/-- The token at hand. -/
def current : Parse Spanned :=
  return (← get).rest.headD ⟨.endOfInput, 0⟩

/-- Goes to the next token; the last one is never left. -/
def advance : Parse Unit :=
  modify fun c =>
    match c.rest with
    | _ :: next :: rest => { c with rest := next :: rest }
    | _ => c

/-- Fails at the token at hand. -/
def fail {α : Type} (problem : SyntaxProblem) : Parse α := do
  throw (.badSyntax (← current).offset problem)

/-- Goes one level deeper, within the limit. -/
def enter (limit : Nat) : Parse Unit := do
  modify fun c => { c with depth := c.depth + 1 }
  if limit < (← get).depth then fail (.tooDeep limit)

/-- Leaves one level after a parser, whether it fails or not. -/
def released {α : Type} (p : Parse α) : Parse α :=
  ExceptT.mk do
    let result ← p.run
    modify fun c => { c with depth := c.depth - 1 }
    return result

/-- Passes over a symbol that has to be there. -/
def expect (s : Symbol) : Parse Unit := do
  let found ← current
  if found.token = .symbol s then advance else fail (.expected (.symbol s) found.token)

/-! ### Operators -/

/-- The operator of a chain of alternatives. -/
def orOp? : Symbol → Option BinaryOp
  | .or => some (.logical .or)
  | _ => none

/-- The operator of a chain of conditions. -/
def andOp? : Symbol → Option BinaryOp
  | .and => some (.logical .and)
  | _ => none

/-- A comparison or a match. -/
def comparisonOp? : Symbol → Option BinaryOp
  | .equal => some (.comparison .eq)
  | .notEqual => some (.comparison .ne)
  | .less => some (.comparison .lt)
  | .greater => some (.comparison .gt)
  | .lessEqual => some (.comparison .le)
  | .greaterEqual => some (.comparison .ge)
  | .regexMatch => some (.matching .found)
  | .regexNotMatch => some (.matching .absent)
  | _ => none

/-- The operators of sums. -/
def additiveOp? : Symbol → Option BinaryOp
  | .plus => some (.arithmetic .add)
  | .minus => some (.arithmetic .sub)
  | _ => none

/-- The operators of products. -/
def multiplicativeOp? : Symbol → Option BinaryOp
  | .star => some (.arithmetic .mul)
  | .slash => some (.arithmetic .div)
  | .percent => some (.arithmetic .mod)
  | _ => none

/-- The operators before an operand. -/
def unaryOp? : Symbol → Option UnaryOp
  | .bang => some .not
  | .minus => some .minus
  | _ => none

/-- The operator at hand, if the token is one of those sought. -/
def operator? {Op : Type} (op? : Symbol → Option Op) : Parse (Option Op) := do
  match (← current).token with
  | .symbol s => return op? s
  | _ => return none

/-! ### Literals, names and calls -/

/-- The value of a number as written: with a point a float, else an integer. -/
def numberValue? (digits : String) : Option Value :=
  if digits.toList.contains '.' then
    (Decimal.read? digits.toList).map fun d => .float d.1.toFloat
  else (int64? (Decimal.ofDigits digits.toList)).map .integer

/-- Expressions with commas between them, at most `bound` of them. -/
def arguments (inner : Parse Expr) : Nat → Parse (List Expr)
  | 0 => do fail (.unexpected (← current).token)
  | bound + 1 => do
    let first ← inner
    if (← current).token = .symbol .comma then
      advance
      let rest ← arguments inner bound
      return first :: rest
    else
      return [first]

/-- What follows the name of a function: its arguments in parentheses. -/
def callTail (inner : Parse Expr) (function : String) : Parse Expr := do
  advance
  if (← current).token = .symbol .rightParen then
    advance
    return .call function []
  else
    let args ← arguments inner (← get).rest.length
    expect .rightParen
    return .call function args

/-- A literal, a name, a call, or an expression in parentheses. -/
def primary (inner : Parse Expr) : Parse Expr := do
  match (← current).token with
  | .number digits =>
    match numberValue? digits with
    | some value =>
      advance
      return .literal value
    | none => fail (.integerOutOfRange digits)
  | .string text =>
    advance
    return .literal (.string text)
  | .boolean b =>
    advance
    return .literal (.boolean b)
  | .identifier name =>
    advance
    if (← current).token = .symbol .leftParen then callTail inner name
    else return .field name
  | .symbol .leftParen =>
    advance
    let e ← inner
    expect .rightParen
    return e
  | found => fail (.unexpected found)

/-! ### Chains of operators -/

/-- Unary operators before a primary expression. -/
def unary (limit : Nat) (inner : Parse Expr) : Nat → Parse Expr
  | 0 => do
    match ← operator? unaryOp? with
    | none => primary inner
    | some _ =>
      advance
      enter limit
      fail (.tooDeep limit)
  | room + 1 => do
    match ← operator? unaryOp? with
    | none => primary inner
    | some op =>
      advance
      enter limit
      let operand ← released (unary limit inner room)
      return .unary op operand

/-- What follows the first operand of a chain: each operator takes all that
    stands before it as its left operand. -/
def chainTail (limit : Nat) (op? : Symbol → Option BinaryOp) (operand : Parse Expr) :
    Nat → Expr → Parse Expr
  | 0, left => do
    match ← operator? op? with
    | none => return left
    | some _ =>
      advance
      enter limit
      fail (.tooDeep limit)
  | room + 1, left => do
    match ← operator? op? with
    | none => return left
    | some op =>
      advance
      enter limit
      let right ← operand
      chainTail limit op? operand room (.binary op left right)

/-- Operands with operators between them. At the end of the chain its levels
    are left. -/
def chain (limit room : Nat) (op? : Symbol → Option BinaryOp) (operand : Parse Expr) :
    Parse Expr := do
  let base := (← get).depth
  let first ← operand
  let e ← chainTail limit op? operand room first
  modify fun c => { c with depth := base }
  return e

/-- A product. -/
def multiplicative (limit room : Nat) (inner : Parse Expr) : Parse Expr :=
  chain limit room multiplicativeOp? (unary limit inner room)

/-- A sum. -/
def additive (limit room : Nat) (inner : Parse Expr) : Parse Expr :=
  chain limit room additiveOp? (multiplicative limit room inner)

/-- At most one comparison or match. -/
def comparison (limit room : Nat) (inner : Parse Expr) : Parse Expr := do
  let left ← additive limit room inner
  match ← operator? comparisonOp? with
  | none => return left
  | some op =>
    advance
    let right ← additive limit room inner
    return .binary op left right

/-- Conditions joined by `&&`. -/
def conjunction (limit room : Nat) (inner : Parse Expr) : Parse Expr :=
  chain limit room andOp? (comparison limit room inner)

/-- Conditions joined by `||`, the loosest of the chains. -/
def disjunction (limit room : Nat) (inner : Parse Expr) : Parse Expr :=
  chain limit room orOp? (conjunction limit room inner)

/-- An expression at most so many levels deep. -/
def expression (limit : Nat) : Nat → Parse Expr
  | 0 => do
    enter limit
    fail (.tooDeep limit)
  | room + 1 => do
    enter limit
    released (disjunction limit room (expression limit room))

/-- A whole rule: an expression with nothing after it. -/
def rule (limit : Nat) : Parse Expr := do
  if (← current).token = .endOfInput then fail .emptyExpression
  let e ← expression limit limit
  let next ← current
  if next.token = .endOfInput then return e else fail (.trailing next.token)

end Parse

/-- The tree of a rule, at most `limit` levels deep. -/
def Expr.parse (source : String) (limit : Nat) : Except Error Expr :=
  match Token.scan source with
  | .ok tokens => ((Parse.rule limit).run ⟨tokens, 0⟩).1
  | .error e => .error e

end RuleEngine
