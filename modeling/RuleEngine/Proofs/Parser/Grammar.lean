import RuleEngine.Expr
import RuleEngine.Numeric.Decimal
import RuleEngine.Token

/-!
# The grammar of rules

What a rule may look like, apart from how it is read. A `Derivation` shows that
some words are a phrase of a `Level` of the grammar, and which tree they stand
for. The levels go from the operators that bind least to those that bind most:

* disjunctions, conjunctions, sums and products are chains: operands of the next
  level with operators between them, each of which takes all that stands before
  it as its left operand;
* a comparison has at most one operator, between two sums;
* unary operators nest to the right;
* a primary phrase is a literal, a name, a call, or a disjunction in parentheses,
  which leave nothing in the tree.

A derivation also tells how deep a reader has to go that reads it from left to
right (`Derivation.levels`): one level for the parentheses, for an argument and
for the operand of a unary operator, and one for each operator of a chain, from
that operator to the end of the chain. It never has to go as deep as there are
words (`Derivation.levels_lt`).
-/

namespace RuleEngine.Grammar

/-! ### Levels and their operators -/

/-- The sorts of phrases, from the operators that bind least to those that bind
    most. -/
inductive Level where
  | disjunction
  | conjunction
  | comparison
  | sum
  | product
  | unary
  | primary
  deriving DecidableEq

/-- The level of the operands of a level. -/
def Level.operand : Level → Level
  | disjunction => conjunction
  | conjunction => comparison
  | comparison => sum
  | sum => product
  | product => unary
  | unary => primary
  | primary => primary

/-- The operators that chain the operands of a level, as they are written. -/
def Level.operators : Level → List (Symbol × BinaryOp)
  | disjunction => [(.or, .logical .or)]
  | conjunction => [(.and, .logical .and)]
  | sum => [(.plus, .arithmetic .add), (.minus, .arithmetic .sub)]
  | product => [(.star, .arithmetic .mul), (.slash, .arithmetic .div), (.percent, .arithmetic .mod)]
  | _ => []

/-- The operators of comparisons and matches. -/
def comparisons : List (Symbol × BinaryOp) :=
  [(.equal, .comparison .eq), (.notEqual, .comparison .ne), (.less, .comparison .lt),
    (.lessEqual, .comparison .le), (.greater, .comparison .gt), (.greaterEqual, .comparison .ge),
    (.regexMatch, .matching .found), (.regexNotMatch, .matching .absent)]

/-- The operators before an operand. -/
def unaries : List (Symbol × UnaryOp) :=
  [(.bang, .not), (.minus, .minus)]

/-! ### Numbers -/

/-- Some decimal digits, at least one. -/
def IsDigits (cs : List Char) : Prop :=
  cs ≠ [] ∧ ∀ c ∈ cs, Decimal.isDigit c = true

/-- The value of a number as written: digits are an integer, which has to be in
    range, and digits with a point between them the float nearest to the decimal
    fraction. -/
inductive Numeral : String → Value → Prop
  | integer {digits : List Char} (h : IsDigits digits)
      (hrange : Decimal.ofDigits digits ≤ 9223372036854775807) :
      Numeral (String.ofList digits) (.integer (Int64.ofNat (Decimal.ofDigits digits)))
  | fraction {whole tail : List Char} (h : IsDigits whole) (htail : IsDigits tail) :
      Numeral (String.ofList (whole ++ '.' :: tail))
        (.float (Decimal.toFloat ⟨Decimal.ofDigits (whole ++ tail), -tail.length⟩))

/-! ### Derivations -/

mutual

/-- That some words are a phrase of a level and stand for a tree. -/
inductive Derivation : Level → List Token → Expr → Type
  /-- An operand alone. -/
  | operand {level : Level} {ts : List Token} {e : Expr} (h : level ≠ .primary)
      (d : Derivation level.operand ts e) : Derivation level ts e
  /-- A chain and one more operand. -/
  | chain {level : Level} {ts us : List Token} {left right : Expr} {s : Symbol} {op : BinaryOp}
      (h : (s, op) ∈ level.operators) (first : Derivation level ts left)
      (last : Derivation level.operand us right) :
      Derivation level (ts ++ .symbol s :: us) (.binary op left right)
  | comparison {ts us : List Token} {left right : Expr} {s : Symbol} {op : BinaryOp}
      (h : (s, op) ∈ comparisons) (first : Derivation .sum ts left)
      (last : Derivation .sum us right) :
      Derivation .comparison (ts ++ .symbol s :: us) (.binary op left right)
  | unary {ts : List Token} {e : Expr} {s : Symbol} {op : UnaryOp} (h : (s, op) ∈ unaries)
      (d : Derivation .unary ts e) : Derivation .unary (.symbol s :: ts) (.unary op e)
  | number {text : String} {v : Value} (h : Numeral text v) :
      Derivation .primary [.number text] (.literal v)
  | string (text : String) : Derivation .primary [.string text] (.literal (.string text))
  | boolean (b : Bool) : Derivation .primary [.boolean b] (.literal (.boolean b))
  | field (name : String) : Derivation .primary [.identifier name] (.field name)
  | emptyCall (function : String) :
      Derivation .primary [.identifier function, .symbol .leftParen, .symbol .rightParen]
        (.call function [])
  | call {ts : List Token} {args : List Expr} (function : String) (a : Arguments ts args) :
      Derivation .primary
        (.identifier function :: .symbol .leftParen :: (ts ++ [.symbol .rightParen]))
        (.call function args)
  | group {ts : List Token} {e : Expr} (d : Derivation .disjunction ts e) :
      Derivation .primary (.symbol .leftParen :: (ts ++ [.symbol .rightParen])) e

/-- That some words are disjunctions with commas between them. -/
inductive Arguments : List Token → List Expr → Type
  | last {ts : List Token} {e : Expr} (d : Derivation .disjunction ts e) : Arguments ts [e]
  | more {ts us : List Token} {e : Expr} {es : List Expr} (d : Derivation .disjunction ts e)
      (a : Arguments us es) : Arguments (ts ++ .symbol .comma :: us) (e :: es)

end

/-- Some words are a rule that stands for a tree. -/
def Derives (ts : List Token) (e : Expr) : Prop :=
  Nonempty (Derivation .disjunction ts e)

/-! ### Depth -/

/-- How many operators a chain has at its own level. -/
def Derivation.width {level : Level} {ts : List Token} {e : Expr} : Derivation level ts e → Nat
  | .chain _ first _ => first.width + 1
  | _ => 0

mutual

/-- How many levels deep the phrase goes. -/
def Derivation.levels {level : Level} {ts : List Token} {e : Expr} : Derivation level ts e → Nat
  | .operand _ d => d.levels
  | .chain _ first last => max first.levels (first.width + 1 + last.levels)
  | .comparison _ first last => max first.levels last.levels
  | .unary _ d => d.levels + 1
  | .number _ => 0
  | .string _ => 0
  | .boolean _ => 0
  | .field _ => 0
  | .emptyCall _ => 0
  | .call _ a => a.levels
  | .group d => d.levels + 1

/-- How many levels deep the arguments go. -/
def Arguments.levels {ts : List Token} {es : List Expr} : Arguments ts es → Nat
  | .last d => d.levels + 1
  | .more d a => max (d.levels + 1) a.levels

end

/-- A chain goes one level deeper with each of its operators. -/
theorem Derivation.width_le_levels {level : Level} {ts : List Token} {e : Expr}
    (d : Derivation level ts e) : d.width ≤ d.levels := by
  cases d with
  | chain h first last => rw [width, levels]; omega
  | _ => exact Nat.zero_le _

mutual

/-- A phrase has more words than it goes levels deep. -/
theorem Derivation.levels_lt {level : Level} {ts : List Token} {e : Expr} :
    (d : Derivation level ts e) → d.levels < ts.length
  | .operand _ d => d.levels_lt
  | .chain _ first last => by
    have := first.levels_lt
    have := first.width_le_levels
    have := last.levels_lt
    rw [Derivation.levels, List.length_append, List.length_cons]
    omega
  | .comparison _ first last => by
    have := first.levels_lt
    have := last.levels_lt
    rw [Derivation.levels, List.length_append, List.length_cons]
    omega
  | .unary _ d => Nat.succ_lt_succ d.levels_lt
  | .number _ => Nat.zero_lt_one
  | .string _ => Nat.zero_lt_one
  | .boolean _ => Nat.zero_lt_one
  | .field _ => Nat.zero_lt_one
  | .emptyCall _ => Nat.zero_lt_succ _
  | .call _ a => by
    have := a.levels_le
    rw [Derivation.levels, List.length_cons, List.length_cons, List.length_append]
    omega
  | .group d => by
    have := d.levels_lt
    rw [Derivation.levels, List.length_cons, List.length_append]
    omega

theorem Arguments.levels_le {ts : List Token} {es : List Expr} :
    (a : Arguments ts es) → a.levels ≤ ts.length
  | .last d => d.levels_lt
  | .more d a => by
    have := d.levels_lt
    have := a.levels_le
    rw [Arguments.levels, List.length_append, List.length_cons]
    omega

end

end RuleEngine.Grammar
