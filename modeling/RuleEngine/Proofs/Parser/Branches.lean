import RuleEngine.Proofs.Parser.Nesting

/-!
# Branches of a tree

Evaluating a tree goes down its branches, from the root through operands and
arguments to a leaf. The limit of the parser bounds how long they are, however
long the text is: no branch has more than twice the square of the limit of nodes,
comparisons among them, and some branch has as many (`branches_bounded`).

The depth of a tree in which comparisons weigh as much as other operators is the
length of its longest branch (`Expr.IsBranch.length_le`, `Expr.exists_isBranch`),
and is bounded with any weight of theirs (`depthBy_le_of_parse`).
-/

namespace RuleEngine

open Grammar

namespace Expr

/-- The operands or arguments of a node. -/
def children : Expr → List Expr
  | literal _ => []
  | field _ => []
  | binary _ left right => [left, right]
  | unary _ operand => [operand]
  | call _ args => args

/-- The nodes from the root of a tree down to a leaf. -/
inductive IsBranch : Expr → List Expr → Prop
  | leaf {e : Expr} (h : e.children = []) : IsBranch e [e]
  | node {e child : Expr} {path : List Expr} (h : child ∈ e.children)
      (hpath : IsBranch child path) : IsBranch e (e :: path)

/-! ### Depth and branches -/

theorem depthBy_le_ofAll {weight : Nat} {e : Expr} {es : List Expr} (h : e ∈ es) :
    e.depthBy weight ≤ depthByOfAll weight es := by
  induction es with
  | nil => cases h
  | cons first rest ih =>
    rw [depthByOfAll]
    rcases List.mem_cons.mp h with rfl | h
    · exact Nat.le_max_left _ _
    · exact Nat.le_trans (ih h) (Nat.le_max_right _ _)

theorem exists_depthBy_eq_ofAll {weight : Nat} {es : List Expr} (h : es ≠ []) :
    ∃ e ∈ es, e.depthBy weight = depthByOfAll weight es := by
  induction es with
  | nil => exact absurd rfl h
  | cons first rest ih =>
    rw [depthByOfAll]
    rcases Nat.le_total (depthByOfAll weight rest) (first.depthBy weight) with hle | hle
    · exact ⟨first, List.mem_cons_self, (Nat.max_eq_left hle).symm⟩
    · -- The first is no deeper than the others, so there are others.
      have hrest : rest ≠ [] := by
        rintro rfl
        exact absurd (first.depthBy_pos weight) (Nat.not_lt_of_le hle)
      obtain ⟨e, he, hdepth⟩ := ih hrest
      exact ⟨e, List.mem_cons_of_mem _ he, hdepth.trans (Nat.max_eq_right hle).symm⟩

/-- If comparisons weigh as much as other operators, each node makes a tree one
    deeper than what is below it. -/
theorem depthBy_one (e : Expr) : e.depthBy 1 = depthByOfAll 1 e.children + 1 := by
  cases e with
  | binary op left right => cases op <;> simp [depthBy, depthByOfAll, children, BinaryOp.depthBy]
  | unary op operand => simp [depthBy, depthByOfAll, children]
  | _ => rfl

/-- No branch is longer than the tree is deep. -/
theorem IsBranch.length_le {e : Expr} {path : List Expr} (h : e.IsBranch path) :
    path.length ≤ e.depthBy 1 := by
  induction h with
  | leaf _ => exact depthBy_pos 1 _
  | @node e child path hchild _ ih =>
    rw [List.length_cons, depthBy_one]
    exact Nat.succ_le_succ (Nat.le_trans ih (depthBy_le_ofAll hchild))

/-- Some branch is as long as the tree is deep. -/
theorem exists_isBranch (e : Expr) : ∃ path, e.IsBranch path ∧ path.length = e.depthBy 1 := by
  induction hdepth : e.depthBy 1 generalizing e with
  | zero => exact absurd (e.depthBy_pos 1) (by omega)
  | succ n ih =>
    have hbelow : depthByOfAll 1 e.children = n := by
      rw [depthBy_one] at hdepth
      exact Nat.succ.inj hdepth
    by_cases hleaf : e.children = []
    · rw [hleaf] at hbelow
      exact ⟨[e], .leaf hleaf, congrArg (· + 1) hbelow⟩
    · obtain ⟨child, hchild, heq⟩ := exists_depthBy_eq_ofAll hleaf
      obtain ⟨path, hpath, hlength⟩ := ih child (heq.trans hbelow)
      exact ⟨e :: path, .node hchild hpath, congrArg (· + 1) hlength⟩

end Expr

/-! ### Rules -/

/-- No branch of a rule has more nodes than twice the square of the limit, whatever the
    length of the text, and some rule has a branch of as many. -/
theorem branches_bounded (limit : Nat) :
    (∀ source e, Expr.parse source limit = .ok e →
      ∀ path, e.IsBranch path → path.length ≤ 2 * limit * limit) ∧
    (0 < limit → ∃ source e path, Expr.parse source limit = .ok e ∧ e.IsBranch path ∧
      path.length = 2 * limit * limit) := by
  have hbound (hlimit : 0 < limit) : limit * (2 * limit - 1 + 1) = 2 * limit * limit := by
    rw [Nat.sub_add_cancel (by omega), Nat.mul_comm]
  refine ⟨fun source e he path hpath => ?_, fun hlimit => ?_⟩
  · have hdepth : e.depthBy 1 ≤ limit * (2 * limit - 1 + 1) := depthBy_le_of_parse 1 he
    have hlimit : 0 < limit :=
      Nat.pos_of_mul_pos_right (Nat.lt_of_lt_of_le (e.depthBy_pos 1) hdepth)
    exact hbound hlimit ▸ Nat.le_trans hpath.length_le hdepth
  · obtain ⟨source, e, he, hdepth⟩ := exists_parse_depthBy_eq 1 hlimit
    obtain ⟨path, hpath, hlength⟩ := e.exists_isBranch
    exact ⟨source, e, path, he, hpath, (hlength.trans hdepth).trans (hbound hlimit)⟩

/-- A call within all chains that the limit allows, with a comparison on either side. -/
theorem branches_bounded_reached :
    let a : Expr := .field "a"
    let b : Expr := .field "b"
    let inner : Expr := .binary (.comparison .eq) a a
    let product : Expr := .binary (.arithmetic .mul) (.call "f" [inner]) b
    let sum : Expr := .binary (.arithmetic .add) product b
    let comparison : Expr := .binary (.comparison .eq) sum b
    let conjunction : Expr := .binary (.logical .and) comparison b
    let e : Expr := .binary (.logical .or) conjunction b
    let path : List Expr := [e, conjunction, comparison, sum, product, .call "f" [inner], inner, a]
    Expr.parse "f(a == a) * b + b == b && b || b" 2 = .ok e ∧ e.IsBranch path ∧
      path.length ≤ 2 * 2 * 2 ∧ path.length = 8 := by
  intro a b inner product sum comparison conjunction e path
  have hscan : Token.scan "f(a == a) * b + b == b && b || b" = .ok [⟨.identifier "f", 0⟩,
      ⟨.symbol .leftParen, 1⟩, ⟨.identifier "a", 2⟩, ⟨.symbol .equal, 4⟩, ⟨.identifier "a", 7⟩,
      ⟨.symbol .rightParen, 8⟩, ⟨.symbol .star, 10⟩, ⟨.identifier "b", 12⟩, ⟨.symbol .plus, 14⟩,
      ⟨.identifier "b", 16⟩, ⟨.symbol .equal, 18⟩, ⟨.identifier "b", 21⟩, ⟨.symbol .and, 23⟩,
      ⟨.identifier "b", 26⟩, ⟨.symbol .or, 28⟩, ⟨.identifier "b", 31⟩, ⟨.endOfInput, 32⟩] :=
    toOption_eq_some_iff.mp (by decide +kernel)
  let name (text : String) : Derivation .product [.identifier text] (.field text) :=
    .operand nofun (.operand nofun (.field text))
  let compared : Derivation .comparison _ inner :=
    .comparison List.mem_cons_self (.operand nofun (name "a")) (.operand nofun (name "a"))
  let called : Derivation .unary _ (.call "f" [inner]) :=
    .operand nofun (.call "f" (.last (.operand nofun (.operand nofun compared))))
  let multiplied : Derivation .product _ product :=
    .chain List.mem_cons_self (.operand nofun called) (.operand nofun (.field "b"))
  let added : Derivation .sum _ sum :=
    .chain List.mem_cons_self (.operand nofun multiplied) (name "b")
  let wider : Derivation .comparison _ comparison :=
    .comparison List.mem_cons_self added (.operand nofun (name "b"))
  let joined : Derivation .conjunction _ conjunction :=
    .chain List.mem_cons_self (.operand nofun wider) (.operand nofun (.operand nofun (name "b")))
  let whole : Derivation .disjunction _ e :=
    .chain List.mem_cons_self (.operand nofun joined)
      (.operand nofun (.operand nofun (.operand nofun (name "b"))))
  have hparse : Expr.parse "f(a == a) * b + b == b && b || b" 2 = .ok e :=
    (parse_eq_ok_iff hscan).mpr ⟨whole, by decide⟩
  have hcall : (Expr.call "f" [inner]).IsBranch [.call "f" [inner], inner, a] :=
    .node List.mem_cons_self (.node List.mem_cons_self (.leaf rfl))
  have hsum : sum.IsBranch [sum, product, .call "f" [inner], inner, a] :=
    .node List.mem_cons_self (.node List.mem_cons_self hcall)
  have hpath : e.IsBranch path :=
    .node List.mem_cons_self (.node List.mem_cons_self (.node List.mem_cons_self hsum))
  exact ⟨hparse, hpath, (branches_bounded 2).1 _ _ hparse path hpath, rfl⟩

end RuleEngine
