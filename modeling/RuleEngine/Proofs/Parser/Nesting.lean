import RuleEngine.Proofs.Parser.Writing

/-!
# How deep a tree gets

The limit of the parser is on the levels that are open at a time. A chain closes
the levels of its first operand before its own operators open any, so what was
read first is buried deeper in the tree than the limit says, and once more at
each level of the grammar that has chains. So the nesting of a tree is not
bounded by the limit, but by about twice its square, which is reached:

* `Derivation.depthBy_le`: no phrase is deeper than `Level.depthBound`, which is
  by its level and by how many levels reading it takes. The induction is once
  more on the derivation, with the first operand of a chain as deep below its end
  as there are operators.
* `attains_primaryBound`: a call whose argument has all the chains there may be
  around one such call with a level less is as deep as that.
* `depthBy_le_of_parse`, `exists_parse_depthBy_eq`: the same of whole rules, with
  any weight of the comparisons.
-/

namespace RuleEngine

open Grammar

/-! ### Depth of trees -/

/-- How much deeper an operator makes a tree, if comparisons and matches make it
    deeper by a weight. -/
def BinaryOp.depthBy (weight : Nat) : BinaryOp → Nat
  | .comparison _ => weight
  | .matching _ => weight
  | _ => 1

mutual

/-- How deep a tree is, if comparisons and matches have a weight. -/
def Expr.depthBy (weight : Nat) : Expr → Nat
  | .literal _ => 1
  | .field _ => 1
  | .binary op left right => max (left.depthBy weight) (right.depthBy weight) + op.depthBy weight
  | .unary _ operand => operand.depthBy weight + 1
  | .call _ args => Expr.depthByOfAll weight args + 1

/-- How deep the deepest of some trees is. -/
def Expr.depthByOfAll (weight : Nat) : List Expr → Nat
  | [] => 0
  | e :: rest => max (e.depthBy weight) (Expr.depthByOfAll weight rest)

end

theorem Expr.depthBy_pos (weight : Nat) (e : Expr) : 0 < e.depthBy weight := by
  cases e with
  | binary _ left _ =>
    have hleft := left.depthBy_pos weight
    exact Nat.add_pos_left (Nat.lt_of_lt_of_le hleft (Nat.le_max_left _ _)) _
  | _ => exact Nat.zero_lt_succ _

/-- How deep a tree is nested: comparisons and matches do not count. -/
def Expr.nesting (e : Expr) : Nat :=
  e.depthBy 0

namespace Grammar

/-! ### The bound -/

/-- How deep a primary phrase gets that takes so many levels to read. -/
def primaryBound (weight : Nat) : Nat → Nat
  | 0 => 1
  | levels + 1 => primaryBound weight levels + 4 * levels + weight + 1

/-- How many levels of chains there are from a level on. -/
def Level.chains : Level → Nat
  | disjunction => 4
  | conjunction => 3
  | comparison => 2
  | sum => 2
  | product => 1
  | unary => 0
  | primary => 0

/-- The weight of the comparison that a phrase of a level may have. -/
def Level.comparisonWeight (weight : Nat) : Level → Nat
  | disjunction => weight
  | conjunction => weight
  | comparison => weight
  | _ => 0

/-- How deep a phrase of a level gets that takes so many levels to read. -/
def Level.depthBound (weight levels : Nat) (level : Level) : Nat :=
  primaryBound weight levels + level.chains * levels + level.comparisonWeight weight

variable {weight : Nat}

theorem primaryBound_mono {m n : Nat} (h : m ≤ n) :
    primaryBound weight m ≤ primaryBound weight n := by
  induction h with
  | refl => exact Nat.le_refl _
  | step _ ih => exact Nat.le_trans ih (by rw [primaryBound]; omega)

theorem Level.depthBound_mono {level : Level} {m n : Nat} (h : m ≤ n) :
    level.depthBound weight m ≤ level.depthBound weight n :=
  Nat.add_le_add_right
    (Nat.add_le_add (primaryBound_mono h) (Nat.mul_le_mul_left _ h)) _

theorem Level.depthBound_operand_le (level : Level) (n : Nat) :
    level.operand.depthBound weight n ≤ level.depthBound weight n := by
  refine Nat.add_le_add (Nat.add_le_add_left (Nat.mul_le_mul_right _ ?_) _) ?_ <;>
    cases level <;> simp [operand, chains, comparisonWeight]

/-- A chain goes as much deeper than its operands as there are levels. -/
theorem Level.depthBound_of_chain {level : Level} (h : level.operators ≠ []) (n : Nat) :
    level.depthBound weight n = level.operand.depthBound weight n + n := by
  cases level <;> first
    | exact absurd rfl h
    | simp only [depthBound, operand, chains, comparisonWeight]; omega

theorem Level.depthBound_comparison (n : Nat) :
    Level.comparison.depthBound weight n = Level.sum.depthBound weight n + weight := rfl

theorem Level.depthBound_primary (n : Nat) :
    Level.primary.depthBound weight n = primaryBound weight n := by
  simp [depthBound, chains, comparisonWeight]

/-- One level more is enough for an expression inside a phrase of any level. -/
theorem primaryBound_succ (n : Nat) :
    primaryBound weight (n + 1) = Level.disjunction.depthBound weight n + 1 := rfl

theorem primaryBound_eq (n : Nat) :
    primaryBound weight (n + 1) = (n + 1) * (2 * n + 1 + weight) + 1 := by
  induction n with
  | zero => simp [primaryBound]
  | succ n ih =>
    rw [primaryBound, ih]
    simp only [Nat.add_mul, Nat.mul_add]
    omega

/-- The bound of a rule. -/
theorem Level.depthBound_disjunction (n : Nat) :
    Level.disjunction.depthBound weight n = (n + 1) * (2 * n + 1 + weight) :=
  Nat.succ.inj (primaryBound_eq n)

/-! ### Phrases are within the bound -/

theorem depthBy_operator {level : Level} {s : Symbol} {op : BinaryOp}
    (h : (s, op) ∈ level.operators) : op.depthBy weight = 1 := by
  cases level <;> cases s <;> simp_all [Level.operators, BinaryOp.depthBy]

theorem depthBy_comparison {s : Symbol} {op : BinaryOp} (h : (s, op) ∈ comparisons) :
    op.depthBy weight = weight := by
  cases s <;> simp_all [comparisons, BinaryOp.depthBy]

/-- A chain of so many operators is within the bound of its operands and as many
    levels more. -/
theorem depthBy_chain_le {level : Level} {left right : Expr} {s : Symbol} {op : BinaryOp}
    {width levels levels' : Nat} (h : (s, op) ∈ level.operators)
    (hleft : left.depthBy weight ≤ width + level.operand.depthBound weight levels)
    (hright : right.depthBy weight ≤ level.operand.depthBound weight levels') :
    (Expr.binary op left right).depthBy weight ≤
      width + 1 + level.operand.depthBound weight (max levels (width + 1 + levels')) := by
  have hmono : level.operand.depthBound weight levels ≤
      level.operand.depthBound weight (max levels (width + 1 + levels')) :=
    Level.depthBound_mono (Nat.le_max_left _ _)
  have hmono' : level.operand.depthBound weight levels' ≤
      level.operand.depthBound weight (max levels (width + 1 + levels')) :=
    Level.depthBound_mono (Nat.le_trans (Nat.le_add_left _ _) (Nat.le_max_right _ _))
  rw [Expr.depthBy, depthBy_operator h]
  omega

theorem depthBy_unary_le {e : Expr} {op : UnaryOp} {levels : Nat}
    (h : e.depthBy weight ≤ Level.unary.depthBound weight levels) :
    (Expr.unary op e).depthBy weight ≤ Level.unary.depthBound weight (levels + 1) := by
  simp only [Level.depthBound, Level.chains, Level.comparisonWeight, primaryBound] at h ⊢
  rw [Expr.depthBy]
  omega

mutual

/-- No phrase is deeper than the bound of its level. -/
theorem Derivation.depthBy_le {level : Level} {ws : List Token} {e : Expr} :
    (d : Derivation level ws e) → e.depthBy weight ≤ level.depthBound weight d.levels
  | .operand _ d => Nat.le_trans d.depthBy_le (Level.depthBound_operand_le _ _)
  | .chain h first last => by
    have hlevel := List.ne_nil_of_mem h
    have hchain := depthBy_chain_le h (first.depthBy_le_of_chain hlevel) last.depthBy_le
    -- Each operator takes a level, so there are no more of them than levels.
    have hwidth := (Derivation.chain h first last).width_le_levels
    rw [Level.depthBound_of_chain hlevel, Nat.add_comm]
    exact Nat.le_trans hchain (Nat.add_le_add_right hwidth _)
  | .comparison h first last => by
    have hfirst := Nat.le_trans first.depthBy_le
      (Level.depthBound_mono (Nat.le_max_left first.levels last.levels))
    have hlast := Nat.le_trans last.depthBy_le
      (Level.depthBound_mono (Nat.le_max_right first.levels last.levels))
    rw [Expr.depthBy, depthBy_comparison h, Level.depthBound_comparison]
    exact Nat.add_le_add_right (Nat.max_le.mpr ⟨hfirst, hlast⟩) _
  | .unary _ d => depthBy_unary_le d.depthBy_le
  | .number _ => Nat.le_refl 1
  | .string _ => Nat.le_refl 1
  | .boolean _ => Nat.le_refl 1
  | .field _ => Nat.le_refl 1
  | .emptyCall _ => Nat.le_refl 1
  | .call _ a => by
    rw [Expr.depthBy, Level.depthBound_primary]
    exact a.depthBy_le
  | .group d => by
    rw [Level.depthBound_primary, Derivation.levels, primaryBound_succ]
    exact Nat.le_succ_of_le d.depthBy_le

theorem Derivation.depthBy_le_of_chain {level : Level} {ws : List Token} {e : Expr} :
    (d : Derivation level ws e) → level.operators ≠ [] →
      e.depthBy weight ≤ d.width + level.operand.depthBound weight d.levels
  | .operand _ d, _ => Nat.le_trans d.depthBy_le (Nat.le_add_left _ _)
  | .chain h first last, hlevel =>
    depthBy_chain_le h (first.depthBy_le_of_chain hlevel) last.depthBy_le
  | .comparison _ _ _, hlevel => absurd rfl hlevel
  | .unary _ _, hlevel => absurd rfl hlevel
  | .number _, hlevel => absurd rfl hlevel
  | .string _, hlevel => absurd rfl hlevel
  | .boolean _, hlevel => absurd rfl hlevel
  | .field _, hlevel => absurd rfl hlevel
  | .emptyCall _, hlevel => absurd rfl hlevel
  | .call _ _, hlevel => absurd rfl hlevel
  | .group _, hlevel => absurd rfl hlevel

theorem Arguments.depthBy_le {ws : List Token} {es : List Expr} :
    (a : Arguments ws es) → Expr.depthByOfAll weight es + 1 ≤ primaryBound weight a.levels
  | .last d => by
    rw [Arguments.levels, primaryBound_succ]
    exact Nat.succ_le_succ (Nat.max_le.mpr ⟨d.depthBy_le, Nat.zero_le _⟩)
  | .more d a => by
    have hfirst := d.depthBy_le
    have hrest := a.depthBy_le
    have hmono : Level.disjunction.depthBound weight d.levels + 1 ≤
        primaryBound weight (max (d.levels + 1) a.levels) :=
      primaryBound_mono (Nat.le_max_left (d.levels + 1) a.levels)
    have hmono' : primaryBound weight a.levels ≤
        primaryBound weight (max (d.levels + 1) a.levels) :=
      primaryBound_mono (Nat.le_max_right _ _)
    rw [Arguments.levels, Expr.depthByOfAll]
    omega

end

/-! ### Phrases as deep as the bound -/

/-- Some phrase of a level that can be written takes no more than some levels to
    read, and has a width and a depth. -/
def Attains (weight : Nat) (level : Level) (levels width depth : Nat) : Prop :=
  ∃ ws e, ∃ d : Derivation level ws e, d.levels ≤ levels ∧ d.width = width ∧
    e.depthBy weight = depth ∧ ∀ t ∈ ws, t.CanBeWritten

/-- A single number is a phrase of every level. -/
theorem exists_one (level : Level) : ∃ d : Derivation level [.number "1"] (.literal (.integer 1)),
    d.levels = 0 ∧ d.width = 0 := by
  have hdigits : IsDigits ['1'] := ⟨List.cons_ne_nil _ _, List.forall_mem_singleton.mpr rfl⟩
  let one : Derivation .primary [.number "1"] (.literal (.integer 1)) :=
    .number (.integer hdigits (by decide))
  let product : Derivation .product _ _ := .operand nofun (.operand nofun one)
  let conjunction : Derivation .conjunction _ _ :=
    .operand nofun (.operand nofun (.operand nofun product))
  cases level with
  | disjunction => exact ⟨.operand nofun conjunction, rfl, rfl⟩
  | conjunction => exact ⟨conjunction, rfl, rfl⟩
  | comparison => exact ⟨.operand nofun (.operand nofun product), rfl, rfl⟩
  | sum => exact ⟨.operand nofun product, rfl, rfl⟩
  | product => exact ⟨product, rfl, rfl⟩
  | unary => exact ⟨.operand nofun one, rfl, rfl⟩
  | primary => exact ⟨one, rfl, rfl⟩

theorem canBeWritten_one : Token.CanBeWritten (.number "1") :=
  ⟨_, Token.isWritten_one⟩

theorem canBeWritten_symbol (s : Symbol) : Token.CanBeWritten (.symbol s) :=
  ⟨_, Token.isWritten_symbol s⟩

theorem Attains.operand (level : Level) (hlevel : level ≠ .primary) {levels width depth : Nat}
    (h : Attains weight level.operand levels width depth) :
    Attains weight level levels 0 depth := by
  obtain ⟨ws, e, d, hlevels, _, hdepth, hws⟩ := h
  exact ⟨ws, e, .operand hlevel d, hlevels, rfl, hdepth, hws⟩

/-- As many operators as there are levels may follow an operand. -/
theorem Attains.chain (level : Level) {s : Symbol} {op : BinaryOp} {levels width depth : Nat}
    (hop : (s, op) ∈ level.operators) (h : Attains weight level.operand levels width depth)
    (n : Nat) (hn : n ≤ levels) : Attains weight level levels n (depth + n) := by
  induction n with
  | zero => exact h.operand level (by rintro rfl; exact absurd hop List.not_mem_nil)
  | succ n ih =>
    obtain ⟨ws, e, d, hlevels, hwidth, hdepth, hws⟩ := ih (Nat.le_of_succ_le hn)
    -- Only the first operand is deep, which is read before the chain takes any level.
    obtain ⟨one, hone, _⟩ := exists_one level.operand
    refine ⟨_, _, .chain hop d one, ?_, congrArg (· + 1) hwidth, ?_, ?_⟩
    · rw [Derivation.levels, hwidth, hone]
      exact Nat.max_le.mpr ⟨hlevels, hn⟩
    · have hpos := e.depthBy_pos weight
      rw [Expr.depthBy, depthBy_operator hop, Expr.depthBy]
      omega
    · simpa [or_imp, forall_and, canBeWritten_one, canBeWritten_symbol] using hws

theorem Attains.comparison {levels width depth : Nat}
    (h : Attains weight .sum levels width depth) :
    Attains weight .comparison levels 0 (depth + weight) := by
  obtain ⟨ws, e, d, hlevels, _, hdepth, hws⟩ := h
  obtain ⟨one, hone, _⟩ := exists_one .sum
  have hop : (Symbol.equal, BinaryOp.comparison .eq) ∈ comparisons := by decide
  refine ⟨_, _, .comparison hop d one, ?_, rfl, ?_, ?_⟩
  · rw [Derivation.levels, hone]
    exact Nat.max_le.mpr ⟨hlevels, Nat.zero_le _⟩
  · rw [Expr.depthBy, depthBy_comparison hop, Expr.depthBy, hdepth,
      Nat.max_eq_left (hdepth ▸ e.depthBy_pos weight)]
  · simpa [or_imp, forall_and, canBeWritten_one, canBeWritten_symbol] using hws

theorem Attains.call {levels width depth : Nat}
    (h : Attains weight .disjunction levels width depth) :
    Attains weight .primary (levels + 1) 0 (depth + 1) := by
  obtain ⟨ws, e, d, hlevels, _, hdepth, hws⟩ := h
  have hname : Token.CanBeWritten (.identifier "f") := ⟨_, Token.isWritten_name⟩
  refine ⟨_, _, .call "f" (.last d), Nat.succ_le_succ hlevels, rfl, ?_, ?_⟩
  · rw [Expr.depthBy, Expr.depthByOfAll, Expr.depthByOfAll, hdepth, Nat.max_zero]
  · simpa [or_imp, forall_and, hname, canBeWritten_symbol] using hws

/-- From a primary phrase on, there are chains at four levels and a comparison. -/
theorem Attains.disjunction {levels width depth : Nat}
    (h : Attains weight .primary levels width depth) :
    Attains weight .disjunction levels levels (depth + 4 * levels + weight) := by
  have hunary : Attains weight .unary levels 0 depth := h.operand .unary nofun
  have hproduct : Attains weight .product levels levels _ :=
    hunary.chain .product List.mem_cons_self levels (Nat.le_refl _)
  have hsum : Attains weight .sum levels levels _ :=
    hproduct.chain .sum List.mem_cons_self levels (Nat.le_refl _)
  have hconjunction : Attains weight .conjunction levels levels _ :=
    hsum.comparison.chain .conjunction List.mem_cons_self levels (Nat.le_refl _)
  have hdisjunction : Attains weight .disjunction levels levels _ :=
    hconjunction.chain .disjunction List.mem_cons_self levels (Nat.le_refl _)
  rwa [show depth + 4 * levels + weight = depth + levels + levels + weight + levels + levels by
    omega]

theorem attains_primaryBound (n : Nat) : Attains weight .primary n 0 (primaryBound weight n) := by
  induction n with
  | zero =>
    obtain ⟨one, hone, hwidth⟩ := exists_one .primary
    exact ⟨_, _, one, Nat.le_of_eq hone, hwidth, rfl,
      List.forall_mem_singleton.mpr canBeWritten_one⟩
  | succ n ih => exact ih.disjunction.call

end Grammar

/-! ### Rules -/

/-- A rule is at most as deep as the bound of the levels that may be open in it. -/
theorem depthBy_le_of_parse (weight : Nat) {source : String} {limit : Nat} {e : Expr}
    (h : Expr.parse source limit = .ok e) :
    e.depthBy weight ≤ limit * (2 * limit - 1 + weight) := by
  obtain ⟨tokens, _, d, hlevels⟩ := exists_derivation_of_parse h
  obtain ⟨n, rfl⟩ : ∃ n, limit = n + 1 := Nat.exists_eq_add_one.mpr (Nat.zero_lt_of_lt hlevels)
  have hdepth : e.depthBy weight ≤ Level.disjunction.depthBound weight n :=
    Nat.le_trans d.depthBy_le (Level.depthBound_mono (Nat.le_of_lt_succ hlevels))
  rwa [Level.depthBound_disjunction] at hdepth

/-- Some rule is as deep as that bound. -/
theorem exists_parse_depthBy_eq (weight : Nat) {limit : Nat} (h : 0 < limit) :
    ∃ source e, Expr.parse source limit = .ok e ∧
      e.depthBy weight = limit * (2 * limit - 1 + weight) := by
  obtain ⟨n, rfl⟩ : ∃ n, limit = n + 1 := Nat.exists_eq_add_one.mpr h
  have hattains : Attains weight .disjunction n n _ := (attains_primaryBound n).disjunction
  obtain ⟨ws, e, d, hlevels, _, hdepth, hws⟩ := hattains
  obtain ⟨source, tokens, hscan, rfl⟩ := Token.exists_scan hws
  refine ⟨source, e, (parse_eq_ok_iff hscan).mpr ⟨d, Nat.lt_succ_of_le hlevels⟩, ?_⟩
  rw [hdepth]
  exact Level.depthBound_disjunction n

/-- The nesting of rules is bounded by the limit exactly if that is at most one. It is
    bounded by `limit * (2 * limit - 1)` and by nothing less in general. -/
theorem nesting_bound (limit : Nat) :
    ((∀ source e, Expr.parse source limit = .ok e → e.nesting ≤ limit) ↔ limit ≤ 1) ∧
      (∀ source e, Expr.parse source limit = .ok e → e.nesting ≤ limit * (2 * limit - 1)) ∧
      (0 < limit → ∃ source e, Expr.parse source limit = .ok e ∧
        e.nesting = limit * (2 * limit - 1)) := by
  have hle : ∀ source e, Expr.parse source limit = .ok e →
      e.nesting ≤ limit * (2 * limit - 1) :=
    fun _ _ => depthBy_le_of_parse 0
  have hattained : 0 < limit → ∃ source e, Expr.parse source limit = .ok e ∧
      e.nesting = limit * (2 * limit - 1) :=
    exists_parse_depthBy_eq 0
  refine ⟨⟨fun h => ?_, fun hlimit source e he => ?_⟩, hle, hattained⟩
  · by_cases hlimit : limit = 0
    · omega
    · -- The deepest rule of this limit is within it only if the bound is the limit itself.
      obtain ⟨source, e, he, hnesting⟩ := hattained (Nat.pos_of_ne_zero hlimit)
      have hself : limit * (2 * limit - 1) ≤ limit * 1 := by
        rw [← hnesting, Nat.mul_one]
        exact h source e he
      have hle_one := Nat.le_of_mul_le_mul_left hself (Nat.pos_of_ne_zero hlimit)
      omega
  · refine Nat.le_trans (hle source e he) ?_
    exact Nat.le_trans (Nat.mul_le_mul_left limit (by omega : 2 * limit - 1 ≤ 1))
      (Nat.le_of_eq (Nat.mul_one limit))

/-- The limit does not bound the nesting: the operand of the minus is read and its
    level left before the sum of which it becomes the first operand goes on. -/
theorem not_forall_nesting_le :
    ¬∀ source limit e, Expr.parse source limit = .ok e → e.nesting ≤ limit := by
  intro h
  have hscan : Token.scan "-1 + 1" = .ok [⟨.symbol .minus, 0⟩, ⟨.number "1", 1⟩,
    ⟨.symbol .plus, 3⟩, ⟨.number "1", 5⟩, ⟨.endOfInput, 6⟩] := rfl
  obtain ⟨one, hone, _⟩ := exists_one .unary
  obtain ⟨last, hlast, _⟩ := exists_one .product
  have hminus : (Symbol.minus, UnaryOp.minus) ∈ unaries := by decide
  let first : Derivation .sum _ _ := .operand nofun (.operand nofun (.unary hminus one))
  let sum : Derivation .sum _ _ := .chain List.mem_cons_self first last
  have hlevels : sum.levels < 2 := by
    show max (one.levels + 1) (0 + 1 + last.levels) < 2
    rw [hone, hlast]
    decide
  have hparse : Expr.parse "-1 + 1" 2 = .ok (.binary (.arithmetic .add)
      (.unary .minus (.literal (.integer 1))) (.literal (.integer 1))) :=
    (parse_eq_ok_iff hscan).mpr ⟨.operand nofun (.operand nofun (.operand nofun sum)), hlevels⟩
  exact absurd (h _ _ _ hparse) (by decide)

end RuleEngine
