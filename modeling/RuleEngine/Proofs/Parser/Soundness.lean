import RuleEngine.Proofs.Parser.Words

/-!
# What is read is derived

Whatever the parser of a level returns, the words that it has passed are a
phrase of that level and stand for the tree returned, and the derivation goes no
deeper than the levels that were left (`Reads`). When it fails instead, it does
so with a syntax error at the token where it stops. Both are said of every
cursor, so that the facts about the parsers of one level are those about the
parsers of its operands (`primary_isReader`, `chain_isReader`), and all of them
on those about expressions with a level less (`expression_isReader`).
-/

namespace RuleEngine

open Grammar

/-- The words of some tokens, without their places. -/
def words (ts : List Spanned) : List Token :=
  ts.map (·.token)

namespace Parse

/-! ### What the parsers read -/

/-- From one cursor to another a phrase of a level was read, as the tree given,
    and reading it went less deep than a bound. -/
def Reads (bound : Nat) (level : Level) (c : Cursor) (e : Expr) (c' : Cursor) : Prop :=
  c'.depth = c.depth ∧ ∃ ts ws, c.rest = ts ++ c'.rest ∧ words ts = ws ∧
    ∃ d : Derivation level ws e, c.depth + d.levels < bound

/-- A parser reads the phrases of a level wherever it starts within the limit. -/
def IsReader (limit bound : Nat) (level : Level) (p : Parse Expr) : Prop :=
  ∀ c : Cursor, c.IsLexed → c.depth ≤ limit → Meets limit p c (Reads bound level c)

/-- From one cursor to another the arguments of a call were read. -/
def ReadsArguments (bound : Nat) (c : Cursor) (es : List Expr) (c' : Cursor) : Prop :=
  c'.depth = c.depth ∧ ∃ ts ws, c.rest = ts ++ c'.rest ∧ words ts = ws ∧
    ∃ a : Arguments ws es, c.depth + a.levels < bound

variable {limit : Nat} {inner : Parse Expr}

/-- An operand that was read is a phrase of the level that it is an operand of. -/
theorem Reads.operand {bound : Nat} {level : Level} {c c' : Cursor} {e : Expr}
    (h : Reads bound level.operand c e c') (hlevel : level ≠ .primary) :
    Reads bound level c e c' := by
  obtain ⟨hd, ts, ws, hts, hws, d, hlt⟩ := h
  exact ⟨hd, ts, ws, hts, hws, .operand hlevel d, hlt⟩

theorem arguments_meets (hinner : IsReader limit limit .disjunction inner) (bound : Nat)
    {c : Cursor} (hc : c.IsLexed) (hdepth : c.depth ≤ limit) :
    Meets limit (arguments inner bound) c (ReadsArguments (limit + 1) c) := by
  induction bound generalizing c with
  | zero =>
    obtain ⟨s, rest, depth, rfl⟩ := hc.exists_cons
    exact .current hc (.fail hc (Nat.le_succ_of_le hdepth))
  | succ bound ih =>
    refine (hinner c hc hdepth).bind fun e c' ho ⟨hd, ts, ws, hts, hws, d, hlt⟩ => ?_
    have hc' := hc.onward ho
    obtain ⟨s, rest, depth, rfl⟩ := hc'.exists_cons
    obtain rfl : depth = c.depth := hd
    refine .current hc' ?_
    split
    · next hs =>
      refine .advance hc' (by simp [hs]) fun hrest => ?_
      refine (ih hrest hdepth).bind fun es c'' ho' ⟨hd', us, vs, hus, hvs, a, hle⟩ => ?_
      refine .pure (hrest.onward ho') ⟨hd', ts ++ s :: us, _, ?_, ?_, .more d a, ?_⟩
      · rw [hts, List.append_assoc, List.cons_append, ← hus]
      · simp only [words, List.map_append, List.map_cons, ← hws, ← hvs, hs]
      · rw [Arguments.levels]
        dsimp only at hle
        omega
    · refine .pure hc' ⟨rfl, ts, ws, hts, hws, .last d, ?_⟩
      rw [Arguments.levels]
      omega

/-- After the name of a function, its parentheses and what they enclose were
    read as a call. -/
def ReadsCall (bound : Nat) (function : String) (c : Cursor) (e : Expr) (c' : Cursor) : Prop :=
  c'.depth = c.depth ∧ ∃ ts ws, c.rest = ts ++ c'.rest ∧ .identifier function :: words ts = ws ∧
    ∃ d : Derivation .primary ws e, c.depth + d.levels < bound

theorem callTail_meets (hinner : IsReader limit limit .disjunction inner) (function : String)
    {s : Spanned} {rest : List Spanned} {depth : Nat} (hc : Cursor.IsLexed ⟨s :: rest, depth⟩)
    (hdepth : depth ≤ limit) (hs : s.token = .symbol .leftParen) :
    Meets limit (callTail inner function) ⟨s :: rest, depth⟩
      (ReadsCall (limit + 1) function ⟨s :: rest, depth⟩) := by
  rw [callTail]
  refine .advance hc (by simp [hs]) fun hrest => ?_
  obtain ⟨t, rest, rfl⟩ := List.exists_cons_of_ne_nil hrest.ne_nil
  refine .current hrest ?_
  split
  · next ht =>
    refine .advance hrest (by simp [ht]) fun hrest' => .pure hrest' ⟨rfl, [s, t], _, rfl, ?_,
      .emptyCall function, Nat.lt_succ_of_le hdepth⟩
    simp only [words, List.map_cons, List.map_nil, hs, ht]
  · refine .of_run (run_get _) hrest.refl ?_
    refine (arguments_meets hinner _ hrest hdepth).bind
      fun es c' ho ⟨hd, ts, ws, hts, hws, a, hle⟩ => ?_
    have hc' := hrest.onward ho
    obtain ⟨u, rest', depth', rfl⟩ := hc'.exists_cons
    obtain rfl : depth' = depth := hd
    refine .expect hc' (Nat.le_succ_of_le hdepth) fun hu hrest' => .pure hrest'
      ⟨rfl, s :: (ts ++ [u]), _, ?_, ?_, .call function a, hle⟩
    · rw [show t :: rest = _ from hts]
      simp
    · simp only [words, List.map_cons, List.map_append, List.map_nil, ← hws, hs, hu]

/-- A phrase of one word is read by passing over that word. -/
theorem word_meets {s : Spanned} {rest : List Spanned} {depth : Nat} {t : Token} {e : Expr}
    (hc : Cursor.IsLexed ⟨s :: rest, depth⟩) (hdepth : depth ≤ limit) (hs : s.token = t)
    (ht : t ≠ .endOfInput) (d : Derivation .primary [t] e) (hd : d.levels = 0) :
    Meets limit (do advance; return e) ⟨s :: rest, depth⟩
      (Reads (limit + 1) .primary ⟨s :: rest, depth⟩) :=
  .advance hc (hs ▸ ht) fun hrest => .pure hrest
    ⟨rfl, [s], _, rfl, by rw [words, List.map_singleton, hs], d,
      by rw [hd]; exact Nat.lt_succ_of_le hdepth⟩

/-- What reads a primary phrase reads one word or passes over the parentheses of
    a call or a group. -/
theorem primary_isReader (hinner : IsReader limit limit .disjunction inner) :
    IsReader limit (limit + 1) .primary (primary inner) := by
  intro c hc hdepth
  obtain ⟨s, rest, depth, rfl⟩ := hc.exists_cons
  replace hdepth : depth ≤ limit := hdepth
  refine .current hc ?_
  cases hs : s.token with
  | number text =>
    have hspelled : s.token.IsSpelled := hc.isSpelled s List.mem_cons_self
    dsimp only
    split
    · next v hv =>
      exact word_meets hc hdepth hs nofun
        (.number ((numberValue_eq_some_iff (hs ▸ hspelled)).mp hv)) rfl
    · exact .fail hc (Nat.le_succ_of_le hdepth)
  | string text => exact word_meets hc hdepth hs nofun (.string text) rfl
  | boolean b => exact word_meets hc hdepth hs nofun (.boolean b) rfl
  | identifier name =>
    refine .advance hc (by simp [hs]) fun hrest => ?_
    obtain ⟨t, rest, rfl⟩ := List.exists_cons_of_ne_nil hrest.ne_nil
    refine .current hrest ?_
    split
    · next ht =>
      refine (callTail_meets hinner name hrest hdepth ht).mono
        fun e c' _ ⟨hd, ts, ws, hts, hws, d, hle⟩ => ⟨hd, s :: ts, ws, ?_, ?_, d, hle⟩
      · exact congrArg (s :: ·) hts
      · rw [words, List.map_cons, hs]
        exact hws
    · exact .pure hrest
        ⟨rfl, [s], _, rfl, by rw [words, List.map_singleton, hs], .field name,
          Nat.lt_succ_of_le hdepth⟩
  | symbol x =>
    by_cases hx : x = .leftParen
    · subst hx
      refine .advance hc (by simp [hs]) fun hrest => ?_
      refine (hinner _ hrest hdepth).bind fun e c' ho ⟨hd, ts, ws, hts, hws, d, hle⟩ => ?_
      have hc' := hrest.onward ho
      obtain ⟨u, rest', depth', rfl⟩ := hc'.exists_cons
      obtain rfl : depth' = depth := hd
      refine .expect hc' (Nat.le_succ_of_le hdepth) fun hu hrest' => .pure hrest'
        ⟨rfl, s :: (ts ++ [u]), _, ?_, ?_, .group d, ?_⟩
      · rw [show rest = _ from hts]
        simp
      · simp only [words, List.map_cons, List.map_append, List.map_nil, ← hws, hs, hu]
      · exact Nat.succ_lt_succ hle
    · -- No other symbol begins a primary phrase.
      cases x <;> first
        | exact absurd rfl hx
        | exact .fail hc (Nat.le_succ_of_le hdepth)
  | endOfInput => exact .fail hc (Nat.le_succ_of_le hdepth)

/-! ### Operators -/

theorem unaryOp_eq_some_iff {s : Symbol} {op : UnaryOp} :
    unaryOp? s = some op ↔ (s, op) ∈ unaries := by
  cases s <;> simp [unaryOp?, unaries, eq_comm]

theorem comparisonOp_eq_some_iff {s : Symbol} {op : BinaryOp} :
    comparisonOp? s = some op ↔ (s, op) ∈ comparisons := by
  cases s <;> simp [comparisonOp?, comparisons, eq_comm]

/-- The operators that the parser takes for those of a chain of a level. -/
def chainOp? : Level → Symbol → Option BinaryOp
  | .disjunction => orOp?
  | .conjunction => andOp?
  | .sum => additiveOp?
  | .product => multiplicativeOp?
  | _ => fun _ => none

theorem chainOp_eq_some_iff {level : Level} {s : Symbol} {op : BinaryOp} :
    chainOp? level s = some op ↔ (s, op) ∈ level.operators := by
  cases level <;> cases s <;>
    simp [chainOp?, Level.operators, orOp?, andOp?, additiveOp?, multiplicativeOp?, eq_comm]

/-- A token at which an operator was found is written as that operator. -/
theorem exists_symbol {Op : Type} {op? : Symbol → Option Op} {t : Token} {op : Op}
    (h : t.symbol?.bind op? = some op) : ∃ s, t = .symbol s ∧ op? s = some op := by
  obtain ⟨s, hs, hop⟩ := Option.bind_eq_some_iff.mp h
  exact ⟨s, Token.symbol?_eq_some_iff.mp hs, hop⟩

/-! ### Unary operators and chains -/

theorem unary_isReader (hinner : IsReader limit limit .disjunction inner) (room : Nat) :
    IsReader limit (limit + 1) .unary (unary limit inner room) := by
  have hprimary : ∀ c : Cursor, c.IsLexed → c.depth ≤ limit →
      Meets limit (primary inner) c (Reads (limit + 1) .unary c) := by
    intro c hc hdepth
    exact (primary_isReader hinner c hc hdepth).mono fun e c' _ h => h.operand nofun
  induction room with
  | zero =>
    intro c hc hdepth
    obtain ⟨s, rest, depth, rfl⟩ := hc.exists_cons
    refine .operator hc ?_
    split
    · exact hprimary _ hc hdepth
    · next op hop =>
      obtain ⟨x, hx, _⟩ := exists_symbol hop
      exact .refused hc (by simp [hx]) hdepth
  | succ room ih =>
    intro c hc hdepth
    obtain ⟨s, rest, depth, rfl⟩ := hc.exists_cons
    refine .operator hc ?_
    split
    · exact hprimary _ hc hdepth
    · next op hop =>
      obtain ⟨x, hx, hop⟩ := exists_symbol hop
      refine .advance hc (by simp [hx]) fun hrest => ?_
      obtain ⟨t, rest, rfl⟩ := List.exists_cons_of_ne_nil hrest.ne_nil
      -- The level is given back after the operand, unlike that of an operator of a chain.
      rw [← bind_assoc]
      have hoperand : Meets limit (do enter limit; released (unary limit inner room))
          ⟨t :: rest, depth⟩ (Reads limit .unary ⟨t :: rest, depth⟩) := by
        refine .entered hrest hdepth fun hlt hrest' => ?_
        exact (ih _ hrest' hlt).mono fun e c' _ ⟨hd, ts, ws, hts, hws, d, hlt⟩ =>
          ⟨hd, rfl, ts, ws, hts, hws, d, by dsimp only at hlt ⊢; omega⟩
      refine hoperand.bind fun e c' ho ⟨hd, ts, ws, hts, hws, d, hlt⟩ => ?_
      refine .pure (hrest.onward ho) ⟨hd, s :: ts, _, congrArg (s :: ·) hts, ?_,
        .unary (unaryOp_eq_some_iff.mp hop) d, Nat.succ_lt_succ hlt⟩
      rw [words, List.map_cons, hx, ← hws, words]

/-- From one cursor to another the rest of a chain was read, the chain having
    begun at a cursor before both. -/
def ReadsChain (bound : Nat) (level : Level) (start : Cursor) (e : Expr) (c' : Cursor) : Prop :=
  ∃ ts ws, start.rest = ts ++ c'.rest ∧ words ts = ws ∧
    ∃ d : Derivation level ws e, start.depth + d.levels < bound

/-- What follows the first operand of a chain extends it by operators and
    operands. The depth tells how many operators there have been. -/
theorem chainTail_meets {level : Level} {operand : Parse Expr}
    (hoperand : IsReader limit (limit + 1) level.operand operand) (room : Nat) {start c : Cursor}
    {left : Expr} {ts : List Spanned} {ws : List Token} (hc : c.IsLexed) (hdepth : c.depth ≤ limit)
    (hts : start.rest = ts ++ c.rest) (hws : words ts = ws) (d : Derivation level ws left)
    (hwidth : start.depth + d.width = c.depth) (hlevels : start.depth + d.levels < limit + 1) :
    Meets limit (chainTail limit (chainOp? level) operand room left) c
      (ReadsChain (limit + 1) level start) := by
  induction room generalizing c left ts ws with
  | zero =>
    obtain ⟨s, rest, depth, rfl⟩ := hc.exists_cons
    refine .operator hc ?_
    split
    · exact .pure hc ⟨ts, ws, hts, hws, d, hlevels⟩
    · next op hop =>
      obtain ⟨x, hx, _⟩ := exists_symbol hop
      exact .refused hc (by simp [hx]) hdepth
  | succ room ih =>
    obtain ⟨s, rest, depth, rfl⟩ := hc.exists_cons
    refine .operator hc ?_
    split
    · exact .pure hc ⟨ts, ws, hts, hws, d, hlevels⟩
    · next op hop =>
      obtain ⟨x, hx, hop⟩ := exists_symbol hop
      refine .advance hc (by simp [hx]) fun hrest => ?_
      obtain ⟨t, rest, rfl⟩ := List.exists_cons_of_ne_nil hrest.ne_nil
      refine .enter hrest hdepth fun hlt hrest' => ?_
      refine (hoperand _ hrest' hlt).bind fun right c' ho ⟨hd, us, vs, hus, hvs, d', hlt'⟩ => ?_
      dsimp only at hd hus hts hwidth hlt'
      have hts' : start.rest = (ts ++ s :: us) ++ c'.rest := by
        rw [hts, hus, List.append_assoc, List.cons_append]
      refine ih (hrest'.onward ho) (by omega) hts' ?_ (.chain (chainOp_eq_some_iff.mp hop) d d')
        ?_ ?_
      · simp only [words, List.map_append, List.map_cons, ← hws, ← hvs, hx]
      · rw [Derivation.width]
        omega
      · rw [Derivation.levels]
        omega

theorem chain_isReader (level : Level) {operand : Parse Expr} (hlevel : level ≠ .primary)
    (hoperand : IsReader limit (limit + 1) level.operand operand) (room : Nat) :
    IsReader limit (limit + 1) level (chain limit room (chainOp? level) operand) := by
  intro c hc hdepth
  refine .of_run (run_get c) hc.refl ?_
  refine (hoperand c hc hdepth).bind fun first c' ho ⟨hd, ts, ws, hts, hws, d, hlt⟩ => ?_
  -- The operators have taken levels, which are given back all at once.
  have htail := chainTail_meets hoperand room (hc.onward ho) (hd ▸ hdepth) hts hws
    (.operand hlevel d) hd.symm hlt
  rw [← hd]
  exact htail.restored.mono fun e c'' _ ⟨hd', _, ts, ws, hts, hws, d, hlt⟩ =>
    ⟨hd'.trans hd, ts, ws, hts, hws, d, hlt⟩

/-- A comparison reads one sum, or two with an operator between them. -/
theorem comparison_isReader {room : Nat}
    (hsum : IsReader limit (limit + 1) .sum (additive limit room inner)) :
    IsReader limit (limit + 1) .comparison (comparison limit room inner) := by
  intro c hc hdepth
  refine (hsum c hc hdepth).bind fun left c' ho ⟨hd, ts, ws, hts, hws, d, hlt⟩ => ?_
  have hc' := hc.onward ho
  obtain ⟨s, rest, depth, rfl⟩ := hc'.exists_cons
  obtain rfl : depth = c.depth := hd
  refine .operator hc' ?_
  split
  · exact .pure hc' ⟨rfl, ts, ws, hts, hws, .operand nofun d, hlt⟩
  · next op hop =>
    obtain ⟨x, hx, hop⟩ := exists_symbol hop
    refine .advance hc' (by simp [hx]) fun hrest => ?_
    refine (hsum _ hrest hdepth).bind fun right c'' ho' ⟨hd', us, vs, hus, hvs, d', hlt'⟩ => ?_
    refine .pure (hrest.onward ho') ⟨hd', ts ++ s :: us, _, ?_, ?_,
      .comparison (comparisonOp_eq_some_iff.mp hop) d d', ?_⟩
    · rw [hts, List.append_assoc, List.cons_append, ← hus]
    · simp only [words, List.map_append, List.map_cons, ← hws, ← hvs, hx]
    · dsimp only at hlt'
      rw [Derivation.levels]
      omega

/-! ### Expressions -/

theorem disjunction_isReader (hinner : IsReader limit limit .disjunction inner) (room : Nat) :
    IsReader limit (limit + 1) .disjunction (disjunction limit room inner) := by
  have hproduct : IsReader limit (limit + 1) .product (multiplicative limit room inner) :=
    chain_isReader .product nofun (unary_isReader hinner room) room
  have hsum : IsReader limit (limit + 1) .sum (additive limit room inner) :=
    chain_isReader .sum nofun hproduct room
  have hconjunction : IsReader limit (limit + 1) .conjunction (conjunction limit room inner) :=
    chain_isReader .conjunction nofun (comparison_isReader hsum) room
  exact chain_isReader .disjunction nofun hconjunction room

/-- An expression is a disjunction one level deeper. -/
theorem expression_isReader (room : Nat) :
    IsReader limit limit .disjunction (expression limit room) := by
  induction room with
  | zero =>
    intro c hc hdepth
    obtain ⟨s, rest, depth, rfl⟩ := hc.exists_cons
    exact .enter hc hdepth fun hlt hc' => .fail hc' (by omega)
  | succ room ih =>
    intro c hc hdepth
    obtain ⟨s, rest, depth, rfl⟩ := hc.exists_cons
    refine .entered hc hdepth fun hlt hc' => ?_
    exact (disjunction_isReader ih room _ hc' hlt).mono
      fun e c' _ ⟨hd, ts, ws, hts, hws, d, hlt⟩ =>
        ⟨hd, rfl, ts, ws, hts, hws, d, by dsimp only at hlt ⊢; omega⟩

end Parse

end RuleEngine
