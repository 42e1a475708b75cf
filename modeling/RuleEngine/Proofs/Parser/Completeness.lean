import RuleEngine.Proofs.Parser.Soundness

/-!
# What is derived is read

The parser of a level reads every phrase of that level, as the tree that the
phrase stands for, if there are as many levels left as the derivation goes deep
and the phrase does not go on with the token after it (`Derivation.isRead`). So
the parser neither stops a chain too early nor takes a word too much.

The induction is on the derivation. A chain is derived from its last operator
but read from its first, so what is shown of a chain is that reading it from its
beginning is the same as going on after it (`IsReadThrough`).
-/

namespace RuleEngine

open Grammar

/-! ### What goes on with a phrase -/

/-- The place of a level among the levels. -/
def Grammar.Level.rank : Level → Nat
  | disjunction => 0
  | conjunction => 1
  | comparison => 2
  | sum => 3
  | product => 4
  | unary => 5
  | primary => 6

/-- The place of the level at which a symbol goes on with the phrase before it. -/
def Symbol.rank? : Symbol → Option Nat
  | or => some 0
  | and => some 1
  | equal => some 2
  | notEqual => some 2
  | less => some 2
  | greater => some 2
  | lessEqual => some 2
  | greaterEqual => some 2
  | regexMatch => some 2
  | regexNotMatch => some 2
  | plus => some 3
  | minus => some 3
  | star => some 4
  | slash => some 4
  | percent => some 4
  | leftParen => some 6
  | _ => none

/-- A phrase of a level may go on with a token. -/
def Grammar.Level.GoesOn (level : Level) (t : Token) : Prop :=
  ∃ s n, t = .symbol s ∧ s.rank? = some n ∧ level.rank ≤ n

namespace Grammar.Level

variable {level : Level} {t : Token} {s : Symbol} {op : BinaryOp}

theorem goesOn_iff {n : Nat} (h : s.rank? = some n) :
    level.GoesOn (.symbol s) ↔ level.rank ≤ n := by
  constructor
  · rintro ⟨s', n', hs', hn', hle⟩
    obtain rfl := Token.symbol.inj hs'
    rw [h] at hn'
    obtain rfl := Option.some.inj hn'
    exact hle
  · exact fun hle => ⟨s, n, rfl, h, hle⟩

theorem not_goesOn_of_rank (h : s.rank? = none) : ¬level.GoesOn (.symbol s) := by
  rintro ⟨s', n, hs', hs, _⟩
  obtain rfl := Token.symbol.inj hs'
  rw [h] at hs
  cases hs

theorem not_goesOn_endOfInput : ¬level.GoesOn .endOfInput := by
  rintro ⟨s, n, hs, _⟩
  cases hs

theorem not_goesOn_operand (h : ¬level.GoesOn t) : ¬level.operand.GoesOn t := by
  rintro ⟨s, n, ht, hs, hn⟩
  exact h ⟨s, n, ht, hs, Nat.le_trans (by cases level <;> decide) hn⟩

/-- The operators of a chain have the place of its level, and that of its
    operands comes after it. -/
theorem rank_operator (h : (s, op) ∈ level.operators) :
    s.rank? = some level.rank ∧ level.rank < level.operand.rank := by
  cases level <;> cases s <;> simp_all [operators, operand, rank, Symbol.rank?]

theorem rank_comparison (h : (s, op) ∈ comparisons) : s.rank? = some comparison.rank := by
  cases s <;> simp_all [comparisons, rank, Symbol.rank?]

/-- An operator of a chain does not go on with its operands. -/
theorem not_goesOn_operator (h : (s, op) ∈ level.operators) :
    ¬level.operand.GoesOn (.symbol s) := by
  obtain ⟨hs, hlt⟩ := rank_operator h
  rw [goesOn_iff hs]
  exact Nat.not_le_of_lt hlt

theorem not_goesOn_comparison (h : (s, op) ∈ comparisons) : ¬sum.GoesOn (.symbol s) := by
  rw [goesOn_iff (rank_comparison h)]
  decide

theorem chainOp_eq_none (h : ¬level.GoesOn t) : t.symbol?.bind (Parse.chainOp? level) = none := by
  rw [Option.eq_none_iff_forall_ne_some]
  intro op hop
  obtain ⟨s, rfl, hs⟩ := Parse.exists_symbol hop
  rw [Parse.chainOp_eq_some_iff] at hs
  exact h ((goesOn_iff (rank_operator hs).1).mpr (Nat.le_refl _))

theorem comparisonOp_eq_none (h : ¬comparison.GoesOn t) :
    t.symbol?.bind Parse.comparisonOp? = none := by
  rw [Option.eq_none_iff_forall_ne_some]
  intro op hop
  obtain ⟨s, rfl, hs⟩ := Parse.exists_symbol hop
  rw [Parse.comparisonOp_eq_some_iff] at hs
  exact h ((goesOn_iff (rank_comparison hs)).mpr (Nat.le_refl _))

theorem ne_leftParen (h : ¬primary.GoesOn t) : t ≠ .symbol .leftParen := by
  rintro rfl
  exact h ((goesOn_iff rfl).mpr (Nat.le_refl _))

end Grammar.Level

/-! ### How a phrase begins -/

theorem exists_cons_of_words {ts : List Spanned} {ws : List Token} (h : words ts = ws)
    (hne : ws ≠ []) : ∃ t ts', ts = t :: ts' := by
  refine List.exists_cons_of_ne_nil ?_
  rintro rfl
  exact hne h.symm

/-- Where words are split, so are the tokens that they come from. -/
theorem words_eq_append_cons {vs : List Spanned} {ts us : List Token} {t : Token}
    (h : words vs = ts ++ t :: us) :
    ∃ as v bs, vs = as ++ v :: bs ∧ words as = ts ∧ v.token = t ∧ words bs = us := by
  obtain ⟨as, _, rfl, has, hbs⟩ := List.map_eq_append_iff.mp h
  obtain ⟨v, bs, rfl, hv, hbs⟩ := List.map_eq_cons_iff.mp hbs
  exact ⟨as, v, bs, rfl, has, hv, hbs⟩

namespace Grammar

theorem Derivation.ne_nil {level : Level} {ws : List Token} {e : Expr}
    (d : Derivation level ws e) : ws ≠ [] :=
  List.ne_nil_of_length_pos (Nat.zero_lt_of_lt d.levels_lt)

mutual

/-- No phrase begins with a closing parenthesis. -/
theorem Derivation.head_ne {level : Level} {ws : List Token} {e : Expr} :
    (d : Derivation level ws e) → ws.head? ≠ some (.symbol .rightParen)
  | .operand _ d => d.head_ne
  | .chain _ first _ => by
    obtain ⟨t, us, rfl⟩ := List.exists_cons_of_ne_nil first.ne_nil
    exact first.head_ne
  | .comparison _ first _ => by
    obtain ⟨t, us, rfl⟩ := List.exists_cons_of_ne_nil first.ne_nil
    exact first.head_ne
  | .unary h _ => by
    intro heq
    obtain rfl := Token.symbol.inj (Option.some.inj heq)
    simp [unaries] at h
  | .number _ => nofun
  | .string _ => nofun
  | .boolean _ => nofun
  | .field _ => nofun
  | .emptyCall _ => nofun
  | .call _ _ => nofun
  | .group _ => nofun

theorem Arguments.head_ne {ws : List Token} {es : List Expr} :
    (a : Arguments ws es) → ws.head? ≠ some (.symbol .rightParen)
  | .last d => d.head_ne
  | .more d _ => by
    obtain ⟨t, us, rfl⟩ := List.exists_cons_of_ne_nil d.ne_nil
    exact d.head_ne

end

theorem Arguments.ne_nil {ws : List Token} {es : List Expr} (a : Arguments ws es) : ws ≠ [] := by
  cases a with
  | last d => exact d.ne_nil
  | more d a => exact List.append_ne_nil_of_left_ne_nil d.ne_nil _

/-- A primary phrase does not begin with a unary operator. -/
theorem Derivation.unaryOp_eq_none {s : Spanned} {ts : List Spanned} {e : Expr} {ws : List Token}
    (d : Derivation .primary ws e) (hws : words (s :: ts) = ws) :
    s.token.symbol?.bind Parse.unaryOp? = none := by
  cases d with
  | operand h d => exact absurd rfl h
  | chain h first last => exact absurd h List.not_mem_nil
  | _ =>
    rw [words, List.map_cons] at hws
    rw [List.head_eq_of_cons_eq hws]
    rfl

end Grammar

/-! ### The parsers of the levels -/

namespace Parse

/-- The parser of a level, with so much room for chains and expressions inside,
    and so much for unary operators. -/
def reader (limit room unaries : Nat) : Level → Parse Expr
  | .disjunction => disjunction limit room (expression limit room)
  | .conjunction => conjunction limit room (expression limit room)
  | .comparison => comparison limit room (expression limit room)
  | .sum => additive limit room (expression limit room)
  | .product => multiplicative limit room (expression limit room)
  | .unary => unary limit (expression limit room) unaries
  | .primary => primary (expression limit room)

/-- What follows the first operand of a chain of a level. -/
def continuation (limit room : Nat) (level : Level) : Nat → Expr → Parse Expr :=
  chainTail limit (chainOp? level) (reader limit room room level.operand)

/-- Words are read as a phrase of a level wherever it does not go on after them
    and so many levels are left. -/
def IsRead (level : Level) (ws : List Token) (e : Expr) (levels : Nat) : Prop :=
  ∀ (limit room unaries depth : Nat) (ts : List Spanned) (s : Spanned) (rest : List Spanned),
    words ts = ws → ¬level.GoesOn s.token → depth + levels ≤ limit → limit ≤ depth + room →
    limit ≤ depth + unaries →
    (reader limit room unaries level).run ⟨ts ++ s :: rest, depth⟩ = (.ok e, ⟨s :: rest, depth⟩)

/-- Reading words as the beginning of a chain is going on after them with the
    tree they stand for, so many operators later. -/
def IsReadThrough (level : Level) (ws : List Token) (e : Expr) (width levels : Nat) : Prop :=
  ∀ (limit room depth : Nat) (ts : List Spanned) (s : Spanned) (rest : List Spanned),
    words ts = ws → ¬level.operand.GoesOn s.token → depth + levels ≤ limit →
    limit ≤ depth + room →
    (reader limit room room level.operand >>= continuation limit room level room).run
        ⟨ts ++ s :: rest, depth⟩ =
      (continuation limit room level (room - width) e).run ⟨s :: rest, depth + width⟩

/-- Words are read as the arguments of a call where a parenthesis closes it and
    so many levels are left. -/
def IsReadArguments (ws : List Token) (es : List Expr) (levels : Nat) : Prop :=
  ∀ (limit room bound depth : Nat) (ts : List Spanned) (s : Spanned) (rest : List Spanned),
    words ts = ws → s.token = .symbol .rightParen → depth + levels ≤ limit →
    limit ≤ depth + room → ts.length ≤ bound →
    (arguments (expression limit room) bound).run ⟨ts ++ s :: rest, depth⟩ =
      (.ok es, ⟨s :: rest, depth⟩)

/-- An expression is a disjunction with one more level left. -/
theorem IsRead.expression {ws : List Token} {e : Expr} {levels : Nat}
    (h : IsRead .disjunction ws e levels) {limit room depth : Nat} {ts : List Spanned}
    {s : Spanned} {rest : List Spanned} (hws : words ts = ws)
    (hs : ¬Level.disjunction.GoesOn s.token) (hdepth : depth + levels < limit)
    (hroom : limit ≤ depth + room) :
    (Parse.expression limit room).run ⟨ts ++ s :: rest, depth⟩ = (.ok e, ⟨s :: rest, depth⟩) := by
  obtain _ | room := room
  · omega
  obtain ⟨t, ts', hts⟩ := List.exists_cons_of_ne_nil
    (List.append_ne_nil_of_right_ne_nil ts (List.cons_ne_nil s rest))
  have hrun := h limit room room (depth + 1) ts s rest hws hs (by omega) (by omega) (by omega)
  rw [hts] at hrun ⊢
  rw [Parse.expression, run_bind_ok (run_enter_of_lt (by omega) t ts'), run_released]
  exact congrArg (fun r => (r.1, (⟨r.2.rest, r.2.depth - 1⟩ : Cursor))) hrun

/-! ### Chains -/

/-- Where the phrase of a level does not go on, its chain stops. -/
theorem run_chainTail_of_not_goesOn {level : Level} {s : Spanned} (h : ¬level.GoesOn s.token)
    (limit : Nat) (operand : Parse Expr) (room : Nat) (e : Expr) (rest : List Spanned)
    (depth : Nat) : (chainTail limit (chainOp? level) operand room e).run ⟨s :: rest, depth⟩ =
      (.ok e, ⟨s :: rest, depth⟩) := by
  cases room <;>
    rw [chainTail, run_bind_ok (run_operator _ _ _ _), Level.chainOp_eq_none h] <;> rfl

/-- Where there is an operator of a chain, the chain goes on after its operand. -/
theorem run_chainTail_operator {level : Level} {x : Symbol} {op : BinaryOp}
    (h : (x, op) ∈ level.operators) {limit room depth : Nat} {operand : Parse Expr}
    {s t : Spanned} {rest : List Spanned} {left right : Expr} {c : Cursor}
    (hs : s.token = .symbol x) (hdepth : depth < limit)
    (hright : operand.run ⟨t :: rest, depth + 1⟩ = (.ok right, c)) :
    (chainTail limit (chainOp? level) operand (room + 1) left).run ⟨s :: t :: rest, depth⟩ =
      (chainTail limit (chainOp? level) operand room (.binary op left right)).run c := by
  have hop : s.token.symbol?.bind (chainOp? level) = some op := by
    rw [hs]
    exact chainOp_eq_some_iff.mpr h
  rw [chainTail, run_bind_ok (run_operator _ _ _ _), hop]
  dsimp only
  rw [run_bind_ok (run_advance _ _ _ _), run_bind_ok (run_enter_of_lt hdepth _ _),
    run_bind_ok hright]

theorem IsRead.isReadThrough {level : Level} {ws : List Token} {e : Expr} {levels : Nat}
    (h : IsRead level.operand ws e levels) : IsReadThrough level ws e 0 levels :=
  fun limit room depth ts s rest hws hs hdepth hroom =>
    run_bind_ok (h limit room room depth ts s rest hws hs hdepth hroom hroom)

/-- The parser of a level with operators is that of a chain. -/
theorem reader_eq_chain {level : Level} (h : level.operators ≠ []) (limit room unaries : Nat) :
    reader limit room unaries level =
      chain limit room (chainOp? level) (reader limit room room level.operand) := by
  cases level <;> first
    | rfl
    | exact absurd rfl h

/-- A chain is its first operand and what follows it, at the depth it began at. -/
theorem run_chain {limit room : Nat} {op? : Symbol → Option BinaryOp} {operand : Parse Expr}
    {c c' : Cursor} {e : Expr}
    (h : (operand >>= chainTail limit op? operand room).run c = (.ok e, c')) :
    (chain limit room op? operand).run c = (.ok e, ⟨c'.rest, c.depth⟩) := by
  rw [chain, run_bind_ok (run_get _), ← bind_assoc, run_bind_ok h]
  rfl

theorem IsReadThrough.isRead {level : Level} {ws : List Token} {e : Expr} {width levels : Nat}
    (hlevel : level.operators ≠ []) (h : IsReadThrough level ws e width levels) :
    IsRead level ws e levels := by
  intro limit room unaries depth ts s rest hws hs hdepth hroom _
  have hrun := h limit room depth ts s rest hws (Level.not_goesOn_operand hs) hdepth hroom
  rw [continuation, run_chainTail_of_not_goesOn hs] at hrun
  rw [reader_eq_chain hlevel, run_chain hrun]

/-- One more operator and operand are read after a chain. -/
theorem IsReadThrough.chain {level : Level} {ts us : List Token} {left right : Expr} {x : Symbol}
    {op : BinaryOp} {width levels levels' : Nat} (hop : (x, op) ∈ level.operators)
    (hfirst : IsReadThrough level ts left width levels)
    (hlast : IsRead level.operand us right levels') (hne : us ≠ []) :
    IsReadThrough level (ts ++ .symbol x :: us) (.binary op left right) (width + 1)
      (max levels (width + 1 + levels')) := by
  intro limit room depth ts' s rest hws hs hdepth hroom
  obtain ⟨vs, u, vs', rfl, hvs, hu, hvs'⟩ := words_eq_append_cons hws
  obtain ⟨t, vs', rfl⟩ := exists_cons_of_words hvs' hne
  have hu' : ¬level.operand.GoesOn u.token := by
    rw [hu]
    exact Level.not_goesOn_operator hop
  -- Before the last operand there is one level open for each operator of the chain.
  have hright := hlast limit room room (depth + width + 1) (t :: vs') s rest hvs' hs (by omega)
    (by omega) (by omega)
  rw [List.append_assoc, List.cons_append, hfirst limit room depth vs u _ hvs hu' (by omega) hroom,
    show room - width = room - (width + 1) + 1 by omega]
  exact run_chainTail_operator hop hu (by omega) hright

/-! ### Comparisons and unary operators -/

theorem IsRead.comparisonOperand {ws : List Token} {e : Expr} {levels : Nat}
    (h : IsRead .sum ws e levels) : IsRead .comparison ws e levels := by
  intro limit room unaries depth ts s rest hws hs hdepth hroom hunaries
  have hrun := h limit room unaries depth ts s rest hws (Level.not_goesOn_operand hs) hdepth
    hroom hunaries
  rw [reader] at hrun
  rw [reader, comparison, run_bind_ok hrun, run_bind_ok (run_operator _ _ _ _),
    Level.comparisonOp_eq_none hs]
  rfl

theorem IsRead.comparison {ts us : List Token} {left right : Expr} {x : Symbol} {op : BinaryOp}
    {levels levels' : Nat} (hop : (x, op) ∈ comparisons) (hfirst : IsRead .sum ts left levels)
    (hlast : IsRead .sum us right levels') (hne : us ≠ []) :
    IsRead .comparison (ts ++ .symbol x :: us) (.binary op left right) (max levels levels') := by
  intro limit room unaries depth ts' s rest hws hs hdepth hroom hunaries
  obtain ⟨vs, u, vs', rfl, hvs, hu, hvs'⟩ := words_eq_append_cons hws
  obtain ⟨t, vs', rfl⟩ := exists_cons_of_words hvs' hne
  have hu' : ¬Level.sum.GoesOn u.token := by
    rw [hu]
    exact Level.not_goesOn_comparison hop
  have hop' : u.token.symbol?.bind comparisonOp? = some op := by
    rw [hu]
    exact comparisonOp_eq_some_iff.mpr hop
  have hleft := hfirst limit room unaries depth vs u (t :: vs' ++ s :: rest) hvs hu' (by omega)
    hroom hunaries
  have hright := hlast limit room unaries depth (t :: vs') s rest hvs'
    (Level.not_goesOn_operand hs) (by omega) hroom hunaries
  rw [reader] at hleft hright
  rw [List.append_assoc, reader, Parse.comparison, List.cons_append, run_bind_ok hleft,
    List.cons_append, run_bind_ok (run_operator _ _ _ _), hop']
  dsimp only
  rw [run_bind_ok (run_advance _ _ _ _), ← List.cons_append, run_bind_ok hright]
  rfl

theorem IsRead.unaryOperand {ws : List Token} {e : Expr} {levels : Nat}
    (h : IsRead .primary ws e levels) (d : Derivation .primary ws e) :
    IsRead .unary ws e levels := by
  intro limit room unaries depth ts s rest hws hs hdepth hroom hunaries
  obtain ⟨t, ts, rfl⟩ := exists_cons_of_words hws d.ne_nil
  have hrun := h limit room unaries depth (t :: ts) s rest hws (Level.not_goesOn_operand hs)
    hdepth hroom hunaries
  cases unaries <;>
    rw [reader, unary, List.cons_append, run_bind_ok (run_operator _ _ _ _),
      d.unaryOp_eq_none hws] <;> exact hrun

theorem IsRead.unary {ws : List Token} {e : Expr} {x : Symbol} {op : UnaryOp} {levels : Nat}
    (hop : (x, op) ∈ unaries) (h : IsRead .unary ws e levels) (hne : ws ≠ []) :
    IsRead .unary (.symbol x :: ws) (.unary op e) (levels + 1) := by
  intro limit room unaries depth ts s rest hws hs hdepth hroom hunaries
  obtain ⟨u, ts, rfl, hu, hts⟩ := List.map_eq_cons_iff.mp hws
  obtain ⟨t, ts, rfl⟩ := exists_cons_of_words hts hne
  obtain _ | unaries := unaries
  · omega
  have hop' : u.token.symbol?.bind unaryOp? = some op := by
    rw [hu]
    exact unaryOp_eq_some_iff.mpr hop
  have hrun := h limit room unaries (depth + 1) (t :: ts) s rest hts hs (by omega) (by omega)
    (by omega)
  rw [reader] at hrun
  rw [reader, Parse.unary, List.cons_append, List.cons_append, run_bind_ok (run_operator _ _ _ _),
    hop']
  dsimp only
  rw [run_bind_ok (run_advance _ _ _ _), run_bind_ok (run_enter_of_lt (by omega) _ _),
    ← List.cons_append, run_bind_ok (run_released_ok hrun)]
  rfl

/-! ### Primary phrases -/

theorem IsReadArguments.last {ws : List Token} {e : Expr} {levels : Nat}
    (h : IsRead .disjunction ws e levels) (hne : ws ≠ []) :
    IsReadArguments ws [e] (levels + 1) := by
  intro limit room bound depth ts s rest hws hs hdepth hroom hbound
  -- There is an argument, so the room for arguments is not used up.
  have hpos : 0 < ts.length := by
    rw [← List.length_map, ← words, hws]
    exact List.length_pos_iff.mpr hne
  obtain _ | bound := bound
  · omega
  have hs' : ¬Level.disjunction.GoesOn s.token := by
    rw [hs]
    exact Level.not_goesOn_of_rank rfl
  rw [arguments, run_bind_ok (h.expression hws hs' hdepth hroom), run_bind_ok (run_current _ _ _),
    hs]
  rfl

theorem IsReadArguments.more {ws us : List Token} {e : Expr} {es : List Expr}
    {levels levels' : Nat} (h : IsRead .disjunction ws e levels)
    (hes : IsReadArguments us es levels') (hne : us ≠ []) :
    IsReadArguments (ws ++ .symbol .comma :: us) (e :: es) (max (levels + 1) levels') := by
  intro limit room bound depth ts s rest hws hs hdepth hroom hbound
  obtain ⟨vs, u, vs', rfl, hvs, hu, hvs'⟩ := words_eq_append_cons hws
  obtain ⟨t, vs', rfl⟩ := exists_cons_of_words hvs' hne
  have hu' : ¬Level.disjunction.GoesOn u.token := by
    rw [hu]
    exact Level.not_goesOn_of_rank rfl
  rw [List.length_append, List.length_cons] at hbound
  obtain _ | bound := bound
  · omega
  rw [List.append_assoc, List.cons_append, arguments,
    run_bind_ok (h.expression hvs hu' (by omega) hroom), run_bind_ok (run_current _ _ _), hu,
    if_pos rfl, List.cons_append, run_bind_ok (run_advance _ _ _ _), ← List.cons_append,
    run_bind_ok (hes limit room bound depth _ s rest hvs' hs (by omega) hroom (by omega))]
  rfl

theorem IsRead.group {ws : List Token} {e : Expr} {levels : Nat}
    (h : IsRead .disjunction ws e levels) (hne : ws ≠ []) :
    IsRead .primary (.symbol .leftParen :: (ws ++ [.symbol .rightParen])) e (levels + 1) := by
  intro limit room unaries depth ts s rest hws hs hdepth hroom hunaries
  obtain ⟨u, ts, rfl, hu, hts⟩ := List.map_eq_cons_iff.mp hws
  obtain ⟨vs, v, ts, rfl, hvs, hv, hnil⟩ := words_eq_append_cons hts
  obtain rfl := List.map_eq_nil_iff.mp hnil
  obtain ⟨t, vs, rfl⟩ := exists_cons_of_words hvs hne
  have hv' : ¬Level.disjunction.GoesOn v.token := by
    rw [hv]
    exact Level.not_goesOn_of_rank rfl
  rw [reader, primary, List.cons_append, run_bind_ok (run_current _ _ _), hu, List.append_assoc]
  dsimp only
  rw [List.cons_append, run_bind_ok (run_advance _ _ _ _), ← List.cons_append,
    List.singleton_append, run_bind_ok (h.expression hvs hv' (by omega) hroom),
    run_bind_ok (run_expect hv _ _ _)]
  rfl

theorem IsRead.emptyCall (function : String) :
    IsRead .primary [.identifier function, .symbol .leftParen, .symbol .rightParen]
      (.call function []) 0 := by
  intro limit room unaries depth ts s rest hws hs hdepth hroom hunaries
  obtain ⟨t, ts, rfl, ht, hts⟩ := List.map_eq_cons_iff.mp hws
  obtain ⟨u, ts, rfl, hu, hts⟩ := List.map_eq_cons_iff.mp hts
  obtain ⟨v, ts, rfl, hv, hts⟩ := List.map_eq_cons_iff.mp hts
  obtain rfl := List.map_eq_nil_iff.mp hts
  simp only [reader, primary, callTail, List.cons_append, List.nil_append, run_bind, run_current,
    run_advance, ht, hu, hv, if_pos, run_pure]

theorem IsRead.call {ws : List Token} {es : List Expr} {levels : Nat} (function : String)
    (h : IsReadArguments ws es levels) (a : Arguments ws es) :
    IsRead .primary (.identifier function :: .symbol .leftParen :: (ws ++ [.symbol .rightParen]))
      (.call function es) levels := by
  intro limit room unaries depth ts s rest hws hs hdepth hroom hunaries
  obtain ⟨t, ts, rfl, ht, hts⟩ := List.map_eq_cons_iff.mp hws
  obtain ⟨u, ts, rfl, hu, hts⟩ := List.map_eq_cons_iff.mp hts
  obtain ⟨vs, v, ts, rfl, hvs, hv, hnil⟩ := words_eq_append_cons hts
  obtain rfl := List.map_eq_nil_iff.mp hnil
  obtain ⟨w, vs, rfl⟩ := exists_cons_of_words hvs a.ne_nil
  -- The arguments do not look like the end of a call without any.
  have hw : w.token ≠ .symbol .rightParen := by
    intro heq
    exact a.head_ne (by rw [← hvs, words, List.map_cons, List.head?_cons, heq])
  have hrun := h limit room (w :: vs ++ v :: s :: rest).length depth (w :: vs) v (s :: rest) hvs hv
    hdepth hroom (by simp)
  rw [reader, primary, List.cons_append, run_bind_ok (run_current _ _ _), ht]
  dsimp only
  rw [List.cons_append, run_bind_ok (run_advance _ _ _ _), run_bind_ok (run_current _ _ _), hu,
    if_pos rfl, callTail, List.append_assoc, List.cons_append, run_bind_ok (run_advance _ _ _ _),
    run_bind_ok (run_current _ _ _), if_neg hw, run_bind_ok (run_get _), ← List.cons_append,
    List.singleton_append, run_bind_ok hrun, run_bind_ok (run_expect hv _ _ _)]
  rfl

theorem IsRead.word {t : Token} {e : Expr}
    (h : ∀ (inner : Parse Expr) (s u : Spanned) (rest : List Spanned) (depth : Nat), s.token = t →
      ¬Level.primary.GoesOn u.token →
      (primary inner).run ⟨s :: u :: rest, depth⟩ = (.ok e, ⟨u :: rest, depth⟩)) :
    IsRead .primary [t] e 0 := by
  intro limit room unaries depth ts s rest hws hs hdepth hroom hunaries
  obtain ⟨u, ts, rfl, hu, hts⟩ := List.map_eq_cons_iff.mp hws
  obtain rfl := List.map_eq_nil_iff.mp hts
  exact h _ u s rest depth hu hs

theorem IsRead.number {text : String} {v : Value} (h : Numeral text v) :
    IsRead .primary [.number text] (.literal v) 0 := by
  refine .word fun inner s u rest depth hs _ => ?_
  have hv : numberValue? text = some v := (numberValue_eq_some_iff h.isSpelled).mpr h
  simp only [primary, run_bind, run_current, hs, hv, run_advance, run_pure]

/-- A phrase of a level that is a single operand is read as that operand is. -/
theorem IsRead.operand {level : Level} {ws : List Token} {e : Expr} {levels : Nat}
    (h : IsRead level.operand ws e levels) (hlevel : level ≠ .primary)
    (d : Derivation level.operand ws e) : IsRead level ws e levels := by
  cases level with
  | disjunction => exact h.isReadThrough.isRead nofun
  | conjunction => exact h.isReadThrough.isRead nofun
  | comparison => exact h.comparisonOperand
  | sum => exact h.isReadThrough.isRead nofun
  | product => exact h.isReadThrough.isRead nofun
  | unary => exact h.unaryOperand d
  | primary => exact absurd rfl hlevel

end Parse

/-! ### Derivations -/

namespace Grammar

open Parse

mutual

/-- Every phrase is read as the tree that it stands for. -/
theorem Derivation.isRead {level : Level} {ws : List Token} {e : Expr} :
    (d : Derivation level ws e) → IsRead level ws e d.levels
  | .operand h d => d.isRead.operand h d
  | .chain h first last =>
    -- The whole chain is read through as well, and nothing goes on after it.
    have hlevel := List.ne_nil_of_mem h
    ((first.isReadThrough hlevel).chain h last.isRead last.ne_nil).isRead hlevel
  | .comparison h first last => first.isRead.comparison h last.isRead last.ne_nil
  | .unary h d => d.isRead.unary h d.ne_nil
  | .number h => .number h
  | .string text => .word fun _ _ _ _ _ hs _ => by
    simp only [primary, run_bind, run_current, hs, run_advance, run_pure]
  | .boolean b => .word fun _ _ _ _ _ hs _ => by
    simp only [primary, run_bind, run_current, hs, run_advance, run_pure]
  | .field name => .word fun _ _ _ _ _ hs hu => by
    simp only [primary, run_bind, run_current, hs, run_advance, Level.ne_leftParen hu, if_false,
      run_pure]
  | .emptyCall function => .emptyCall function
  | .call function a => IsRead.call function a.isRead a
  | .group d => d.isRead.group d.ne_nil

/-- The beginning of a chain is read through to the end of the chain. -/
theorem Derivation.isReadThrough {level : Level} {ws : List Token} {e : Expr} :
    (d : Derivation level ws e) → level.operators ≠ [] →
      IsReadThrough level ws e d.width d.levels
  | .operand _ d, _ => d.isRead.isReadThrough
  | .chain h first last, hlevel =>
    (first.isReadThrough hlevel).chain h last.isRead last.ne_nil
  | .comparison _ _ _, hlevel => absurd rfl hlevel
  | .unary _ _, hlevel => absurd rfl hlevel
  | .number _, hlevel => absurd rfl hlevel
  | .string _, hlevel => absurd rfl hlevel
  | .boolean _, hlevel => absurd rfl hlevel
  | .field _, hlevel => absurd rfl hlevel
  | .emptyCall _, hlevel => absurd rfl hlevel
  | .call _ _, hlevel => absurd rfl hlevel
  | .group _, hlevel => absurd rfl hlevel

theorem Arguments.isRead {ws : List Token} {es : List Expr} :
    (a : Arguments ws es) → IsReadArguments ws es a.levels
  | .last d => .last d.isRead d.ne_nil
  | .more d a => .more d.isRead a.isRead a.ne_nil

end

end Grammar

end RuleEngine
