import RuleEngine.Proofs.Parser.Completeness

/-!
# What a rule is read as

Reading a text whole finds the tree that its words stand for, provided that the
derivation goes less deep than the limit (`parse_eq_ok_iff`), and fails with a
syntax error otherwise (`parse_eq_error`). With a limit of as many levels as
there are tokens no derivation goes too deep, so a text is accepted exactly when
its words are a rule. The grammar is unambiguous since the parser finds every
derivation (`Derives.unique`).
-/

namespace RuleEngine

open Grammar

/-- The words before the end of the input. -/
def phrase (tokens : List Spanned) : List Token :=
  (words tokens).takeWhile (· ≠ .endOfInput)

theorem phrase_cons {t : Token} (h : t ≠ .endOfInput) (offset : Nat) (tokens : List Spanned) :
    phrase (⟨t, offset⟩ :: tokens) = t :: phrase tokens :=
  List.takeWhile_cons_of_pos (decide_eq_true h)

theorem phrase_concat {ts : List Spanned} {s : Spanned} (hs : s.token = .endOfInput)
    (hts : ∀ t ∈ ts, t.token ≠ .endOfInput) : phrase (ts ++ [s]) = words ts := by
  have hwords : ∀ t ∈ words ts, decide (t ≠ .endOfInput) = true := by
    intro t ht
    obtain ⟨u, hu, rfl⟩ := List.mem_map.mp ht
    exact decide_eq_true (hts u hu)
  rw [phrase, words, List.map_append, ← words, List.takeWhile_append_of_pos hwords]
  simp [hs]

/-- Only the last of some tokens is the end of the input. -/
theorem Cursor.IsLexed.split {ts rest : List Spanned} {s : Spanned} {depth : Nat}
    (h : IsLexed ⟨ts ++ s :: rest, depth⟩) (hs : s.token = .endOfInput) :
    rest = [] ∧ phrase (ts ++ s :: rest) = words ts := by
  obtain ⟨us, last, hus, hlast, hne⟩ := h.ends
  dsimp only at hus
  have hsuffix : s :: rest <:+ us ++ [last] := ⟨ts, hus⟩
  obtain hnil | ⟨vs, hvs, hsuffix⟩ := List.suffix_concat_iff.mp hsuffix
  · cases hnil
  cases vs with
  | nil =>
    obtain ⟨rfl, rfl⟩ := List.cons.inj hvs
    obtain rfl := List.append_cancel_right hus
    exact ⟨rfl, phrase_concat hs hne⟩
  | cons v vs =>
    obtain ⟨rfl, _⟩ := List.cons.inj hvs
    exact absurd hs (hne s (hsuffix.subset List.mem_cons_self))

namespace Parse

variable {tokens : List Spanned}

/-- A rule is read as a phrase of all the words before the end of the input. -/
theorem rule_meets (limit : Nat) (hc : Cursor.IsLexed ⟨tokens, 0⟩) :
    Meets limit (rule limit) ⟨tokens, 0⟩ fun e _ =>
      ∃ d : Derivation .disjunction (phrase tokens) e, d.levels < limit := by
  obtain ⟨s, rest, rfl⟩ := List.exists_cons_of_ne_nil hc.ne_nil
  refine .current hc ?_
  split
  · rw [Meets, run_bind, run_fail]
    exact ⟨hc.refl, Nat.zero_le _, s, rest, _, rfl, rfl⟩
  refine (expression_isReader limit _ hc (Nat.zero_le _)).bind ?_
  rintro e c' ho ⟨hd, us, ws, hus, hws, d, hlevels⟩
  have hc' := hc.onward ho
  obtain ⟨t, rest', depth, rfl⟩ := hc'.exists_cons
  obtain rfl : depth = 0 := hd
  refine .current hc' ?_
  split
  · next ht =>
    dsimp only at hus
    rw [hus] at hc ⊢
    rw [(hc.split ht).2, hws]
    rw [Nat.zero_add] at hlevels
    exact .pure hc' ⟨d, hlevels⟩
  · exact .fail hc' (Nat.zero_le _)

/-- A phrase of all the words before the end of the input is read as a rule. -/
theorem run_rule {limit : Nat} (hc : Cursor.IsLexed ⟨tokens, 0⟩) {e : Expr}
    (d : Derivation .disjunction (phrase tokens) e) (hlevels : d.levels < limit) :
    ((rule limit).run ⟨tokens, 0⟩).1 = .ok e := by
  obtain ⟨ts, last, htokens, hlast, hts⟩ := hc.ends
  dsimp only at htokens
  -- There are words, so the first token is not the end of the input.
  obtain ⟨t, ts, rfl⟩ := exists_cons_of_words (phrase_concat hlast hts).symm
    (htokens ▸ d.ne_nil)
  have hlast' : ¬Level.disjunction.GoesOn last.token := by
    rw [hlast]
    exact Level.not_goesOn_endOfInput
  have hwords : words (t :: ts) = phrase tokens := by
    rw [htokens, phrase_concat hlast hts]
  have hrun : (expression limit limit).run ⟨t :: ts ++ [last], 0⟩ = (.ok e, ⟨[last], 0⟩) :=
    d.isRead.expression hwords hlast' (by omega) (by omega)
  have ht : t.token ≠ .endOfInput := hts t List.mem_cons_self
  rw [rule, htokens, List.cons_append, run_bind_ok (run_current _ _ _), if_neg ht]
  dsimp only
  rw [← List.cons_append, run_bind_ok hrun, run_bind_ok (run_current _ _ _), if_pos hlast]
  rfl

end Parse

/-! ### Whole texts -/

variable {source : String} {limit : Nat} {tokens : List Spanned}

/-- A text is read as the tree of the derivation of its words, if that goes less
    deep than the limit. -/
theorem parse_eq_ok_iff (hscan : Token.scan source = .ok tokens) {e : Expr} :
    Expr.parse source limit = .ok e ↔
      ∃ d : Derivation .disjunction (phrase tokens) e, d.levels < limit := by
  have hc := Token.scan_isLexed hscan 0
  rw [Expr.parse, hscan]
  dsimp only
  constructor
  · intro h
    have hmeets := Parse.rule_meets limit hc
    rw [Parse.Meets] at hmeets
    split at hmeets
    · next a c' hrun =>
      rw [hrun] at h
      obtain rfl := Except.ok.inj h
      exact hmeets.2
    · next hrun =>
      rw [hrun] at h
      cases h
  · rintro ⟨d, hlevels⟩
    exact Parse.run_rule hc d hlevels

/-- What is read as a tree consists of words that stand for it. -/
theorem exists_derivation_of_parse {e : Expr} (h : Expr.parse source limit = .ok e) :
    ∃ tokens, Token.scan source = .ok tokens ∧
      ∃ d : Derivation .disjunction (phrase tokens) e, d.levels < limit := by
  cases hscan : Token.scan source with
  | error problem =>
    rw [Expr.parse, hscan] at h
    cases h
  | ok tokens => exact ⟨tokens, rfl, (parse_eq_ok_iff hscan).mp h⟩

/-- What is read as a tree is read as the same tree if there may be more levels. -/
theorem parse_of_le {e : Expr} {limit' : Nat} (hle : limit ≤ limit')
    (h : Expr.parse source limit = .ok e) : Expr.parse source limit' = .ok e := by
  obtain ⟨tokens, hscan, d, hlevels⟩ := exists_derivation_of_parse h
  exact (parse_eq_ok_iff hscan).mpr ⟨d, Nat.lt_of_lt_of_le hlevels hle⟩

/-- What is not read as a tree is a syntax error. -/
theorem parse_eq_error (hscan : Token.scan source = .ok tokens)
    (h : ∀ e, Expr.parse source limit ≠ .ok e) :
    ∃ offset problem, Expr.parse source limit = .error (.badSyntax offset problem) := by
  have hmeets := Parse.rule_meets limit (Token.scan_isLexed hscan 0)
  rw [Expr.parse, hscan] at h ⊢
  dsimp only at h ⊢
  rw [Parse.Meets] at hmeets
  split at hmeets
  · next a c' hrun =>
    exact absurd (congrArg Prod.fst hrun) (h a)
  · next e c' hrun =>
    obtain ⟨_, _, s, _, problem, _, rfl⟩ := hmeets
    exact ⟨s.offset, problem, congrArg Prod.fst hrun⟩

/-- Words stand for at most one tree. -/
theorem Grammar.Derives.unique {ws : List Token} {e e' : Expr} (h : Derives ws e)
    (h' : Derives ws e') : e = e' := by
  obtain ⟨d⟩ := h
  obtain ⟨d'⟩ := h'
  -- Both are what the parser reads where the end of the input follows the words.
  let ts : List Spanned := ws.map (⟨·, 0⟩)
  let last : Spanned := ⟨.endOfInput, 0⟩
  let limit := d.levels + d'.levels + 1
  have hws : words ts = ws := by
    rw [words, List.map_map]
    exact List.map_id ws
  have hrun : (Parse.expression limit limit).run ⟨ts ++ [last], 0⟩ = (.ok e, ⟨[last], 0⟩) :=
    d.isRead.expression hws Level.not_goesOn_endOfInput (by omega) (by omega)
  have hrun' : (Parse.expression limit limit).run ⟨ts ++ [last], 0⟩ = (.ok e', ⟨[last], 0⟩) :=
    d'.isRead.expression hws Level.not_goesOn_endOfInput (by omega) (by omega)
  rw [hrun] at hrun'
  exact Except.ok.inj (congrArg Prod.fst hrun')

theorem phrase_length_le (tokens : List Spanned) : (phrase tokens).length ≤ tokens.length := by
  have hle : (phrase tokens).length ≤ (words tokens).length :=
    (List.takeWhile_prefix _).length_le
  rwa [words, List.length_map] at hle

/-- If there may be as many levels as there are tokens, a text is read as a tree
    exactly if its words stand for that tree in the grammar, which is true of at
    most one, and is a syntax error if they stand for none. -/
theorem parse_accepts_exactly (hscan : Token.scan source = .ok tokens)
    (hlimit : tokens.length ≤ limit) :
    (∀ e, Expr.parse source limit = .ok e ↔ Derives (phrase tokens) e) ∧
      (∀ e e', Derives (phrase tokens) e → Derives (phrase tokens) e' → e = e') ∧
      ((∀ e, ¬Derives (phrase tokens) e) →
        ∃ offset problem, Expr.parse source limit = .error (.badSyntax offset problem)) := by
  have hiff : ∀ e, Expr.parse source limit = .ok e ↔ Derives (phrase tokens) e := by
    intro e
    rw [parse_eq_ok_iff hscan]
    constructor
    · rintro ⟨d, _⟩
      exact ⟨d⟩
    · rintro ⟨d⟩
      exact ⟨d, Nat.lt_of_lt_of_le d.levels_lt (Nat.le_trans (phrase_length_le tokens) hlimit)⟩
  refine ⟨hiff, fun _ _ => Derives.unique, fun hnone => parse_eq_error hscan fun e he => ?_⟩
  exact hnone e ((hiff e).mp he)

/-- Of a sum whose last operand is a product the product is one operand, and there
    is no other tree. -/
theorem parse_accepts_sum_of_product :
    let tokens : List Spanned :=
      [⟨.identifier "a", 0⟩, ⟨.symbol .plus, 2⟩, ⟨.identifier "b", 4⟩, ⟨.symbol .star, 6⟩,
        ⟨.identifier "c", 8⟩, ⟨.endOfInput, 9⟩]
    Token.scan "a + b * c" = .ok tokens ∧ tokens.length ≤ 6 ∧
      ∀ e, Expr.parse "a + b * c" 6 = .ok e ↔
        e = .binary (.arithmetic .add) (.field "a")
          (.binary (.arithmetic .mul) (.field "b") (.field "c")) := by
  intro tokens
  have hscan : Token.scan "a + b * c" = .ok tokens := rfl
  obtain ⟨hiff, hunique, _⟩ := parse_accepts_exactly hscan (Nat.le_refl 6)
  let name (text : String) : Derivation .unary [.identifier text] (.field text) :=
    .operand nofun (.field text)
  let product : Derivation .product _ _ :=
    .chain List.mem_cons_self (.operand nofun (name "b")) (name "c")
  let sum : Derivation .sum _ _ :=
    .chain List.mem_cons_self (.operand nofun (.operand nofun (name "a"))) product
  have hsum : Derives (phrase tokens) (.binary (.arithmetic .add) (.field "a")
      (.binary (.arithmetic .mul) (.field "b") (.field "c"))) :=
    ⟨.operand nofun (.operand nofun (.operand nofun sum))⟩
  refine ⟨hscan, Nat.le_refl 6, fun e => (hiff e).trans ⟨fun h => hunique _ _ h hsum, ?_⟩⟩
  rintro rfl
  exact hsum

end RuleEngine
