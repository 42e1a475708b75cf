import RuleEngine.Proofs.Parser.Beginnings
import RuleEngine.Proofs.Parser.Lookahead

/-!
# Where syntax errors point

A syntax error points at the first token that cannot go on with a rule: the tokens
before it are the beginning of a rule (`Parse.rule_stops`), and no rule begins with them
and that token. For if one did, the parser would read it, given enough levels, but it
does not look past the token at which it has failed (`Parse.rule_follows`).
-/

namespace RuleEngine

open Grammar

/-! ### The words of a phrase -/

namespace Grammar

/-- What can stand in a phrase: what is spelled right, and not the end of the input. -/
def IsWord (t : Token) : Prop :=
  t.IsSpelled ∧ t ≠ .endOfInput

theorem isWord_symbol (s : Symbol) : IsWord (.symbol s) :=
  ⟨trivial, nofun⟩

theorem forall_isWord_append {ts us : List Token} {s : Symbol} (hts : ∀ t ∈ ts, IsWord t)
    (hus : ∀ t ∈ us, IsWord t) : ∀ t ∈ ts ++ .symbol s :: us, IsWord t :=
  List.forall_mem_append.mpr ⟨hts, List.forall_mem_cons.mpr ⟨isWord_symbol s, hus⟩⟩

mutual

/-- A phrase consists of words. -/
theorem Derivation.isWord {level : Level} {ws : List Token} {e : Expr} :
    Derivation level ws e → ∀ t ∈ ws, IsWord t
  | .operand _ d => d.isWord
  | .chain _ first last => forall_isWord_append first.isWord last.isWord
  | .comparison _ first last => forall_isWord_append first.isWord last.isWord
  | .unary _ d => List.forall_mem_cons.mpr ⟨isWord_symbol _, d.isWord⟩
  | .number h => List.forall_mem_singleton.mpr ⟨h.isSpelled, nofun⟩
  | .string _ => List.forall_mem_singleton.mpr ⟨trivial, nofun⟩
  | .boolean _ => List.forall_mem_singleton.mpr ⟨trivial, nofun⟩
  | .field _ => List.forall_mem_singleton.mpr ⟨trivial, nofun⟩
  | .emptyCall _ =>
    List.forall_mem_cons.mpr ⟨⟨trivial, nofun⟩, List.forall_mem_cons.mpr ⟨isWord_symbol _,
      List.forall_mem_singleton.mpr (isWord_symbol _)⟩⟩
  | .call _ a =>
    List.forall_mem_cons.mpr ⟨⟨trivial, nofun⟩, List.forall_mem_cons.mpr ⟨isWord_symbol _,
      forall_isWord_append a.isWord (List.forall_mem_nil _)⟩⟩
  | .group d =>
    List.forall_mem_cons.mpr ⟨isWord_symbol _,
      forall_isWord_append d.isWord (List.forall_mem_nil _)⟩

theorem Arguments.isWord {ws : List Token} {es : List Expr} :
    Arguments ws es → ∀ t ∈ ws, IsWord t
  | .last d => d.isWord
  | .more d a => forall_isWord_append d.isWord a.isWord

end

end Grammar

/-- Words with the end of the input after them are what a text may be read as. -/
theorem isLexed_of_words {tokens : List Spanned} {ws : List Token}
    (h : words tokens = ws ++ [.endOfInput]) (hws : ∀ t ∈ ws, IsWord t) (depth : Nat) :
    Cursor.IsLexed ⟨tokens, depth⟩ ∧ phrase tokens = ws := by
  obtain ⟨ts, last, rest, rfl, hts, hlast, hrest⟩ := words_eq_append_cons h
  obtain rfl := List.map_eq_nil_iff.mp hrest
  have hword (t : Spanned) (ht : t ∈ ts) : IsWord t.token :=
    hws t.token (hts ▸ List.mem_map_of_mem ht)
  refine ⟨⟨?_, ts, last, rfl, hlast, fun t ht => (hword t ht).2⟩, ?_⟩
  · refine List.forall_mem_append.mpr ⟨fun t ht => (hword t ht).1, ?_⟩
    exact List.forall_mem_singleton.mpr (by rw [hlast]; trivial)
  · rw [phrase_concat hlast fun t ht => (hword t ht).2, hts]

/-! ### The token that is pointed at -/

variable {tokens ts rest rest' : List Spanned} {t : Spanned} {limit : Nat}

/-- Two texts that are the same up to a token. -/
def Fork.ofLexed (h : Cursor.IsLexed ⟨ts ++ t :: rest, 0⟩)
    (h' : Cursor.IsLexed ⟨ts ++ t :: rest', 0⟩) : Fork where
  token := t
  rest := rest
  rest' := rest'
  more := by
    have ht : Cursor.IsLexed ⟨t :: rest, 0⟩ := h.of_suffix (List.suffix_append _ _) nofun
    intro hne
    obtain ⟨u, us, rfl⟩ := ht.exists_next hne
    exact List.cons_ne_nil u us
  ends := by
    have ht : Cursor.IsLexed ⟨t :: rest, 0⟩ := h.of_suffix (List.suffix_append _ _) nofun
    intro hnil
    by_cases hlast : t.token = .endOfInput
    · exact (h'.split hlast).1
    · obtain ⟨u, us, hcons⟩ := ht.exists_next hlast
      rw [hnil] at hcons
      cases hcons

namespace Parse

/-- Where the parser fails on one of two texts that are the same up to the token it fails
    at, it fails on the other, with no fewer levels, unless it was for want of levels. -/
theorem exists_error_of_run_rule {limit' offset : Nat} {problem : SyntaxProblem} {c : Cursor}
    (h : Cursor.IsLexed ⟨ts ++ t :: rest, 0⟩) (h' : Cursor.IsLexed ⟨ts ++ t :: rest', 0⟩)
    (hlimit : limit ≤ limit')
    (hrun : (rule limit).run ⟨ts ++ t :: rest, 0⟩ = (.error (.badSyntax offset problem), c))
    (hrest : c.rest = t :: rest) (hproblem : problem ≠ .tooDeep limit) :
    ∃ e, ((rule limit').run ⟨ts ++ t :: rest', 0⟩).1 = .error e := by
  have houtcomes : (Fork.ofLexed h h').Outcomes limit ts ((rule limit).run ⟨ts ++ t :: rest, 0⟩)
      ((rule limit').run ⟨ts ++ t :: rest', 0⟩) :=
    (rule_follows hlimit).outcomes ts 0
  rw [hrun] at houtcomes
  generalize (rule limit').run ⟨ts ++ t :: rest', 0⟩ = y at houtcomes ⊢
  cases houtcomes with
  | same result hsuffix depth => exact ⟨_, rfl⟩
  | past hsuffix =>
    -- The token is still there, so it has not been passed.
    dsimp only at hsuffix
    rw [hrest] at hsuffix
    exact absurd hsuffix.length_le (Nat.not_le_of_lt (Nat.lt_succ_self _))
  | refused offset c y => exact absurd rfl hproblem

/-- No rule goes on with the token that the parser fails at, unless it fails for want of
    levels. -/
theorem not_prefix_of_run_rule {offset : Nat} {problem : SyntaxProblem} {c : Cursor}
    (h : Cursor.IsLexed ⟨ts ++ t :: rest, 0⟩)
    (hrun : (rule limit).run ⟨ts ++ t :: rest, 0⟩ = (.error (.badSyntax offset problem), c))
    (hrest : c.rest = t :: rest) (hproblem : problem ≠ .tooDeep limit) {ws : List Token}
    {e : Expr} (hws : Derives ws e) : ¬words (ts ++ [t]) <+: ws ++ [.endOfInput] := by
  rintro ⟨vs, hvs⟩
  obtain ⟨d⟩ := hws
  -- The rule is a text that is the same up to this token, and with enough levels it is read.
  have hwords : words (ts ++ t :: vs.map (⟨·, 0⟩)) = ws ++ [.endOfInput] := by
    have hrest' : words (vs.map (⟨·, 0⟩)) = vs := by
      rw [words, List.map_map]
      exact List.map_id vs
    rw [← hvs, words, List.map_append, List.map_cons, ← words, ← words, hrest', words, words,
      List.map_append, List.map_singleton, List.append_assoc, List.singleton_append]
  obtain ⟨h', rfl⟩ := isLexed_of_words hwords d.isWord 0
  have hread := run_rule h' d (Nat.lt_succ_of_le (Nat.le_max_right limit d.levels))
  have hlimit : limit ≤ max limit d.levels + 1 := Nat.le_succ_of_le (Nat.le_max_left _ _)
  obtain ⟨e', he'⟩ := exists_error_of_run_rule h h' hlimit hrun hrest hproblem
  rw [hread] at he'
  cases he'

end Parse

/-- If there may be as many levels as there are tokens, a text that is not read is refused
    at a token of it: those before it are the beginning of a rule, and no rule, with the end
    of the input after it, begins with them and this token. -/
theorem parse_points_at_first_wrong_token {source : String}
    (hscan : Token.scan source = .ok tokens) (hlimit : tokens.length ≤ limit) {e : Error}
    (h : Expr.parse source limit = .error e) :
    ∃ ts t rest problem, tokens = ts ++ t :: rest ∧ e = .badSyntax t.offset problem ∧
      (∃ us e', Derives (words ts ++ us) e') ∧
      ∀ ws e', Derives ws e' → ¬words (ts ++ [t]) <+: ws ++ [.endOfInput] := by
  have hc := Token.scan_isLexed hscan 0
  rw [Expr.parse, hscan] at h
  dsimp only at h
  rcases hrun : (Parse.rule limit).run ⟨tokens, 0⟩ with ⟨result, c⟩
  rw [hrun] at h
  obtain rfl : result = .error e := h
  have hmeets := Parse.rule_meets limit hc
  rw [Parse.Meets, hrun] at hmeets
  obtain ⟨_, _, t, rest, problem, hrest, rfl⟩ := hmeets
  obtain ⟨⟨ts, htokens, hbegins⟩, htooDeep⟩ := Parse.rule_stops hc _ _ hrun
  have hproblem : problem ≠ .tooDeep limit := by
    rintro rfl
    have hlt := htooDeep t.offset rfl
    rw [Nat.zero_add] at hlt
    exact absurd hlimit (Nat.not_le_of_lt hlt)
  dsimp only at htokens
  rw [hrest] at htokens
  subst htokens
  exact ⟨ts, t, rest, problem, rfl, rfl, hbegins,
    fun ws e' hws => Parse.not_prefix_of_run_rule hc hrun hrest hproblem hws⟩

/-- An argument is missing at the parenthesis, not at the comma before it. -/
theorem parse_points_at_first_wrong_token_argument :
    let tokens : List Spanned :=
      [⟨.identifier "f", 0⟩, ⟨.symbol .leftParen, 1⟩, ⟨.number "1", 2⟩, ⟨.symbol .comma, 3⟩,
        ⟨.symbol .rightParen, 4⟩, ⟨.endOfInput, 5⟩]
    Token.scan "f(1,)" = .ok tokens ∧ tokens.length ≤ 6 ∧
      Expr.parse "f(1,)" 6 = .error (.badSyntax 4 (.unexpected (.symbol .rightParen))) ∧
      ∃ ts t rest, tokens = ts ++ t :: rest ∧ t.offset = 4 ∧
        (∃ us e, Derives (words ts ++ us) e) ∧
        ∀ ws e, Derives ws e → ¬words (ts ++ [t]) <+: ws ++ [.endOfInput] := by
  intro tokens
  have hscan : Token.scan "f(1,)" = .ok tokens := rfl
  have hparse : Expr.parse "f(1,)" 6 =
      .error (.badSyntax 4 (.unexpected (.symbol .rightParen))) := rfl
  obtain ⟨ts, t, rest, problem, htokens, he, hbegins, hnone⟩ :=
    parse_points_at_first_wrong_token hscan (Nat.le_refl 6) hparse
  exact ⟨hscan, Nat.le_refl 6, hparse, ts, t, rest, htokens, (Error.badSyntax.inj he).1.symm,
    hbegins, hnone⟩

end RuleEngine
