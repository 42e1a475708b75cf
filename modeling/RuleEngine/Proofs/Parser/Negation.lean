import RuleEngine.Proofs.Parser.Acceptance
import RuleEngine.Proofs.Token.Lexeme

/-!
# Negating a text

A rule is negated by text: an exclamation mark is put before it, and parentheses
around it (`negated`). Its tokens stay the same, whatever the last of them is, since
a closing parenthesis does not belong to any token that begins before it
(`Token.lexeme_append_paren`). So the words of the negated text are those of the text
with the mark and the parentheses (`phrase_negated`), and as no words stand for two
trees, the tree of the negated text is the negation of the tree of the text
(`parse_negated`). How deep either goes does not matter here, only that both are read.
-/

namespace RuleEngine

/-- The text of the negation of a rule. -/
def negated (source : String) : String :=
  "!(" ++ source ++ ")"

theorem toList_negated (source : String) :
    (negated source).toList = '!' :: '(' :: (source.toList ++ [')']) := by
  simp [negated]

namespace Token

/-! ### A closing parenthesis after a text -/

section Lists

variable {p : Char → Bool} (h : p ')' = false) (cs : List Char)
include h

theorem takeWhile_append_paren : (cs ++ [')']).takeWhile p = cs.takeWhile p := by
  rw [List.takeWhile_append]
  split
  · next hall => simp [h, (List.takeWhile_prefix p).eq_of_length hall]
  · rfl

theorem dropWhile_append_paren : (cs ++ [')']).dropWhile p = cs.dropWhile p ++ [')'] := by
  rw [List.dropWhile_append]
  split
  · next hempty => simp [h, List.isEmpty_iff.mp hempty]
  · rfl

end Lists

theorem fraction_append_paren (cs : List Char) : fraction (cs ++ [')']) = fraction cs := by
  obtain _ | ⟨d, rest⟩ := cs
  · rfl
  rw [List.cons_append]
  by_cases hd : d = '.'
  · subst hd
    rw [fraction, fraction, takeWhile_append_paren (by decide)]
  · rw [fraction, fraction] <;> simp [hd]

theorem numeral_append_paren (cs : List Char) : numeral (cs ++ [')']) = numeral cs := by
  rw [numeral, numeral, takeWhile_append_paren (by decide), dropWhile_append_paren (by decide),
    fraction_append_paren]

variable {c : Char} {rest cs : List Char} {t : Token} {n offset skip : Nat}
  {tokens : List Spanned}

/-- No symbol of two characters ends in a parenthesis. -/
theorem pair?_append_paren (c : Char) (rest : List Char) :
    (rest ++ [')']).head?.bind (Symbol.pair? c) = rest.head?.bind (Symbol.pair? c) := by
  cases rest with
  | nil => simp [Symbol.pair?]
  | cons d rest => rfl

/-- A token is read the same where a closing parenthesis comes after the text. -/
theorem lexeme_append_paren (h : lexeme c rest = .ok (t, n)) :
    lexeme c (rest ++ [')']) = .ok (t, n) := by
  rw [lexeme] at h ⊢
  rw [pair?_append_paren]
  split at h
  · exact h
  split at h
  · exact h
  by_cases hequals : c = '='
  · rw [if_pos hequals] at h
    cases h
  rw [if_neg hequals] at h ⊢
  by_cases hampersand : c = '&'
  · rw [if_pos hampersand] at h
    cases h
  rw [if_neg hampersand] at h ⊢
  by_cases hbar : c = '|'
  · rw [if_pos hbar] at h
    cases h
  rw [if_neg hbar] at h ⊢
  by_cases hquote : c = '"' ∨ c = '\''
  · rw [if_pos hquote] at h ⊢
    split at h
    · next hbody => rw [stringBody_append hbody]; exact h
    · cases h
  rw [if_neg hquote] at h ⊢
  by_cases hbracket : c = '['
  · rw [if_pos hbracket] at h ⊢
    dsimp only at h ⊢
    split at h
    · cases h
    next hclosed =>
    -- The closing bracket comes first.
    rw [List.takeWhile_append, if_neg hclosed, List.length_append]
    have hle : (rest.takeWhile (· ≠ ']')).length ≤ rest.length :=
      (List.takeWhile_prefix _).length_le
    rwa [if_neg (by omega)]
  rw [if_neg hbracket] at h ⊢
  rwa [← List.cons_append, takeWhile_append_paren (by decide), numeral_append_paren]

/-- So all tokens are, and the parenthesis is one more before the end of the input. -/
theorem scanFrom_append_paren (h : scanFrom offset skip cs = .ok tokens)
    (hskip : skip ≤ cs.length) (offset' : Nat) :
    ∃ tokens', scanFrom offset' skip (cs ++ [')']) = .ok tokens' ∧
      phrase tokens' = phrase tokens ++ [.symbol .rightParen] := by
  induction cs generalizing offset skip tokens offset' with
  | nil =>
    obtain rfl := Nat.le_zero.mp hskip
    cases h
    exact ⟨[⟨.symbol .rightParen, offset'⟩, ⟨.endOfInput, offset' + 1⟩], rfl, rfl⟩
  | cons c rest ih =>
    rw [List.cons_append]
    cases skip with
    | succ skip =>
      rw [scanFrom] at h ⊢
      exact ih h (Nat.le_of_succ_le_succ hskip) (offset' + 1)
    | zero =>
      rw [scanFrom] at h ⊢
      split at h
      · next hc =>
        rw [if_pos hc]
        exact ih h (Nat.zero_le _) (offset' + 1)
      next hc =>
      split at h
      · cases h
      next t extra hlexeme =>
      split at h
      · cases h
      next tokens hrest =>
      cases h
      -- The token ends in the text, so the parenthesis is not passed over with it.
      have hle : extra ≤ rest.length := (lexeme_take hlexeme (Nat.le_refl extra)).1
      have ht : t ≠ .endOfInput := (isSpelled_of_lexeme hlexeme).2
      obtain ⟨tokens', htokens', hphrase⟩ := ih hrest hle (offset' + 1)
      refine ⟨⟨t, offset'⟩ :: tokens', ?_, ?_⟩
      · rw [if_neg hc, lexeme_append_paren hlexeme]
        dsimp only
        rw [htokens']
      · rw [phrase_cons ht, phrase_cons ht, hphrase, List.cons_append]

end Token

/-! ### The negated text -/

variable {source : String} {tokens : List Spanned} {limit limit' : Nat} {e e' : Expr}

/-- The words of a negated text are those of the text, in parentheses after the mark. -/
theorem phrase_negated (h : Token.scan source = .ok tokens) :
    ∃ tokens', Token.scan (negated source) = .ok tokens' ∧
      phrase tokens' = .symbol .bang :: .symbol .leftParen ::
        (phrase tokens ++ [.symbol .rightParen]) := by
  obtain ⟨tokens', htokens', hphrase⟩ := Token.scanFrom_append_paren h (Nat.zero_le _) 2
  refine ⟨⟨.symbol .bang, 0⟩ :: ⟨.symbol .leftParen, 1⟩ :: tokens', ?_, ?_⟩
  · have hbang (cs : List Char) : Token.lexeme '!' ('(' :: cs) = .ok (.symbol .bang, 0) := rfl
    have hparen (cs : List Char) : Token.lexeme '(' cs = .ok (.symbol .leftParen, 0) := by
      cases cs <;> rfl
    have hblank : CharClass.isBlank '!' = false ∧ CharClass.isBlank '(' = false := ⟨rfl, rfl⟩
    rw [Token.scan, toList_negated]
    simp only [Token.scanFrom, hblank, hbang, hparen, htokens', Bool.false_eq_true, if_false]
  · rw [phrase_cons (by decide), phrase_cons (by decide), hphrase]

open Grammar in
/-- In parentheses after the mark, words stand for the negation of what they stand for
    by themselves. -/
theorem Grammar.Derives.negated {ws : List Token} (h : Derives ws e) :
    Derives (.symbol .bang :: .symbol .leftParen :: (ws ++ [.symbol .rightParen]))
      (.unary .not e) := by
  obtain ⟨d⟩ := h
  let group : Derivation .unary _ e := .operand nofun (.group d)
  let product : Derivation .product _ (.unary .not e) :=
    .operand nofun (.unary List.mem_cons_self group)
  let sum : Derivation .sum _ (.unary .not e) := .operand nofun product
  exact ⟨.operand nofun (.operand nofun (.operand nofun sum))⟩

/-- If a text and the negated text are read, the tree of the second is the negation of
    that of the first. -/
theorem parse_negated (h : Expr.parse source limit = .ok e)
    (h' : Expr.parse (negated source) limit' = .ok e') : e' = .unary .not e := by
  obtain ⟨tokens, hscan, d, _⟩ := exists_derivation_of_parse h
  obtain ⟨tokens', hscan', d', _⟩ := exists_derivation_of_parse h'
  obtain ⟨tokens'', hscan'', hphrase⟩ := phrase_negated hscan
  obtain rfl : tokens'' = tokens' := Except.ok.inj (hscan''.symm.trans hscan')
  have hderives : Grammar.Derives (phrase tokens'') (.unary .not e) := by
    rw [hphrase]
    exact Grammar.Derives.negated ⟨d⟩
  exact Grammar.Derives.unique ⟨d'⟩ hderives

end RuleEngine
