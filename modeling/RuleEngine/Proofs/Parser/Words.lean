import RuleEngine.Proofs.Parser.Steps

/-!
# The words that a parser gets

What a text is read as before it is parsed: words, the numbers among which are
spelled as numbers are, and the end of the input after them (`scan_isLexed`).
The parser's reading of a number that is spelled so is the one of the grammar
(`numberValue_eq_some_iff`).
-/

namespace RuleEngine

open Grammar

/-! ### Numbers -/

theorem Grammar.IsDigits.takeWhile_append {ds : List Char} (h : IsDigits ds) (cs : List Char) :
    (ds ++ '.' :: cs).takeWhile Decimal.isDigit = ds ∧
      (ds ++ '.' :: cs).dropWhile Decimal.isDigit = '.' :: cs := by
  have hpoint : Decimal.isDigit '.' = false := by decide
  rw [List.takeWhile_append_of_pos h.2, List.dropWhile_append_of_pos h.2]
  simp [hpoint]

theorem Grammar.IsDigits.takeWhile_self {ds : List Char} (h : IsDigits ds) :
    ds.takeWhile Decimal.isDigit = ds ∧ ds.dropWhile Decimal.isDigit = [] := by
  have htake : (ds ++ []).takeWhile Decimal.isDigit = ds ++ [].takeWhile Decimal.isDigit :=
    List.takeWhile_append_of_pos h.2
  have hdrop : (ds ++ []).dropWhile Decimal.isDigit = [].dropWhile Decimal.isDigit :=
    List.dropWhile_append_of_pos h.2
  simp only [List.append_nil, List.takeWhile_nil, List.dropWhile_nil] at htake hdrop
  exact ⟨htake, hdrop⟩

theorem Grammar.IsDigits.not_mem_point {ds : List Char} (h : IsDigits ds) : '.' ∉ ds := by
  intro hmem
  have := h.2 _ hmem
  simp [Decimal.isDigit] at this

/-- What has a value is spelled as numbers are. -/
theorem Grammar.Numeral.isSpelled {text : String} {v : Value} (h : Numeral text v) :
    (Token.number text).IsSpelled := by
  cases h with
  | integer hds _ => exact ⟨_, hds, .inl rfl⟩
  | fraction hds htail => exact ⟨_, hds, .inr ⟨_, htail, rfl⟩⟩

namespace Parse

theorem numberValue_digits {ds : List Char} (h : IsDigits ds) :
    numberValue? (String.ofList ds) = (int64? (Decimal.ofDigits ds)).map .integer := by
  simp [numberValue?, h.not_mem_point]

theorem numberValue_fraction {ds tail : List Char} (h : IsDigits ds) (htail : IsDigits tail) :
    numberValue? (String.ofList (ds ++ '.' :: tail)) =
      some (.float (Decimal.toFloat ⟨Decimal.ofDigits (ds ++ tail), -tail.length⟩)) := by
  have hne : ds.isEmpty = false := by simpa using h.1
  simp [numberValue?, Decimal.read?, h.takeWhile_append, htail.takeWhile_self, hne]

/-- The value of a number that is spelled as one is that of the grammar. -/
theorem numberValue_eq_some_iff {text : String} {v : Value}
    (h : (Token.number text).IsSpelled) : numberValue? text = some v ↔ Numeral text v := by
  constructor
  · intro hv
    obtain ⟨ds, hds, rfl | ⟨tail, htail, rfl⟩⟩ := h
    · rw [numberValue_digits hds, int64?] at hv
      split at hv
      · next hrange =>
        obtain rfl := Option.some.inj hv
        rw [Int64.ofInt_eq_ofNat]
        exact .integer hds (by omega)
      · cases hv
    · rw [numberValue_fraction hds htail] at hv
      obtain rfl := Option.some.inj hv
      exact .fraction hds htail
  · intro hv
    cases hv with
    | integer hds hrange =>
      rw [numberValue_digits hds, int64?, if_pos (by omega), Int64.ofInt_eq_ofNat, Option.map_some]
    | fraction hds htail => exact numberValue_fraction hds htail

end Parse

/-! ### The words of a text -/

namespace Token

theorem isDigits_takeWhile {cs : List Char} (h : cs.takeWhile Decimal.isDigit ≠ []) :
    IsDigits (cs.takeWhile Decimal.isDigit) :=
  ⟨h, List.all_eq_true.mp List.all_takeWhile⟩

/-- A number is digits, or digits with a point between them. -/
theorem numeral_isSpelled {c : Char} (hc : Decimal.isDigit c = true) (rest : List Char) :
    (number (String.ofList (numeral (c :: rest)))).IsSpelled := by
  have hne : (c :: rest).takeWhile Decimal.isDigit ≠ [] := by simp [hc]
  refine ⟨_, isDigits_takeWhile hne, ?_⟩
  rw [numeral]
  generalize (c :: rest).dropWhile Decimal.isDigit = after
  unfold fraction
  split
  · next tail =>
    by_cases htail : tail.takeWhile Decimal.isDigit = []
    · exact .inl (by simp [htail])
    · exact .inr ⟨_, isDigits_takeWhile htail, by simp [htail]⟩
  · exact .inl (by simp)

theorem ofWord_ne (word : String) : (ofWord word).IsSpelled ∧ ofWord word ≠ endOfInput := by
  unfold ofWord
  split
  · exact ⟨trivial, nofun⟩
  · split <;> exact ⟨trivial, nofun⟩

/-- A word is spelled as it has to be and is not the end of the input. -/
theorem isSpelled_of_lexeme {c : Char} {rest : List Char} {t : Token} {n : Nat}
    (h : lexeme c rest = .ok (t, n)) : t.IsSpelled ∧ t ≠ endOfInput := by
  rw [lexeme] at h
  -- The cases are those of the lexer, of which only numbers have to be spelled somehow.
  split at h
  · cases h
    exact ⟨trivial, nofun⟩
  split at h
  · cases h
    exact ⟨trivial, nofun⟩
  split at h
  · cases h
  split at h
  · cases h
  split at h
  · cases h
  split at h
  · split at h
    · cases h
      exact ⟨trivial, nofun⟩
    · cases h
  split at h
  · dsimp only at h
    split at h
    · cases h
    split at h
    · cases h
    cases h
    exact ⟨trivial, nofun⟩
  split at h
  · cases h
    exact ofWord_ne _
  split at h
  · next hc =>
    cases h
    exact ⟨numeral_isSpelled hc rest, nofun⟩
  · cases h

theorem scanFrom_isLexed {cs : List Char} {offset skip depth : Nat} {tokens : List Spanned}
    (h : scanFrom offset skip cs = .ok tokens) : Cursor.IsLexed ⟨tokens, depth⟩ := by
  induction cs generalizing offset skip tokens with
  | nil =>
    cases h
    exact ⟨by simp [IsSpelled], [], ⟨endOfInput, offset⟩, rfl, rfl, by simp⟩
  | cons c rest ih =>
    unfold scanFrom at h
    -- Characters of the word before and blanks are passed over.
    split at h
    · exact ih h
    split at h
    · exact ih h
    split at h
    · cases h
    next hword =>
    split at h
    · cases h
    next hrest =>
    cases h
    obtain ⟨hspelled, ts, last, hts, hlast, hne⟩ := ih hrest
    obtain ⟨hfirst, hne'⟩ := isSpelled_of_lexeme hword
    exact ⟨List.forall_mem_cons.mpr ⟨hfirst, hspelled⟩, ⟨_, offset⟩ :: ts, last,
      congrArg (_ :: ·) hts, hlast, List.forall_mem_cons.mpr ⟨hne', hne⟩⟩

/-- What a text is read as is words and the end of the input. -/
theorem scan_isLexed {source : String} {tokens : List Spanned} (h : scan source = .ok tokens)
    (depth : Nat) : Cursor.IsLexed ⟨tokens, depth⟩ :=
  scanFrom_isLexed h

end Token

end RuleEngine
