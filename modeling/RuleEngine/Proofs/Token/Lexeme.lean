import RuleEngine.Token.Lexer

/-!
# Where a token ends

How a token is read does not depend on what stands after it: if the text is cut
off behind a token or later, the same token is read (`lexeme_take`). What is
looked at beyond a token only shows that the token does not go on, and the end
of the text shows that as well. A point looks for a digit after it; but where
there is one, both belong to the number.

So a text is read token by token, and each token moves those after it by the
number of its characters (`scanFrom_append`).
-/

namespace RuleEngine.Token

variable {m n : Nat}

/-! ### Texts that are cut off -/

section Lists

variable {α : Type} {p : α → Bool} {l : List α}

theorem takeWhile_take (h : (l.takeWhile p).length ≤ m) :
    (l.take m).takeWhile p = l.takeWhile p := by
  rw [← List.take_takeWhile, List.take_of_length_le h]

theorem dropWhile_take (h : (l.takeWhile p).length ≤ m) :
    (l.take m).dropWhile p = (l.dropWhile p).take (m - (l.takeWhile p).length) := by
  have hsplit : (l.take m).takeWhile p ++ (l.take m).dropWhile p =
      l.takeWhile p ++ (l.dropWhile p).take (m - (l.takeWhile p).length) := calc
    _ = (l.takeWhile p ++ l.dropWhile p).take m := by
      rw [List.takeWhile_append_dropWhile, List.takeWhile_append_dropWhile]
    _ = _ := by rw [List.take_append, List.take_of_length_le h]
  rw [takeWhile_take h] at hsplit
  exact List.append_cancel_left hsplit

end Lists

/-! ### Numbers -/

theorem fraction_take {cs : List Char} (h : (fraction cs).length ≤ m) :
    fraction (cs.take m) = fraction cs := by
  obtain _ | ⟨d, rest⟩ := cs
  · rw [List.take_nil]
  obtain _ | m := m
  · exact (List.eq_nil_of_length_eq_zero (Nat.le_zero.mp h)).symm
  rw [List.take_succ_cons]
  by_cases hd : d = '.'
  · subst hd
    have hdigits : (rest.takeWhile Decimal.isDigit).length ≤ m := by
      rw [fraction] at h
      split at h
      · next hempty => rw [List.isEmpty_iff.mp hempty]; exact Nat.zero_le _
      · exact Nat.le_of_succ_le_succ h
    rw [fraction, fraction, takeWhile_take hdigits]
  · rw [fraction, fraction] <;> simp [hd]

/-- A number is read the same where the text ends with it or later. -/
theorem numeral_take {cs : List Char} (h : (numeral cs).length ≤ m) :
    numeral (cs.take m) = numeral cs := by
  rw [numeral, List.length_append] at h
  have hwhole : (cs.takeWhile Decimal.isDigit).length ≤ m := by omega
  rw [numeral, numeral, takeWhile_take hwhole, dropWhile_take hwhole, fraction_take (by omega)]

theorem fraction_length_le (cs : List Char) : (fraction cs).length ≤ cs.length := by
  unfold fraction
  split
  · next rest =>
    dsimp only
    split
    · exact Nat.zero_le _
    · exact Nat.succ_le_succ (List.takeWhile_prefix _).length_le
  · exact Nat.zero_le _

theorem numeral_length_le (cs : List Char) : (numeral cs).length ≤ cs.length := calc
  _ ≤ (cs.takeWhile Decimal.isDigit).length + (cs.dropWhile Decimal.isDigit).length := by
    rw [numeral, List.length_append]
    exact Nat.add_le_add_left (fraction_length_le _) _
  _ = cs.length := by rw [← List.length_append, List.takeWhile_append_dropWhile]

/-! ### Strings -/

section Strings

variable {quote d : Char} {rest : List Char}

theorem stringBody_quote : stringBody quote (quote :: rest) = some ([], 1) := by
  rw [stringBody.eq_def]
  exact if_pos rfl

theorem stringBody_escape (h : '\\' ≠ quote) :
    stringBody quote ('\\' :: d :: rest) =
      (stringBody quote rest).map fun (text, n) => (unescape d ++ text, n + 2) := by
  rw [stringBody, if_neg h, if_pos rfl]

theorem stringBody_plain (h : d ≠ quote) (h' : d ≠ '\\') :
    stringBody quote (d :: rest) =
      (stringBody quote rest).map fun (text, n) => (d :: text, n + 1) := by
  rw [stringBody.eq_def]
  dsimp only
  rw [if_neg h, if_neg h']

/-- The closing quote belongs to the string, and nothing after it is looked at. -/
theorem stringBody_take {cs text : List Char} (h : stringBody quote cs = some (text, n))
    (hm : n ≤ m) : stringBody quote (cs.take m) = some (text, n) := by
  fun_induction stringBody quote cs generalizing text n m with
  | case1 => cases h
  | case2 rest =>
    cases h
    obtain ⟨m, rfl⟩ := Nat.exists_eq_add_of_le' hm
    exact stringBody_quote
  | case3 => cases h
  | case4 d rest hquote ih =>
    obtain ⟨⟨body, k⟩, hbody, heq⟩ := Option.map_eq_some_iff.mp h
    cases heq
    obtain ⟨m, rfl⟩ := Nat.exists_eq_add_of_le' hm
    rw [show m + (k + 2) = m + k + 2 from rfl, List.take_succ_cons, List.take_succ_cons,
      stringBody_escape hquote, ih hbody (Nat.le_add_left k m)]
    rfl
  | case5 d rest hquote hescape ih =>
    obtain ⟨⟨body, k⟩, hbody, heq⟩ := Option.map_eq_some_iff.mp h
    cases heq
    obtain ⟨m, rfl⟩ := Nat.exists_eq_add_of_le' hm
    rw [show m + (k + 1) = m + k + 1 from rfl, List.take_succ_cons,
      stringBody_plain hquote hescape, ih hbody (Nat.le_add_left k m)]
    rfl

/-- So a string is read the same where the text goes on. -/
theorem stringBody_append {cs text : List Char} (h : stringBody quote cs = some (text, n))
    (after : List Char) : stringBody quote (cs ++ after) = some (text, n) := by
  fun_induction stringBody quote cs generalizing text n with
  | case1 => cases h
  | case2 rest =>
    cases h
    exact stringBody_quote
  | case3 => cases h
  | case4 d rest hquote ih =>
    obtain ⟨⟨body, k⟩, hbody, heq⟩ := Option.map_eq_some_iff.mp h
    cases heq
    rw [List.cons_append, List.cons_append, stringBody_escape hquote, ih hbody]
    rfl
  | case5 d rest hquote hescape ih =>
    obtain ⟨⟨body, k⟩, hbody, heq⟩ := Option.map_eq_some_iff.mp h
    cases heq
    rw [List.cons_append, stringBody_plain hquote hescape, ih hbody]
    rfl

theorem le_length_of_stringBody {cs text : List Char} (h : stringBody quote cs = some (text, n)) :
    n ≤ cs.length := by
  fun_induction stringBody quote cs generalizing text n with
  | case1 => cases h
  | case2 rest =>
    cases h
    exact Nat.succ_le_succ (Nat.zero_le _)
  | case3 => cases h
  | case4 d rest hquote ih =>
    obtain ⟨⟨body, k⟩, hbody, heq⟩ := Option.map_eq_some_iff.mp h
    cases heq
    exact Nat.add_le_add_right (ih hbody) 2
  | case5 d rest hquote hescape ih =>
    obtain ⟨⟨body, k⟩, hbody, heq⟩ := Option.map_eq_some_iff.mp h
    cases heq
    exact Nat.add_le_add_right (ih hbody) 1

end Strings

/-! ### Tokens -/

variable {c : Char} {rest : List Char} {t : Token}

/-- A token is a part of the text, and is read the same where the text ends with it
    or later. -/
theorem lexeme_take (h : lexeme c rest = .ok (t, n)) (hm : n ≤ m) :
    n ≤ rest.length ∧ lexeme c (rest.take m) = .ok (t, n) := by
  rw [lexeme] at h ⊢
  split at h
  · next s hpair =>
    cases h
    obtain ⟨m, rfl⟩ := Nat.exists_eq_add_of_le' hm
    obtain ⟨d, hd, _⟩ := Option.bind_eq_some_iff.mp hpair
    obtain ⟨rest, rfl⟩ := List.head?_eq_some_iff.mp hd
    rw [List.take_succ_cons, List.head?_cons, ← List.head?_cons, hpair]
    exact ⟨Nat.succ_le_succ (Nat.zero_le _), rfl⟩
  next hpair =>
  -- No operator of two characters comes about by cutting off the second one.
  have hpair' : (rest.take m).head?.bind (Symbol.pair? c) = none := by
    rw [List.head?_take]
    split
    · rfl
    · exact hpair
  rw [hpair']
  dsimp only
  split at h
  · cases h
    exact ⟨Nat.zero_le _, rfl⟩
  by_cases hequals : c = '='
  · rw [if_pos hequals] at h
    cases h
  rw [if_neg hequals] at h ⊢
  by_cases hampersand : c = '&'
  · rw [if_pos hampersand] at h
    cases h
  rw [if_neg hampersand] at h ⊢
  by_cases hbar : c = '|'
  · rw [if_pos hbar] at h
    cases h
  rw [if_neg hbar] at h ⊢
  by_cases hquote : c = '"' ∨ c = '\''
  · rw [if_pos hquote] at h ⊢
    split at h
    · next hbody =>
      cases h
      rw [stringBody_take hbody hm]
      exact ⟨le_length_of_stringBody hbody, rfl⟩
    · cases h
  rw [if_neg hquote] at h ⊢
  by_cases hbracket : c = '['
  · rw [if_pos hbracket] at h ⊢
    dsimp only at h ⊢
    have hle : (rest.takeWhile (· ≠ ']')).length ≤ rest.length :=
      (List.takeWhile_prefix _).length_le
    split at h
    · cases h
    next hclosed =>
    split at h
    · cases h
    next hname =>
    cases h
    have hshorter : (rest.takeWhile (· ≠ ']')).length < rest.length := by omega
    rw [takeWhile_take (by omega), List.length_take, if_neg (by omega), if_neg hname]
    exact ⟨hshorter, rfl⟩
  rw [if_neg hbracket] at h ⊢
  by_cases hname : isNameStart c = true
  · rw [if_pos hname] at h ⊢
    cases h
    rw [takeWhile_take hm]
    exact ⟨(List.takeWhile_prefix _).length_le, rfl⟩
  rw [if_neg hname] at h ⊢
  by_cases hdigit : Decimal.isDigit c = true
  · rw [if_pos hdigit] at h ⊢
    cases h
    have hle : (numeral (c :: rest)).length ≤ rest.length + 1 := numeral_length_le (c :: rest)
    have hnumeral : numeral (c :: rest.take m) = numeral (c :: rest) := by
      rw [← List.take_succ_cons]
      exact numeral_take (Nat.le_add_of_sub_le hm)
    rw [hnumeral]
    exact ⟨Nat.sub_le_of_le_add hle, rfl⟩
  · rw [if_neg hdigit] at h
    cases h

/-- The characters of a token that was read are passed over. -/
theorem scanFrom_append (cs after : List Char) (offset : Nat) :
    scanFrom offset cs.length (cs ++ after) = scanFrom (offset + cs.length) 0 after := by
  induction cs generalizing offset with
  | nil => rfl
  | cons c cs ih =>
    rw [List.length_cons, List.cons_append, scanFrom, ih]
    congr 1
    omega

/-- A token is read with its characters, and then what follows them. -/
theorem scanFrom_lexeme {offset : Nat} {after : List Char} {tokens : List Spanned}
    (hc : CharClass.isBlank c = false) (h : lexeme c (rest ++ after) = .ok (t, rest.length))
    (hafter : scanFrom (offset + (c :: rest).length) 0 after = .ok tokens) :
    scanFrom offset 0 (c :: rest ++ after) = .ok (⟨t, offset⟩ :: tokens) := by
  have hrest : scanFrom (offset + 1) rest.length (rest ++ after) = .ok tokens := by
    rw [scanFrom_append, ← hafter, List.length_cons]
    congr 1
    omega
  simp [scanFrom, hc, h, hrest]

end RuleEngine.Token
