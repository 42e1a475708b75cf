import RuleEngine.Proofs.Token.Layout

/-!
# How tokens are written

Every token can be written, and some in several ways: a name bare or in
brackets, a string in either kind of quotes. A `Spelling` is a way to write a
token, with what makes it one: a bare name consists of the right characters and
is no truth value, a name in brackets is not empty and does not end early. Inside
quotes every backslash and every closing quote has a backslash before it.

Spellings with blanks after each of them are read back as the tokens that they
spell, at the offsets at which they stand (`scan_written`). Two facts carry this:

* a blank ends every token that does not end by itself, so what follows it does
  not matter (`Spelling.spells_chars`);
* undoing escapes in what was escaped gives the text, whatever backslashes stood
  before other backslashes, quotes or letters (`stringBody_escaped`).
-/

namespace RuleEngine.Token

variable {c d : Char} {cs after : List Char}

/-! ### Blanks and other characters -/

theorem toNat_of_isBlank (h : CharClass.isBlank c = true) : c.toNat ≤ 32 ∨ 133 ≤ c.toNat := by
  grind [CharClass.isBlank, CharClass.blank, CharSet.contains, CharSet.inRanges]

theorem toNat_of_isNameChar (h : isNameChar c = true) : 32 < c.toNat ∧ c.toNat < 133 := by
  have hrange : ∀ low high : Char,
      low ≤ c ∧ c ≤ high → low.toNat ≤ c.toNat ∧ c.toNat ≤ high.toNat := fun _ _ h => h
  simp only [isNameChar, isNameStart, Decimal.isDigit, Bool.or_eq_true, Bool.and_eq_true,
    decide_eq_true_eq, beq_iff_eq] at h
  rcases h with ((h | h) | rfl) | h
  · have := hrange _ _ h
    simp at this
    omega
  · have := hrange _ _ h
    simp at this
    omega
  · decide
  · have := hrange _ _ h
    simp at this
    omega

theorem isBlank_of_isNameChar (h : isNameChar c = true) : CharClass.isBlank c = false := by
  refine Bool.eq_false_iff.mpr fun hc => ?_
  have := toNat_of_isBlank hc
  have := toNat_of_isNameChar h
  omega

theorem isNameChar_of_isBlank (h : CharClass.isBlank c = true) : isNameChar c = false :=
  Bool.eq_false_iff.mpr fun hc => by simp [isBlank_of_isNameChar hc] at h

theorem isDigit_of_isBlank (h : CharClass.isBlank c = true) : Decimal.isDigit c = false :=
  (Bool.or_eq_false_iff.mp (isNameChar_of_isBlank h)).2

theorem isNameStart_of_isDigit (h : Decimal.isDigit c = true) : isNameStart c = false := by
  simp only [Decimal.isDigit, Bool.and_eq_true, decide_eq_true_eq] at h
  have hhigh : c.toNat ≤ 57 := h.2
  refine Bool.eq_false_iff.mpr fun hc => ?_
  simp only [isNameStart, Bool.or_eq_true, Bool.and_eq_true, decide_eq_true_eq, beq_iff_eq] at hc
  rcases hc with (hc | hc) | rfl
  · have hlow : 97 ≤ c.toNat := hc.1
    omega
  · have hlow : 65 ≤ c.toNat := hc.1
    omega
  · exact absurd hhigh (by decide)

/-- No symbol of two characters has a blank in it. -/
theorem pair?_of_isBlank (h : CharClass.isBlank d = true) : Symbol.pair? c d = none := by
  unfold Symbol.pair?
  split
  all_goals first | rfl | exact absurd h (by decide)

/-- Nothing follows, or a blank. -/
def BlankNext (after : List Char) : Prop :=
  ∀ d ∈ after.head?, CharClass.isBlank d = true

theorem takeWhile_append_of_blankNext {p : Char → Bool} (h : ∀ c ∈ cs, p c = true)
    (hp : ∀ d, CharClass.isBlank d = true → p d = false) (hafter : BlankNext after) :
    (cs ++ after).takeWhile p = cs ∧ (cs ++ after).dropWhile p = after := by
  rw [List.takeWhile_append_of_pos h, List.dropWhile_append_of_pos h]
  rcases after with _ | ⟨d, after⟩
  · simp
  · simp [hp d (hafter d rfl)]

/-- Where a blank or nothing follows, some characters are read as a token and
    nothing after it is. -/
def Spells (cs : List Char) (t : Token) : Prop :=
  ∃ c rest, cs = c :: rest ∧ CharClass.isBlank c = false ∧
    ∀ after, BlankNext after → lexeme c (rest ++ after) = .ok (t, rest.length)

theorem spells_symbol (s : Symbol) : Spells s.text.toList (symbol s) := by
  have hpair : ∀ c after, BlankNext after → after.head?.bind (Symbol.pair? c) = none := by
    rintro c (_ | ⟨d, after⟩) hafter
    · rfl
    · exact pair?_of_isBlank (hafter d rfl)
  -- After two characters nothing is looked at, after one a second might still come.
  cases s
  all_goals
    refine ⟨_, _, rfl, by decide, fun after hafter => ?_⟩
    first
      | rfl
      | rw [List.nil_append, lexeme, hpair _ after hafter]; rfl

/-! ### Names and numbers -/

/-- What begins with a character of names is a word or a number. -/
theorem lexeme_of_isNameChar (hc : isNameChar c = true) :
    lexeme c cs =
      if isNameStart c = true then
        .ok (ofWord (String.ofList (c :: cs.takeWhile isNameChar)),
          (cs.takeWhile isNameChar).length)
      else .ok (number (String.ofList (numeral (c :: cs))), (numeral (c :: cs)).length - 1) := by
  have hne : ∀ d, isNameChar d = false → c ≠ d := by
    rintro d hd rfl
    simp [hc] at hd
  have hpair : cs.head?.bind (Symbol.pair? c) = none := by
    rcases cs with _ | ⟨d, cs⟩
    · rfl
    · rw [List.head?_cons, Option.bind_some]
      unfold Symbol.pair?
      split
      all_goals first | rfl | exact absurd hc (by decide)
  have hsingle : Symbol.single? c = none := by
    unfold Symbol.single?
    split
    all_goals first | rfl | exact absurd hc (by decide)
  rw [lexeme, hpair, hsingle]
  simp only [hne '=' rfl, hne '&' rfl, hne '|' rfl, hne '"' rfl, hne '\'' rfl, hne '[' rfl,
    if_false, or_self]
  split
  · rfl
  · next hstart =>
    have hdigit : Decimal.isDigit c = true := by simpa [isNameChar, hstart] using hc
    rw [if_pos hdigit]

theorem spells_word {word : String} (hword : word.toList = c :: cs) (hc : isNameStart c = true)
    (hcs : ∀ d ∈ cs, isNameChar d = true) : Spells word.toList (ofWord word) := by
  have hchar : isNameChar c = true := by simp [isNameChar, hc]
  refine ⟨c, cs, hword, isBlank_of_isNameChar hchar, fun after hafter => ?_⟩
  rw [lexeme_of_isNameChar hchar, if_pos hc,
    (takeWhile_append_of_blankNext hcs (fun _ => isNameChar_of_isBlank) hafter).1, ← hword,
    String.ofList_toList]

theorem fraction_of_blankNext (hafter : BlankNext after) : fraction after = [] := by
  unfold fraction
  split
  · exact absurd (hafter '.' rfl) (by decide)
  · rfl

/-- A number goes on to its last digit and ends where a blank follows. -/
theorem numeral_append {text : String} (h : (number text).IsSpelled) (hafter : BlankNext after) :
    numeral (text.toList ++ after) = text.toList := by
  obtain ⟨ds, hds, rfl | ⟨tail, htail, rfl⟩⟩ := h
  · obtain ⟨htake, hdrop⟩ :=
      takeWhile_append_of_blankNext hds.2 (fun _ => isDigit_of_isBlank) hafter
    rw [String.toList_ofList, numeral, htake, hdrop, fraction_of_blankNext hafter, List.append_nil]
  · have htake := (takeWhile_append_of_blankNext htail.2 (fun _ => isDigit_of_isBlank) hafter).1
    rw [String.toList_ofList, List.append_assoc, List.cons_append, numeral,
      (hds.takeWhile_append _).1, (hds.takeWhile_append _).2]
    simp [fraction, htake, htail.1]

theorem spells_number {text : String} (h : (number text).IsSpelled) :
    Spells text.toList (number text) := by
  obtain ⟨c, cs, htext, hdigit⟩ :
      ∃ c cs, text.toList = c :: cs ∧ Decimal.isDigit c = true := by
    obtain ⟨ds, hds, htext⟩ := h
    obtain ⟨c, ds, rfl⟩ := List.exists_cons_of_ne_nil hds.1
    rcases htext with rfl | ⟨tail, _, rfl⟩
    all_goals exact ⟨c, _, String.toList_ofList, hds.2 c List.mem_cons_self⟩
  have hchar : isNameChar c = true := by simp [isNameChar, hdigit]
  refine ⟨c, cs, htext, isBlank_of_isNameChar hchar, fun after hafter => ?_⟩
  have hnumeral : numeral (c :: (cs ++ after)) = c :: cs := by
    rw [← List.cons_append, ← htext, numeral_append h hafter]
  rw [lexeme_of_isNameChar hchar, if_neg (by simp [isNameStart_of_isDigit hdigit]), hnumeral,
    ← htext, String.ofList_toList, htext, List.length_cons, Nat.add_sub_cancel]

/-- A name in brackets ends at the first closing bracket. -/
theorem spells_bracketed {name : String} (hne : name ≠ "") (h : ']' ∉ name.toList) :
    Spells ('[' :: (name.toList ++ [']'])) (identifier name) := by
  refine ⟨'[', _, rfl, by decide, fun after _ => ?_⟩
  have hpair : ∀ cs : List Char, cs.head?.bind (Symbol.pair? '[') = none := by
    rintro (_ | _) <;> rfl
  have htake : (name.toList ++ [']'] ++ after).takeWhile (· ≠ ']') = name.toList := by
    rw [List.append_assoc, List.takeWhile_append_of_pos]
    · simp
    · rintro c hc
      exact decide_eq_true fun heq => h (heq ▸ hc)
  have hname : name.toList.isEmpty = false := by simp [hne]
  rw [lexeme, hpair, htake]
  simp [Symbol.single?, hname]

/-! ### Strings -/

/-- A character between quotes: a backslash stands before backslashes and quotes. -/
def escaped (quote c : Char) : List Char :=
  if c = '\\' ∨ c = quote then ['\\', c] else [c]

/-- Undoing the escapes of a text gives the text, up to the closing quote. -/
theorem stringBody_escaped {quote : Char} (hquote : quote = '"' ∨ quote = '\'')
    (text after : List Char) :
    stringBody quote (text.flatMap (escaped quote) ++ quote :: after) =
      some (text, (text.flatMap (escaped quote)).length + 1) := by
  have hbackslash : '\\' ≠ quote := by rcases hquote with rfl | rfl <;> decide
  induction text with
  | nil => exact stringBody_quote
  | cons c text ih =>
    rw [List.flatMap_cons, escaped, List.append_assoc]
    split
    · next hc =>
      -- What is escaped here stands for itself after a backslash.
      have hunescape : unescape c = [c] := by
        rcases hc with rfl | rfl
        · rfl
        · rcases hquote with rfl | rfl <;> rfl
      rw [List.cons_append, List.cons_append, List.nil_append, stringBody_escape hbackslash, ih]
      simp [hunescape]
    · next hc =>
      rw [not_or] at hc
      rw [List.cons_append, List.nil_append, stringBody_plain hc.2 hc.1, ih]
      simp

example : "it's \\".toList.flatMap (escaped '\'') = "it\\'s \\\\".toList := by decide

theorem spells_quoted {quote : Char} (hquote : quote = '"' ∨ quote = '\'') (text : String) :
    Spells (quote :: (text.toList.flatMap (escaped quote) ++ [quote])) (string text) := by
  have hblank : CharClass.isBlank quote = false := by rcases hquote with rfl | rfl <;> decide
  refine ⟨quote, _, rfl, hblank, fun after _ => ?_⟩
  have hpair : ∀ cs : List Char, cs.head?.bind (Symbol.pair? quote) = none := by
    rcases hquote with rfl | rfl <;> rintro (_ | _) <;> rfl
  have hsingle : Symbol.single? quote = none := by rcases hquote with rfl | rfl <;> rfl
  have hne : quote ≠ '=' ∧ quote ≠ '&' ∧ quote ≠ '|' := by
    rcases hquote with rfl | rfl <;> decide
  rw [List.append_assoc, List.cons_append, List.nil_append, lexeme, hpair, hsingle]
  simp [hne, hquote, stringBody_escaped hquote]

/-! ### Spellings -/

/-- A name that may stand without brackets. -/
structure IsBareName (name : String) : Prop where
  spelled : ∃ c cs, name.toList = c :: cs ∧ isNameStart c = true ∧ ∀ d ∈ cs, isNameChar d = true
  ne_true : name ≠ "true"
  ne_false : name ≠ "false"

/-- A way to write a token. -/
inductive Spelling where
  | symbol (s : Symbol)
  | boolean (value : Bool)
  | number (text : String) (h : (Token.number text).IsSpelled)
  | bare (name : String) (h : IsBareName name)
  | bracketed (name : String) (hne : name ≠ "") (h : ']' ∉ name.toList)
  | quoted (quote : Char) (h : quote = '"' ∨ quote = '\'') (text : String)

namespace Spelling

/-- The token that is written. -/
def token : Spelling → Token
  | symbol s => .symbol s
  | boolean value => .boolean value
  | number text _ => .number text
  | bare name _ => .identifier name
  | bracketed name _ _ => .identifier name
  | quoted _ _ text => .string text

/-- The characters that it is written with. -/
def chars : Spelling → List Char
  | symbol s => s.text.toList
  | boolean true => "true".toList
  | boolean false => "false".toList
  | number text _ => text.toList
  | bare name _ => name.toList
  | bracketed name _ _ => '[' :: (name.toList ++ [']'])
  | quoted quote _ text => quote :: (text.toList.flatMap (escaped quote) ++ [quote])

/-- A token is read from each of its spellings. -/
theorem spells_chars (s : Spelling) : Spells s.chars s.token := by
  rcases s with s | value | ⟨text, h⟩ | ⟨name, h⟩ | ⟨name, hne, h⟩ | ⟨quote, hquote, text⟩
  · exact spells_symbol s
  · cases value
    all_goals exact spells_word rfl (by decide) (List.all_eq_true.mp (by decide))
  · exact spells_number h
  · obtain ⟨c, cs, hname, hc, hcs⟩ := h.spelled
    have hword := spells_word hname hc hcs
    rwa [ofWord, if_neg h.ne_true, if_neg h.ne_false] at hword
  · exact spells_bracketed hne h
  · exact spells_quoted hquote text

end Spelling

/-! ### Texts -/

/-- White space, or nothing. -/
structure Blanks where
  chars : List Char
  allBlank : AllBlank chars

/-- White space between two tokens. -/
structure Gap extends Blanks where
  ne_nil : chars ≠ []

/-- The characters of some spellings, each with white space after it. -/
def written : List (Spelling × Gap) → List Char
  | [] => []
  | (s, gap) :: rest => s.chars ++ (gap.chars ++ written rest)

/-- The tokens of some spellings, the first of which has an offset, and the end of
    the input: each has the offset at which its spelling stands. -/
def placed (offset : Nat) : List (Spelling × Gap) → List Spanned
  | [] => [⟨.endOfInput, offset⟩]
  | (s, gap) :: rest =>
    ⟨s.token, offset⟩ :: placed (offset + s.chars.length + gap.chars.length) rest

theorem Gap.blankNext (gap : Gap) (after : List Char) : BlankNext (gap.chars ++ after) := by
  obtain ⟨c, cs, hgap⟩ := List.exists_cons_of_ne_nil gap.ne_nil
  rintro d hd
  rw [hgap] at hd
  obtain rfl : c = d := by simpa using hd
  exact gap.allBlank c (hgap ▸ List.mem_cons_self)

theorem scanFrom_blanks {blanks : List Char} (h : AllBlank blanks) (offset : Nat) :
    scanFrom offset 0 (blanks ++ after) = scanFrom (offset + blanks.length) 0 after := by
  induction blanks generalizing offset with
  | nil => rfl
  | cons c blanks ih =>
    obtain ⟨hc, hblanks⟩ := List.forall_mem_cons.mp h
    rw [List.cons_append, scanFrom, if_pos hc, ih hblanks, List.length_cons, Nat.add_assoc,
      Nat.add_comm 1]

/-- What is written is read token by token. -/
theorem scanFrom_placed (words : List (Spelling × Gap)) (offset : Nat) :
    scanFrom offset 0 (written words) = .ok (placed offset words) := by
  induction words generalizing offset with
  | nil => rfl
  | cons word words ih =>
    obtain ⟨s, gap⟩ := word
    obtain ⟨c, rest, hchars, hc, hlexeme⟩ := s.spells_chars
    have hafter : scanFrom (offset + (c :: rest).length) 0 (gap.chars ++ written words) =
        .ok (placed (offset + (c :: rest).length + gap.chars.length) words) := by
      rw [scanFrom_blanks gap.allBlank, ih]
    rw [written, placed, hchars]
    exact scanFrom_lexeme hc (hlexeme _ (gap.blankNext _)) hafter

/-- Reading undoes writing: spellings with white space between and around them are
    read as the tokens that they spell, each at the offset at which it stands, and
    the end of the input. -/
theorem scan_written (lead : Blanks) (words : List (Spelling × Gap)) :
    scan (String.ofList (lead.chars ++ written words)) =
      .ok (placed lead.chars.length words) := by
  rw [scan, String.toList_ofList, scanFrom_blanks lead.allBlank, Nat.zero_add, scanFrom_placed]

end RuleEngine.Token
