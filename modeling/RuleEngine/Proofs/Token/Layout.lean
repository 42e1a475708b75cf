import RuleEngine.Proofs.Parser.Words
import RuleEngine.Proofs.Runs
import RuleEngine.Proofs.Token.Lexeme

/-!
# Where the tokens stand

A text that is read as tokens consists of blanks and lexemes: characters that by
themselves are read as one token (`IsLexeme`). Each token has the offset at which
its lexeme begins, and after the last one there are only blanks, up to the end of
the input (`Layout`). So from the tokens and the text each lexeme can be cut out
again, and nothing but blanks is lost (`scan_lossless`).

Where a text cannot be read, the failure is at one of its characters, and the
text before that character can be read (`exists_scanFrom_take`).

Both go by induction on the characters. That the characters of a lexeme are read
by themselves as they are read inside the text is `lexeme_take`.
-/

namespace RuleEngine.Token

/-- Some characters are blanks. -/
def AllBlank (cs : List Char) : Prop :=
  ∀ c ∈ cs, CharClass.isBlank c = true

theorem allBlank_nil : AllBlank [] :=
  fun _ h => absurd h List.not_mem_nil

/-- Some characters are by themselves read as a token and nothing else. -/
structure IsLexeme (cs : List Char) (t : Token) : Prop where
  ne_nil : cs ≠ []
  ne_endOfInput : t ≠ .endOfInput
  scan_eq : scan (String.ofList cs) = .ok [⟨t, 0⟩, ⟨.endOfInput, cs.length⟩]

variable {offset skip n : Nat} {c : Char} {cs rest : List Char} {t : Token}
  {tokens : List Spanned}

/-- What is read as a token inside a text is read so by itself. -/
theorem isLexeme_of_lexeme (hc : CharClass.isBlank c = false)
    (h : lexeme c rest = .ok (t, n)) : IsLexeme (c :: rest.take n) t := by
  obtain ⟨hle, htake⟩ := lexeme_take h (Nat.le_refl n)
  have hlength : (rest.take n).length = n := List.length_take_of_le hle
  have hends : scanFrom 1 n (rest.take n) = .ok [⟨.endOfInput, (c :: rest.take n).length⟩] := by
    have happend := scanFrom_append (rest.take n) [] 1
    rw [hlength, List.append_nil] at happend
    rw [happend, List.length_cons, hlength, Nat.add_comm 1 n]
    rfl
  refine ⟨List.cons_ne_nil _ _, (isSpelled_of_lexeme h).2, ?_⟩
  simp only [scan, String.toList_ofList, scanFrom, hc, htake, hends, Bool.false_eq_true, if_false]

/-! ### Layouts -/

theorem extract_append (as bs cs : List Char) :
    (as ++ (bs ++ cs)).extract as.length (as.length + bs.length) = bs := by
  rw [List.extract_eq_take_drop, List.drop_left, Nat.add_sub_cancel_left, List.take_left]

/-- Some characters, of which the first has an offset, are the lexemes of some
    tokens with blanks between them, and each token has the offset of its lexeme. -/
inductive Layout : Nat → List Char → List Spanned → Prop
  | ends {offset : Nat} {blanks : List Char} (h : AllBlank blanks) :
      Layout offset blanks [⟨.endOfInput, offset + blanks.length⟩]
  | token {offset : Nat} {blanks lexeme rest : List Char} {t : Token} {tokens : List Spanned}
      (hblanks : AllBlank blanks) (hlexeme : IsLexeme lexeme t)
      (hrest : Layout (offset + blanks.length + lexeme.length) rest tokens) :
      Layout offset (blanks ++ (lexeme ++ rest)) (⟨t, offset + blanks.length⟩ :: tokens)

namespace Layout

theorem blank (hc : CharClass.isBlank c = true) (h : Layout (offset + 1) cs tokens) :
    Layout offset (c :: cs) tokens := by
  have hmove : ∀ blanks : List Char,
      offset + 1 + blanks.length = offset + (c :: blanks).length := by
    intro blanks
    rw [List.length_cons]
    omega
  cases h with
  | ends hblanks =>
    rw [hmove]
    exact .ends (List.forall_mem_cons.mpr ⟨hc, hblanks⟩)
  | token hblanks hlexeme hrest =>
    rw [hmove] at hrest ⊢
    exact .token (List.forall_mem_cons.mpr ⟨hc, hblanks⟩) hlexeme hrest

/-- The tokens that are read of a text are laid out in it. -/
theorem of_scanFrom (h : scanFrom offset skip cs = .ok tokens) (hskip : skip ≤ cs.length) :
    Layout (offset + skip) (cs.drop skip) tokens := by
  induction cs generalizing offset skip tokens with
  | nil =>
    obtain rfl := Nat.le_zero.mp hskip
    cases h
    exact .ends allBlank_nil
  | cons c rest ih =>
    cases skip with
    | succ skip =>
      rw [scanFrom] at h
      rw [List.drop_succ_cons, Nat.add_comm skip 1, ← Nat.add_assoc]
      exact ih h (Nat.le_of_succ_le_succ hskip)
    | zero =>
      rw [scanFrom] at h
      split at h
      · next hc => exact (ih h (Nat.zero_le _)).blank hc
      next hc =>
      split at h
      · cases h
      next t extra hlexeme =>
      split at h
      · cases h
      next tokens hrest =>
      cases h
      have hle : extra ≤ rest.length := (lexeme_take hlexeme (Nat.le_refl extra)).1
      have hoffset : offset + 1 + extra = offset + (c :: rest.take extra).length := by
        rw [List.length_cons, List.length_take_of_le hle]
        omega
      have hlayout := ih hrest hle
      rw [hoffset] at hlayout
      -- The characters of the token are followed by those that are read after it.
      have htoken := token allBlank_nil (isLexeme_of_lexeme (Bool.eq_false_iff.mpr hc) hlexeme)
        hlayout
      rwa [List.cons_append, List.take_append_drop] at htoken

/-- Before the first token there are only blanks. -/
theorem exists_head {s : Spanned} (h : Layout offset cs (s :: tokens)) :
    ∃ blanks rest, cs = blanks ++ rest ∧ AllBlank blanks ∧ s.offset = offset + blanks.length := by
  cases h with
  | ends hblanks => exact ⟨cs, [], (List.append_nil _).symm, hblanks, rfl⟩
  | token hblanks _ _ => exact ⟨_, _, rfl, hblanks, rfl⟩

theorem le_offset (h : Layout offset cs tokens) : ∀ s ∈ tokens, offset ≤ s.offset := by
  induction h with
  | ends _ => exact fun s hs => List.mem_singleton.mp hs ▸ Nat.le_add_right _ _
  | token _ _ _ ih =>
    intro s hs
    rcases List.mem_cons.mp hs with rfl | hs
    · exact Nat.le_add_right _ _
    · have := ih s hs
      omega

/-- The offsets increase, since no lexeme is empty. -/
theorem pairwise_offset (h : Layout offset cs tokens) :
    tokens.Pairwise fun s s' => s.offset < s'.offset := by
  induction h with
  | ends _ => exact List.pairwise_singleton _ _
  | token _ hlexeme hrest ih =>
    refine List.pairwise_cons.mpr ⟨fun s hs => ?_, ih⟩
    have hpos := List.length_pos_iff.mpr hlexeme.ne_nil
    have hle := hrest.le_offset s hs
    dsimp only
    omega

/-- The end of the input, and no other token, stands after the last character. -/
theorem exists_concat (h : Layout offset cs tokens) :
    ∃ front, tokens = front ++ [⟨.endOfInput, offset + cs.length⟩] ∧
      ∀ s ∈ front, s.token ≠ .endOfInput := by
  induction h with
  | ends _ => exact ⟨[], rfl, nofun⟩
  | @token offset blanks lexeme rest t tokens _ hlexeme _ ih =>
    obtain ⟨front, rfl, hfront⟩ := ih
    refine ⟨⟨t, offset + blanks.length⟩ :: front, ?_,
      List.forall_mem_cons.mpr ⟨hlexeme.ne_endOfInput, hfront⟩⟩
    simp only [List.cons_append, List.length_append, Nat.add_assoc]

/-- From one token to the next there is a lexeme of the first, and blanks. -/
theorem exists_extract (h : Layout offset cs tokens) {before : List Char}
    (hbefore : before.length = offset) {front back : List Spanned} {s next : Spanned}
    (htokens : tokens = front ++ s :: next :: back) :
    ∃ lexeme blanks, (before ++ cs).extract s.offset next.offset = lexeme ++ blanks ∧
      IsLexeme lexeme s.token ∧ AllBlank blanks := by
  induction h generalizing before front with
  | ends _ =>
    have hlength := congrArg List.length htokens
    simp only [List.length_append, List.length_cons, List.length_nil] at hlength
    omega
  | @token offset blanks lexeme rest t tokens _ hlexeme hrest ih =>
    cases front with
    | nil =>
      obtain ⟨rfl, rfl⟩ := List.cons.inj htokens
      obtain ⟨blanks', rest', rfl, hblanks', hnext⟩ := hrest.exists_head
      refine ⟨lexeme, blanks', ?_, hlexeme, hblanks'⟩
      have hsplit : before ++ (blanks ++ (lexeme ++ (blanks' ++ rest'))) =
          (before ++ blanks) ++ ((lexeme ++ blanks') ++ rest') := by
        simp only [List.append_assoc]
      have hstart : offset + blanks.length = (before ++ blanks).length := by
        rw [List.length_append, hbefore]
      have hstop : next.offset = (before ++ blanks).length + (lexeme ++ blanks').length := by
        simp only [hnext, hbefore, List.length_append, Nat.add_assoc]
      dsimp only
      rw [hsplit, hstart, hstop, extract_append]
    | cons _ front =>
      obtain ⟨_, htokens⟩ := List.cons.inj htokens
      have hbefore' : (before ++ (blanks ++ lexeme)).length =
          offset + blanks.length + lexeme.length := by
        simp only [List.length_append, hbefore, Nat.add_assoc]
      have hrest' := ih hbefore' htokens
      rwa [List.append_assoc, List.append_assoc] at hrest'

end Layout

/-! ### Failures -/

/-- A failure is at a character before which there is a text that can be read. -/
theorem exists_scanFrom_take {e : Error} (h : scanFrom offset skip cs = .error e)
    (hskip : skip ≤ cs.length) :
    ∃ k problem, e = .badSyntax (offset + k) problem ∧ skip ≤ k ∧ k < cs.length ∧
      ∃ tokens, scanFrom offset skip (cs.take k) = .ok tokens := by
  induction cs generalizing offset skip with
  | nil => cases h
  | cons c rest ih =>
    cases skip with
    | succ skip =>
      rw [scanFrom] at h
      obtain ⟨k, problem, rfl, hk, hlt, htokens⟩ := ih h (Nat.le_of_succ_le_succ hskip)
      refine ⟨k + 1, problem, ?_, Nat.succ_le_succ hk, Nat.succ_lt_succ hlt, ?_⟩
      · rw [Nat.add_assoc, Nat.add_comm 1 k]
      · rwa [List.take_succ_cons, scanFrom]
    | zero =>
      unfold scanFrom at h
      dsimp only at h
      split at h
      · next hc =>
        obtain ⟨k, problem, rfl, _, hlt, htokens⟩ := ih h (Nat.zero_le _)
        refine ⟨k + 1, problem, ?_, Nat.zero_le _, Nat.succ_lt_succ hlt, ?_⟩
        · rw [Nat.add_assoc, Nat.add_comm 1 k]
        · rwa [List.take_succ_cons, scanFrom, if_pos hc]
      next hc =>
      split at h
      · -- No token begins here: what stands before has been read already.
        cases h
        exact ⟨0, _, rfl, Nat.zero_le _, Nat.zero_lt_succ _, _, rfl⟩
      next t extra hlexeme =>
      have hle : extra ≤ rest.length := (lexeme_take hlexeme (Nat.le_refl extra)).1
      split at h
      · next hrest =>
        cases h
        obtain ⟨k, problem, rfl, hk, hlt, tokens, htokens⟩ := ih hrest hle
        refine ⟨k + 1, problem, ?_, Nat.zero_le _, Nat.succ_lt_succ hlt, ⟨t, offset⟩ :: tokens, ?_⟩
        · rw [Nat.add_assoc, Nat.add_comm 1 k]
        · -- The token is read the same where the text ends before the failure.
          rw [List.take_succ_cons, scanFrom, if_neg hc, (lexeme_take hlexeme hk).2]
          dsimp only
          rw [htokens]
      · cases h

/-! ### Whole texts -/

/-- If a text is read as tokens, the last of them and no other is the end of the
    input, after all characters; offsets increase; and before the first token and
    between the lexemes there are only blanks. If it is not, the failure is a syntax
    error at one of its characters, and the text before that character is read. -/
theorem scan_lossless (source : String) :
    (∀ tokens, scan source = .ok tokens →
      (∃ front, tokens = front ++ [⟨.endOfInput, source.length⟩] ∧
        ∀ s ∈ front, s.token ≠ .endOfInput) ∧
      (tokens.Pairwise fun s s' => s.offset < s'.offset) ∧
      (∀ s ∈ tokens.head?, AllBlank (source.toList.take s.offset)) ∧
      (∀ front s next back, tokens = front ++ s :: next :: back →
        ∃ lexeme blanks, source.toList.extract s.offset next.offset = lexeme ++ blanks ∧
          IsLexeme lexeme s.token ∧ AllBlank blanks)) ∧
    (∀ e, scan source = .error e → ∃ offset problem, e = .badSyntax offset problem ∧
      offset < source.length ∧
      ∃ tokens, scan (String.ofList (source.toList.take offset)) = .ok tokens) := by
  constructor
  · intro tokens hscan
    have hlayout : Layout 0 source.toList tokens := Layout.of_scanFrom hscan (Nat.zero_le _)
    refine ⟨?_, hlayout.pairwise_offset, ?_, ?_⟩
    · obtain ⟨front, hfront, hne⟩ := hlayout.exists_concat
      rw [Nat.zero_add, String.length_toList] at hfront
      exact ⟨front, hfront, hne⟩
    · intro s hs
      obtain ⟨tokens', rfl⟩ := List.head?_eq_some_iff.mp hs
      obtain ⟨blanks, rest, hsource, hblanks, hoffset⟩ := hlayout.exists_head
      rw [hsource, hoffset, Nat.zero_add, List.take_left]
      exact hblanks
    · intro front s next back htokens
      exact hlayout.exists_extract List.length_nil htokens
  · intro e hscan
    obtain ⟨offset, problem, rfl, _, hlt, htokens⟩ :=
      exists_scanFrom_take hscan (Nat.zero_le _)
    rw [String.length_toList] at hlt
    refine ⟨0 + offset, problem, rfl, by omega, ?_⟩
    rwa [Nat.zero_add, scan, String.toList_ofList]

/-- A text with a string in it, and one that ends in half an operator. -/
theorem scan_lossless_quoted :
    let source := " a =~ 'b'  && c"
    let tokens : List Spanned :=
      [⟨.identifier "a", 1⟩, ⟨.symbol .regexMatch, 3⟩, ⟨.string "b", 6⟩, ⟨.symbol .and, 11⟩,
        ⟨.identifier "c", 14⟩, ⟨.endOfInput, 15⟩]
    scan source = .ok tokens ∧
      (∃ lexeme blanks, source.toList.extract 6 11 = lexeme ++ blanks ∧
        IsLexeme lexeme (.string "b") ∧ AllBlank blanks) ∧
      scan "a & b" = .error (.badSyntax 2 .lonelyAmpersand) ∧
      ∃ tokens, scan (String.ofList ("a & b".toList.take 2)) = .ok tokens := by
  intro source tokens
  have hscan : scan source = .ok tokens := toOption_eq_some_iff.mp (by decide +kernel)
  have hfailed : scan "a & b" = .error (.badSyntax 2 .lonelyAmpersand) := rfl
  obtain ⟨_, _, _, hextract⟩ := (scan_lossless source).1 tokens hscan
  obtain ⟨offset, problem, heq, _, htokens⟩ := (scan_lossless "a & b").2 _ hfailed
  cases heq
  exact ⟨hscan, hextract [⟨.identifier "a", 1⟩, ⟨.symbol .regexMatch, 3⟩] _ _ _ rfl, hfailed,
    htokens⟩

end RuleEngine.Token
