import RuleEngine.Proofs.Parser.Acceptance
import RuleEngine.Proofs.Token.Lexeme

/-!
# Words as texts

Words that are written out with a blank after each of them are read back as
these words (`scanFrom_written`, `exists_scan`). What holds of every text of a
rule can so be shown to be as good as it gets with a derivation alone.
-/

namespace RuleEngine.Token

/-- Some characters are read as a token where a blank follows them. -/
def IsWritten (cs : List Char) (t : Token) : Prop :=
  ∃ c rest, cs = c :: rest ∧ CharClass.isBlank c = false ∧
    ∀ after, lexeme c (rest ++ ' ' :: after) = .ok (t, rest.length)

theorem IsWritten.ne_endOfInput {cs : List Char} {t : Token} (h : IsWritten cs t) :
    t ≠ .endOfInput := by
  obtain ⟨c, rest, _, _, hlexeme⟩ := h
  exact (isSpelled_of_lexeme (hlexeme [])).2

/-- Operators and marks are written as their texts. -/
theorem isWritten_symbol (s : Symbol) : IsWritten s.text.toList (.symbol s) := by
  cases s <;> exact ⟨_, _, rfl, by decide, fun _ => rfl⟩

theorem isWritten_one : IsWritten ['1'] (.number "1") :=
  ⟨_, _, rfl, by decide, fun _ => rfl⟩

theorem isWritten_name : IsWritten ['f'] (.identifier "f") :=
  ⟨_, _, rfl, by decide, fun _ => rfl⟩

/-- A word that can be written. -/
def CanBeWritten (t : Token) : Prop :=
  ∃ cs, IsWritten cs t

theorem scanFrom_written {cs : List Char} {t : Token} (h : IsWritten cs t) (offset : Nat)
    {after : List Char} {tokens : List Spanned}
    (hafter : scanFrom (offset + cs.length + 1) 0 after = .ok tokens) :
    scanFrom offset 0 (cs ++ ' ' :: after) = .ok (⟨t, offset⟩ :: tokens) := by
  obtain ⟨c, rest, rfl, hc, hlexeme⟩ := h
  have hblank : CharClass.isBlank ' ' = true := by decide
  refine scanFrom_lexeme hc (hlexeme after) ?_
  rw [scanFrom, if_pos hblank, hafter]

/-- Words that can be written are the words of a text. -/
theorem exists_scan {ws : List Token} (h : ∀ t ∈ ws, t.CanBeWritten) :
    ∃ source tokens, scan source = .ok tokens ∧ phrase tokens = ws := by
  -- The offset is left open, since each word moves those that come after it.
  suffices ∃ cs, ∀ offset, ∃ tokens, scanFrom offset 0 cs = .ok tokens ∧ phrase tokens = ws by
    obtain ⟨cs, hcs⟩ := this
    obtain ⟨tokens, hscan, hws⟩ := hcs 0
    exact ⟨String.ofList cs, tokens, by rwa [scan, String.toList_ofList], hws⟩
  induction ws with
  | nil => exact ⟨[], fun offset => ⟨_, rfl, rfl⟩⟩
  | cons t ws ih =>
    obtain ⟨⟨cs, hcs⟩, hws⟩ := List.forall_mem_cons.mp h
    obtain ⟨after, hafter⟩ := ih hws
    refine ⟨cs ++ ' ' :: after, fun offset => ?_⟩
    obtain ⟨tokens, hscan, hphrase⟩ := hafter (offset + cs.length + 1)
    refine ⟨_, scanFrom_written hcs offset hscan, ?_⟩
    have hne : decide (t ≠ .endOfInput) = true := decide_eq_true hcs.ne_endOfInput
    rw [phrase, words, List.map_cons, List.takeWhile_cons, if_pos hne, ← words, ← phrase, hphrase]

end RuleEngine.Token
