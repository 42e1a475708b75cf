import Mathlib.Data.List.Basic
import Mathlib.Data.Nat.Digits.Defs
import RuleEngine.Proofs.Parser.Acceptance
import RuleEngine.Proofs.Token.Spelling

/-!
# Reading integers

A rule of decimal digits with minus signs before them is read as the number that the
digits write, under as many minus operators (`Expr.parse_signed`). The sign is no part of
a number, so the digits alone have to be in range: no number of signs makes up for it.

The reading is followed from the characters to the tokens (`Token.scan_signed`) and from
these through the parsers of all levels, the outcome of each of which is that of the one
below, as nothing comes after the number (`Parse.run_chain_of_end`).
-/

namespace RuleEngine

open Grammar

/-! ### Digits -/

/-- The number that decimal digits write: each digit counts by its place. -/
def Decimal.placeValue (ds : List Char) : Nat :=
  Nat.ofDigits 10 (ds.reverse.map fun c => c.toNat - '0'.toNat)

namespace Decimal

variable {c : Char} {ds : List Char}

theorem digit?_of_isDigit (h : isDigit c = true) : digit? c = some (c.toNat - '0'.toNat) := by
  rw [isDigit, Bool.and_eq_true, decide_eq_true_eq, decide_eq_true_eq] at h
  exact if_pos h

theorem ofDigits_eq_ofDigitChars (h : ∀ c ∈ ds, isDigit c = true) :
    ofDigits ds = Nat.ofDigitChars 10 ds 0 := by
  refine List.foldl_ext _ _ _ fun n c hc => ?_
  rw [digit?_of_isDigit (h c hc), Option.getD_some]

/-- Digits are read from the first to the last, but count from the last one on. -/
theorem ofDigits_eq_placeValue (h : ∀ c ∈ ds, isDigit c = true) : ofDigits ds = placeValue ds := by
  rw [ofDigits, placeValue, ← List.foldr_reverse]
  replace h : ∀ c ∈ ds.reverse, isDigit c = true := fun c hc => h c (List.mem_reverse.mp hc)
  generalize ds.reverse = ds at h
  induction ds with
  | nil => rfl
  | cons c ds ih =>
    obtain ⟨hc, hds⟩ := List.forall_mem_cons.mp h
    rw [List.foldr_cons, List.map_cons, Nat.ofDigits_cons, ← ih hds, digit?_of_isDigit hc,
      Option.getD_some, Nat.add_comm]

/-- The digits that a number is written with write that number. -/
theorem placeValue_toDigits (n : Nat) :
    IsDigits (Nat.toDigits 10 n) ∧ placeValue (Nat.toDigits 10 n) = n := by
  have hdigits : ∀ c ∈ Nat.toDigits 10 n, isDigit c = true := fun c hc =>
    Nat.isDigit_of_mem_toDigits (by decide) (by decide) hc
  refine ⟨⟨Nat.toDigits_ne_nil, hdigits⟩, ?_⟩
  rw [← ofDigits_eq_placeValue hdigits, ofDigits_eq_ofDigitChars hdigits,
    Nat.ofDigitChars_toDigits (by decide) (by decide)]

end Decimal

/-! ### Signs -/

/-- Minus signs, with white space anywhere between them. -/
def AreSigns (cs : List Char) : Prop :=
  ∀ c ∈ cs, c = '-' ∨ CharClass.isBlank c = true

namespace Token

theorem lexeme_minus (rest : List Char) : lexeme '-' rest = .ok (.symbol .minus, 0) := by
  have hpair : rest.head?.bind (Symbol.pair? '-') = none := by
    cases rest <;> rfl
  rw [lexeme, hpair]
  rfl

/-- Some signs and digits are read as minus symbols and a number. -/
theorem scanFrom_signed {signs ds : List Char} (hsigns : AreSigns signs) (hds : IsDigits ds)
    (offset : Nat) : ∃ ts, ts.length = signs.count '-' ∧ (∀ t ∈ ts, t.token = .symbol .minus) ∧
      scanFrom offset 0 (signs ++ ds) = .ok (ts ++ [⟨.number (String.ofList ds),
        offset + signs.length⟩, ⟨.endOfInput, offset + signs.length + ds.length⟩]) := by
  induction signs generalizing offset with
  | nil =>
    refine ⟨[], rfl, List.forall_mem_nil _, ?_⟩
    have hspelled : (number (String.ofList ds)).IsSpelled := ⟨ds, hds, .inl rfl⟩
    obtain ⟨c, rest, hchars, hc, hlexeme⟩ := spells_number hspelled
    rw [String.toList_ofList] at hchars
    have hend : scanFrom (offset + (c :: rest).length) 0 [] =
        .ok [⟨.endOfInput, offset + ds.length⟩] := by
      rw [scanFrom, hchars]
    rw [List.nil_append, ← List.append_nil ds]
    nth_rewrite 1 [hchars]
    rw [scanFrom_lexeme hc (hlexeme [] (by simp [BlankNext])) hend, List.append_nil]
    rfl
  | cons c signs ih =>
    obtain ⟨hc, hsigns⟩ := List.forall_mem_cons.mp hsigns
    obtain ⟨ts, hlength, hts, hscan⟩ := ih hsigns (offset + 1)
    rw [Nat.add_right_comm, Nat.add_assoc offset] at hscan
    rw [List.length_cons, List.cons_append, scanFrom]
    rcases hc with rfl | hc
    · refine ⟨⟨.symbol .minus, offset⟩ :: ts, ?_, List.forall_mem_cons.mpr ⟨rfl, hts⟩, ?_⟩
      · rw [List.length_cons, hlength, List.count_cons_self]
      · simp [lexeme_minus, hscan, show CharClass.isBlank '-' = false by decide]
    · have hne : c ≠ '-' := by
        rintro rfl
        exact absurd hc (by decide)
      refine ⟨ts, ?_, hts, ?_⟩
      · rw [hlength, List.count_cons_of_ne hne]
      · rw [if_pos hc, hscan]

end Token

/-- Some minus operators on an expression. -/
def Expr.negated : Nat → Expr → Expr
  | 0, e => e
  | count + 1, e => .unary .minus (negated count e)

namespace Parse

variable {limit room depth : Nat} {inner operand : Parse Expr} {c : Cursor}
  {rest : List Spanned} {result : Except Error Expr}

/-! ### Outcomes at the end -/

/-- Only the end of the input is left after what has been read, if it could be read. -/
def EndsAfter (result : Except Error Expr) (rest : List Spanned) : Prop :=
  ∀ e, result = .ok e → ∃ v : Spanned, v.token = .endOfInput ∧ rest = [v]

theorem run_operator_of_end {Op : Type} (op? : Symbol → Option Op) {v : Spanned}
    (hv : v.token = .endOfInput) (depth : Nat) :
    (operator? op?).run ⟨[v], depth⟩ = (.ok none, ⟨[v], depth⟩) := by
  rw [run_operator, hv]
  rfl

/-- Where nothing comes after it, the outcome of the first operand is that of the chain. -/
theorem run_chain_of_end (op? : Symbol → Option BinaryOp)
    (h : operand.run c = (result, ⟨rest, c.depth⟩)) (hend : EndsAfter result rest) :
    (chain limit room op? operand).run c = (result, ⟨rest, c.depth⟩) := by
  cases result with
  | error e => rw [chain, run_bind_ok (run_get c), run_bind, h]
  | ok e =>
    obtain ⟨v, hv, rfl⟩ := hend e rfl
    have hrun : (operand >>= chainTail limit op? operand room).run c = (.ok e, ⟨[v], c.depth⟩) := by
      rw [run_bind_ok h]
      cases room <;> rw [chainTail, run_bind_ok (run_operator_of_end op? hv _)] <;> rfl
    exact run_chain hrun

theorem run_comparison_of_end (h : (additive limit room inner).run c = (result, ⟨rest, c.depth⟩))
    (hend : EndsAfter result rest) :
    (comparison limit room inner).run c = (result, ⟨rest, c.depth⟩) := by
  cases result with
  | error e => rw [comparison, run_bind, h]
  | ok e =>
    obtain ⟨v, hv, rfl⟩ := hend e rfl
    rw [comparison, run_bind_ok h, run_bind_ok (run_operator_of_end _ hv _)]
    rfl

/-- Where nothing comes after it, what unary operators and a primary phrase are read as is
    what is read. -/
theorem run_disjunction_of_end (h : (unary limit inner room).run c = (result, ⟨rest, c.depth⟩))
    (hend : EndsAfter result rest) :
    (disjunction limit room inner).run c = (result, ⟨rest, c.depth⟩) :=
  have hproduct := run_chain_of_end multiplicativeOp? h hend
  have hsum := run_chain_of_end additiveOp? hproduct hend
  have hcomparison := run_comparison_of_end hsum hend
  run_chain_of_end orOp? (run_chain_of_end andOp? hcomparison hend) hend

theorem run_rule_of_end {s : Spanned} {ts : List Spanned} (hs : s.token ≠ .endOfInput)
    (h : (unary (limit + 1) (expression (limit + 1) limit) limit).run ⟨s :: ts, 1⟩ =
      (result, ⟨rest, 1⟩)) (hend : EndsAfter result rest) :
    ((rule (limit + 1)).run ⟨s :: ts, 0⟩).1 = result := by
  have hrun : (expression (limit + 1) (limit + 1)).run ⟨s :: ts, 0⟩ = (result, ⟨rest, 0⟩) := by
    rw [expression, run_bind_ok (run_enter_of_lt (Nat.succ_pos _) _ _), run_released,
      run_disjunction_of_end h hend]
    rfl
  rw [rule, run_bind_ok (run_current _ _ _), if_neg hs]
  dsimp only
  cases result with
  | error e => rw [run_bind, hrun]
  | ok e =>
    obtain ⟨v, hv, rfl⟩ := hend e rfl
    rw [run_bind_ok hrun, run_bind_ok (run_current _ _ _), if_pos hv]
    rfl

/-! ### Signs and a number -/

/-- What a number at the end of the input is read as, and what is left then. -/
def lastNumber (u v : Spanned) (text : String) : Except Error Expr × List Spanned :=
  match numberValue? text with
  | some value => (.ok (.literal value), [v])
  | none => (.error (.badSyntax u.offset (.integerOutOfRange text)), [u, v])

theorem run_unary_signed {u v : Spanned} {text : String} (hu : u.token = .number text)
    {ts : List Spanned} (hts : ∀ t ∈ ts, t.token = .symbol .minus) (hroom : ts.length ≤ room)
    (hdepth : depth + ts.length ≤ limit) :
    (unary limit inner room).run ⟨ts ++ [u, v], depth⟩ =
      ((lastNumber u v text).1.map (Expr.negated ts.length), ⟨(lastNumber u v text).2, depth⟩) := by
  induction ts generalizing room depth with
  | nil =>
    have hprimary : (primary inner).run ⟨[u, v], depth⟩ =
        ((lastNumber u v text).1, ⟨(lastNumber u v text).2, depth⟩) := by
      rw [primary, run_bind_ok (run_current _ _ _), hu, lastNumber]
      dsimp only
      cases numberValue? text <;> rfl
    have hnone : (operator? unaryOp?).run ⟨[u, v], depth⟩ = (.ok none, ⟨[u, v], depth⟩) := by
      rw [run_operator, hu]
      rfl
    have hmap : (lastNumber u v text).1.map (Expr.negated 0) = (lastNumber u v text).1 :=
      Except.map_id ▸ rfl
    rw [List.length_nil, hmap, List.nil_append, ← hprimary]
    cases room <;> rw [unary, run_bind_ok hnone]
  | cons t ts ih =>
    obtain ⟨ht, hts⟩ := List.forall_mem_cons.mp hts
    rw [List.length_cons] at hroom hdepth ⊢
    obtain ⟨room, rfl⟩ : ∃ n, room = n + 1 := Nat.exists_eq_add_one.mpr (Nat.zero_lt_of_lt hroom)
    obtain ⟨w, ws, hws⟩ : ∃ w ws, ts ++ [u, v] = w :: ws :=
      List.exists_cons_of_ne_nil (by simp)
    have hoperand : (unary limit inner room).run ⟨ts ++ [u, v], depth + 1⟩ = _ :=
      ih hts (by omega) (by omega)
    have hminus : (operator? unaryOp?).run ⟨t :: w :: ws, depth⟩ =
        (.ok (some .minus), ⟨t :: w :: ws, depth⟩) := by
      rw [run_operator, ht]
      rfl
    rw [hws] at hoperand
    rw [List.cons_append, hws, unary, run_bind_ok hminus]
    dsimp only
    rw [run_bind_ok (run_advance _ _ _ _), run_bind_ok (run_enter_of_lt (by omega) _ _), run_bind,
      run_released, hoperand]
    cases (lastNumber u v text).1 <;> rfl

/-- Signs and a number after them are read at every level as the number. -/
theorem run_rule_signed {u v : Spanned} {text : String} (hu : u.token = .number text)
    (hv : v.token = .endOfInput) {ts : List Spanned} (hts : ∀ t ∈ ts, t.token = .symbol .minus)
    (hlimit : ts.length < limit) : ((rule limit).run ⟨ts ++ [u, v], 0⟩).1 =
      (lastNumber u v text).1.map (Expr.negated ts.length) := by
  obtain ⟨limit, rfl⟩ : ∃ n, limit = n + 1 := Nat.exists_eq_add_one.mpr (Nat.zero_lt_of_lt hlimit)
  have hrun : (unary (limit + 1) (expression (limit + 1) limit) limit).run
      ⟨ts ++ [u, v], 1⟩ = _ :=
    run_unary_signed hu hts (by omega) (by omega)
  have hend : EndsAfter ((lastNumber u v text).1.map (Expr.negated ts.length))
      (lastNumber u v text).2 := by
    rw [lastNumber]
    split
    · exact fun _ _ => ⟨v, hv, rfl⟩
    · rintro _ ⟨⟩
  obtain ⟨s, rest, hsplit, hs⟩ : ∃ s rest, ts ++ [u, v] = s :: rest ∧ s.token ≠ .endOfInput := by
    rcases ts with _ | ⟨t, ts⟩
    · exact ⟨u, [v], rfl, by simp [hu]⟩
    · exact ⟨t, ts ++ [u, v], rfl, by simp [hts t List.mem_cons_self]⟩
  rw [hsplit] at hrun ⊢
  exact run_rule_of_end hs hrun hend

end Parse

/-- Digits with minus signs and white space before them are read as the number that they
    write, under as many minus operators. If that number is out of range, they are refused,
    at the first of the digits. -/
theorem Expr.parse_signed {signs ds : List Char} (hsigns : AreSigns signs) (hds : IsDigits ds)
    {limit : Nat} (hcount : signs.count '-' < limit) :
    Expr.parse (String.ofList (signs ++ ds)) limit =
      if Decimal.placeValue ds ≤ 9223372036854775807 then
        .ok (negated (signs.count '-')
          (.literal (.integer (Int64.ofNat (Decimal.placeValue ds)))))
      else .error (.badSyntax signs.length (.integerOutOfRange (String.ofList ds))) := by
  obtain ⟨ts, hlength, hts, hscan⟩ := Token.scanFrom_signed hsigns hds 0
  rw [Expr.parse, Token.scan, String.toList_ofList, hscan]
  dsimp only
  rw [← hlength] at hcount ⊢
  rw [Parse.run_rule_signed rfl rfl hts hcount, Parse.lastNumber, Parse.numberValue_digits hds,
    Decimal.ofDigits_eq_placeValue hds.2, int64?]
  by_cases h : Decimal.placeValue ds ≤ 9223372036854775807
  · rw [if_pos h, if_pos (by omega), Int64.ofInt_eq_ofNat]
    rfl
  · rw [if_neg h, if_neg (by omega), Nat.zero_add]
    rfl

end RuleEngine
