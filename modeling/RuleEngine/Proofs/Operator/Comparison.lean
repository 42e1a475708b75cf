import RuleEngine.Proofs.Numeric.FloatOrder

/-!
# Comparisons fit together

All six comparisons of two values are answered from one finding, how the values
relate (`Value.relation`): one is missing, or they have an order, or both are truth
values, or they cannot be compared. What a comparison makes of it
(`Comparison.verdict?`) is a table of a few rows, and no longer speaks of kinds. So
two comparisons of the same values, and of the values exchanged, are related by
their rows (`Comparison.verdict?_ne`, `Comparison.verdict?_converse`), since
exchanging the values reverses their order (`Value.relation_swap`).

The order itself is that of the integers, of the code points of strings, and of
floats (`floatOrder?_swap`), where only a NaN has none. `Comparison.coherent` puts
this together.
-/

namespace RuleEngine

/-! ### How values relate -/

/-- What is to be known of two values to compare them. -/
inductive Relation where
  /-- A value is missing, or both are. -/
  | missing (both : Bool)
  /-- The values have an order, or are numbers that have none. -/
  | ordered (order? : Option Ordering)
  /-- Truth values are the same or not. -/
  | truths (same : Bool)
  | incomparable

/-- The relation of the same values, exchanged. -/
def Relation.swap : Relation → Relation
  | ordered order? => ordered (order?.map Ordering.swap)
  | relation => relation

/-- How two values relate. -/
def Value.relation : Value → Value → Relation
  | missing, b => .missing b.isMissing
  | _, missing => .missing false
  | integer a, integer b => .ordered (some (compareOfLessAndEq a.toInt b.toInt))
  | string a, string b => .ordered (some (compareOfLessAndEq a b))
  | boolean a, boolean b => .truths (a == b)
  | a, b =>
    match a.number?, b.number? with
    | some x, some y => .ordered (floatOrder? x y)
    | _, _ => .incomparable

theorem compareOfLessAndEq_int_swap (a b : Int) :
    compareOfLessAndEq b a = (compareOfLessAndEq a b).swap :=
  compareOfLessAndEq_eq_swap_of_lt_iff_not_gt_and_ne fun _ _ => by omega

theorem compareOfLessAndEq_string_swap (a b : String) :
    compareOfLessAndEq b a = (compareOfLessAndEq a b).swap := by
  refine compareOfLessAndEq_eq_swap_of_lt_iff_not_gt_and_ne fun s t => ?_
  refine ⟨fun h => ⟨String.lt_asymm h, ?_⟩, fun ⟨hle, hne⟩ => ?_⟩
  · rintro rfl
    exact String.lt_irrefl s h
  · exact Std.lt_of_le_of_ne (String.not_lt.mp hle) hne

/-- Exchanging two values reverses their order and leaves all else as it is. -/
theorem Value.relation_swap (a b : Value) : b.relation a = (a.relation b).swap := by
  cases a with
  | missing => cases b <;> rfl
  | boolean p =>
    cases b with
    | boolean q => exact congrArg Relation.truths BEq.comm
    | _ => rfl
  | integer m =>
    -- Only two integers are compared as such; next to a float, an integer is one too.
    cases b with
    | integer n => exact congrArg (Relation.ordered <| some ·) (compareOfLessAndEq_int_swap _ _)
    | float y => exact congrArg Relation.ordered (floatOrder?_swap _ _)
    | _ => rfl
  | float x =>
    cases b with
    | integer n => exact congrArg Relation.ordered (floatOrder?_swap _ _)
    | float y => exact congrArg Relation.ordered (floatOrder?_swap _ _)
    | _ => rfl
  | string s =>
    cases b with
    | string t => exact congrArg (Relation.ordered <| some ·) (compareOfLessAndEq_string_swap _ _)
    | _ => rfl
  | _ => cases b <;> rfl

namespace Comparison

/-- What a comparison makes of a relation, if anything. -/
def verdict? (op : Comparison) : Relation → Option Bool
  | .missing both =>
    some (match op with
      | eq => both
      | ne => !both
      | _ => false)
  | .ordered order? =>
    some (match order? with
      | some o => op.holds o
      | none => op = ne)
  | .truths same =>
    match op with
    | eq => some same
    | ne => some !same
    | _ => none
  | .incomparable => none

/-- The failure on values that cannot be compared. -/
def mismatch (op : Comparison) (a b : Value) : Error :=
  .typeMismatch (.binary (.comparison op)) a.kind (some b.kind)

/-- A comparison goes by how the values relate, and by nothing else of them. -/
theorem apply_eq (op : Comparison) (a b : Value) :
    op.apply a b =
      match op.verdict? (a.relation b) with
      | some x => .ok (.boolean x)
      | none => .error (op.mismatch a b) := by
  cases a with
  | boolean p =>
    cases b with
    | boolean q => cases op <;> rfl
    | _ => rfl
  | _ => cases b <;> rfl

variable {op op' : Comparison} {a b a' b' : Value}

theorem apply_eq_ok_iff {v : Value} :
    op.apply a b = .ok v ↔ ∃ x, op.verdict? (a.relation b) = some x ∧ v = .boolean x := by
  rw [apply_eq]
  cases op.verdict? (a.relation b) with
  | none => exact ⟨nofun, nofun⟩
  | some x => simp [eq_comm]

theorem apply_eq_boolean_iff {x : Bool} :
    op.apply a b = .ok (.boolean x) ↔ op.verdict? (a.relation b) = some x := by
  simp [apply_eq_ok_iff]

theorem apply_eq_mismatch (h : op.verdict? (a.relation b) = none) :
    op.apply a b = .error (op.mismatch a b) := by
  rw [apply_eq, h]

/-- Where one comparison makes of its values what another makes of other values, or
    the opposite, they succeed together or fail together. -/
theorem apply_of_verdict? {f : Bool → Bool}
    (h : op'.verdict? (a'.relation b') = (op.verdict? (a.relation b)).map f) :
    (∃ x, op.apply a b = .ok (.boolean x) ∧ op'.apply a' b' = .ok (.boolean (f x))) ∨
      op.apply a b = .error (op.mismatch a b) ∧ op'.apply a' b' = .error (op'.mismatch a' b') := by
  cases hop : op.verdict? (a.relation b) with
  | some x =>
    rw [hop] at h
    exact .inl ⟨x, apply_eq_boolean_iff.mpr hop, apply_eq_boolean_iff.mpr h⟩
  | none =>
    rw [hop] at h
    exact .inr ⟨apply_eq_mismatch hop, apply_eq_mismatch h⟩

/-! ### The table of verdicts -/

/-- Unequal is what is not equal. -/
theorem verdict?_ne (r : Relation) : ne.verdict? r = (eq.verdict? r).map not := by
  rcases r with both | (_ | o) | same | _
  · rfl
  · rfl
  · cases o <;> rfl
  · rfl
  · rfl

/-- The comparison that holds of the values exchanged. -/
def converse : Comparison → Comparison
  | eq => eq
  | ne => ne
  | lt => gt
  | le => ge
  | gt => lt
  | ge => le

theorem verdict?_converse (op : Comparison) (r : Relation) :
    op.converse.verdict? r.swap = op.verdict? r := by
  rcases r with both | (_ | o) | same | _
  · cases op <;> rfl
  · cases op <;> rfl
  · cases op <;> cases o <;> rfl
  · cases op <;> rfl
  · rfl

/-- Of missing values no comparison fails, and none holds but equal and unequal. -/
theorem verdict?_missing (op : Comparison) (both : Bool) :
    ∃ x, op.verdict? (.missing both) = some x ∧ (op ≠ eq → op ≠ ne → x = false) := by
  refine ⟨_, rfl, fun heq hne => ?_⟩
  cases op with
  | eq => exact absurd rfl heq
  | ne => exact absurd rfl hne
  | _ => rfl

/-- A comparison by order, of values that are there, succeeds only where they have an
    order or are numbers that have none. -/
theorem exists_ordered {r : Relation} {x : Bool} (heq : op ≠ eq) (hne : op ≠ ne)
    (hr : ∀ both, r ≠ .missing both) (h : op.verdict? r = some x) :
    ∃ order?, r = .ordered order? := by
  cases r with
  | missing both => exact absurd rfl (hr both)
  | ordered order? => exact ⟨order?, rfl⟩
  | truths same =>
    cases op with
    | eq => exact absurd rfl heq
    | ne => exact absurd rfl hne
    | _ => cases h
  | incomparable => cases h

/-! ### Values that hold -/

/-- A comparison holds of two values. -/
def Holds (op : Comparison) (a b : Value) : Prop :=
  op.apply a b = .ok (.boolean true)

theorem holds_iff : op.Holds a b ↔ op.verdict? (a.relation b) = some true :=
  apply_eq_boolean_iff

theorem holds_of_ordered {order? : Option Ordering} (h : a.relation b = .ordered order?) :
    (lt.Holds a b ↔ order? = some .lt) ∧ (eq.Holds a b ↔ order? = some .eq) ∧
      (gt.Holds a b ↔ order? = some .gt) ∧
      (le.Holds a b ↔ order? = some .lt ∨ order? = some .eq) := by
  simp only [holds_iff, h]
  rcases order? with _ | (_ | _ | _) <;> decide

theorem holds_lt_integer_iff {m n : Int64} :
    lt.Holds (.integer m) (.integer n) ↔ m.toInt < n.toInt := by
  refine (holds_of_ordered rfl).1.trans ?_
  rw [Option.some.injEq, compareOfLessAndEq_eq_lt]

theorem holds_lt_string_iff {s t : String} : lt.Holds (.string s) (.string t) ↔ s < t := by
  refine (holds_of_ordered rfl).1.trans ?_
  rw [Option.some.injEq, compareOfLessAndEq_eq_lt]

end Comparison

/-! ### Missing values, NaNs and code points -/

theorem Value.exists_relation_missing_iff {a b : Value} :
    (∃ both, a.relation b = .missing both) ↔ a = .missing ∨ b = .missing := by
  constructor
  · rintro ⟨both, h⟩
    cases a with
    | missing => exact .inl rfl
    | _ =>
      cases b with
      | missing => exact .inr rfl
      | _ => cases h
  · rintro (rfl | rfl)
    · exact ⟨b.isMissing, by cases b <;> rfl⟩
    · exact ⟨a.isMissing, by cases a <;> rfl⟩

/-- Whether a value is a float that is no number. -/
def Value.isNaN : Value → Bool
  | float x => x.isNaN
  | _ => false

/-- A number is no NaN as a float unless it is one. -/
theorem Value.isNaN_number? {v : Value} {x : Float} (h : v.number? = some x) :
    x.isNaN = v.isNaN := by
  cases v with
  | integer n =>
    cases h
    exact isNaN_nearestFloat n
  | float y =>
    cases h
    rfl
  | _ => cases h

/-- Values that can be ordered have an order unless one of them is a NaN. -/
theorem Value.order?_eq_none_iff {a b : Value} {order? : Option Ordering}
    (h : a.relation b = .ordered order?) : order? = none ↔ a.isNaN = true ∨ b.isNaN = true := by
  have hfloats {x y : Float} (ha : a.number? = some x) (hb : b.number? = some y) :
      floatOrder? x y = none ↔ a.isNaN = true ∨ b.isNaN = true := by
    rw [floatOrder?_eq_none_iff, isNaN_number? ha, isNaN_number? hb]
  cases a with
  | integer m =>
    cases b with
    | integer n => cases h; exact ⟨nofun, nofun⟩
    | float y => cases h; exact hfloats rfl rfl
    | _ => cases h
  | float x =>
    cases b with
    | integer n => cases h; exact hfloats rfl rfl
    | float y => cases h; exact hfloats rfl rfl
    | _ => cases h
  | string s =>
    cases b with
    | string t => cases h; exact ⟨nofun, nofun⟩
    | _ => cases h
  | _ => cases b <;> cases h

theorem chars_lt_iff_map_toNat (cs ds : List Char) :
    cs < ds ↔ cs.map Char.toNat < ds.map Char.toNat := by
  induction cs generalizing ds with
  | nil => cases ds <;> simp
  | cons c cs ih =>
    cases ds with
    | nil => simp
    | cons d ds =>
      rw [List.map_cons, List.map_cons, List.cons_lt_cons_iff, List.cons_lt_cons_iff, ih,
        Char.toNat_inj]
      rfl

/-- Texts are ordered as their code points are. -/
theorem string_lt_iff_map_toNat (s t : String) :
    s < t ↔ s.toList.map Char.toNat < t.toList.map Char.toNat :=
  String.lt_iff.trans (chars_lt_iff_map_toNat _ _)

/-! ### All comparisons of two values -/

namespace Comparison

/-- Of values that have an order, or are numbers that have none, at most one is less than,
    equal to or greater than the other, and one is unless there is a NaN. -/
theorem trichotomy {a b : Value} {order? : Option Ordering} (h : a.relation b = .ordered order?) :
    (le.Holds a b ↔ lt.Holds a b ∨ eq.Holds a b) ∧
      ¬(lt.Holds a b ∧ eq.Holds a b) ∧ ¬(lt.Holds a b ∧ gt.Holds a b) ∧
      ¬(eq.Holds a b ∧ gt.Holds a b) ∧
      (lt.Holds a b ∨ eq.Holds a b ∨ gt.Holds a b ↔ ¬(a.isNaN = true ∨ b.isNaN = true)) := by
  obtain ⟨hlt, heq, hgt, hle⟩ := holds_of_ordered h
  rw [hlt, heq, hgt, hle, ← Value.order?_eq_none_iff h]
  -- All of it is now about one order, or none.
  rcases order? with _ | (_ | _ | _) <;> decide

/-- The comparisons of any two values fit together. `!=` is the negation of `==`. A
    comparison of the values exchanged, the other way round, comes to the same, or fails
    where the comparison fails, with the kinds exchanged. If a comparison by order
    succeeds on values that are there, at most one of `<`, `==` and `>` holds, one of them
    does if there is no NaN, and `<=` holds where `<` or `==` does. On missing values no
    comparison fails, and none by order holds. `<` is transitive on integers and on
    strings, which are ordered by their code points. -/
theorem coherent (a b : Value) :
    ((∃ x, eq.apply a b = .ok (.boolean x) ∧ ne.apply a b = .ok (.boolean !x)) ∨
      eq.apply a b = .error (eq.mismatch a b) ∧ ne.apply a b = .error (ne.mismatch a b)) ∧
    (∀ op : Comparison,
      (∃ x, op.apply a b = .ok (.boolean x) ∧ op.converse.apply b a = .ok (.boolean x)) ∨
      op.apply a b = .error (op.mismatch a b) ∧
        op.converse.apply b a = .error (op.converse.mismatch b a)) ∧
    (a ≠ .missing → b ≠ .missing → ∀ op v, op ≠ eq → op ≠ ne → op.apply a b = .ok v →
      (le.Holds a b ↔ lt.Holds a b ∨ eq.Holds a b) ∧
      ¬(lt.Holds a b ∧ eq.Holds a b) ∧ ¬(lt.Holds a b ∧ gt.Holds a b) ∧
      ¬(eq.Holds a b ∧ gt.Holds a b) ∧
      (lt.Holds a b ∨ eq.Holds a b ∨ gt.Holds a b ↔ ¬(a.isNaN = true ∨ b.isNaN = true))) ∧
    (a = .missing ∨ b = .missing → ∀ op : Comparison,
      ∃ x, op.apply a b = .ok (.boolean x) ∧ (op ≠ eq → op ≠ ne → x = false)) ∧
    (∀ l m n : Int64, lt.Holds (.integer l) (.integer m) → lt.Holds (.integer m) (.integer n) →
      lt.Holds (.integer l) (.integer n)) ∧
    (∀ s t u : String, lt.Holds (.string s) (.string t) → lt.Holds (.string t) (.string u) →
      lt.Holds (.string s) (.string u)) ∧
    (∀ s t : String, lt.Holds (.string s) (.string t) ↔
      s.toList.map Char.toNat < t.toList.map Char.toNat) := by
  refine ⟨apply_of_verdict? (verdict?_ne _), fun op => ?_, ?_, fun hmissing op => ?_, ?_, ?_, ?_⟩
  · have hconverse : op.converse.verdict? (b.relation a) = (op.verdict? (a.relation b)).map id := by
      rw [Value.relation_swap, verdict?_converse, Option.map_id_apply]
    exact apply_of_verdict? hconverse
  · intro ha hb op v heq hne h
    obtain ⟨x, hx, _⟩ := apply_eq_ok_iff.mp h
    have hthere : ∀ both, a.relation b ≠ .missing both := by
      intro both hboth
      exact (Value.exists_relation_missing_iff.mp ⟨both, hboth⟩).elim ha hb
    obtain ⟨order?, horder⟩ := exists_ordered heq hne hthere hx
    exact trichotomy horder
  · obtain ⟨both, hboth⟩ := Value.exists_relation_missing_iff.mpr hmissing
    obtain ⟨x, hx, hfalse⟩ := verdict?_missing op both
    exact ⟨x, apply_eq_boolean_iff.mpr (hboth ▸ hx), hfalse⟩
  · intro l m n hlm hmn
    rw [holds_lt_integer_iff] at hlm hmn ⊢
    exact Int.lt_trans hlm hmn
  · intro s t u hst htu
    rw [holds_lt_string_iff] at hst htu ⊢
    exact String.lt_trans hst htu
  · exact fun s t => holds_lt_string_iff.trans (string_lt_iff_map_toNat s t)

/-- An integer that no float equals is compared as the float nearest to it, which it is
    then equal to and not greater than. -/
theorem coherent_rounded :
    let a : Value := .integer 9007199254740993
    let b : Value := .float 9007199254740992
    a ≠ .missing ∧ b ≠ .missing ∧ gt.apply a b = .ok (.boolean false) ∧
      eq.Holds a b ∧ le.Holds a b ∧ ¬lt.Holds a b ∧
      (Value.missing = .missing ∨ b = .missing) ∧
      (∃ x, gt.apply .missing b = .ok (.boolean x) ∧ x = false) ∧
      lt.Holds (.integer (-1)) (.integer 2) := by
  intro a b
  have hgt : gt.apply a b = .ok (.boolean false) := apply_eq_boolean_iff.mpr (by decide +kernel)
  have heq : eq.Holds a b := holds_iff.mpr (by decide +kernel)
  obtain ⟨_, _, hordered, _⟩ := coherent a b
  obtain ⟨hle, hlteq, _⟩ := hordered nofun nofun gt _ nofun nofun hgt
  obtain ⟨_, _, _, hmissing, htrans, _⟩ := coherent .missing b
  obtain ⟨x, hx, hfalse⟩ := hmissing (.inl rfl) gt
  have htwo : lt.Holds (.integer (-1)) (.integer 2) :=
    htrans (-1) 0 2 (holds_lt_integer_iff.mpr (by decide)) (holds_lt_integer_iff.mpr (by decide))
  exact ⟨nofun, nofun, hgt, heq, hle.mpr (.inr heq), fun hlt => hlteq ⟨hlt, heq⟩, .inl rfl,
    ⟨x, hx, hfalse nofun nofun⟩, htwo⟩

end Comparison

end RuleEngine
