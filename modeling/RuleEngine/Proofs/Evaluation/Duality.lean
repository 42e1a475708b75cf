import RuleEngine.Proofs.Evaluation.Scanning
import RuleEngine.Proofs.Parser.Negation

/-!
# Quantifiers and negation

A rule holds of all elements of a list exactly if its negation holds of none. That is so
of failures as well: `all` with a rule and `any` with the negated text answer oppositely,
or fail in the same class and on the same element (`Quantifier.dual_negated`). Neither a
result that is missing nor one that is no condition makes a difference. Missing is false
as a condition and true when negated; and what is no condition cannot be negated, although
that is another failure of the class.

The two scans go in step (`Quantifier.scan_opposite`). The negation has the opposite truth
on each element (`contrary_not`), so where it settles one quantifier, the rule settles the
other, and where neither is settled both go on (`Quantifier.outcomeAt_opposite`).
-/

namespace RuleEngine

/-- The element that a failure is on, if it is on one. Elements further inside are not
    looked at. -/
def Error.element? : Error → Option Nat
  | inElement _ index _ => some index
  | _ => none

/-! ### Opposites -/

/-- Opposite answers, or failures of one class on the same element. -/
inductive Opposite : Except Error Value → Except Error Value → Prop
  | answers (b : Bool) : Opposite (.ok (.boolean b)) (.ok (.boolean !b))
  | fails {e e' : Error} (hkind : e.kind = e'.kind) (helement : e.element? = e'.element?) :
      Opposite (.error e) (.error e')

/-- Of two opposite outcomes one tells the other, as far as it goes. -/
theorem Opposite.spec {x y : Except Error Value} (h : Opposite x y) :
    (∀ b, x = .ok (.boolean b) ↔ y = .ok (.boolean !b)) ∧
      ((∃ e, x = .error e) ↔ ∃ e, y = .error e) ∧
      ∀ e e', x = .error e → y = .error e' → e.kind = e'.kind ∧ e.element? = e'.element? := by
  cases h with
  | answers b =>
    exact ⟨fun c => by simp, ⟨nofun, nofun⟩, fun _ _ => nofun⟩
  | fails hkind helement =>
    refine ⟨fun _ => ⟨nofun, nofun⟩, ⟨fun _ => ⟨_, rfl⟩, fun _ => ⟨_, rfl⟩⟩, ?_⟩
    rintro _ _ ⟨⟩ ⟨⟩
    exact ⟨hkind, helement⟩

/-- Opposite truths, or failures of one class. -/
inductive Contrary : Except Error Bool → Except Error Bool → Prop
  | truths (b : Bool) : Contrary (.ok b) (.ok !b)
  | fails {e e' : Error} (hkind : e.kind = e'.kind) : Contrary (.error e) (.error e')

/-- The truth of an outcome is opposite to that of its negation, and an outcome that has
    no truth has no negation. -/
theorem contrary_not (outcome : Except Error Value) (operation operation' : Operation) :
    Contrary (outcome.bind (Value.truth operation))
      ((outcome.bind UnaryOp.not.apply).bind (Value.truth operation')) := by
  cases outcome with
  | error e => exact .fails rfl
  | ok v =>
    cases v with
    | boolean b => exact .truths b
    -- Missing is false as a condition, but its negation is true.
    | missing => exact .truths false
    | _ => exact .fails rfl

/-- A negation is evaluated by negating what comes of its operand. -/
theorem Expr.evalBelow_not (env : Environment) (levels : Nat) (e : Expr) (record : Record)
    (s : Session) :
    ((evalBelow env levels (.unary .not e) record).run s).1 =
      ((evalBelow env levels e record).run s).1.bind UnaryOp.not.apply := by
  cases levels with
  | zero => rfl
  | succ levels =>
    rw [evalBelow, evalAt_eq, evalAt_eq, evalWith, run_bind]
    rcases (evalWith env (evalBelow env levels) (env.config.maxDepth - levels) record e).run s
      with ⟨_ | _, _⟩ <;> rfl

namespace Quantifier

/-! ### Scans -/

/-- The other quantifier. -/
def dual : Quantifier → Quantifier
  | any => all
  | all => any

theorem decisive_dual (q : Quantifier) : q.dual.decisive = !q.decisive := by
  cases q <;> rfl

/-- What comes of a scan at an element on which the rule has a truth, given what would
    come of the elements after it. -/
def outcomeAt (q : Quantifier) (index : Nat) (truth : Except Error Bool)
    (after : Except Error Value) : Except Error Value :=
  match truth with
  | .error e => .error (.inElement q.name index e)
  | .ok holds => if holds = q.decisive then .ok (.boolean q.decisive) else after

variable {env : Environment} {levels index : Nat} {source : String} {s s' t t' : Session}
  {compiled compiled' : Option Compiled} {rule rule' : Compiled}

/-- At a record, the scan depends on the truth of the rule on that record. -/
theorem run_scan_outcomeAt (q : Quantifier) (levels index : Nat)
    (h : IsUnderWay env source s compiled t)
    (hrule : ((Run.compile env source).run s).1 = .ok rule) (fields : Record) :
    ∃ u, IsUnderWay env source s (some rule) u ∧ ∀ rest,
      ((Run.perform env (Expr.evalBelow env levels)
          (q.scan source compiled index (.record fields :: rest))).run t).1 =
        q.outcomeAt index
          (((Expr.evalBelow env levels rule.root fields).run s).1.bind
            (Value.truth (.conditionOf rule.source)))
          ((Run.perform env (Expr.evalBelow env levels)
            (q.scan source (some rule) (index + 1) rest)).run u).1 := by
  obtain ⟨u, hu, hrun⟩ := run_scan_record h hrule fields
  refine ⟨u, hu, fun rest => ?_⟩
  rw [hrun rest _ fun _ _ _ => rfl]
  cases ((Expr.evalBelow env levels rule.root fields).run s).1.bind
      (Value.truth (.conditionOf rule.source)) with
  | error e => rfl
  | ok holds =>
    dsimp only [outcomeAt]
    split <;> rfl

/-- By opposite truths on an element either both quantifiers are settled or neither is. -/
theorem outcomeAt_opposite (q : Quantifier) (index : Nat) {truth truth' : Except Error Bool}
    (h : Contrary truth truth') {after after' : Except Error Value}
    (hafter : Opposite after after') :
    Opposite (q.outcomeAt index truth after) (q.dual.outcomeAt index truth' after') := by
  cases h with
  | truths b =>
    have hdecides : (!b) = q.dual.decisive ↔ b = q.decisive := by
      rw [decisive_dual, Bool.not_inj_iff]
    simp only [outcomeAt, hdecides]
    split
    · rw [decisive_dual]
      exact .answers q.decisive
    · exact hafter
  | fails hkind => exact .fails hkind rfl

/-- A quantifier with a rule and the other one with its negation go through a list in
    step. -/
theorem scan_opposite (q : Quantifier) (levels : Nat)
    (hrule : ((Run.compile env source).run s).1 = .ok rule)
    (hrule' : ((Run.compile env (negated source)).run s).1 = .ok rule')
    (hroot : rule'.root = .unary .not rule.root) (items : List Value)
    (ht : IsUnderWay env source s compiled t)
    (ht' : IsUnderWay env (negated source) s compiled' t') :
    Opposite
      ((Run.perform env (Expr.evalBelow env levels)
        (q.scan source compiled index items)).run t).1
      ((Run.perform env (Expr.evalBelow env levels)
        (q.dual.scan (negated source) compiled' index items)).run t').1 := by
  induction items generalizing t t' compiled compiled' index with
  | nil => cases q <;> exact .answers _
  | cons v rest ih =>
    cases v with
    | record fields =>
      obtain ⟨u, hu, hrun⟩ := run_scan_outcomeAt q levels index ht hrule fields
      obtain ⟨u', hu', hrun'⟩ := run_scan_outcomeAt q.dual levels index ht' hrule' fields
      rw [hrun, hrun', hroot, Expr.evalBelow_not]
      exact outcomeAt_opposite q index (contrary_not _ _ _) (ih hu hu')
    | _ => exact .fails rfl rfl

/-! ### Calls -/

/-- If a text and the negated text can be compiled, what is stored or compiled for them
    are a rule and its negation. -/
theorem exists_compile_negated (hs : s.caches.IsSound env)
    (hrule : Compiled.ofSource env.scope env.config.maxDepth source = .ok rule)
    (hrule' : Compiled.ofSource env.scope env.config.maxDepth (negated source) = .ok rule') :
    ∃ stored stored', ((Run.compile env source).run s).1 = .ok stored ∧
      ((Run.compile env (negated source)).run s).1 = .ok stored' ∧
      stored'.root = .unary .not stored.root := by
  obtain ⟨stored, hstored, halike⟩ := (hs.expression source).1.exists_of_right hrule
  obtain ⟨stored', hstored', halike'⟩ := (hs.expression (negated source)).1.exists_of_right hrule'
  refine ⟨stored, stored', hstored, hstored', ?_⟩
  obtain ⟨root, hparse, _, _, rfl⟩ := Compiled.ofSource_eq_ok_iff.mp hrule
  obtain ⟨root', hparse', _, _, rfl⟩ := Compiled.ofSource_eq_ok_iff.mp hrule'
  rw [← halike.root, ← halike'.root]
  exact parse_negated hparse hparse'

/-- A quantifier with a rule returns a truth exactly if the other one with the negation of
    that rule returns the opposite one, and fails exactly if that fails, in the same class
    and on the same element. Both texts have to be rules; the caches are sound in every
    engine (`Engine.isSteady_after`), and what was evaluated between the two calls makes no
    difference. -/
theorem dual_negated (q : Quantifier) (env : Environment) (levels : Nat) (source : String)
    (s s' : Session) (hs : s.caches.IsSound env) (hs' : s.AnswersAlike env s')
    (rule rule' : Compiled)
    (hrule : Compiled.ofSource env.scope env.config.maxDepth source = .ok rule)
    (hrule' : Compiled.ofSource env.scope env.config.maxDepth (negated source) = .ok rule')
    (registered : String → Bool) (name : String) (depth : Nat) (elements : Value) :
    let answer (q : Quantifier) (source : String) (s : Session) :=
      ((Run.perform env (Expr.evalBelow env levels)
        (q.toFunction.action registered ⟨name, depth, [.string source, elements]⟩)).run s).1
    (∀ b, answer q source s = .ok (.boolean b) ↔
        answer q.dual (negated source) s' = .ok (.boolean !b)) ∧
      ((∃ e, answer q source s = .error e) ↔
        ∃ e, answer q.dual (negated source) s' = .error e) ∧
      ∀ e e', answer q source s = .error e → answer q.dual (negated source) s' = .error e' →
        e.kind = e'.kind ∧ e.element? = e'.element? := by
  intro answer
  obtain ⟨stored, stored', hstored, hstored', hroot⟩ := exists_compile_negated hs hrule hrule'
  have hopposite : Opposite (answer q source s) (answer q.dual (negated source) s') := by
    cases elements with
    | list items =>
      exact scan_opposite q levels hstored hstored' hroot items isUnderWay_start ⟨hs', nofun⟩
    -- Without a list no rule is compiled on either side.
    | missing => cases q <;> exact .answers _
    | _ => exact .fails rfl rfl
  exact hopposite.spec

/-- Where a rule is missing not all hold, and some negation does; where it is a number,
    both calls fail, on the same element. -/
theorem dual_negated_mixed :
    let env : Environment := ⟨Registry.builtin, {}⟩
    let s : Session := ⟨Caches.empty env.config.cacheCapacity, []⟩
    let answer (q : Quantifier) (source : String) (last : Record) :=
      ((Run.perform env (Expr.evalBelow env 8) (q.toFunction.action (fun _ => true)
        ⟨"f", 0, [.string source, .list [.record [("x", .boolean true)], .record last]]⟩)).run s).1
    answer .all "x" [] = .ok (.boolean false) ∧ answer .any "!(x)" [] = .ok (.boolean true) ∧
      ∃ e, answer .any "!(x)" [("x", .integer 5)] = .error e ∧ e.kind = .typeMismatch ∧
        e.element? = some 1 := by
  intro env s answer
  have hrule : Compiled.ofSource env.scope env.config.maxDepth "x" =
      .ok ⟨"x", .field "x", [], none⟩ := by
    rfl
  have hrule' : Compiled.ofSource env.scope env.config.maxDepth (negated "x") =
      .ok ⟨"!(x)", .unary .not (.field "x"), [], some .boolean⟩ := by
    rfl
  have hdual (last : Record) := dual_negated .all env 8 "x" s s (Caches.isSound_empty env _)
    (.refl env s) _ _ hrule hrule' (fun _ => true) "f" 0
    (.list [.record [("x", .boolean true)], .record last])
  obtain ⟨hanswers, _, _⟩ := hdual []
  have hall : answer .all "x" [] = .ok (.boolean false) := by
    rfl
  obtain ⟨_, hfails, halike⟩ := hdual [("x", .integer 5)]
  have hfailed : answer .all "x" [("x", .integer 5)] =
      .error (.inElement "all" 1 (.typeMismatch (.conditionOf "x") .integer none)) := by
    rfl
  obtain ⟨e, he⟩ := hfails.mp ⟨_, hfailed⟩
  obtain ⟨hkind, helement⟩ := halike _ e hfailed he
  exact ⟨hall, (hanswers false).mp hall, e, he, hkind.symm, helement.symm⟩

end Quantifier

end RuleEngine
