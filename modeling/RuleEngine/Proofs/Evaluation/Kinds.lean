import RuleEngine.Engine
import RuleEngine.Proofs.Evaluation.Builtin
import RuleEngine.Proofs.Operator.Table
import RuleEngine.Proofs.Parser.Acceptance

/-!
# Kinds that are known beforehand

Where the check of a rule tells the kind of its result, every value of the rule
has that kind (`Expr.eval_kind`), however many functions have been added since
and whatever is in the caches, as long as the functions keep to the kinds that
they declare (`Function.KeepsKind`). The induction is on the tree, with a lemma
for each sort of operator that says what the table of kinds promises; the operators
follow it (`FollowsTable`).

A rule is never known to be missing unless a function is, since no literal is
(`Expr.check_ne_missing`). So what is known to be no condition fails as one.
-/

namespace RuleEngine

/-! ### Operators -/

/-- The result of an arithmetic operator has the kind that the table gives. -/
theorem Arithmetic.kind_apply {op : Arithmetic} {a b v : Value} {kind : Kind}
    (hkind : (BinaryOp.arithmetic op).outputKind? a.kind b.kind = some kind)
    (h : op.apply a b = .ok v) : v.kind = kind := by
  -- Nothing is promised of a missing operand.
  have ha : a ≠ .missing := by
    rintro rfl
    cases op <;> cases b <;> cases hkind
  have hb : b ≠ .missing := by
    rintro rfl
    cases op <;> cases a <;> cases hkind
  exact Option.some.inj (((op.apply_followsTable ha hb).kind_eq v h).symm.trans hkind)

/-- The result of a comparison is a truth value. -/
theorem Comparison.kind_apply {op : Comparison} {a b v : Value} (h : op.apply a b = .ok v) :
    v.kind = .boolean := by
  obtain ⟨x, _, rfl⟩ := apply_eq_ok_iff.mp h
  rfl

theorem UnaryOp.kind_apply_not {a v : Value} (h : UnaryOp.not.apply a = .ok v) :
    v.kind = .boolean := by
  cases a <;> cases h <;> rfl

/-- The result of a minus has the kind that the table gives. -/
theorem UnaryOp.kind_apply_minus {a v : Value} {kind : Kind}
    (hkind : UnaryOp.minus.outputKind? a.kind = some kind)
    (h : UnaryOp.minus.apply a = .ok v) : v.kind = kind := by
  have ha : a ≠ .missing := by
    rintro rfl
    cases hkind
  exact Option.some.inj (((minus.apply_followsTable ha).kind_eq v h).symm.trans hkind)

theorem Matching.apply_returns (env : Environment) (op : Matching) (a b : Value) :
    Run.Returns (·.kind = .boolean) (op.apply env a b) := by
  unfold Matching.apply
  split
  · exact .pure rfl
  · exact .after fun _ => .pure rfl
  · exact .throw _

/-! ### The table of kinds -/

/-- The table has no other kind for an operator that is not arithmetic. -/
theorem BinaryOp.eq_boolean_of_outputKind? {op : BinaryOp} (h : op.isArithmetic = false)
    {l r kind : Kind} (hkind : op.outputKind? l r = some kind) : kind = .boolean := by
  have htable : op.outputKind? l r = none ∨ op.outputKind? l r = some .boolean := by
    clear hkind
    cases op with
    | arithmetic op => cases h
    | comparison op => cases op <;> decide +revert
    | matching op => cases op <;> decide +revert
    | logical op => cases op <;> decide +revert
  rcases htable with htable | htable
  · rw [htable] at hkind
    cases hkind
  · exact (Option.some.inj (htable.symm.trans hkind)).symm

/-- The result of an operator that is not arithmetic is known to be a truth value. -/
theorem BinaryOp.resultKind?_eq_boolean {op : BinaryOp} (h : op.isArithmetic = false)
    (left right : Option Kind) : op.resultKind? left right = some .boolean := by
  have hdynamic : op.dynamicKind? = some .boolean := by rw [dynamicKind?, h]; rfl
  have htable : ∀ l r, (op.outputKind? l r).or op.dynamicKind? = some .boolean := by
    intro l r
    cases hkind : op.outputKind? l r with
    | none => exact hdynamic
    | some kind => rw [eq_boolean_of_outputKind? h hkind]; rfl
  cases left <;> cases right <;> simp only [resultKind?] <;> split <;> first
    | rfl
    | exact hdynamic
    | exact htable _ _

/-- What is known of the kind of an arithmetic result comes from the table. -/
theorem BinaryOp.resultKind?_arithmetic {op : Arithmetic} {left right : Option Kind} {kind : Kind}
    (h : (BinaryOp.arithmetic op).resultKind? left right = some kind) :
    ∃ l r, left = some l ∧ right = some r ∧
      (BinaryOp.arithmetic op).outputKind? l r = some kind := by
  cases left with
  | none => cases h
  | some l =>
    cases right with
    | none => cases h
    | some r =>
      have htable : ((BinaryOp.arithmetic op).outputKind? l r).or none = some kind := h
      rw [Option.or_none] at htable
      exact ⟨l, r, rfl, rfl, htable⟩

/-! ### Functions -/

/-- A function keeps to the kind that it declares: whatever it is called with, and
    however deep, it fails or returns a value of that kind. -/
def Function.KeepsKind (env : Environment) (function : Function) : Prop :=
  ∀ kind, function.returnKind = some kind → ∀ levels call,
    Run.Returns (·.kind = kind) (Run.perform env (Expr.evalBelow env levels)
      (function.action (Fields.contains env.registry) call))

/-- The functions of a registry keep to the kinds that they declare. -/
def Registry.KeepsKinds (env : Environment) (registry : Registry) : Prop :=
  ∀ name function, Fields.get? registry name = some function → function.KeepsKind env

/-- The built-in functions declare truth values, and keep to that. -/
theorem Registry.keepsKinds_builtin (env : Environment) : Registry.builtin.KeepsKinds env := by
  intro name function h kind hkind levels call
  refine Run.perform_returns ?_ env _
  obtain rfl | ⟨q, rfl⟩ := eq_of_get?_builtin h
  · cases hkind
    exact regexMatchAction_finishes call.args
  · cases hkind
    exact q.action_finishes call.args

/-! ### Trees -/

namespace Expr

variable {registry : Registry} {env : Environment} {strict : Bool}

/-- A kind of a call is known only from the function called. -/
theorem callKind_eq_some {name : String} {kind : Kind}
    (h : callKind (registry.scope strict) name = .ok (some kind)) :
    ∃ function, Fields.get? registry name = some function ∧ function.returnKind = some kind := by
  rw [callKind] at h
  split at h
  · next k hk =>
    obtain ⟨function, hfunction, rfl⟩ := Option.map_eq_some_iff.mp hk
    exact ⟨function, hfunction, Except.ok.inj h⟩
  · split at h <;> cases h

/-- An expression has a value of the kind that was found when fewer functions were
    there. -/
theorem evalWith_kind (hextends : registry.Extends env.registry)
    (hkeeps : registry.KeepsKinds env) (levels depth : Nat) (record : Record) :
    (e : Expr) → {kind : Kind} → e.check (registry.scope strict) = .ok (some kind) →
      Run.Returns (·.kind = kind) (evalWith env (evalBelow env levels) depth record e)
  | .literal value, kind, hcheck => by
    rw [check] at hcheck
    cases hcheck
    rw [evalWith]
    exact .pure rfl
  | .field name, kind, hcheck => by
    rw [check] at hcheck
    cases hcheck
  | .binary op left right, kind, hcheck => by
    obtain ⟨l, hleft, r, hright, hkind⟩ := check_binary_eq_ok_iff.mp hcheck
    cases op with
    | logical op =>
      rw [BinaryOp.resultKind?_eq_boolean rfl] at hkind
      cases hkind
      rw [evalWith]
      refine .after fun a => .after fun x => ?_
      split
      · exact .pure rfl
      · exact .after fun b => .after fun y => .pure rfl
    | arithmetic op =>
      obtain ⟨l, r, rfl, rfl, htable⟩ := BinaryOp.resultKind?_arithmetic hkind
      rw [evalWith]
      refine (evalWith_kind hextends hkeeps levels depth record left hleft).bind fun a ha => ?_
      refine (evalWith_kind hextends hkeeps levels depth record right hright).bind fun b hb => ?_
      exact .ofResult fun v => Arithmetic.kind_apply (ha ▸ hb ▸ htable)
    | comparison op =>
      rw [BinaryOp.resultKind?_eq_boolean rfl] at hkind
      cases hkind
      rw [evalWith]
      exact .after fun a => .after fun b => .ofResult fun v => Comparison.kind_apply
    | matching op =>
      rw [BinaryOp.resultKind?_eq_boolean rfl] at hkind
      cases hkind
      rw [evalWith]
      exact .after fun a => .after fun b => op.apply_returns env a b
  | .unary op operand, kind, hcheck => by
    obtain ⟨k, hoperand, hkind⟩ := check_unary_eq_ok_iff.mp hcheck
    rw [evalWith]
    cases op with
    | not =>
      cases hkind
      exact .after fun a => .ofResult fun v => UnaryOp.kind_apply_not
    | minus =>
      obtain ⟨k, rfl, htable⟩ := Option.bind_eq_some_iff.mp hkind
      have hvalue := evalWith_kind hextends hkeeps levels depth record operand hoperand
      refine hvalue.bind fun a ha => ?_
      exact .ofResult fun v => UnaryOp.kind_apply_minus (ha ▸ htable)
  | .call name args, kind, hcheck => by
    obtain ⟨_, hkind⟩ := check_call_eq_ok_iff.mp hcheck
    -- The function called now is the one whose kind was known then.
    obtain ⟨function, hfunction, hdeclared⟩ := callKind_eq_some hkind
    rw [evalWith, hextends name function hfunction]
    refine .after fun values => .after fun _ => ?_
    exact hkeeps name function hfunction kind hdeclared levels _

/-- The same of an expression at the top level. -/
theorem eval_kind (hextends : registry.Extends env.registry) (hkeeps : registry.KeepsKinds env)
    {e : Expr} {kind : Kind} (hcheck : e.check (registry.scope strict) = .ok (some kind))
    (record : Record) : Run.Returns (·.kind = kind) (eval env e record) := by
  rw [eval, evalAt_eq]
  exact evalWith_kind hextends hkeeps _ _ record e hcheck

end Expr

/-! ### Missing results -/

/-- No literal of a rule is missing. -/
theorem Grammar.Derivation.not_missing {level : Level} {ws : List Token} :
    Derivation level ws (.literal .missing) → False
  | .operand _ d => d.not_missing
  | .number h => by cases h
  | .group d => d.not_missing

/-- No function of a registry declares that its results are missing. -/
def Registry.DeclaresNoMissing (registry : Registry) : Prop :=
  ∀ name function, Fields.get? registry name = some function →
    function.returnKind ≠ some .missing

theorem BinaryOp.outputKind?_ne_missing (op : BinaryOp) (l r : Kind) :
    op.outputKind? l r ≠ some .missing := by
  cases op with
  | arithmetic op => cases op <;> decide +revert
  | comparison op => cases op <;> decide +revert
  | matching op => cases op <;> decide +revert
  | logical op => cases op <;> decide +revert

namespace Expr

variable {registry : Registry} {strict : Bool}

/-- Only a literal or a function is ever known to be missing. -/
theorem check_ne_missing (hdeclares : registry.DeclaresNoMissing) {e : Expr}
    (he : e ≠ .literal .missing) : e.check (registry.scope strict) ≠ .ok (some .missing) := by
  intro hcheck
  cases e with
  | literal value =>
    rw [check] at hcheck
    cases value with
    | missing => exact he rfl
    | _ => cases hcheck
  | field name =>
    rw [check] at hcheck
    cases hcheck
  | binary op left right =>
    obtain ⟨l, _, r, _, hkind⟩ := check_binary_eq_ok_iff.mp hcheck
    cases op with
    | arithmetic op =>
      obtain ⟨l, r, _, _, htable⟩ := BinaryOp.resultKind?_arithmetic hkind
      exact BinaryOp.outputKind?_ne_missing _ l r htable
    | _ =>
      rw [BinaryOp.resultKind?_eq_boolean rfl] at hkind
      cases hkind
  | unary op operand =>
    obtain ⟨k, _, hkind⟩ := check_unary_eq_ok_iff.mp hcheck
    cases op with
    | not => cases hkind
    | minus =>
      obtain ⟨k, _, htable⟩ := Option.bind_eq_some_iff.mp hkind
      cases k <;> cases htable
  | call name args =>
    obtain ⟨_, hkind⟩ := check_call_eq_ok_iff.mp hcheck
    obtain ⟨function, hfunction, hdeclared⟩ := callKind_eq_some hkind
    exact hdeclares name function hfunction hdeclared

end Expr

/-! ### Conditions -/

theorem Value.exists_truth {v : Value} (h : v.kind = .boolean) (operation : Operation) :
    ∃ b, v.truth operation = .ok b := by
  cases v with
  | boolean b => exact ⟨b, rfl⟩
  | _ => cases h

namespace Engine

variable {engine engine' : Engine}

/-- The value of a rule whose kind is known is of that kind. -/
theorem evaluate_kind (hextends : engine.registry.Extends engine'.registry)
    (hkeeps : engine.registry.KeepsKinds engine'.environment) {strict : Bool} {rule : Compiled}
    {kind : Kind} (hcheck : rule.root.check (engine.registry.scope strict) = .ok (some kind))
    {record : Record} {value : Value} (h : (engine'.evaluate rule record).1 = .ok value) :
    value.kind = kind :=
  Expr.eval_kind hextends hkeeps hcheck record engine'.session value h

/-- A rule that is known to be no condition, nor missing, is true or false of no
    record. -/
theorem evaluateRecord_eq_error (hextends : engine.registry.Extends engine'.registry)
    (hkeeps : engine.registry.KeepsKinds engine'.environment) {strict : Bool} {rule : Compiled}
    {kind : Kind} (hcheck : rule.root.check (engine.registry.scope strict) = .ok (some kind))
    (hboolean : kind ≠ .boolean) (hmissing : kind ≠ .missing) (record : Record) :
    ∃ e, (engine'.evaluateRecord rule record).1 = .error e := by
  cases hvalue : (engine'.evaluate rule record).1 with
  | error e =>
    rw [evaluateRecord_fst, hvalue]
    exact ⟨e, rfl⟩
  | ok value =>
    obtain rfl := evaluate_kind hextends hkeeps hcheck hvalue
    rw [evaluateRecord_fst, hvalue]
    exact ⟨_, Value.truth_eq_error_iff.mpr ⟨rfl, hboolean, hmissing⟩⟩

/-- A rule that is true or false of no record is so of nothing that a record is
    extracted from. -/
theorem evaluateExtracted_eq_error {rule : Compiled}
    (h : ∀ record, ∃ e, (engine.evaluateRecord rule record).1 = .error e)
    (extracted : Except Error Record) :
    ∃ e, (engine.evaluateExtracted rule extracted).1 = .error e := by
  cases extracted with
  | ok record => exact h record
  | error e => exact ⟨e, rfl⟩

/-- What compiles but not as a condition has a known kind, which is not boolean. -/
theorem exists_kind_of_compilePredicate {source : String} {rule : Compiled} {e : Error}
    (hcompile : engine.compile source = .ok rule)
    (hpredicate : engine.compilePredicate source = .error e) :
    ∃ kind, rule.root.check engine.scope = .ok (some kind) ∧ kind ≠ .boolean := by
  have hcheck : rule.root.check engine.scope = .ok rule.resultKind := Compiled.check_root hcompile
  -- A rule of no known kind would have been taken for a condition.
  have hkind : ¬(rule.resultKind = none ∨ rule.resultKind = some .boolean) := by
    intro hkind
    have hok := Compiled.ofPredicate_eq_ok hcompile hkind
    rw [compilePredicate, hok] at hpredicate
    cases hpredicate
  obtain ⟨hnone, hboolean⟩ := not_or.mp hkind
  obtain ⟨kind, hsome⟩ := Option.ne_none_iff_exists'.mp hnone
  rw [hsome] at hcheck hboolean
  exact ⟨kind, hcheck, fun h => hboolean (congrArg some h)⟩

/-- Kinds that are known when a rule is compiled are kept to when it is evaluated,
    by an engine with the same functions and any further ones, whatever it has in
    its caches, as long as the functions keep to the kinds that they declare. -/
theorem kinds_sound (hextends : engine.registry.Extends engine'.registry)
    (hkeeps : engine.registry.KeepsKinds engine'.environment) :
    (∀ strict e kind, e.check (engine.registry.scope strict) = .ok (some kind) →
      ∀ record value, ((Expr.eval engine'.environment e record).run engine'.session).1 = .ok value →
        value.kind = kind) ∧
    (engine.registry.DeclaresNoMissing → ∀ source rule operation left right,
      engine.compile source = .ok rule →
      engine.compilePredicate source = .error (.typeMismatch operation left right) →
      (∀ record, ∃ e, (engine'.evaluateRecord rule record).1 = .error e) ∧
      (∀ json, ∃ e, (engine'.evaluateJson rule json).1 = .error e) ∧
      (∀ data, ∃ e, (engine'.evaluateSerial rule data).1 = .error e)) ∧
    (∀ source rule, engine.compile source = .ok rule → rule.resultKind = some .boolean →
      ∀ record value, (engine'.evaluate rule record).1 = .ok value →
        ∃ b, (engine'.evaluateRecord rule record).1 = .ok b) := by
  refine ⟨?_, ?_, ?_⟩
  · intro strict e kind hcheck record value h
    exact Expr.eval_kind hextends hkeeps hcheck record engine'.session value h
  · intro hdeclares source rule operation left right hcompile hpredicate
    obtain ⟨kind, hcheck, hboolean⟩ := exists_kind_of_compilePredicate hcompile hpredicate
    obtain ⟨root, hparse, _, _, rfl⟩ := Compiled.ofSource_eq_ok_iff.mp hcompile
    obtain ⟨_, _, d, _⟩ := exists_derivation_of_parse hparse
    have hroot : root ≠ .literal .missing := by
      rintro rfl
      exact d.not_missing
    have hmissing : kind ≠ .missing := by
      rintro rfl
      exact Expr.check_ne_missing hdeclares hroot hcheck
    have hrecord := evaluateRecord_eq_error hextends hkeeps hcheck hboolean hmissing
    exact ⟨hrecord, fun json => evaluateExtracted_eq_error hrecord (Record.ofJson json),
      fun data => evaluateExtracted_eq_error hrecord (Record.ofSerial data)⟩
  · intro source rule hcompile hkind record value h
    have hcheck := Compiled.check_root hcompile
    rw [hkind] at hcheck
    have hvalue : value.kind = .boolean := evaluate_kind hextends hkeeps hcheck h
    rw [evaluateRecord_fst, h]
    exact Value.exists_truth hvalue _

/-- A quantified rule is known to be a truth value among the built-in functions, and
    is one where another function has been registered. -/
theorem kinds_sound_quantified :
    let engine := ofConfig {}
    let engine' : Engine := { engine with
      registry := Fields.insert Registry.builtin "f" ⟨none, fun _ _ => .done .missing⟩ }
    engine.registry.Extends engine'.registry ∧
      engine.registry.KeepsKinds engine'.environment ∧
      ∀ record value,
        ((Expr.eval engine'.environment (.call "any" [.field "Rule", .field "Items"]) record).run
          engine'.session).1 = .ok value → value.kind = .boolean := by
  intro engine engine'
  have hregister : Registry.builtin.register "f" ⟨none, fun _ _ => .done .missing⟩ =
      .ok engine'.registry := rfl
  have hextends : engine.registry.Extends engine'.registry :=
    Registry.extends_of_register hregister
  have hkeeps : engine.registry.KeepsKinds engine'.environment := Registry.keepsKinds_builtin _
  refine ⟨hextends, hkeeps, fun record value => ?_⟩
  exact (kinds_sound hextends hkeeps).1 true _ _ (by rfl) record value

end Engine

end RuleEngine
