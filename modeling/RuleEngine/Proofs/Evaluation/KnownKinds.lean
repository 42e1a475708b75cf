import RuleEngine.Proofs.Evaluation.Kinds

/-!
# Kinds that become known

With more functions a rule is compiled as the same tree, but more may be known of the kind of
its result: a function that was not there when the rule was compiled may declare a kind. What
is known stays so (`Expr.check_mono`), and where all functions of a rule are there already,
nothing is found out about it later (`Expr.check_eq_of_known`).
-/

namespace RuleEngine

/-- What is known of a kind is known as well. -/
def KindKept (kind kind' : Option Kind) : Prop :=
  ∀ k, kind = some k → kind' = some k

/-- What is known of the result of an operator stays so if more is known of its operands. -/
theorem BinaryOp.resultKind?_mono (op : BinaryOp) {left left' right right' : Option Kind}
    (hleft : KindKept left left') (hright : KindKept right right') :
    KindKept (op.resultKind? left right) (op.resultKind? left' right') := by
  intro kind h
  cases op with
  | arithmetic op =>
    -- Both operands have to be known for anything to be known of the result.
    obtain ⟨l, r, hl, hr, _⟩ := resultKind?_arithmetic h
    rwa [hleft l hl, hright r hr, ← hl, ← hr]
  | _ =>
    rw [resultKind?_eq_boolean rfl] at h ⊢
    exact h

theorem UnaryOp.resultKind?_mono (op : UnaryOp) {operand operand' : Option Kind}
    (h : KindKept operand operand') :
    KindKept (op.resultKind? operand) (op.resultKind? operand') := by
  intro kind hkind
  cases op with
  | not => exact hkind
  | minus =>
    obtain ⟨k, hk, _⟩ := Option.bind_eq_some_iff.mp hkind
    rwa [h k hk, ← hk]

namespace Expr

variable {scope scope' : Scope}

/-- What is known of a call stays so in a larger scope. -/
theorem callKind_mono (h : scope.Extends scope') {name : String} {kind kind' : Option Kind}
    (hkind : callKind scope name = .ok kind) (hkind' : callKind scope' name = .ok kind') :
    KindKept kind kind' := by
  intro k hk
  rw [callKind] at hkind hkind'
  cases hknown : scope.returnKind? name with
  | none =>
    rw [hknown] at hkind
    dsimp only at hkind
    split at hkind <;> cases hkind
    cases hk
  | some declared =>
    rw [hknown] at hkind
    rw [h.returnKind? name declared hknown] at hkind'
    rw [← Except.ok.inj hkind', Except.ok.inj hkind, hk]

/-- What is known of the kind of a tree stays so in a larger scope. -/
theorem check_mono (h : scope.Extends scope') :
    (e : Expr) → ∀ {kind kind' : Option Kind}, check scope e = .ok kind →
      check scope' e = .ok kind' → KindKept kind kind'
  | .literal _, _, _, hkind, hkind' => by
    rw [check] at hkind hkind'
    exact fun _ hk => Except.ok.inj hkind' ▸ (Except.ok.inj hkind).trans hk
  | .field _, _, _, hkind, _ => by
    rw [check] at hkind
    cases hkind
    exact nofun
  | .binary op left right, _, _, hkind, hkind' => by
    obtain ⟨l, hl, r, hr, rfl⟩ := check_binary_eq_ok_iff.mp hkind
    obtain ⟨l', hl', r', hr', rfl⟩ := check_binary_eq_ok_iff.mp hkind'
    exact op.resultKind?_mono (check_mono h left hl hl') (check_mono h right hr hr')
  | .unary op operand, _, _, hkind, hkind' => by
    obtain ⟨k, hk, rfl⟩ := check_unary_eq_ok_iff.mp hkind
    obtain ⟨k', hk', rfl⟩ := check_unary_eq_ok_iff.mp hkind'
    exact op.resultKind?_mono (check_mono h operand hk hk')
  | .call name args, _, _, hkind, hkind' =>
    callKind_mono h (check_call_eq_ok_iff.mp hkind).2 (check_call_eq_ok_iff.mp hkind').2

mutual

/-- Where all functions of a tree are there, others make no difference to its check. -/
theorem check_eq_of_known (h : scope.Extends scope') :
    (e : Expr) → (∀ name ∈ e.calls, (scope.returnKind? name).isSome = true) →
      check scope' e = check scope e
  | .literal _, _ => rfl
  | .field _, _ => rfl
  | .binary op left right, hknown => by
    rw [calls, List.forall_mem_append] at hknown
    rw [check, check, check_eq_of_known h left hknown.1, check_eq_of_known h right hknown.2]
  | .unary op operand, hknown => by
    rw [check, check, check_eq_of_known h operand hknown]
  | .call name args, hknown => by
    rw [calls, List.forall_mem_append] at hknown
    obtain ⟨kind, hkind⟩ := Option.isSome_iff_exists.mp (hknown.2 name (List.mem_singleton_self _))
    rw [check, check, checkAll_eq_of_known h args hknown.1, hkind, h.returnKind? name kind hkind]

theorem checkAll_eq_of_known (h : scope.Extends scope') :
    (es : List Expr) → (∀ name ∈ callsOfAll es, (scope.returnKind? name).isSome = true) →
      checkAll scope' es = checkAll scope es
  | [], _ => rfl
  | e :: rest, hknown => by
    rw [callsOfAll, List.forall_mem_append] at hknown
    rw [checkAll, checkAll, check_eq_of_known h e hknown.1, checkAll_eq_of_known h rest hknown.2]

end

end Expr

namespace Compiled

variable {scope scope' : Scope} {maxDepth : Nat} {source : String} {rule rule' : Compiled}

/-- Where all functions of a rule are there, it is compiled as the same with others. -/
theorem ofSource_of_known (h : scope.Extends scope')
    (hrule : ofSource scope maxDepth source = .ok rule)
    (hknown : ∀ name ∈ rule.functions, (scope.returnKind? name).isSome = true) :
    ofSource scope' maxDepth source = .ok rule := by
  obtain ⟨root, hparse, kind, hcheck, rfl⟩ := ofSource_eq_ok_iff.mp hrule
  have hcalls : ∀ name ∈ root.calls, (scope.returnKind? name).isSome = true :=
    fun name hname => hknown name (mem_sortedNames.mpr hname)
  exact ofSource_eq_ok_iff.mpr ⟨root, hparse, kind,
    (root.check_eq_of_known h hcalls).trans hcheck, rfl⟩

/-- A rule that is compiled again with more functions is the same if its kind was known. -/
theorem eq_of_ofSource_extends (h : scope.Extends scope')
    (hrule : ofSource scope maxDepth source = .ok rule)
    (hrule' : ofSource scope' maxDepth source = .ok rule') :
    rule = rule' ∨ rule.resultKind = none := by
  obtain ⟨root, hparse, kind, hcheck, rfl⟩ := ofSource_eq_ok_iff.mp hrule
  obtain ⟨root', hparse', kind', hcheck', rfl⟩ := ofSource_eq_ok_iff.mp hrule'
  obtain rfl := Except.ok.inj (hparse.symm.trans hparse')
  have hkept := root.check_mono h hcheck hcheck'
  cases kind with
  | none => exact .inr rfl
  | some k => exact .inl (by rw [hkept k rfl])

end Compiled

end RuleEngine
