import RuleEngine.Function
import RuleEngine.Proofs.Runs

/-!
# Scopes that grow

The check of a tree meets its calls from left to right, each after its arguments,
and fails at the first that its scope refuses. It fails for nothing else
(`Expr.failure?_check`).

An engine only ever gets more functions. What could be compiled with fewer can
be compiled with more, as the same tree (`Compiled.ofSource_extends`); only what
is known of the kind of its result may change, since a function that was not
known when the rule was compiled may have a kind now.
-/

namespace RuleEngine

/-- The functions of a registry are in another, under the same names. -/
def Registry.Extends (registry registry' : Registry) : Prop :=
  ∀ name function, Fields.get? registry name = some function →
    Fields.get? registry' name = some function

theorem Registry.Extends.refl (registry : Registry) : registry.Extends registry :=
  fun _ _ h => h

theorem Registry.Extends.trans {r r' r'' : Registry} (h : r.Extends r') (h' : r'.Extends r'') :
    r.Extends r'' :=
  fun name function hf => h' name function (h name function hf)

/-- Registering a function leaves the others where they are. -/
theorem Registry.extends_of_register {registry registry' : Registry} {name : String}
    {function : Function} (h : registry.register name function = .ok registry') :
    registry.Extends registry' := by
  intro other found hfound
  rw [register] at h
  split at h
  · cases h
  · next hfree =>
    cases h
    rw [Fields.get?_insert]
    split
    · next heq =>
      -- Nothing can have been found under a name that was free.
      subst heq
      simp [Fields.contains, hfound] at hfree
    · exact hfound

/-- What is found after a function was registered is that function or was there
    before. -/
theorem Registry.get?_register {registry registry' : Registry} {name other : String}
    {function found : Function} (h : registry.register name function = .ok registry')
    (hfound : Fields.get? registry' other = some found) :
    found = function ∨ Fields.get? registry other = some found := by
  rw [register] at h
  split at h
  · cases h
  · cases h
    rw [Fields.get?_insert] at hfound
    split at hfound
    · exact .inl (Option.some.inj hfound).symm
    · exact .inr hfound

/-- What is known of the functions of a scope is known in another. -/
structure Scope.Extends (scope scope' : Scope) : Prop where
  strict : scope'.strict = scope.strict
  returnKind? : ∀ name kind, scope.returnKind? name = some kind →
    scope'.returnKind? name = some kind

theorem Registry.Extends.scope {registry registry' : Registry} (h : registry.Extends registry')
    (strict : Bool) : (registry.scope strict).Extends (registry'.scope strict) := by
  refine ⟨rfl, fun name kind hkind => ?_⟩
  obtain ⟨function, hfunction, rfl⟩ := Option.map_eq_some_iff.mp hkind
  exact Option.map_eq_some_iff.mpr ⟨function, h name function hfunction, rfl⟩

/-! ### The check of a tree -/

/-- The kind of the result of an operator, where something is known of the kinds
    of its operands or nothing is. -/
def BinaryOp.resultKind? (op : BinaryOp) (left right : Option Kind) : Option Kind :=
  if op.isLogical then some .boolean
  else match left, right with
    | some l, some r => (op.outputKind? l r).or op.dynamicKind?
    | _, _ => op.dynamicKind?

/-- The same of an operator before its operand. -/
def UnaryOp.resultKind? (op : UnaryOp) (operand : Option Kind) : Option Kind :=
  match op with
  | .not => some .boolean
  | .minus => operand.bind UnaryOp.minus.outputKind?

/-- A scope has functions under all of some names, or does not ask for them. -/
def Scope.Accepts (scope : Scope) (names : List String) : Prop :=
  scope.strict = true → ∀ name ∈ names, (scope.returnKind? name).isSome = true

theorem Scope.Accepts.extends {scope scope' : Scope} {names : List String}
    (h : scope.Accepts names) (hextends : scope.Extends scope') : scope'.Accepts names := by
  intro hstrict name hname
  obtain ⟨kind, hkind⟩ := Option.isSome_iff_exists.mp
    (h (hextends.strict ▸ hstrict) name hname)
  rw [hextends.returnKind? name kind hkind]
  rfl

namespace Scope

variable (scope : Scope)

/-- What a scope refuses some names for: the first that no function has, if it asks for
    them. -/
def refused? (names : List String) : Option Error :=
  if scope.strict then
    (names.find? fun name => (scope.returnKind? name).isNone).map .unknownFunction
  else none

theorem refused?_nil : scope.refused? [] = none := by
  unfold refused?
  split <;> rfl

theorem refused?_append (names names' : List String) :
    scope.refused? (names ++ names') = (scope.refused? names).or (scope.refused? names') := by
  unfold refused?
  split
  · rw [List.find?_append, Option.map_or]
  · rfl

theorem refused?_eq_none_iff {names : List String} :
    scope.refused? names = none ↔ scope.Accepts names := by
  unfold refused? Accepts
  split <;> simp_all [Option.isSome_iff_ne_none]

/-- The name that is refused is unknown, and all before it are known. -/
theorem exists_of_refused? {names : List String} {e : Error} (h : scope.refused? names = some e) :
    ∃ before name after, names = before ++ name :: after ∧
      (∀ other ∈ before, (scope.returnKind? other).isSome = true) ∧
      scope.returnKind? name = none ∧ e = .unknownFunction name := by
  unfold refused? at h
  split at h
  · obtain ⟨name, hfind, rfl⟩ := Option.map_eq_some_iff.mp h
    obtain ⟨hunknown, before, after, hnames, hbefore⟩ := List.find?_eq_some_iff_append.mp hfind
    refine ⟨before, name, after, hnames, fun other hother => ?_, ?_, rfl⟩
    · simpa using hbefore other hother
    · exact Option.isNone_iff_eq_none.mp hunknown
  · cases h

end Scope

namespace Expr

variable {scope : Scope}

theorem check_binary_eq_ok_iff {op : BinaryOp} {left right : Expr} {kind : Option Kind} :
    check scope (.binary op left right) = .ok kind ↔
      ∃ l, check scope left = .ok l ∧ ∃ r, check scope right = .ok r ∧
        op.resultKind? l r = kind := by
  rw [check, bind_eq_ok_iff]
  refine exists_congr fun l => and_congr_right fun _ => ?_
  rw [bind_eq_ok_iff]
  refine exists_congr fun r => and_congr_right fun _ => eq_ok_iff_of_eq ?_
  cases l <;> cases r <;> simp only [BinaryOp.resultKind?] <;> split <;> rfl

theorem check_unary_eq_ok_iff {op : UnaryOp} {operand : Expr} {kind : Option Kind} :
    check scope (.unary op operand) = .ok kind ↔
      ∃ k, check scope operand = .ok k ∧ op.resultKind? k = kind := by
  rw [check, bind_eq_ok_iff]
  refine exists_congr fun k => and_congr_right fun _ => eq_ok_iff_of_eq ?_
  cases op <;> rfl

/-- What a scope knows of the kind of a call, if it lets it pass. -/
def callKind (scope : Scope) (name : String) : Except Error (Option Kind) :=
  match scope.returnKind? name with
  | some kind => .ok kind
  | none => if scope.strict then .error (.unknownFunction name) else .ok none

theorem check_call_eq_ok_iff {name : String} {args : List Expr} {kind : Option Kind} :
    check scope (.call name args) = .ok kind ↔
      checkAll scope args = .ok () ∧ callKind scope name = .ok kind := by
  rw [check, bind_eq_ok_iff]
  refine ⟨fun ⟨_, hargs, h⟩ => ⟨hargs, h⟩, fun ⟨hargs, h⟩ => ⟨(), hargs, h⟩⟩

theorem refused?_singleton (name : String) :
    scope.refused? [name] = failure? (callKind scope name) := by
  unfold Scope.refused? callKind
  cases hknown : scope.returnKind? name <;> cases hstrict : scope.strict <;>
    simp [hknown, failure?]

mutual

/-- The check of a tree fails with what its scope refuses the calls for, taken from left
    to right and each after its arguments. -/
theorem failure?_check : (e : Expr) → failure? (check scope e) = scope.refused? e.calls
  | .literal _ => by
    rw [check, calls, Scope.refused?_nil]
    rfl
  | .field _ => by
    rw [check, calls, Scope.refused?_nil]
    rfl
  | .binary op left right => by
    rw [check, calls, Scope.refused?_append, ← failure?_check left, ← failure?_check right]
    refine failure?_bind fun l => failure?_bind_of_ok fun r => ?_
    -- Whatever the kinds of the operands are, they are no failure.
    cases l <;> cases r <;> split <;> rfl
  | .unary op operand => by
    rw [check, calls, ← failure?_check operand]
    refine failure?_bind_of_ok fun kind => ?_
    cases op <;> rfl
  | .call name args => by
    rw [check, calls, Scope.refused?_append, refused?_singleton, ← failure?_checkAll args]
    exact failure?_bind fun _ => rfl

theorem failure?_checkAll : (es : List Expr) →
    failure? (checkAll scope es) = scope.refused? (callsOfAll es)
  | [] => by
    rw [checkAll, callsOfAll, Scope.refused?_nil]
    rfl
  | e :: rest => by
    rw [checkAll, callsOfAll, Scope.refused?_append, ← failure?_check e, ← failure?_checkAll rest]
    exact failure?_bind fun _ => rfl

end

/-- A tree passes the check of a scope that has all the functions it calls. -/
theorem exists_check_eq_ok_iff (e : Expr) :
    (∃ kind, check scope e = .ok kind) ↔ scope.Accepts e.calls := by
  rw [← Scope.refused?_eq_none_iff, ← failure?_check, failure?_eq_none_iff]

/-- Only a function that is not there makes the check fail, and the first such function
    does. -/
theorem check_eq_error (e : Expr) {err : Error} (h : check scope e = .error err) :
    ∃ before name after, e.calls = before ++ name :: after ∧
      (∀ other ∈ before, (scope.returnKind? other).isSome = true) ∧
      scope.returnKind? name = none ∧ err = .unknownFunction name := by
  have hrefused : scope.refused? e.calls = some err := by
    rw [← failure?_check, failure?_eq_some_iff, h]
  exact scope.exists_of_refused? hrefused

/-- What passes the check of a scope passes that of a larger one. -/
theorem check_extends {scope' : Scope} (h : scope.Extends scope') {e : Expr}
    {kind : Option Kind} (hcheck : check scope e = .ok kind) :
    ∃ kind', check scope' e = .ok kind' :=
  (exists_check_eq_ok_iff e).mpr (((exists_check_eq_ok_iff e).mp ⟨kind, hcheck⟩).extends h)

end Expr

/-! ### Compiled rules -/

/-- Two compiled rules are the same apart from what is known of their kinds. -/
structure Compiled.Alike (rule rule' : Compiled) : Prop where
  source : rule'.source = rule.source
  root : rule'.root = rule.root
  functions : rule'.functions = rule.functions

namespace Compiled

theorem Alike.refl (rule : Compiled) : rule.Alike rule :=
  ⟨rfl, rfl, rfl⟩

theorem Alike.symm {rule rule' : Compiled} (h : rule.Alike rule') : rule'.Alike rule :=
  ⟨h.source.symm, h.root.symm, h.functions.symm⟩

theorem Alike.trans {rule rule' rule'' : Compiled} (h : rule.Alike rule')
    (h' : rule'.Alike rule'') : rule.Alike rule'' :=
  ⟨h'.source.trans h.source, h'.root.trans h.root, h'.functions.trans h.functions⟩

/-- A compiled rule is the tree of its text, which passed the check. -/
theorem ofSource_eq_ok_iff {scope : Scope} {maxDepth : Nat} {source : String} {rule : Compiled} :
    ofSource scope maxDepth source = .ok rule ↔
      ∃ root, Expr.parse source maxDepth = .ok root ∧ ∃ kind, root.check scope = .ok kind ∧
        rule = ⟨source, root, root.functionNames, kind⟩ := by
  rw [ofSource, bind_eq_ok_iff]
  refine exists_congr fun root => and_congr_right fun _ => ?_
  rw [bind_eq_ok_iff]
  refine exists_congr fun kind => and_congr_right fun _ => ?_
  exact (eq_ok_iff_of_eq rfl).trans eq_comm

/-- The kind of a compiled rule is what the check of its tree finds. -/
theorem check_root {scope : Scope} {maxDepth : Nat} {source : String} {rule : Compiled}
    (h : ofSource scope maxDepth source = .ok rule) :
    rule.root.check scope = .ok rule.resultKind := by
  obtain ⟨root, _, kind, hcheck, rfl⟩ := ofSource_eq_ok_iff.mp h
  exact hcheck

/-- A rule whose kind is not known to be another is a condition. -/
theorem ofPredicate_eq_ok {scope : Scope} {maxDepth : Nat} {source : String} {rule : Compiled}
    (h : ofSource scope maxDepth source = .ok rule)
    (hkind : rule.resultKind = none ∨ rule.resultKind = some .boolean) :
    ofPredicate scope maxDepth source = .ok rule := by
  have hpredicate : rule.root.checkPredicate scope = .ok () := by
    rw [Expr.checkPredicate, check_root h]
    obtain hkind | hkind := hkind <;> rw [hkind] <;> rfl
  exact bind_eq_ok_iff.mpr ⟨rule, h, bind_eq_ok_iff.mpr ⟨(), hpredicate, rfl⟩⟩

/-- What can be compiled in a scope can be compiled in a larger one. -/
theorem ofSource_extends {scope scope' : Scope} (h : scope.Extends scope') {maxDepth : Nat}
    {source : String} {rule : Compiled} (hrule : ofSource scope maxDepth source = .ok rule) :
    ∃ rule', ofSource scope' maxDepth source = .ok rule' ∧ rule.Alike rule' := by
  obtain ⟨root, hparse, kind, hcheck, rfl⟩ := ofSource_eq_ok_iff.mp hrule
  obtain ⟨kind', hcheck'⟩ := Expr.check_extends h hcheck
  exact ⟨_, ofSource_eq_ok_iff.mpr ⟨root, hparse, kind', hcheck', rfl⟩, rfl, rfl, rfl⟩

end Compiled

end RuleEngine
