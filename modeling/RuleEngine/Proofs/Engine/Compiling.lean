import RuleEngine.Proofs.Engine.History
import RuleEngine.Proofs.Evaluation.Collecting
import RuleEngine.Proofs.Evaluation.Names

/-!
# What is refused when a rule is compiled

A rule that can be read is refused for the name of a function that is not there,
and for nothing else: always by an engine that is strict about functions, never by
one that is not. The name is that of the first unknown call, the calls taken from
left to right and each after its arguments. What is compiled reports the names and
the text of the rule (`Engine.compile_refuses_unknown`).

No function is called for that. An engine whose functions do other things when they
are called compiles the same (`Engine.compile_withActions`).
-/

namespace RuleEngine

/-- The functions do other things on a call. Their names and kinds stay. -/
def Registry.withActions (registry : Registry)
    (action : String → (String → Bool) → Call → Action) : Registry :=
  registry.map fun entry => (entry.1, { entry.2 with action := action entry.1 })

/-- Rules see no difference in the functions if these do other things. -/
theorem Registry.scope_withActions (registry : Registry)
    (action : String → (String → Bool) → Call → Action) (strict : Bool) :
    (registry.withActions action).scope strict = registry.scope strict := by
  have hkind (name : String) :
      (Fields.get? (registry.withActions action) name).map (·.returnKind) =
        (Fields.get? registry name).map (·.returnKind) := by
    induction registry with
    | nil => rfl
    | cons entry rest ih =>
      rw [withActions, List.map_cons, Fields.get?, Fields.get?]
      split
      · rfl
      · exact ih
  exact congrArg (Scope.mk strict) (funext hkind)

/-- What a compiled rule says of itself is right: its text, and in order the names of
    the functions called and of the fields read within its tree, whether calls are
    collected before their arguments or after them. -/
structure Compiled.Reports (rule : Compiled) (source : String) : Prop where
  source : rule.source = source
  functions : rule.functions = rule.root.functionNames
  inward : rule.functions = sortedNames rule.root.callsInward
  mem_functions : ∀ name, name ∈ rule.functions ↔ ∃ args, (Expr.call name args).Within rule.root
  fields : rule.fields = rule.root.fieldNames
  mem_fields : ∀ name, name ∈ rule.fields ↔ (Expr.field name).Within rule.root
  ordered : rule.functions.Pairwise (· < ·) ∧ rule.fields.Pairwise (· < ·)

theorem Compiled.reports_ofSource {scope : Scope} {maxDepth : Nat} {source : String}
    {rule : Compiled} (h : ofSource scope maxDepth source = .ok rule) : rule.Reports source := by
  obtain ⟨root, _, kind, _, rfl⟩ := ofSource_eq_ok_iff.mp h
  exact
    { source := rfl
      functions := rfl
      inward := root.functionNames_eq
      mem_functions := fun _ => root.mem_functionNames_iff
      fields := rfl
      mem_fields := fun _ => root.mem_fieldNames_iff
      ordered := ⟨pairwise_sortedNames _, pairwise_sortedNames _⟩ }

namespace Engine

variable (engine : Engine) (source : String)

/-- A function is registered under a name. -/
def Knows (name : String) : Prop :=
  Fields.contains engine.registry name = true

variable {engine source}

theorem returnKind?_isSome_iff {name : String} :
    (engine.scope.returnKind? name).isSome = true ↔ engine.Knows name := by
  rw [Knows, Fields.contains, scope, environment, Environment.scope, Registry.scope,
    Option.isSome_map]

/-- A rule can be compiled if it can be read and its calls are let pass. -/
theorem exists_compile_eq_ok_iff :
    (∃ rule, engine.compile source = .ok rule) ↔
      ∃ tree, Expr.parse source engine.config.maxDepth = .ok tree ∧
        (engine.config.strictFunctions = true →
          ∀ name ∈ tree.functionNames, engine.Knows name) := by
  have haccepts (tree : Expr) : engine.scope.Accepts tree.calls ↔
      (engine.config.strictFunctions = true →
        ∀ name ∈ tree.functionNames, engine.Knows name) := by
    refine forall_congr' fun _ => forall_congr' fun name => ?_
    rw [Expr.functionNames, mem_sortedNames, returnKind?_isSome_iff]
  constructor
  · rintro ⟨rule, hrule⟩
    obtain ⟨tree, hparse, kind, hcheck, _⟩ := Compiled.ofSource_eq_ok_iff.mp hrule
    exact ⟨tree, hparse, (haccepts tree).mp ((Expr.exists_check_eq_ok_iff tree).mp ⟨kind, hcheck⟩)⟩
  · rintro ⟨tree, hparse, hknown⟩
    obtain ⟨kind, hcheck⟩ := (Expr.exists_check_eq_ok_iff tree).mpr ((haccepts tree).mpr hknown)
    exact ⟨_, Compiled.ofSource_eq_ok_iff.mpr ⟨tree, hparse, kind, hcheck, rfl⟩⟩

/-- The failure of a rule that can be read is for its first unknown call. -/
theorem compile_eq_error {tree : Expr} {e : Error}
    (hparse : Expr.parse source engine.config.maxDepth = .ok tree)
    (h : engine.compile source = .error e) :
    ∃ before name after, tree.calls = before ++ name :: after ∧
      (∀ other ∈ before, engine.Knows other) ∧ ¬engine.Knows name ∧ e = .unknownFunction name := by
  -- The rule was read, so it is the check that has failed.
  have hcheck : tree.check engine.scope = .error e := by
    rcases bind_eq_error_iff.mp h with hfails | ⟨root, hroot, h⟩
    · rw [hparse] at hfails
      cases hfails
    · obtain rfl : root = tree := Except.ok.inj (hroot.symm.trans hparse)
      rcases bind_eq_error_iff.mp h with hcheck | ⟨_, _, h⟩
      · exact hcheck
      · cases h
  obtain ⟨before, name, after, hcalls, hbefore, hunknown, he⟩ := tree.check_eq_error hcheck
  refine ⟨before, name, after, hcalls, fun other hother => ?_, fun hknown => ?_, he⟩
  · exact returnKind?_isSome_iff.mp (hbefore other hother)
  · rw [← returnKind?_isSome_iff, hunknown] at hknown
    cases hknown

/-- What the functions do on a call makes no difference to what is compiled. -/
theorem compile_withActions (engine : Engine) (source : String)
    (action : String → (String → Bool) → Call → Action) :
    { engine with registry := engine.registry.withActions action }.compile source =
      engine.compile source :=
  congrArg (Compiled.ofSource · engine.config.maxDepth source)
    (engine.registry.scope_withActions action engine.config.strictFunctions)

/-- Compiling refuses unknown names and nothing else. An engine that is not strict
    compiles what can be read; a strict one compiles it exactly if all functions in it
    are registered. What cannot be read fails as it does when it is read. What can be
    read fails only for a name: that of the first call, from left to right and after its
    arguments, that is not registered. What is compiled is the tree that was read, and
    says rightly what is in it. Compiling leaves the engine as it was, without a call
    noted, and does not depend on what functions do when they are called. -/
theorem compile_refuses_unknown (engine : Engine) (source : String) :
    let parsed := Expr.parse source engine.config.maxDepth
    let compiled := engine.compile source
    (engine.config.strictFunctions = false →
      ((∃ rule, compiled = .ok rule) ↔ ∃ tree, parsed = .ok tree)) ∧
    (engine.config.strictFunctions = true →
      ((∃ rule, compiled = .ok rule) ↔
        ∃ tree, parsed = .ok tree ∧ ∀ name ∈ tree.functionNames, engine.Knows name)) ∧
    (∀ e, parsed = .error e →
      compiled = .error e ∧ ∃ offset problem, e = .badSyntax offset problem) ∧
    (∀ tree e, parsed = .ok tree → compiled = .error e →
      ∃ before name after, tree.calls = before ++ name :: after ∧
        (∀ other ∈ before, engine.Knows other) ∧ ¬engine.Knows name ∧
        e = .unknownFunction name) ∧
    (∀ rule, compiled = .ok rule → parsed = .ok rule.root ∧ rule.Reports source) ∧
    engine.respond (.compile source) = (.compiled compiled, engine) ∧
    ∀ action, { engine with registry := engine.registry.withActions action }.compile source =
      compiled := by
  intro parsed compiled
  refine ⟨fun hlenient => ?_, fun hstrict => ?_, fun e he => ?_, fun _ _ => compile_eq_error,
    fun rule hrule => ?_, rfl, compile_withActions engine source⟩
  · rw [exists_compile_eq_ok_iff, hlenient]
    exact exists_congr fun _ => and_iff_left nofun
  · rw [exists_compile_eq_ok_iff]
    exact exists_congr fun _ => and_congr_right fun _ => forall_prop_of_true hstrict
  · refine ⟨?_, Expr.parse_eq_badSyntax he⟩
    exact bind_eq_error_iff.mpr (.inl he)
  · obtain ⟨tree, hparse, _, _, heq⟩ := Compiled.ofSource_eq_ok_iff.mp hrule
    refine ⟨hparse.trans ?_, Compiled.reports_ofSource hrule⟩
    rw [heq]

/-- An unknown call is found among the arguments of another unknown one, and before a
    function that is there. -/
theorem compile_refuses_unknown_argument :
    let source := "f(g(x)) && any('y',z)"
    let lenient := ofConfig { strictFunctions := false }
    let strict := ofConfig {}
    lenient.config.strictFunctions = false ∧ strict.config.strictFunctions = true ∧
    ∃ tree, Expr.parse source 64 = .ok tree ∧ tree.calls = ["g", "f", "any"] ∧
      (∃ rule, lenient.compile source = .ok rule ∧ rule.root = tree ∧ rule.Reports source) ∧
      strict.compile source = .error (.unknownFunction "g") ∧ ¬strict.Knows "g" ∧
      (¬∀ name ∈ tree.functionNames, strict.Knows name) ∧
      ∃ e, Expr.parse "f(" 64 = .error e ∧ strict.compile "f(" = .error e := by
  intro source lenient strict
  have hcalls : (Expr.parse source 64).toOption.map Expr.calls = some ["g", "f", "any"] := by
    decide +kernel
  obtain ⟨tree, hsome, hcalls⟩ := Option.map_eq_some_iff.mp hcalls
  have hparse : Expr.parse source 64 = .ok tree := toOption_eq_some_iff.mp hsome
  have hfails : strict.compile source = .error (.unknownFunction "g") :=
    failure?_eq_some_iff.mp (by decide +kernel)
  obtain ⟨hlenient, _, _, _, hreports, _⟩ := compile_refuses_unknown lenient source
  obtain ⟨rule, hrule⟩ := (hlenient rfl).mpr ⟨tree, hparse⟩
  obtain ⟨hroot, hreports⟩ := hreports rule hrule
  obtain ⟨_, hstrict, _, hfirst, _⟩ := compile_refuses_unknown strict source
  have hrefused : ¬∀ name ∈ tree.functionNames, strict.Knows name := fun hknown => by
    obtain ⟨_, hrule⟩ := (hstrict rfl).mpr ⟨tree, hparse, hknown⟩
    cases hfails.symm.trans hrule
  obtain ⟨_, name, _, _, _, hunknown, heq⟩ := hfirst tree _ hparse hfails
  obtain rfl : "g" = name := Error.unknownFunction.inj heq
  obtain ⟨_, _, hunread, _⟩ := compile_refuses_unknown strict "f("
  obtain ⟨e, he⟩ := Option.isSome_iff_exists.mp
    (show (failure? (Expr.parse "f(" 64)).isSome = true by decide +kernel)
  have he := failure?_eq_some_iff.mp he
  exact ⟨rfl, rfl, tree, hparse, hcalls,
    ⟨rule, hrule, Except.ok.inj (hroot.symm.trans hparse), hreports⟩, hfails, hunknown,
    hrefused, e, he, (hunread e he).1⟩

end Engine

end RuleEngine
