import RuleEngine.Proofs.Engine.States
import RuleEngine.Proofs.Evaluation.Enlarging

/-!
# Larger engines

Two engines are compared, each after requests of its own, so that other things may
be in their caches. If the second has all functions of the first and larger
limits, a rule that the first compiles is compiled by the second too, and has on
the second every value that it has on the first (`Engine.evaluate_enlarged`).
-/

namespace RuleEngine

/-- The built-in functions are plain. -/
theorem Registry.isPlain_builtin : Registry.builtin.IsPlain :=
  fun _ _ h => .inl (eq_of_get?_builtin h)

namespace Engine

/-- More functions and larger limits change no answer that is a success: what the
    first engine compiles the second compiles to the same tree, with the same
    functions; and where the first finds a value, the second finds the same one. The
    functions of the first engine are built in or only compute from their arguments. -/
theorem evaluate_enlarged (registry registry' : Registry) (config config' : Config)
    (requests requests' : List Request)
    (hplain : ((ofRegistry registry config).after requests).registry.IsPlain)
    (hregistry : ((ofRegistry registry config).after requests).registry.Extends
      ((ofRegistry registry' config').after requests').registry)
    (hconfig : config.AtMost config') (source : String) (rule : Compiled)
    (hcompile : ((ofRegistry registry config).after requests).compile source = .ok rule) :
    ∃ rule', ((ofRegistry registry' config').after requests').compile source = .ok rule' ∧
      rule'.root = rule.root ∧ rule'.functions = rule.functions ∧
      ∀ record value,
        (((ofRegistry registry config).after requests).evaluate rule record).1 = .ok value →
        (((ofRegistry registry' config').after requests').evaluate rule' record).1 =
          .ok value := by
  generalize hengine : (ofRegistry registry config).after requests = engine at *
  generalize hengine' : (ofRegistry registry' config').after requests' = engine' at *
  have hsteady : engine.IsSteady config := hengine ▸ isSteady_after registry config requests
  have hsteady' : engine'.IsSteady config' := hengine' ▸ isSteady_after registry' config' requests'
  have hmost : engine.environment.AtMost engine'.environment := by
    refine ⟨hregistry, ?_⟩
    rw [environment, environment, hsteady.config, hsteady'.config]
    exact hconfig
  obtain ⟨rule', hrule', halike⟩ := Compiled.ofSource_of_atMost hmost hcompile
  refine ⟨rule', hrule', halike.root, halike.functions, fun record value hvalue => ?_⟩
  obtain ⟨value', hvalue', rfl, _⟩ := Expr.eval_enlarged hmost hplain rule.root record
    engine.session engine'.session ⟨hsteady.isSound, hsteady'.isSound⟩ value hvalue
  rw [evaluate, halike.root]
  exact hvalue'

/-- A quantified rule has the same value where two levels just suffice for it and where
    more are allowed and another function has been registered. -/
theorem evaluate_enlarged_quantified :
    let config : Config := { maxDepth := 2, maxPatternLength := 0, regexSizeLimit := 0 }
    let config' : Config := { strictFunctions := false, cacheCapacity := 0 }
    let requests' : List Request := [.register "len" (HostFunction.len.toFunction none)]
    let record : Record := [("a", .list [.record [("x", .boolean true)]])]
    let engine := ofRegistry Registry.builtin config
    let engine' := (ofRegistry Registry.builtin config').after requests'
    engine.registry.IsPlain ∧ engine.registry.Extends engine'.registry ∧
      config.AtMost config' ∧
      ∃ rule rule' value, engine.compile "any('x',a)" = .ok rule ∧
        engine'.compile "any('x',a)" = .ok rule' ∧ rule'.root = rule.root ∧
        (engine.evaluate rule record).1 = .ok value ∧
        (engine'.evaluate rule' record).1 = .ok value := by
  intro config config' requests' record engine engine'
  have hextends : engine.registry.Extends engine'.registry :=
    extends_after (ofRegistry Registry.builtin config') requests'
  have hconfig : config.AtMost config' := by
    constructor <;> decide
  obtain ⟨rule, hsome⟩ := Option.isSome_iff_exists.mp
    (show (engine.compile "any('x',a)").toOption.isSome = true by decide +kernel)
  have hrule := toOption_eq_some_iff.mp hsome
  have hvalues : (engine.compile "any('x',a)" >>= fun rule =>
      (engine.evaluate rule record).1).toOption.isSome = true := by
    decide +kernel
  rw [hrule] at hvalues
  obtain ⟨value, hsome⟩ := Option.isSome_iff_exists.mp hvalues
  have hvalue : (engine.evaluate rule record).1 = .ok value := toOption_eq_some_iff.mp hsome
  obtain ⟨rule', hrule', hroot, _, hsame⟩ := evaluate_enlarged Registry.builtin Registry.builtin
    config config' [] requests' Registry.isPlain_builtin hextends hconfig "any('x',a)" rule hrule
  exact ⟨Registry.isPlain_builtin, hextends, hconfig, rule, rule', value, hrule, hrule', hroot,
    hvalue, hsame record value hvalue⟩

end Engine

end RuleEngine
