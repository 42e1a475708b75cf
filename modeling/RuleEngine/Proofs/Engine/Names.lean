import RuleEngine.Proofs.Engine.States
import RuleEngine.Proofs.Evaluation.Names

/-!
# Names that stay

An engine that refuses unknown functions only ever hands out rules whose
functions it has, and only keeps such rules in its caches. Since it keeps its
functions, what was resolved when a rule was compiled stays resolved, and is
bound to the same functions, however the engine is used afterwards
(`Engine.names_stay`).

A history is that of all handles on an engine together: they share its functions
and its caches. What is asked of it through them is done one after the other, so no
function is registered while a rule is evaluated.
-/

namespace RuleEngine

/-- A condition is compiled as any rule is. -/
theorem Compiled.ofSource_of_ofPredicate {scope : Scope} {maxDepth : Nat} {source : String}
    {rule : Compiled} (h : ofPredicate scope maxDepth source = .ok rule) :
    ofSource scope maxDepth source = .ok rule := by
  obtain ⟨rule', hrule, h⟩ := bind_eq_ok_iff.mp h
  obtain ⟨_, _, h⟩ := bind_eq_ok_iff.mp h
  cases h
  exact hrule

namespace Engine

variable {engine : Engine} {config : Config} {rule : Compiled}

/-- What is compiled for a request calls only functions that are there. -/
theorem isResolved_of_respond (hstrict : engine.config.strictFunctions = true)
    {request : Request} (h : (engine.respond request).1 = .compiled (.ok rule)) :
    rule.IsResolved engine.registry := by
  have hscope : engine.scope = engine.registry.scope true := by
    rw [scope, environment, Environment.scope, hstrict]
  cases request with
  | compile source =>
    have hrule : engine.compile source = .ok rule := Answer.compiled.inj h
    rw [compile, hscope] at hrule
    exact Compiled.isResolved_of_ofSource hrule
  | compilePredicate source =>
    have hrule : engine.compilePredicate source = .ok rule := Answer.compiled.inj h
    rw [compilePredicate, hscope] at hrule
    exact Compiled.isResolved_of_ofSource (Compiled.ofSource_of_ofPredicate hrule)
  | register name function =>
    rw [respond] at h
    split at h <;> cases h
  | _ => cases h

/-- What was compiled on the way calls only functions that are still there. -/
theorem isResolved_of_answers (hengine : engine.IsSteady config)
    (hstrict : config.strictFunctions = true) {requests : List Request} {calls : List Call}
    (h : (.compiled (.ok rule), calls) ∈ engine.answers requests) :
    rule.IsResolved (engine.after requests).registry := by
  induction requests generalizing engine with
  | nil => cases h
  | cons request rest ih =>
    rcases List.mem_cons.mp h with h | h
    · have hanswer : (engine.respond request).1 = .compiled (.ok rule) :=
        (congrArg Prod.fst h).symm
      have hrule := isResolved_of_respond (hengine.config ▸ hstrict) hanswer
      exact hrule.extends (extends_after engine (request :: rest))
    · exact ih (hengine.step request) h

/-- What is in the cache calls only functions that are there. -/
theorem isResolved_of_entries (hengine : engine.IsSteady config)
    (hstrict : config.strictFunctions = true) {source : String}
    (h : (source, rule) ∈ engine.session.caches.expressions.entries) :
    rule.IsResolved engine.registry := by
  obtain ⟨made, hmade, halike⟩ := hengine.isSound.expressions _ h
  have hscope : engine.environment.scope = engine.registry.scope true := by
    rw [environment, Environment.scope, hengine.config, hstrict]
  rw [hscope] at hmade
  exact (Compiled.isResolved_of_ofSource hmade).alike halike.symm

theorem after_append (engine : Engine) (earlier later : List Request) :
    engine.after (earlier ++ later) = (engine.after earlier).after later := by
  induction earlier generalizing engine with
  | nil => rfl
  | cons request rest ih => exact ih _

/-- A failed registration leaves an engine as it was. -/
theorem IsSteady.step_register (h : engine.IsSteady config) {name : String}
    {function : Function} {e : Error}
    (herror : (engine.respond (.register name function)).1 = .registered (.error e)) :
    (engine.step (.register name function)).2 = engine := by
  have hstep : (engine.step (.register name function)).2 = engine.takeJournal.2 :=
    congrArg (fun engine => engine.takeJournal.2) (respond_register_eq_error herror)
  obtain ⟨registry, config, caches, journal⟩ := engine
  obtain rfl : journal = [] := h.journal
  exact hstep

/-- A rule has been compiled by an engine in the course of some requests: as the answer
    to one of them, for its cache, or for a function that was called, from whatever
    session that call was in. -/
inductive HasCompiled (engine : Engine) (requests : List Request) (rule : Compiled) : Prop
  | answered (calls : List Call) (h : (.compiled (.ok rule), calls) ∈ engine.answers requests)
  | cached (source : String)
      (h : (source, rule) ∈ (engine.after requests).session.caches.expressions.entries)
  | given (earlier later : List Request) (hrequests : requests = earlier ++ later)
      (source : String) (s : Session) (hs : s.caches.IsSound (engine.after earlier).environment)
      (h : ((Run.compile (engine.after earlier).environment source).run s).1 = .ok rule)

/-- The functions of a rule that was compiled on the way are there. -/
theorem HasCompiled.isResolved {requests : List Request} (h : engine.HasCompiled requests rule)
    (hengine : engine.IsSteady config) (hstrict : config.strictFunctions = true) :
    rule.IsResolved (engine.after requests).registry := by
  cases h with
  | answered calls h => exact isResolved_of_answers hengine hstrict h
  | cached source h => exact isResolved_of_entries (hengine.after requests) hstrict h
  | given earlier later hrequests source s hs h =>
    subst hrequests
    have hconfig : (engine.after earlier).config.strictFunctions = true :=
      (hengine.after earlier).config ▸ hstrict
    rw [after_append]
    exact (hs.isResolved hconfig h).extends (extends_after _ later)

/-- Names that were resolved stay so. After any requests to an engine that refuses
    unknown functions, all functions that it had at some time are there under their
    names; a registration that succeeded is among them, one that failed changed
    nothing. All functions of the rules that it has compiled are there. If
    evaluating such a rule fails for an unknown name, that was met in a function
    that was called: in one that is not built in, or in a quantifier that could not
    have its rule compiled. -/
theorem names_stay (registry : Registry) (config : Config)
    (hstrict : config.strictFunctions = true) (requests : List Request) :
    let engine := (ofRegistry registry config).after requests
    (∀ earlier later, requests = earlier ++ later →
      ((ofRegistry registry config).after earlier).registry.Extends engine.registry) ∧
    (∀ earlier name function later, requests = earlier ++ .register name function :: later →
      let before := (ofRegistry registry config).after earlier
      ((before.respond (.register name function)).1 = .registered (.ok ()) →
        Fields.get? engine.registry name = some function) ∧
      ∀ e, (before.respond (.register name function)).1 = .registered (.error e) →
        (before.step (.register name function)).2 = before) ∧
    ∀ rule, (ofRegistry registry config).HasCompiled requests rule →
      rule.IsResolved engine.registry ∧
      ∀ record e name, (engine.evaluate rule record).1 = .error e →
        e.rootCause = .unknownFunction name →
        engine.environment.Meets name (engine.evaluate rule record).2.session := by
  intro engine
  have hengine : engine.IsSteady config := isSteady_after registry config requests
  refine ⟨?_, ?_, ?_⟩
  · rintro earlier later rfl
    rw [show engine = _ from after_append _ _ _]
    exact extends_after _ later
  · rintro earlier name function later rfl before
    have hbefore : before.IsSteady config := isSteady_after registry config earlier
    refine ⟨fun hregister => ?_, fun e => hbefore.step_register⟩
    rw [show engine = _ from after_append _ _ _]
    exact extends_after _ later name function (get?_respond_register hregister)
  · intro rule hrule
    have hresolved := hrule.isResolved (isSteady_ofRegistry registry config) hstrict
    refine ⟨hresolved, fun record e name hfails hcause => ?_⟩
    have hconfig : engine.config.strictFunctions = true := hengine.config ▸ hstrict
    exact (Expr.eval_isTraced hconfig (fun _ => hresolved.contains) record engine.session
      hengine.isSound).2 e hfails name hcause

/-- A quantifier over a rule that calls an unknown function is compiled, and meets that
    name when it is evaluated. -/
theorem names_stay_quantified :
    let requests : List Request :=
      [.compile "any('g()',a)", .register "any" (HostFunction.len.toFunction none)]
    let engine := (ofRegistry Registry.builtin {}).after requests
    let record : Record := [("a", .list [.record []])]
    Config.strictFunctions {} = true ∧
      ∃ rule, (ofRegistry Registry.builtin {}).compile "any('g()',a)" = .ok rule ∧
        rule.IsResolved engine.registry ∧
        (engine.evaluate rule record).1 = .error (.unknownFunction "g") ∧
        engine.environment.Meets "g" (engine.evaluate rule record).2.session := by
  intro requests engine record
  obtain ⟨_, _, hrules⟩ := names_stay Registry.builtin {} rfl requests
  obtain ⟨rule, hsome⟩ := Option.isSome_iff_exists.mp
    (show ((ofRegistry Registry.builtin {}).compile "any('g()',a)").toOption.isSome = true by
      decide +kernel)
  have hrule := toOption_eq_some_iff.mp hsome
  have hmeets : failure? ((ofRegistry Registry.builtin {}).compile "any('g()',a)" >>= fun rule =>
      (engine.evaluate rule record).1) = some (.unknownFunction "g") := by
    decide +kernel
  rw [hrule] at hmeets
  have hfails : (engine.evaluate rule record).1 = .error (.unknownFunction "g") :=
    failure?_eq_some_iff.mp hmeets
  have hanswer :
      (.compiled (.ok rule), []) ∈ (ofRegistry Registry.builtin {}).answers requests := by
    rw [← hrule]
    exact List.mem_cons_self
  obtain ⟨hresolved, hmet⟩ := hrules rule (.answered [] hanswer)
  exact ⟨rfl, rule, hrule, hresolved, hfails, hmet record _ "g" hfails rfl⟩

end Engine

end RuleEngine
