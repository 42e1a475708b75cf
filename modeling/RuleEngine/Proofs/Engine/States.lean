import RuleEngine.Proofs.Engine.History
import RuleEngine.Proofs.Evaluation.Invariants

/-!
# The states of an engine

Whatever an engine has been asked since it was set up, it has the settings it
was set up with, it has in its caches only what it would make now, and no call
is left in its journal (`Engine.isSteady_after`). Unlike what it answers, this
does not depend on what its functions do.
-/

namespace RuleEngine

/-- A function that was registered is found under its name. -/
theorem Registry.get?_of_register {registry registry' : Registry} {name : String}
    {function : Function} (h : registry.register name function = .ok registry') :
    Fields.get? registry' name = some function := by
  rw [register] at h
  split at h <;> cases h
  rw [Fields.get?_insert, if_pos rfl]

namespace Engine

/-- An engine has the settings it was set up with, what it would make now in its
    caches, and no calls in its journal. -/
structure IsSteady (config : Config) (engine : Engine) : Prop where
  config : engine.config = config
  isSound : engine.session.caches.IsSound engine.environment
  journal : engine.session.journal = []

variable {config : Config} {engine : Engine}

theorem isSteady_ofRegistry (registry : Registry) (config : Config) :
    (ofRegistry registry config).IsSteady config :=
  ⟨rfl, Caches.isSound_empty _ _, rfl⟩

theorem isSound_evaluate (h : engine.session.caches.IsSound engine.environment) (rule : Compiled)
    (record : Record) :
    (engine.evaluate rule record).2.session.caches.IsSound engine.environment :=
  Expr.isSound_eval h rule.root record

theorem isSound_evaluateExtracted (h : engine.session.caches.IsSound engine.environment)
    (rule : Compiled) (extracted : Except Error Record) :
    (engine.evaluateExtracted rule extracted).2.session.caches.IsSound
      (engine.evaluateExtracted rule extracted).2.environment := by
  cases extracted with
  | ok record => exact isSound_evaluate h rule record
  | error e => exact h

/-- A name that is taken is refused, and nothing changes. -/
theorem respond_register_eq_error {name : String} {function : Function} {e : Error}
    (h : (engine.respond (.register name function)).1 = .registered (.error e)) :
    (engine.respond (.register name function)).2 = engine := by
  rw [respond] at h ⊢
  cases hregister : engine.register name function with
  | ok engine' =>
    rw [hregister] at h
    cases h
  | error e => rfl

/-- A name that is free is bound to the function. -/
theorem get?_respond_register {name : String} {function : Function}
    (h : (engine.respond (.register name function)).1 = .registered (.ok ())) :
    Fields.get? (engine.respond (.register name function)).2.registry name = some function := by
  rw [respond, register] at h ⊢
  cases hregister : engine.registry.register name function with
  | error e =>
    rw [hregister] at h
    cases h
  | ok registry => exact Registry.get?_of_register hregister

/-- Whatever is asked, the settings stay, and what is in the caches would be made now. -/
theorem IsSteady.respond (h : engine.IsSteady config) (request : Request) :
    (engine.respond request).2.config = config ∧
      (engine.respond request).2.session.caches.IsSound (engine.respond request).2.environment := by
  cases request with
  | register name function =>
    rw [Engine.respond, register]
    cases hregister : engine.registry.register name function with
    | ok registry => exact ⟨h.config, h.isSound.extends (Registry.extends_of_register hregister)⟩
    | error e => exact ⟨h.config, h.isSound⟩
  | compile source => exact ⟨h.config, h.isSound⟩
  | compilePredicate source => exact ⟨h.config, h.isSound⟩
  | evaluate rule record => exact ⟨h.config, isSound_evaluate h.isSound rule record⟩
  | evaluateRecord rule record => exact ⟨h.config, isSound_evaluate h.isSound rule record⟩
  | evaluateJson rule json =>
    refine ⟨?_, isSound_evaluateExtracted h.isSound rule _⟩
    rw [Engine.respond, evaluateJson]
    cases Record.ofJson json <;> exact h.config
  | evaluateSerial rule data =>
    refine ⟨?_, isSound_evaluateExtracted h.isSound rule _⟩
    rw [Engine.respond, evaluateSerial]
    cases Record.ofSerial data <;> exact h.config
  | clearCaches => exact ⟨h.config, Caches.isSound_clear _ _⟩

theorem IsSteady.step (h : engine.IsSteady config) (request : Request) :
    (engine.step request).2.IsSteady config := by
  obtain ⟨hconfig, hsound⟩ := h.respond request
  exact ⟨hconfig, hsound, rfl⟩

theorem IsSteady.after (h : engine.IsSteady config) (requests : List Request) :
    (engine.after requests).IsSteady config := by
  induction requests generalizing engine with
  | nil => exact h
  | cons request rest ih => exact ih (h.step request)

/-- So every engine is steady. -/
theorem isSteady_after (registry : Registry) (config : Config) (requests : List Request) :
    ((ofRegistry registry config).after requests).IsSteady config :=
  (isSteady_ofRegistry registry config).after requests

end Engine

end RuleEngine
