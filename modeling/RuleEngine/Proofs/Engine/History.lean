import RuleEngine.Engine
import RuleEngine.Proofs.Evaluation.Builtin

/-!
# Histories of an engine

An engine is asked one thing after another: to register a function, to compile a
rule, to evaluate one, to clear its caches. The functions that it has stay
(`Engine.extends_after`).

What it answers, and which functions are called on the way, is the same whatever
the capacity of its caches is. The invariant of two engines of different
capacities is `Engine.Alike`: they have the same functions, none of which looks
at more of a rule than its tree, and each has in its caches what it would make
anew now. Every request preserves it (`Engine.Alike.respond`).
-/

namespace RuleEngine

namespace Engine

/-- What an engine can be asked. -/
inductive Request where
  | register (name : String) (function : Function)
  | compile (source : String)
  | compilePredicate (source : String)
  | evaluate (rule : Compiled) (record : Record)
  | evaluateRecord (rule : Compiled) (record : Record)
  | evaluateJson (rule : Compiled) (json : Json)
  | evaluateSerial (rule : Compiled) (data : Serial)
  | clearCaches

/-- What an engine answers. -/
inductive Answer where
  | registered (result : Except Error Unit)
  | compiled (result : Except Error Compiled)
  | value (result : Except Error Value)
  | truth (result : Except Error Bool)
  | cleared

/-- The answer to a request, and the engine afterwards. -/
def respond (engine : Engine) : Request → Answer × Engine
  | .register name function =>
    match engine.register name function with
    | .ok engine => (.registered (.ok ()), engine)
    | .error e => (.registered (.error e), engine)
  | .compile source => (.compiled (engine.compile source), engine)
  | .compilePredicate source => (.compiled (engine.compilePredicate source), engine)
  | .evaluate rule record => (engine.evaluate rule record).map .value id
  | .evaluateRecord rule record => (engine.evaluateRecord rule record).map .truth id
  | .evaluateJson rule json => (engine.evaluateJson rule json).map .truth id
  | .evaluateSerial rule data => (engine.evaluateSerial rule data).map .truth id
  | .clearCaches => (.cleared, engine.clearCaches)

/-- The answer to a request and the calls that were made for it, and the engine
    afterwards. -/
def step (engine : Engine) (request : Request) : (Answer × List Call) × Engine :=
  let (answer, engine) := engine.respond request
  let (calls, engine) := engine.takeJournal
  ((answer, calls), engine)

/-- The answers to requests made one after the other, each with its calls. -/
def answers (engine : Engine) : List Request → List (Answer × List Call)
  | [] => []
  | request :: rest =>
    (engine.step request).1 :: (engine.step request).2.answers rest

/-- The engine after requests made one after the other. -/
def after (engine : Engine) : List Request → Engine
  | [] => engine
  | request :: rest => (engine.step request).2.after rest

/-! ### Functions -/

/-- An engine keeps the functions that it has, whatever it is asked. -/
theorem extends_respond (engine : Engine) (request : Request) :
    engine.registry.Extends (engine.respond request).2.registry := by
  cases request with
  | register name function =>
    rw [respond, register]
    cases hregister : engine.registry.register name function with
    | ok registry => exact Registry.extends_of_register hregister
    | error e => exact .refl _
  | evaluateJson rule json =>
    rw [respond, evaluateJson]
    cases Record.ofJson json <;> exact .refl _
  | evaluateSerial rule data =>
    rw [respond, evaluateSerial]
    cases Record.ofSerial data <;> exact .refl _
  | _ => exact .refl _

/-- The functions of an engine stay through a whole history. -/
theorem extends_after (engine : Engine) (requests : List Request) :
    engine.registry.Extends (engine.after requests).registry := by
  induction requests generalizing engine with
  | nil => exact .refl _
  | cons request rest ih =>
    have hstep : engine.registry.Extends (engine.step request).2.registry :=
      extends_respond engine request
    exact hstep.trans (ih _)

/-! ### Capacities -/

/-- Two engines that differ in the capacity of their caches and in what is in
    them, but hold no other rules and patterns than they would make now. -/
structure Alike (engine engine' : Engine) : Prop where
  registry : engine'.registry = engine.registry
  config : ∃ capacity, engine'.config = engine.config.withCapacity capacity
  isBlind : engine.registry.IsBlind
  session : Session.Alike engine.environment engine.session engine'.session

variable {engine engine' : Engine}

/-- Engines over the same functions start out alike. -/
theorem alike_ofRegistry {registry : Registry} (h : registry.IsBlind) (config : Config)
    (capacity : Nat) :
    (ofRegistry registry config).Alike (ofRegistry registry (config.withCapacity capacity)) :=
  ⟨rfl, ⟨capacity, rfl⟩, h, rfl, Caches.isSound_empty _ _, Caches.isSound_empty _ _⟩

theorem Alike.exists_eq (h : engine.Alike engine') : ∃ capacity session,
    engine' = ⟨engine.registry, engine.config.withCapacity capacity, session⟩ ∧
      Session.Alike engine.environment engine.session session := by
  obtain ⟨registry', config', session'⟩ := engine'
  obtain ⟨hregistry, ⟨capacity, hconfig⟩, _, hsession⟩ := h
  dsimp only at hregistry hconfig
  subst hregistry hconfig
  exact ⟨capacity, session', rfl, hsession⟩

/-- Evaluating a rule gives the same value, and leaves engines that are alike. -/
theorem Alike.evaluate (h : engine.Alike engine') (rule : Compiled) (record : Record) :
    (engine'.evaluate rule record).1 = (engine.evaluate rule record).1 ∧
      (engine.evaluate rule record).2.Alike (engine'.evaluate rule record).2 := by
  obtain ⟨capacity, session, rfl, hsession⟩ := h.exists_eq
  have halike : engine.environment.Alike (Session.Alike engine.environment) Compiled.Alike
      ⟨engine.registry, engine.config.withCapacity capacity⟩ :=
    Environment.alike_withCapacity h.isBlind capacity
  obtain ⟨hagree, hsession'⟩ := Expr.eval_simulates halike rule.root (fun _ _ => rfl) _ _ hsession
  exact ⟨hagree.eq.symm, rfl, ⟨capacity, rfl⟩, h.isBlind, hsession'⟩

theorem Alike.evaluateRecord (h : engine.Alike engine') (rule : Compiled) (record : Record) :
    (engine'.evaluateRecord rule record).1 = (engine.evaluateRecord rule record).1 ∧
      (engine.evaluateRecord rule record).2.Alike (engine'.evaluateRecord rule record).2 := by
  obtain ⟨hvalue, hengine⟩ := h.evaluate rule record
  refine ⟨?_, hengine⟩
  rw [evaluateRecord_fst, evaluateRecord_fst, hvalue]

theorem Alike.evaluateExtracted (h : engine.Alike engine') (rule : Compiled)
    (extracted : Except Error Record) :
    (engine'.evaluateExtracted rule extracted).1 = (engine.evaluateExtracted rule extracted).1 ∧
      (engine.evaluateExtracted rule extracted).2.Alike
        (engine'.evaluateExtracted rule extracted).2 := by
  cases extracted with
  | ok record => exact h.evaluateRecord rule record
  | error e => exact ⟨rfl, h⟩

theorem Alike.compile (h : engine.Alike engine') (source : String) :
    engine'.compile source = engine.compile source ∧
      engine'.compilePredicate source = engine.compilePredicate source := by
  obtain ⟨capacity, session, rfl, _⟩ := h.exists_eq
  exact ⟨rfl, rfl⟩

/-- What was compiled before a function was registered may stay in the caches. -/
theorem Alike.register (h : engine.Alike engine') {name : String} {function : Function}
    (hfunction : function.IsBlind) :
    Agree Alike (engine.register name function) (engine'.register name function) := by
  obtain ⟨capacity, session, rfl, hsession⟩ := h.exists_eq
  rw [Engine.register, Engine.register]
  cases hregister : engine.registry.register name function with
  | error e => exact .error e
  | ok registry =>
    -- The caches are sound for more functions, and the new one is as blind as the others.
    have hextends := Registry.extends_of_register hregister
    refine .ok ⟨rfl, ⟨capacity, rfl⟩, fun other found hfound => ?_, hsession.journal,
      hsession.isSound.extends hextends, hsession.isSound'.extends hextends⟩
    rcases Registry.get?_register hregister hfound with rfl | hfound
    · exact hfunction
    · exact h.isBlind other found hfound

theorem Alike.clearCaches (h : engine.Alike engine') :
    engine.clearCaches.Alike engine'.clearCaches :=
  ⟨h.registry, h.config, h.isBlind, h.session.journal, Caches.isSound_clear _ _,
    Caches.isSound_clear _ _⟩

/-- Every request is answered alike, and leaves engines that are alike. -/
theorem Alike.respond (h : engine.Alike engine') (request : Request)
    (hrequest : ∀ name function, request = .register name function → function.IsBlind) :
    (engine'.respond request).1 = (engine.respond request).1 ∧
      (engine.respond request).2.Alike (engine'.respond request).2 := by
  cases request with
  | register name function =>
    have hagree : Agree Alike (engine.register name function) (engine'.register name function) :=
      h.register (hrequest name function rfl)
    rw [Engine.respond, Engine.respond]
    generalize engine.register name function = result, engine'.register name function = result'
      at hagree
    cases hagree with
    | ok hengine => exact ⟨rfl, hengine⟩
    | error e => exact ⟨rfl, h⟩
  | compile source => exact ⟨congrArg Answer.compiled (h.compile source).1, h⟩
  | compilePredicate source => exact ⟨congrArg Answer.compiled (h.compile source).2, h⟩
  | evaluate rule record =>
    obtain ⟨hvalue, hengine⟩ := h.evaluate rule record
    exact ⟨congrArg Answer.value hvalue, hengine⟩
  | evaluateRecord rule record =>
    obtain ⟨htruth, hengine⟩ := h.evaluateRecord rule record
    exact ⟨congrArg Answer.truth htruth, hengine⟩
  | evaluateJson rule json =>
    obtain ⟨htruth, hengine⟩ := h.evaluateExtracted rule (Record.ofJson json)
    exact ⟨congrArg Answer.truth htruth, hengine⟩
  | evaluateSerial rule data =>
    obtain ⟨htruth, hengine⟩ := h.evaluateExtracted rule (Record.ofSerial data)
    exact ⟨congrArg Answer.truth htruth, hengine⟩
  | clearCaches => exact ⟨rfl, h.clearCaches⟩

theorem Alike.step (h : engine.Alike engine') (request : Request)
    (hrequest : ∀ name function, request = .register name function → function.IsBlind) :
    (engine'.step request).1 = (engine.step request).1 ∧
      (engine.step request).2.Alike (engine'.step request).2 := by
  obtain ⟨hanswer, hengine⟩ := h.respond request hrequest
  refine ⟨Prod.ext hanswer hengine.session.journal, ?_⟩
  exact ⟨hengine.registry, hengine.config, hengine.isBlind, rfl, hengine.session.isSound,
    hengine.session.isSound'⟩

/-- Engines that are alike give the same answers to a whole history. -/
theorem Alike.answers (h : engine.Alike engine') (requests : List Request)
    (hrequests : ∀ name function, .register name function ∈ requests → function.IsBlind) :
    engine'.answers requests = engine.answers requests := by
  induction requests generalizing engine engine' with
  | nil => rfl
  | cons request rest ih =>
    obtain ⟨hanswer, hengine⟩ := h.step request fun name function heq =>
      hrequests name function (heq ▸ List.mem_cons_self)
    rw [Engine.answers, Engine.answers]
    rw [hanswer]
    exact congrArg (_ :: ·) (ih hengine fun name function hmem =>
      hrequests name function (List.mem_cons_of_mem _ hmem))

/-- The capacity of the caches does not show: whatever is asked of an engine, and
    in whatever order, the answers and the calls made for each are the same with
    any other capacity, none included. -/
theorem answers_withCapacity (registry : Registry) (config : Config) (capacity : Nat)
    (requests : List Request) (hregistry : registry.IsBlind)
    (hrequests : ∀ name function, .register name function ∈ requests → function.IsBlind) :
    (ofRegistry registry (config.withCapacity capacity)).answers requests =
      (ofRegistry registry config).answers requests :=
  (alike_ofRegistry hregistry config capacity).answers requests hrequests

/-- A rule over the items of a record, before and after the function that it calls
    on them is registered. -/
theorem answers_withCapacity_quantified :
    let rule : Compiled :=
      ⟨"any('len(Name) > 3', Items)",
        .call "any" [.literal (.string "len(Name) > 3"), .field "Items"], ["any"], some .boolean⟩
    let record : Record := [("Items", .list [.record [("Name", .string "abcd")]])]
    let requests : List Request :=
      [.evaluateRecord rule record, .register "len" (HostFunction.len.toFunction none),
        .evaluateRecord rule record, .clearCaches, .evaluate rule record]
    Registry.builtin.IsBlind ∧
      (∀ name function, .register name function ∈ requests → function.IsBlind) ∧
      (ofRegistry Registry.builtin (Config.withCapacity {} 0)).answers requests =
        (ofRegistry Registry.builtin {}).answers requests := by
  intro rule record requests
  have hrequests : ∀ name function, .register name function ∈ requests → function.IsBlind := by
    intro name function h
    simp only [requests, List.mem_cons, reduceCtorEq, Request.register.injEq, false_or, or_false,
      List.not_mem_nil] at h
    rw [h.2]
    exact HostFunction.isBlind_toFunction _ _
  exact ⟨Registry.isBlind_builtin, hrequests,
    answers_withCapacity _ _ 0 requests Registry.isBlind_builtin hrequests⟩

end Engine

end RuleEngine
