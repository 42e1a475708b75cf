import RuleEngine.Proofs.Evaluation.Scope
import RuleEngine.Proofs.Evaluation.Simulation

/-!
# What caches hold

A cache holds what would be made from a text anew, up to a relation
(`Cache.Holds`). So what is fetched from it agrees with what would be made anew,
whether the text was stored, is stored now, or finds the cache full
(`Cache.Holds.fetch`).

The caches of an engine hold what would be compiled now, apart from what is
known of the kinds of rules, and stay so when functions are added
(`Caches.IsSound.extends`). Then environments with different capacities answer
alike to whatever evaluation asks for (`Environment.alike_withCapacity`).
-/

namespace RuleEngine

namespace Cache

variable {α : Type} {R : α → α → Prop} {make : String → Except Error α} {cache : Cache α}

/-- Everything in a cache is related to what would be made from its text now. -/
def Holds (R : α → α → Prop) (make : String → Except Error α) (cache : Cache α) : Prop :=
  ∀ entry ∈ cache.entries, ∃ a, make entry.1 = .ok a ∧ R entry.2 a

theorem holds_empty (capacity : Nat) : (empty capacity).Holds R make :=
  nofun

theorem holds_clear (cache : Cache α) : cache.clear.Holds R make :=
  nofun

theorem Holds.mono {make' : String → Except Error α} (h : cache.Holds R make)
    (himp : ∀ text a b, make text = .ok a → R b a → ∃ a', make' text = .ok a' ∧ R b a') :
    cache.Holds R make' := by
  intro entry hentry
  obtain ⟨a, ha, hR⟩ := h entry hentry
  exact himp entry.1 a entry.2 ha hR

theorem Holds.get? (h : cache.Holds R make) {text : String} {a : α}
    (ha : cache.get? text = some a) : ∃ b, make text = .ok b ∧ R a b := by
  obtain ⟨entry, hentry, rfl⟩ := Option.map_eq_some_iff.mp ha
  have htext := List.find?_some hentry
  obtain rfl := of_decide_eq_true htext
  obtain ⟨b, hb, hR⟩ := h entry (List.mem_of_find?_eq_some hentry)
  exact ⟨b, hb, hR⟩

theorem Holds.insert (h : cache.Holds R make) {text : String} {a b : α}
    (hget : cache.get? text = none) (hb : make text = .ok b) (hR : R a b) :
    (cache.insert text a).1 = a ∧ (cache.insert text a).2.Holds R make := by
  rw [Cache.insert, hget]
  split
  · refine ⟨rfl, fun entry hentry => ?_⟩
    rcases List.mem_append.mp hentry with hentry | hentry
    · exact h entry hentry
    · obtain rfl := List.mem_singleton.mp hentry
      exact ⟨b, hb, hR⟩
  · -- A full cache hands out what was made and stores nothing.
    exact ⟨rfl, h⟩

/-- What is fetched agrees with what would be made anew, and the cache goes on
    holding what it should. -/
theorem Holds.fetch (h : cache.Holds R make) (hrefl : ∀ a, R a a) (text : String) :
    Agree R (cache.fetch make text).1 (make text) ∧ (cache.fetch make text).2.Holds R make := by
  rw [Cache.fetch]
  cases hget : cache.get? text with
  | some a =>
    obtain ⟨b, hb, hR⟩ := h.get? hget
    rw [hb]
    exact ⟨.ok hR, h⟩
  | none =>
    cases hmake : make text with
    | error e => exact ⟨.error e, h⟩
    | ok b =>
      obtain ⟨hkept, hholds⟩ := h.insert hget hmake (hrefl b)
      refine ⟨.ok ?_, hholds⟩
      rw [hkept]
      exact hrefl b

end Cache

/-! ### The caches of an engine -/

/-- The rules in the caches are those that would be compiled now, and the
    patterns those that would be built. -/
structure Caches.IsSound (env : Environment) (caches : Caches) : Prop where
  expressions : caches.expressions.Holds Compiled.Alike
    (Compiled.ofSource env.scope env.config.maxDepth)
  patterns : caches.patterns.Holds Eq (Pattern.build env.config)

namespace Caches

variable {env : Environment} {caches : Caches}

theorem isSound_empty (env : Environment) (capacity : Nat) : (empty capacity).IsSound env :=
  ⟨Cache.holds_empty capacity, Cache.holds_empty capacity⟩

theorem isSound_clear (env : Environment) (caches : Caches) : caches.clear.IsSound env :=
  ⟨Cache.holds_clear _, Cache.holds_clear _⟩

/-- What was compiled with fewer functions may stay in the caches. -/
theorem IsSound.extends (h : caches.IsSound env) {registry : Registry}
    (hextends : env.registry.Extends registry) :
    caches.IsSound { env with registry := registry } := by
  refine ⟨h.expressions.mono fun text rule stored hrule hstored => ?_, h.patterns⟩
  obtain ⟨rule', hrule', halike⟩ := Compiled.ofSource_extends (hextends.scope _) hrule
  exact ⟨rule', hrule', hstored.trans halike⟩

theorem IsSound.expression (h : caches.IsSound env) (source : String) :
    Agree Compiled.Alike (caches.expression env.scope env.config source).1
        (Compiled.ofSource env.scope env.config.maxDepth source) ∧
      (caches.expression env.scope env.config source).2.IsSound env := by
  obtain ⟨hagree, hholds⟩ := h.expressions.fetch Compiled.Alike.refl source
  exact ⟨hagree, hholds, h.patterns⟩

theorem IsSound.pattern (h : caches.IsSound env) (text : String) :
    Agree Eq (caches.pattern env.config text).1 (Pattern.build env.config text) ∧
      (caches.pattern env.config text).2.IsSound env := by
  obtain ⟨hagree, hholds⟩ := h.patterns.fetch (fun _ => rfl) text
  exact ⟨hagree, h.expressions, hholds⟩

end Caches

/-! ### Capacities -/

/-- A function goes on alike whatever is known of the kinds of the rules that it
    is given: it only evaluates them. -/
def Function.IsBlind (function : Function) : Prop :=
  ∀ registered call, Action.Alike Compiled.Alike (function.action registered call)
    (function.action registered call)

/-- All functions of a registry only evaluate the rules that they are given. -/
def Registry.IsBlind (registry : Registry) : Prop :=
  ∀ name function, Fields.get? registry name = some function → function.IsBlind

/-- A configuration with caches of another capacity. -/
def Config.withCapacity (config : Config) (capacity : Nat) : Config :=
  { config with cacheCapacity := capacity }

/-- Two sessions with the same calls in which the caches are sound. -/
structure Session.Alike (env : Environment) (s s' : Session) : Prop where
  journal : s'.journal = s.journal
  isSound : s.caches.IsSound env
  isSound' : s'.caches.IsSound env

theorem Environment.alike_withCapacity {env : Environment} (hblind : env.registry.IsBlind)
    (capacity : Nat) :
    env.Alike (Session.Alike env) Compiled.Alike
      { env with config := env.config.withCapacity capacity } where
  registry := rfl
  maxDepth := rfl
  root h := h.root
  note call _ _ hs := ⟨.ok rfl, congrArg (call :: ·) hs.journal, hs.isSound, hs.isSound'⟩
  compile source s s' hs := by
    obtain ⟨hagree, hsound⟩ := hs.isSound.expression source
    obtain ⟨hagree', hsound'⟩ := hs.isSound'.expression source
    -- Both caches agree with what would be compiled now, and so with each other.
    exact ⟨hagree.join (fun _ _ _ h h' => h.trans h'.symm) hagree', hs.journal, hsound, hsound'⟩
  search text subject := by
    have hpattern : Run.Simulates (Session.Alike env) Eq (Run.pattern env text)
        (Run.pattern { env with config := env.config.withCapacity capacity } text) := by
      intro s s' hs
      obtain ⟨hagree, hsound⟩ := hs.isSound.pattern text
      obtain ⟨hagree', hsound'⟩ := hs.isSound'.pattern text
      exact ⟨hagree.join (fun _ _ _ h h' => h.trans h'.symm) hagree', hs.journal, hsound, hsound'⟩
    exact hpattern.bindEq fun _ => .pure rfl
  action hfunction call := hblind _ _ hfunction _ call

end RuleEngine
