import RuleEngine.Proofs.Engine.Compiling
import RuleEngine.Proofs.Engine.Names
import RuleEngine.Proofs.Evaluation.Answers
import RuleEngine.Proofs.Evaluation.KnownKinds

/-!
# Rules compiled before

A function that has a rule compiled may get one from the cache, which was compiled when the
engine had fewer functions. What it gets is what the engine would have answered at some time
since the caches were cleared (`Engine.WasCompiled`), and that is what it would answer now, up
to the kind of the result (`Engine.cached_compiled_before`).

The kind is the same too where the engine is strict, where it was known, and where all
functions of the rule were there then. It need not be otherwise: the cache keeps what was
compiled before a function was there whose kind is known now
(`Engine.not_forall_cached_eq`).

What is shown of the caches holds at any time during an evaluation too, the functions being
the same from its beginning to its end: none is registered meanwhile. The sessions met
there are those that a session leads to by what evaluation does with it
(`Session.LeadsTo`).
-/

namespace RuleEngine

/-! ### Sessions during an evaluation -/

/-- A session leads to the ones that evaluation makes of it: a rule is compiled, a pattern is
    built or a call is noted, any number of times, and always with the same functions. -/
inductive Session.LeadsTo (env : Environment) (s : Session) : Session → Prop
  | refl : LeadsTo env s s
  | compiled {t : Session} (h : LeadsTo env s t) (source : String) :
      LeadsTo env s ((Run.compile env source).run t).2
  | built {t : Session} (h : LeadsTo env s t) (text : String) :
      LeadsTo env s ((Run.pattern env text).run t).2
  | noted {t : Session} (h : LeadsTo env s t) (call : Call) :
      LeadsTo env s ((Run.note call).run t).2

/-- What stays when a rule is compiled, a pattern is built or a call is noted, holds during an
    evaluation. -/
theorem Session.LeadsTo.preserved {env : Environment} {s t : Session} (h : s.LeadsTo env t)
    {P : Session → Prop} (hP : env.Preserves P)
    (hnote : ∀ call s, P s → P ((Run.note call).run s).2) (hs : P s) : P t := by
  induction h with
  | refl => exact hs
  | compiled _ source ih => exact hP.compile source _ ih
  | built _ text ih => exact hP.pattern text _ ih
  | noted _ call ih => exact hnote call _ ih

/-- An evaluation leaves a session that the one before led to. -/
theorem Expr.leadsTo_eval (env : Environment) (e : Expr) (record : Record) (s : Session) :
    s.LeadsTo env ((eval env e record).run s).2 :=
  (evalAt_preserves ⟨fun source _ h => h.compiled source, fun text _ h => h.built text⟩
    (fun call _ _ h => h.noted call) _ e record s .refl).1

/-! ### Where entries come from -/

namespace Cache

variable {α : Type} {cache : Cache α} {make : String → Except Error α} {text : String}

theorem mem_entries_of_get? {a : α} (h : cache.get? text = some a) : (text, a) ∈ cache.entries := by
  obtain ⟨entry, hentry, rfl⟩ := Option.map_eq_some_iff.mp h
  have htext := List.find?_some hentry
  obtain rfl := of_decide_eq_true htext
  exact List.mem_of_find?_eq_some hentry

/-- What was fetched was in the cache or has been made now. -/
theorem mem_entries_of_fetch {a : α} (h : (cache.fetch make text).1 = .ok a) :
    (text, a) ∈ cache.entries ∨ make text = .ok a := by
  rw [fetch_fst] at h
  cases hget : cache.get? text with
  | none =>
    rw [hget] at h
    exact .inr h
  | some b =>
    rw [hget] at h
    obtain rfl := Except.ok.inj h
    exact .inl (mem_entries_of_get? hget)

/-- What is in a cache after it was asked was there before or has been made now. -/
theorem mem_entries_fetch {entry : String × α}
    (h : entry ∈ (cache.fetch make text).2.entries) :
    entry ∈ cache.entries ∨ make entry.1 = .ok entry.2 := by
  rw [fetch] at h
  cases hget : cache.get? text with
  | some a =>
    rw [hget] at h
    exact .inl h
  | none =>
    rw [hget] at h
    cases hmake : make text with
    | error e =>
      rw [hmake] at h
      exact .inl h
    | ok a =>
      rw [hmake] at h
      dsimp only at h
      rw [insert_of_none hget] at h
      dsimp only at h
      split at h
      · rcases List.mem_append.mp h with h | h
        · exact .inl h
        · obtain rfl := List.mem_singleton.mp h
          exact .inr hmake
      · exact .inl h

end Cache

/-- The rules in the caches are among some, by their texts. -/
def Caches.Among (made : String → Compiled → Prop) (caches : Caches) : Prop :=
  ∀ entry ∈ caches.expressions.entries, made entry.1 entry.2

section Among

variable {env : Environment} {made : String → Compiled → Prop}

/-- If all that can be compiled now is among some rules, the caches stay among them. -/
theorem Environment.preserves_among (hmade : ∀ source rule,
    Compiled.ofSource env.scope env.config.maxDepth source = .ok rule → made source rule) :
    env.Preserves (·.caches.Among made) := by
  refine ⟨fun source s h entry hentry => ?_, fun _ _ h => h⟩
  rcases Cache.mem_entries_fetch hentry with hentry | hentry
  · exact h entry hentry
  · exact hmade _ _ hentry

theorem Caches.Among.compiled {s : Session} (h : s.caches.Among made) (hmade : ∀ source rule,
    Compiled.ofSource env.scope env.config.maxDepth source = .ok rule → made source rule)
    {source : String} {rule : Compiled} (hrule : ((Run.compile env source).run s).1 = .ok rule) :
    made source rule := by
  rcases Cache.mem_entries_of_fetch hrule with hrule | hrule
  · exact h _ hrule
  · exact hmade _ _ hrule

end Among

namespace Engine

variable {engine : Engine} {requests : List Request} {source : String} {rule : Compiled}

/-- The session after a request is one that evaluation makes of the one before, unless the
    caches are cleared. -/
theorem leadsTo_respond (engine : Engine) {request : Request} (h : request ≠ .clearCaches) :
    engine.session.LeadsTo engine.environment (engine.respond request).2.session := by
  cases request with
  | register name function =>
    rw [respond, register]
    cases engine.registry.register name function <;> exact .refl
  | compile source => exact .refl
  | compilePredicate source => exact .refl
  | evaluate rule record => exact Expr.leadsTo_eval _ _ _ _
  | evaluateRecord rule record => exact Expr.leadsTo_eval _ _ _ _
  | evaluateJson rule json =>
    rw [respond, evaluateJson]
    cases Record.ofJson json with
    | ok record => exact Expr.leadsTo_eval _ _ _ _
    | error e => exact .refl
  | evaluateSerial rule data =>
    rw [respond, evaluateSerial]
    cases Record.ofSerial data with
    | ok record => exact Expr.leadsTo_eval _ _ _ _
    | error e => exact .refl
  | clearCaches => exact absurd rfl h

/-- In the course of some requests, and since the caches were cleared, a text would have been
    compiled as a rule. -/
def WasCompiled (engine : Engine) (requests : List Request) (source : String)
    (rule : Compiled) : Prop :=
  ∃ earlier later, requests = earlier ++ later ∧ .clearCaches ∉ later ∧
    (engine.after earlier).compile source = .ok rule

theorem wasCompiled_now (h : (engine.after requests).compile source = .ok rule) :
    engine.WasCompiled requests source rule :=
  ⟨requests, [], (List.append_nil _).symm, List.not_mem_nil, h⟩

theorem WasCompiled.concat (h : engine.WasCompiled requests source rule) {request : Request}
    (hrequest : request ≠ .clearCaches) :
    engine.WasCompiled (requests ++ [request]) source rule := by
  obtain ⟨earlier, later, rfl, hlater, hrule⟩ := h
  refine ⟨earlier, later ++ [request], List.append_assoc _ _ _, fun hmem => ?_, hrule⟩
  rcases List.mem_append.mp hmem with hmem | hmem
  · exact hlater hmem
  · exact hrequest (List.mem_singleton.mp hmem).symm

/-- What is in the caches was compiled in the course of the requests. The induction is on the
    requests from the last one on, as that is the one that may have cleared the caches. -/
theorem among_after (registry : Registry) (config : Config) (requests : List Request) :
    ((ofRegistry registry config).after requests).session.caches.Among
      ((ofRegistry registry config).WasCompiled requests) := by
  induction requests using List.reverseRecOn with
  | nil => exact nofun
  | append_singleton requests request ih =>
    rw [after_append]
    by_cases hclear : request = .clearCaches
    · -- Nothing is left in the caches.
      subst hclear
      exact nofun
    · have hleads := leadsTo_respond ((ofRegistry registry config).after requests) hclear
      exact hleads.preserved
        (Environment.preserves_among fun _ _ h => (wasCompiled_now h).concat hclear)
        (fun _ _ h => h) fun entry hentry => (ih entry hentry).concat hclear

/-- A strict engine knows all functions of what it compiles. -/
theorem knows_of_compile (hstrict : engine.config.strictFunctions = true)
    (h : engine.compile source = .ok rule) : ∀ name ∈ rule.functions, engine.Knows name := by
  obtain ⟨tree, hparse, hknown⟩ := exists_compile_eq_ok_iff.mp ⟨rule, h⟩
  obtain ⟨root, hroot, _, _, rfl⟩ := Compiled.ofSource_eq_ok_iff.mp h
  obtain rfl := Except.ok.inj (hparse.symm.trans hroot)
  exact hknown hstrict

/-- An engine compiles by the settings it was set up with, and in a scope that grows. -/
theorem compile_after (registry : Registry) (config : Config) (earlier later : List Request) :
    let before := (ofRegistry registry config).after earlier
    let engine := (ofRegistry registry config).after (earlier ++ later)
    before.scope.Extends engine.scope ∧
      before.compile = Compiled.ofSource before.scope config.maxDepth ∧
      engine.compile = Compiled.ofSource engine.scope config.maxDepth := by
  intro before engine
  have hbefore : before.config = config := (isSteady_after registry config earlier).config
  have hengine : engine.config = config :=
    (isSteady_after registry config (earlier ++ later)).config
  have hextends : before.registry.Extends engine.registry := by
    rw [show engine = before.after later from after_append _ _ _]
    exact extends_after before later
  refine ⟨?_, funext fun source => ?_, funext fun source => ?_⟩
  · have hscope := hextends.scope config.strictFunctions
    rwa [scope, scope, environment, environment, Environment.scope, Environment.scope, hbefore,
      hengine]
  · rw [compile, hbefore]
  · rw [compile, hengine]

/-- What was compiled before is what is compiled now, if its functions were all there or its
    kind was known. -/
theorem compile_again (registry : Registry) (config : Config) (earlier later : List Request)
    {rule rule' : Compiled}
    (hrule : ((ofRegistry registry config).after earlier).compile source = .ok rule)
    (hrule' : ((ofRegistry registry config).after (earlier ++ later)).compile source = .ok rule') :
    ((∀ name ∈ rule.functions, ((ofRegistry registry config).after earlier).Knows name) →
      rule = rule') ∧ (rule = rule' ∨ rule.resultKind = none) := by
  obtain ⟨hextends, hbefore, hengine⟩ := compile_after registry config earlier later
  rw [hbefore] at hrule
  rw [hengine] at hrule'
  refine ⟨fun hknown => ?_, Compiled.eq_of_ofSource_extends hextends hrule hrule'⟩
  have hagain := Compiled.ofSource_of_known hextends hrule fun name hname =>
    returnKind?_isSome_iff.mpr (hknown name hname)
  exact Except.ok.inj (hagain.symm.trans hrule')

/-- A rule from the cache is what an engine has answered, or would have, at some time since
    the caches were cleared. It has the tree, the functions and the text that are compiled
    now, and where one fails the other does, with the same failure. It is the same, with the
    kind of its result, if the engine is strict about functions, if its kind was known, and
    if all its functions were there at that time. All this holds at any time during an
    evaluation too, the functions being those that were there when it began. -/
theorem cached_compiled_before (registry : Registry) (config : Config)
    (requests : List Request) (source : String) {s : Session}
    (hs : ((ofRegistry registry config).after requests).session.LeadsTo
      ((ofRegistry registry config).after requests).environment s) :
    let origin := ofRegistry registry config
    let engine := origin.after requests
    let cached := ((Run.compile engine.environment source).run s).1
    let fresh := engine.compile source
    Agree Compiled.Alike cached fresh ∧
      (config.strictFunctions = true → cached = fresh) ∧
      (∀ rule rule', cached = .ok rule → fresh = .ok rule' →
        rule = rule' ∨ rule.resultKind = none) ∧
      ∃ earlier later, requests = earlier ++ later ∧ .clearCaches ∉ later ∧
        cached = (origin.after earlier).compile source ∧
        ((∀ rule, cached = .ok rule → ∀ name ∈ rule.functions, (origin.after earlier).Knows name) →
          cached = fresh) := by
  intro origin engine cached fresh
  have hengine : engine.IsSteady config := isSteady_after registry config requests
  have hsound : s.caches.IsSound engine.environment :=
    hs.preserved engine.environment.preserves_isSound (fun _ _ h => h) hengine.isSound
  have hmade : ∀ source rule, engine.compile source = .ok rule →
      origin.WasCompiled requests source rule := fun _ _ => wasCompiled_now
  have hamong : s.caches.Among (origin.WasCompiled requests) :=
    hs.preserved (Environment.preserves_among hmade) (fun _ _ h => h)
      (among_after registry config requests)
  have hagree : Agree Compiled.Alike cached fresh := (hsound.expression source).1
  refine ⟨hagree, ?_⟩
  cases hcached : cached with
  | error e =>
    -- No failure is stored, so this one is that of compiling now.
    have hfresh : .error e = fresh := (hagree.error_of_left hcached).symm
    exact ⟨fun _ => hfresh, nofun, requests, [], (List.append_nil _).symm, List.not_mem_nil,
      hfresh, fun _ => hfresh⟩
  | ok rule =>
    -- The rule was stored at some time, or is compiled now for want of an entry.
    obtain ⟨earlier, later, rfl, hlater, hrule⟩ := hamong.compiled hmade hcached
    obtain ⟨rule', hfresh, _⟩ := hagree.exists_of_left hcached
    obtain ⟨hknown, hkind⟩ := compile_again registry config earlier later hrule hfresh
    have hsame (h : ∀ name ∈ rule.functions, (origin.after earlier).Knows name) :
        .ok rule = fresh := by
      rw [hknown h, hfresh]
    refine ⟨fun hstrict => ?_, fun made made' hm hm' => ?_, earlier, later, rfl, hlater,
      hrule.symm, fun h => hsame (h rule rfl)⟩
    · have hconfig := (isSteady_after registry config earlier).config
      exact hsame (knows_of_compile (hconfig ▸ hstrict) hrule)
    · obtain rfl := Except.ok.inj hm
      obtain rfl := Except.ok.inj (hfresh.symm.trans hm')
      exact hkind

/-- A history in which a rule is cached, since a quantifier has met it in a text, before the
    function that it calls is there. -/
def registeredLate : List Request :=
  [.evaluate ⟨"any('g()', Items)", .call "any" [.literal (.string "g()"), .field "Items"],
      ["any"], some .boolean⟩ [("Items", .list [.record []])],
    .register "g" ⟨some .boolean, fun _ _ => .done (.boolean true)⟩]

/-- Within a call that is evaluated after it, the rule from the cache does not say what kind
    the function is now known to return. -/
theorem cached_compiled_before_late :
    let origin := ofRegistry Registry.builtin { strictFunctions := false }
    let engine := origin.after registeredLate
    let s := ((Run.note ⟨"any", 0, []⟩).run engine.session).2
    engine.session.LeadsTo engine.environment s ∧
      ∃ rule rule', ((Run.compile engine.environment "g()").run s).1 = .ok rule ∧
        engine.compile "g()" = .ok rule' ∧ rule.Alike rule' ∧ rule.resultKind = none ∧
        rule'.resultKind = some .boolean ∧ ∃ earlier later, registeredLate = earlier ++ later ∧
          (origin.after earlier).compile "g()" = .ok rule := by
  intro origin engine s
  have hs : engine.session.LeadsTo engine.environment s := .noted .refl _
  have hcached : ((Run.compile engine.environment "g()").run s).1.toOption.map
      Compiled.resultKind = some none := by
    decide +kernel
  have hfresh : (engine.compile "g()").toOption.map Compiled.resultKind = some (some .boolean) := by
    decide +kernel
  obtain ⟨rule, hrule, hkind⟩ := Option.map_eq_some_iff.mp hcached
  obtain ⟨rule', hrule', hkind'⟩ := Option.map_eq_some_iff.mp hfresh
  replace hrule := toOption_eq_some_iff.mp hrule
  replace hrule' := toOption_eq_some_iff.mp hrule'
  obtain ⟨hagree, _, _, earlier, later, hrequests, _, hbefore, _⟩ :=
    cached_compiled_before Registry.builtin { strictFunctions := false } registeredLate "g()" hs
  obtain ⟨again, hagain, halike⟩ := hagree.exists_of_left hrule
  obtain rfl := Except.ok.inj (hrule'.symm.trans hagain)
  exact ⟨hs, rule, rule', hrule, hrule', halike, hkind, hkind', earlier, later, hrequests,
    hbefore.symm.trans hrule⟩

/-- So a rule from the cache is not always what would be compiled now. -/
theorem not_forall_cached_eq :
    ¬∀ (registry : Registry) (config : Config) (requests : List Request) (source : String),
      let engine := (ofRegistry registry config).after requests
      ((Run.compile engine.environment source).run engine.session).1 = engine.compile source := by
  intro h
  have hkinds := congrArg (fun answer => answer.toOption.map Compiled.resultKind)
    (h Registry.builtin { strictFunctions := false } registeredLate "g()")
  exact absurd hkinds (by decide +kernel)

end Engine

end RuleEngine
