import RuleEngine.Proofs.Evaluation.Builtin
import RuleEngine.Proofs.Evaluation.Invariants
import RuleEngine.Proofs.Parser.Acceptance
import RuleEngine.Proofs.Token.Layout

/-!
# Unknown names

Compiling fails with a syntax error or for the name of a function that is not
there (`Compiled.ofSource_eq_error`). What has been compiled in a strict scope
calls only functions that are there (`Compiled.isResolved_of_ofSource`).

Evaluating such a rule does not fail for a name in the rule itself. If it fails
for an unknown name all the same, then this came up in a function that it called:
in a quantifier that could not have its rule compiled, or in a function that is
not built in (`Expr.evalAt_isTraced`). The induction is on the levels left; on each
level a quantifier only has rules evaluated that were compiled for it and are
therefore of the same sort (`Quantifier.scan_isTraced`).
-/

namespace RuleEngine

/-! ### Compiling -/

namespace Expr

/-- Reading a rule only fails with a syntax error. -/
theorem parse_eq_badSyntax {source : String} {limit : Nat} {e : Error}
    (h : parse source limit = .error e) : ∃ offset problem, e = .badSyntax offset problem := by
  cases hscan : Token.scan source with
  | error e' =>
    rw [parse, hscan] at h
    cases h
    obtain ⟨k, problem, he, _⟩ := Token.exists_scanFrom_take hscan (Nat.zero_le _)
    exact ⟨_, problem, he⟩
  | ok tokens =>
    obtain ⟨offset, problem, hparse⟩ := parse_eq_error hscan fun tree htree => by
      rw [h] at htree
      cases htree
    rw [h] at hparse
    exact ⟨offset, problem, Except.error.inj hparse⟩

end Expr

namespace Compiled

/-- Compiling a rule fails with a syntax error, or for a function that is not there. -/
theorem ofSource_eq_error {scope : Scope} {maxDepth : Nat} {source : String} {e : Error}
    (h : ofSource scope maxDepth source = .error e) :
    (∃ offset problem, e = .badSyntax offset problem) ∨
      ∃ name, e = .unknownFunction name ∧ scope.returnKind? name = none := by
  rw [ofSource] at h
  rcases bind_eq_error_iff.mp h with h | ⟨root, _, h⟩
  · exact .inl (Expr.parse_eq_badSyntax h)
  · rcases bind_eq_error_iff.mp h with h | ⟨kind, _, h⟩
    · obtain ⟨_, name, _, _, _, hunknown, he⟩ := root.check_eq_error h
      exact .inr ⟨name, he, hunknown⟩
    · cases h

/-- The functions that a rule lists are those that it calls, and all of them are in a
    registry. -/
structure IsResolved (registry : Registry) (rule : Compiled) : Prop where
  functions : ∀ name ∈ rule.functions, Fields.contains registry name = true
  calls : ∀ name, name ∈ rule.root.calls ↔ name ∈ rule.functions

variable {registry : Registry} {rule rule' : Compiled}

theorem IsResolved.contains (h : rule.IsResolved registry) {name : String}
    (hname : name ∈ rule.root.calls) : Fields.contains registry name = true :=
  h.functions name ((h.calls name).mp hname)

/-- What has been resolved stays so when functions are added. -/
theorem IsResolved.extends (h : rule.IsResolved registry) {registry' : Registry}
    (hextends : registry.Extends registry') : rule.IsResolved registry' := by
  refine ⟨fun name hname => ?_, h.calls⟩
  obtain ⟨function, hfunction⟩ := Option.isSome_iff_exists.mp (h.functions name hname)
  exact Option.isSome_iff_exists.mpr ⟨function, hextends name function hfunction⟩

theorem IsResolved.alike (h : rule.IsResolved registry) (halike : rule.Alike rule') :
    rule'.IsResolved registry := by
  obtain ⟨_, hroot, hfunctions⟩ := halike
  exact ⟨hfunctions ▸ h.functions, hroot ▸ hfunctions ▸ h.calls⟩

/-- What is compiled in a strict scope is resolved. -/
theorem isResolved_of_ofSource {maxDepth : Nat} {source : String}
    (h : ofSource (registry.scope true) maxDepth source = .ok rule) : rule.IsResolved registry := by
  obtain ⟨root, _, kind, hcheck, rfl⟩ := ofSource_eq_ok_iff.mp h
  have haccepts := (Expr.exists_check_eq_ok_iff root).mp ⟨kind, hcheck⟩ rfl
  refine ⟨fun name hname => ?_, fun name => mem_sortedNames.symm⟩
  have hknown := haccepts name (mem_sortedNames.mp hname)
  rwa [Registry.scope, Option.isSome_map] at hknown

end Compiled

/-! ### Where unknown names come from -/

/-- A call of a function ends in a session with a failure. Before it is carried out
    it is the last one noted. -/
structure Call.FailsIn (env : Environment) (call : Call) (function : Function) (e : Error)
    (s : Session) : Prop where
  found : Fields.get? env.registry call.function = some function
  run : ∃ t, t.journal.head? = some call ∧
    (Run.perform env (Expr.evalBelow env (env.config.maxDepth - call.depth))
      (function.action (Fields.contains env.registry) call)).run t = (.error e, s)

/-- An evaluation that ends in a session has met an unknown name in a function: in one
    that is not built in, or in a quantifier whose rule could not be compiled. -/
inductive Environment.Meets (env : Environment) (name : String) (s : Session) : Prop
  | host (call : Call) (function : Function) (e : Error) (hcall : call.FailsIn env function e s)
      (hcause : e.rootCause = .unknownFunction name) (hhost : ¬function.IsBuiltin)
  | quantified (call : Call) (q : Quantifier) (source : String) (items : List Value)
      (hcall : call.FailsIn env q.toFunction (.unknownFunction name) s)
      (hargs : call.args = [.string source, .list items])
      (hcompile : Compiled.ofSource env.scope env.config.maxDepth source =
        .error (.unknownFunction name))

/-- If a failure is for an unknown name, then that was met in a function. -/
def Error.IsTraced (env : Environment) (e : Error) (s : Session) : Prop :=
  ∀ name, e.rootCause = .unknownFunction name → env.Meets name s

theorem Error.kind_of_rootCause {e : Error} {name : String}
    (h : e.rootCause = .unknownFunction name) : e.kind = .unknownFunction := by
  induction e with
  | inElement function index cause ih => exact ih h
  | _ => cases h <;> rfl

variable {env : Environment} {deeper : Expr → Record → Run Value} {s : Session}

/-- Other failures need no explanation. -/
theorem Error.isTraced_of_kind_ne {e : Error} (h : e.kind ≠ .unknownFunction) :
    e.IsTraced env s :=
  fun _ hcause => absurd (kind_of_rootCause hcause) h

theorem Error.isTraced_of_kind_eq {e : Error} {kind : ErrorKind} (h : e.kind = kind)
    (hkind : kind ≠ .unknownFunction) : e.IsTraced env s :=
  isTraced_of_kind_ne (h ▸ hkind)

theorem Error.isTraced_invalidArgument (function : String) (problem : ArgumentProblem) :
    (invalidArgument function problem).IsTraced env s := by
  intro name hcause
  cases hcause

theorem Error.isTraced_recursionLimit (limit : Nat) : (recursionLimit limit).IsTraced env s := by
  intro name hcause
  cases hcause

theorem Environment.keepsIn_isTraced (env : Environment) :
    env.KeepsIn (·.caches.IsSound env) (Error.IsTraced env) :=
  ⟨fun text _ h => (h.pattern text).2, fun _ h _ _ => Error.isTraced_of_kind_ne h⟩

theorem kind_of_checkFrom_eq_error {function : String} {mayBeMissing : List Nat}
    {args : List Value} {position : Nat} {e : Error}
    (h : validateStrings.checkFrom function mayBeMissing position args = .error e) :
    e.kind = .invalidArgument := by
  induction args generalizing position with
  | nil => cases h
  | cons v rest ih =>
    unfold validateStrings.checkFrom at h
    split at h
    · cases h
    · next heq =>
      cases heq
      exact ih h
    · next heq =>
      cases heq
      split at h
      · exact ih h
      · cases h
        rfl

theorem kind_of_validateStrings_eq_error {function : String} {expected : Nat}
    {args : List Value} {mayBeMissing : List Nat} {e : Error}
    (h : validateStrings function expected args mayBeMissing = .error e) :
    e.kind = .invalidArgument := by
  rw [validateStrings] at h
  split at h
  · cases h
    rfl
  · exact kind_of_checkFrom_eq_error h

/-- Searching a pattern meets no names. -/
theorem regexMatchAction_isTraced (args : List Value) :
    Run.Keeps (·.caches.IsSound env) (Error.IsTraced env)
      (Run.perform env deeper (regexMatchAction args)) := by
  unfold regexMatchAction
  split
  · next hargs =>
    have hkind := kind_of_validateStrings_eq_error hargs
    exact Run.fail_keeps fun _ _ => Error.isTraced_of_kind_eq hkind (by decide)
  · split
    · next subject pattern _ =>
      intro s hs
      rw [Run.run_perform_search]
      obtain ⟨hs', hfails⟩ := Run.search_keeps env.keepsIn_isTraced pattern subject s hs
      refine ⟨hs', fun e he => ?_⟩
      cases hfound : ((Run.search env pattern subject).run s).1 with
      | ok found =>
        rw [hfound] at he
        cases he
      | error e' =>
        rw [hfound] at he
        obtain rfl : e' = e := Except.error.inj he
        exact hfails e' hfound
    · exact Run.done_keeps _

/-- The rules that functions are given are resolved, if they are compiled strictly. -/
theorem Caches.IsSound.isResolved {caches : Caches} (h : caches.IsSound env)
    (hstrict : env.config.strictFunctions = true) {source : String} {rule : Compiled}
    (hrule : (caches.expression env.scope env.config source).1 = .ok rule) :
    rule.IsResolved env.registry := by
  obtain ⟨made, hmade, halike⟩ := (h.expression source).1.exists_of_left hrule
  rw [Environment.scope, hstrict] at hmade
  exact (Compiled.isResolved_of_ofSource hmade).alike halike.symm

namespace Quantifier

variable (q : Quantifier)

/-- A quantifier fails for an unknown name only if its rule cannot be compiled, or
    if the name was met when the rule was evaluated. -/
theorem scan_isTraced (hstrict : env.config.strictFunctions = true)
    (hdeeper : ∀ rule : Compiled, rule.IsResolved env.registry → ∀ record,
      Run.Keeps (·.caches.IsSound env) (Error.IsTraced env) (deeper rule.root record))
    (source : String) (items : List Value) (index : Nat) (compiled : Option Compiled)
    (hcompiled : ∀ rule, compiled = some rule → rule.IsResolved env.registry) :
    Run.Keeps (·.caches.IsSound env)
      (fun e s => Compiled.ofSource env.scope env.config.maxDepth source = .error e ∨
        e.IsTraced env s)
      (Run.perform env deeper (q.scan source compiled index items)) := by
  induction items generalizing index compiled with
  | nil => exact Run.done_keeps _
  | cons item rest ih =>
    cases item with
    | record fields =>
      have hrecord (rule : Compiled) (hrule : rule.IsResolved env.registry) :
          Run.Keeps (·.caches.IsSound env)
            (fun e s => Compiled.ofSource env.scope env.config.maxDepth source = .error e ∨
              e.IsTraced env s)
            (Run.perform env deeper
              (q.scan source (some rule) index (.record fields :: rest))) := by
        intro s hs
        obtain ⟨hs', hfails⟩ := hdeeper rule hrule fields s hs
        rw [scan, Run.run_perform_evaluate]
        dsimp only
        cases hresult : ((deeper rule.root fields).run s).1.bind
            (Value.truth (.conditionOf rule.source)) with
        | error e =>
          refine ⟨hs', fun _ he => .inr ?_⟩
          cases he
          -- The failure keeps its cause when it is said on which record it was.
          change Error.IsTraced env e _
          rcases bind_eq_error_iff.mp hresult with hvalue | ⟨value, _, htruth⟩
          · exact hfails e hvalue
          · exact Error.isTraced_of_kind_eq (Value.kind_of_truth_eq_error htruth) (by decide)
        | ok holds =>
          dsimp only
          split
          · exact ⟨hs', fun _ he => by cases he⟩
          · exact ih (index + 1) (some rule) (fun _ h => Option.some.inj h ▸ hrule) _ hs'
      cases compiled with
      | some rule => exact hrecord rule (hcompiled rule rfl)
      | none =>
        intro s hs
        rw [scan, Run.run_perform_compile]
        have hsound := (hs.expression source).2
        cases hcompile : ((Run.compile env source).run s).1 with
        | error e =>
          refine ⟨hsound, fun _ he => .inl ?_⟩
          cases he
          exact Cache.eq_error_of_fetch hcompile
        | ok rule => exact hrecord rule (hs.isResolved hstrict hcompile) _ hsound
    | _ => exact Run.fail_keeps fun _ _ => .inr (Error.isTraced_invalidArgument _ _)

/-- The same of a call of a quantifier. -/
theorem action_isTraced (hstrict : env.config.strictFunctions = true)
    (hdeeper : ∀ rule : Compiled, rule.IsResolved env.registry → ∀ record,
      Run.Keeps (·.caches.IsSound env) (Error.IsTraced env) (deeper rule.root record))
    (args : List Value) :
    Run.Keeps (·.caches.IsSound env)
      (fun e s => (∃ source items, args = [.string source, .list items] ∧
          Compiled.ofSource env.scope env.config.maxDepth source = .error e) ∨ e.IsTraced env s)
      (Run.perform env deeper (q.action args)) := by
  unfold action
  split
  · next source items =>
    intro s hs
    obtain ⟨hs', hfails⟩ := q.scan_isTraced hstrict hdeeper source items 0 none
      (fun _ h => by cases h) s hs
    exact ⟨hs', fun e he => (hfails e he).imp (fun h => ⟨source, items, rfl, h⟩) id⟩
  · exact Run.done_keeps _
  all_goals exact Run.fail_keeps fun _ _ => .inr (Error.isTraced_invalidArgument _ _)

end Quantifier

/-- A call fails for an unknown name only if that is met in a function. -/
theorem Run.call_isTraced (hstrict : env.config.strictFunctions = true) {levels : Nat}
    (hlevels : levels ≤ env.config.maxDepth)
    (hdeeper : ∀ rule : Compiled, rule.IsResolved env.registry → ∀ record,
      Keeps (·.caches.IsSound env) (Error.IsTraced env)
        (Expr.evalBelow env levels rule.root record))
    {name : String} {function : Function}
    (hfunction : Fields.get? env.registry name = some function) (values : List Value) :
    Keeps (·.caches.IsSound env) (Error.IsTraced env) (do
      note ⟨name, env.config.maxDepth - levels, values⟩
      perform env (Expr.evalBelow env levels) (function.action (Fields.contains env.registry)
        ⟨name, env.config.maxDepth - levels, values⟩)) := by
  intro s hs
  let call : Call := ⟨name, env.config.maxDepth - levels, values⟩
  let noted : Session := { s with journal := call :: s.journal }
  rw [run_bind_ok (show (note call).run s = (.ok (), noted) from rfl)]
  have hs' : noted.caches.IsSound env := hs
  have hdepth : env.config.maxDepth - call.depth = levels := Nat.sub_sub_self hlevels
  have hfails (e : Error) (h : ((perform env (Expr.evalBelow env levels)
      (function.action (Fields.contains env.registry) call)).run noted).1 = .error e) :
      call.FailsIn env function e ((perform env (Expr.evalBelow env levels)
        (function.action (Fields.contains env.registry) call)).run noted).2 :=
    ⟨hfunction, noted, rfl, by rw [hdepth]; exact Prod.ext h rfl⟩
  by_cases hbuiltin : function.IsBuiltin
  · obtain rfl | ⟨q, rfl⟩ := hbuiltin
    · exact regexMatchAction_isTraced values noted hs'
    · obtain ⟨hsound, htraced⟩ := q.action_isTraced hstrict hdeeper values noted hs'
      refine ⟨hsound, fun e he name hcause => ?_⟩
      rcases htraced e he with ⟨source, items, hargs, hcompile⟩ | htraced
      · -- What is left of the failures of compiling is the unknown name itself.
        rcases Compiled.ofSource_eq_error hcompile with ⟨_, _, rfl⟩ | ⟨other, rfl, _⟩
        · cases hcause
        · cases hcause
          exact .quantified call q source items (hfails _ he) hargs hcompile
      · exact htraced name hcause
  · have hpreserves := env.preserves_isSound
    refine ⟨(perform_preserves hpreserves (Expr.evalBelow_preserves hpreserves
      (fun _ _ _ h => h) levels) _ noted hs').1, fun e he name hcause => ?_⟩
    exact .host call function e (hfails e he) hcause hbuiltin

namespace Expr

/-- An evaluation of a tree whose functions are all there fails for an unknown name
    only if that was met in one of them. -/
theorem evalAt_isTraced (hstrict : env.config.strictFunctions = true) {levels : Nat}
    (hlevels : levels ≤ env.config.maxDepth) (e : Expr)
    (hcalls : ∀ name ∈ e.calls, Fields.contains env.registry name = true) (record : Record) :
    Run.Keeps (·.caches.IsSound env) (Error.IsTraced env) (evalAt env levels e record) := by
  have hnames (e : Expr) (hcalls : ∀ name ∈ e.calls, Fields.contains env.registry name = true) :
      ∀ name ∈ e.calls, Fields.get? env.registry name = none →
        ∀ s : Session, s.caches.IsSound env → Error.IsTraced env (.unknownFunction name) s := by
    intro name hname hnone
    have hsome := hcalls name hname
    rw [Fields.contains, hnone] at hsome
    cases hsome
  induction levels generalizing e record with
  | zero =>
    rw [evalAt_eq]
    refine evalWith_keeps env.keepsIn_isTraced (fun _ _ hfunction values => ?_) e (hnames e hcalls)
    exact Run.call_isTraced hstrict hlevels (fun _ _ _ => .throw fun _ _ =>
      Error.isTraced_recursionLimit _) hfunction values
  | succ levels ih =>
    rw [evalAt_eq]
    refine evalWith_keeps env.keepsIn_isTraced (fun _ _ hfunction values => ?_) e (hnames e hcalls)
    exact Run.call_isTraced hstrict hlevels (fun rule hrule record => ih (Nat.le_of_succ_le hlevels)
      rule.root (fun _ => hrule.contains) record) hfunction values

/-- The same of an evaluation at the top level. -/
theorem eval_isTraced (hstrict : env.config.strictFunctions = true) {e : Expr}
    (hcalls : ∀ name ∈ e.calls, Fields.contains env.registry name = true) (record : Record) :
    Run.Keeps (·.caches.IsSound env) (Error.IsTraced env) (eval env e record) :=
  evalAt_isTraced hstrict (Nat.le_refl _) e hcalls record

end Expr

end RuleEngine
