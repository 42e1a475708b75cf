import RuleEngine.Engine
import RuleEngine.Proofs.Evaluation.Returns
import RuleEngine.Proofs.Evaluation.Simulation

/-!
# What a rule reads

The fields of a rule are all that it reads of a record: records with the same
values in these fields cannot be told apart, neither by what comes out nor by
which functions are called with what nor by what is left in the caches
(`Engine.evaluate_eq_of_fields`). Functions may do whatever they can: have other
rules compiled and evaluated, search patterns, ask for their name and depth.

This is since a function is given the values of its arguments and not the
record. So where a quantifier evaluates a rule on the items of a list, that rule
sees the items, and of the record around them nothing but what was evaluated to
these arguments.
-/

namespace RuleEngine

/-! ### An evaluation and itself -/

namespace Run

variable {α : Type} {m m' : Run α}

/-- From the same session an evaluation does the same. -/
theorem simulates_self (m : Run α) : Simulates Eq Eq m m := by
  rintro s _ rfl
  exact ⟨.refl (fun _ => rfl) _, rfl⟩

theorem Simulates.run_eq (h : Simulates Eq Eq m m') (s : Session) : m.run s = m'.run s :=
  have ⟨hagree, hsession⟩ := h s s rfl
  Prod.ext hagree.eq hsession

end Run

theorem Environment.alike_self (env : Environment) : env.Alike Eq Eq env :=
  env.alike_of_simulates (fun _ => Run.simulates_self _) (fun _ => Run.simulates_self _)
    fun _ _ => Run.simulates_self _

namespace Expr

variable {env : Environment} {record record' : Record}

theorem run_eval_eq_of_reads {e : Expr}
    (h : ∀ name ∈ e.reads, record'.lookup name = record.lookup name) (s : Session) :
    (eval env e record).run s = (eval env e record').run s :=
  (eval_simulates env.alike_self e h).run_eq s

/-! ### Calls -/

/-- The values of some expressions with so many levels left below them. -/
def evalAllAt (env : Environment) (levels : Nat) (es : List Expr) (record : Record) :
    Run (List Value) :=
  evalAllWith env (evalBelow env levels) (env.config.maxDepth - levels) record es

/-- Of the record around it a call sees only its arguments. -/
theorem run_evalAt_call {levels : Nat} {args : List Expr} {s : Session}
    (h : (evalAllAt env levels args record).run s = (evalAllAt env levels args record').run s)
    (function : String) :
    (evalAt env levels (.call function args) record).run s =
      (evalAt env levels (.call function args) record').run s := by
  rw [evalAllAt, evalAllAt] at h
  rw [evalAt_eq, evalAt_eq, evalWith, evalWith]
  split
  · rfl
  · rw [run_bind, run_bind, h]

end Expr

namespace Engine

/-- The fields of a rule are all that it reads. On records with the same values in
    these fields a rule has the same outcome, and leaves the same engine: with the
    same calls noted and the same entries in its caches. And whatever the fields are,
    a call has the same outcome and leaves the same session where its arguments do:
    a rule that it has evaluated sees nothing else of the record. -/
theorem evaluate_eq_of_fields (engine : Engine) (rule : Compiled) (record record' : Record)
    (h : ∀ name ∈ rule.fields, record'.lookup name = record.lookup name) :
    engine.evaluate rule record = engine.evaluate rule record' ∧
      ∀ levels function args s (outer outer' : Record),
        (Expr.evalAllAt engine.environment levels args outer).run s =
          (Expr.evalAllAt engine.environment levels args outer').run s →
        (Expr.evalAt engine.environment levels (.call function args) outer).run s =
          (Expr.evalAt engine.environment levels (.call function args) outer').run s := by
  have hreads : ∀ name ∈ rule.root.reads, record'.lookup name = record.lookup name :=
    fun name hname => h name (mem_sortedNames.mpr hname)
  refine ⟨?_, fun levels function args s outer outer' hargs => ?_⟩
  · rw [evaluate, evaluate, Expr.run_eval_eq_of_reads hreads]
  · exact Expr.run_evalAt_call hargs function

/-- A rule over the items of a record does not see the field of that record that has
    the name of the one it reads of the items. -/
theorem evaluate_eq_of_fields_quantified :
    let args : List Expr := [.literal (.string "Name"), .field "Items"]
    let rule : Compiled := ⟨"any('Name', Items)", .call "any" args, ["any"], some .boolean⟩
    let items : Value := .list [.record [("Name", .boolean true)]]
    let record : Record := [("Items", items), ("Name", .boolean false)]
    let record' : Record := [("Items", items)]
    let engine := ofConfig {}
    (∀ name ∈ rule.fields, record'.lookup name = record.lookup name) ∧
      engine.evaluate rule record = engine.evaluate rule record' ∧
      (Expr.evalAllAt engine.environment 0 args record).run engine.session =
        (Expr.evalAllAt engine.environment 0 args record').run engine.session ∧
      (Expr.evalAt engine.environment 0 (.call "any" args) record).run engine.session =
        (Expr.evalAt engine.environment 0 (.call "any" args) record').run engine.session := by
  intro args rule items record record' engine
  have hfields : ∀ name ∈ rule.fields, record'.lookup name = record.lookup name := by
    intro name hname
    have hitems : rule.fields = ["Items"] := by decide
    rw [hitems, List.mem_singleton] at hname
    rw [hname]
    rfl
  have hargs : (Expr.evalAllAt engine.environment 0 args record).run engine.session =
      (Expr.evalAllAt engine.environment 0 args record').run engine.session := rfl
  obtain ⟨hrule, hcall⟩ := evaluate_eq_of_fields engine rule record record' hfields
  exact ⟨hfields, hrule, hargs, hcall 0 "any" args engine.session record record' hargs⟩

end Engine

end RuleEngine
