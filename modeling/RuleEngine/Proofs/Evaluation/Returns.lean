import RuleEngine.Eval
import RuleEngine.Proofs.Runs

/-!
# What evaluations return

An evaluation returns only values with a property if it does so from every
session, or fails (`Run.Returns`). An action that finishes only with such values
returns only such values, whatever it is answered (`Run.perform_returns`).
-/

namespace RuleEngine

namespace Run

variable {α β : Type} {P : α → Prop} {Q : β → Prop}

/-- From every session, an evaluation fails or returns a result with a property. -/
def Returns (P : α → Prop) (m : Run α) : Prop :=
  ∀ session a, (m.run session).1 = .ok a → P a

theorem Returns.pure {a : α} (h : P a) : Returns P (pure a) :=
  fun _ _ ha => Except.ok.inj ha ▸ h

theorem Returns.throw (e : Error) : Returns P (throw e) :=
  nofun

theorem Returns.ofResult {result : Except Error α} (h : ∀ a, result = .ok a → P a) :
    Returns P (ofResult result) :=
  fun _ => h

theorem Returns.bind {m : Run α} {f : α → Run β} (h : Returns P m)
    (hf : ∀ a, P a → Returns Q (f a)) : Returns Q (m >>= f) := by
  intro session b hb
  rw [run_bind] at hb
  rcases hm : m.run session with ⟨result, session'⟩
  rw [hm] at hb
  cases result with
  | ok a => exact hf a (h session a (congrArg Prod.fst hm)) session' b hb
  | error e => cases hb

/-- Whatever comes first, only what comes last is returned. -/
theorem Returns.after {m : Run α} {f : α → Run β} (hf : ∀ a, Returns Q (f a)) :
    Returns Q (m >>= f) :=
  have h : Returns (fun _ => True) m := fun _ _ _ => trivial
  h.bind fun a _ => hf a

end Run

/-- An action only finishes with values with a property, whatever it is answered. -/
inductive Action.Finishes (P : Value → Prop) : Action → Prop
  | finish {result : Except Error Value} (h : ∀ v, result = .ok v → P v) :
      Finishes P (.finish result)
  | compile (source : String) {next : Except Error Compiled → Action}
      (h : ∀ result, Finishes P (next result)) : Finishes P (.compile source next)
  | evaluate (rule : Compiled) (record : Record) {next : Except Error Value → Action}
      (h : ∀ result, Finishes P (next result)) : Finishes P (.evaluate rule record next)
  | search (pattern subject : String) {next : Except Error Bool → Action}
      (h : ∀ result, Finishes P (next result)) : Finishes P (.search pattern subject next)

theorem Run.perform_returns {P : Value → Prop} {action : Action} (h : action.Finishes P)
    (env : Environment) (deeper : Expr → Record → Run Value) :
    Returns P (perform env deeper action) := by
  induction h with
  | finish h =>
    rw [perform]
    exact .ofResult h
  | compile source _ ih =>
    rw [perform]
    exact .after ih
  | evaluate rule record _ ih =>
    rw [perform]
    exact .after ih
  | search pattern subject _ ih =>
    rw [perform]
    exact .after ih

/-! ### Levels -/

/-- What the rules of functions are evaluated by where so many levels are left. -/
def Expr.evalBelow (env : Environment) : Nat → Expr → Record → Run Value
  | 0 => fun _ _ => throw (.recursionLimit env.config.maxDepth)
  | levels + 1 => evalAt env levels

theorem Expr.evalAt_eq (env : Environment) (levels : Nat) (e : Expr) (record : Record) :
    evalAt env levels e record =
      evalWith env (evalBelow env levels) (env.config.maxDepth - levels) record e := by
  cases levels <;> rfl

end RuleEngine
