import Mathlib.Data.List.Forall2
import RuleEngine.Proofs.Evaluation.Congruence

/-!
# Evaluations side by side

Two evaluations are run from two sessions that are related. They agree if they
fail alike or return related results, and leave sessions that are related again
(`Simulates`). Evaluating one expression in two environments agrees if what the
environments are asked for agrees: noting a call, compiling a rule, searching a
pattern (`Alike`), and if the records have the same values in the fields that
the expression reads (`eval_simulates`).

Values need not be the same on both sides, as long as operators cannot tell them
apart. Operators do not look into lists and records, so values that may stand
for each other are those with the same outline (`Value.IsResemblance`). The
induction over trees is made for such values (`Expr.evalWith_resembles`); what it
leaves open is what functions make of them.

The rules that functions are given may differ from one side to the other as far
as a relation allows, if the functions go on alike (`Action.Alike`).
-/

namespace RuleEngine

/-! ### Outcomes -/

/-- The same failure, or results that are related. -/
inductive Agree {α β : Type} (R : α → β → Prop) : Except Error α → Except Error β → Prop
  | ok {a : α} {b : β} (h : R a b) : Agree R (.ok a) (.ok b)
  | error (e : Error) : Agree R (.error e) (.error e)

namespace Agree

variable {α β γ : Type}

theorem refl {R : α → α → Prop} (h : ∀ a, R a a) : (x : Except Error α) → Agree R x x
  | .ok a => .ok (h a)
  | .error e => .error e

theorem eq {x y : Except Error α} (h : Agree Eq x y) : x = y := by
  cases h with
  | ok h => rw [h]
  | error e => rfl

theorem mono {R R' : α → β → Prop} (himp : ∀ a b, R a b → R' a b) {x : Except Error α}
    {y : Except Error β} (h : Agree R x y) : Agree R' x y := by
  cases h with
  | ok h => exact .ok (himp _ _ h)
  | error e => exact .error e

theorem map_eq {R : α → β → Prop} {f : α → γ} {g : β → γ} (hR : ∀ a b, R a b → f a = g b)
    {x : Except Error α} {y : Except Error β} (h : Agree R x y) : x.map f = y.map g := by
  cases h with
  | ok h => exact congrArg Except.ok (hR _ _ h)
  | error e => rfl

theorem of_map_eq {f : α → γ} {g : β → γ} : {x : Except Error α} → {y : Except Error β} →
    x.map f = y.map g → Agree (fun a b => x = .ok a ∧ y = .ok b ∧ f a = g b) x y
  | .ok _, .ok _, h => .ok ⟨rfl, rfl, Except.ok.inj h⟩
  | .error e, .error _, h => Except.error.inj h ▸ .error e
  | .ok _, .error _, h => nomatch h
  | .error _, .ok _, h => nomatch h

/-- What agrees with a success is one. -/
theorem exists_of_left {R : α → β → Prop} {x : Except Error α} {y : Except Error β}
    (h : Agree R x y) {a : α} (ha : x = .ok a) : ∃ b, y = .ok b ∧ R a b := by
  cases h with
  | ok hab => exact ⟨_, rfl, Except.ok.inj ha ▸ hab⟩
  | error e => cases ha

/-- What agrees with a failure is the same one. -/
theorem error_of_left {R : α → β → Prop} {x : Except Error α} {y : Except Error β}
    (h : Agree R x y) {e : Error} (he : x = .error e) : y = .error e := by
  cases h with
  | ok _ => cases he
  | error _ => exact congrArg Except.error (Except.error.inj he)

theorem exists_of_right {R : α → β → Prop} {x : Except Error α} {y : Except Error β}
    (h : Agree R x y) {b : β} (hb : y = .ok b) : ∃ a, x = .ok a ∧ R a b := by
  cases h with
  | ok hab => exact ⟨_, rfl, Except.ok.inj hb ▸ hab⟩
  | error e => cases hb

/-- What agrees with the same outcome agrees. -/
theorem join {R : α → γ → Prop} {S : β → γ → Prop} {T : α → β → Prop}
    (himp : ∀ a b c, R a c → S b c → T a b) {x : Except Error α} {y : Except Error β}
    {z : Except Error γ} (h : Agree R x z) (h' : Agree S y z) : Agree T x y := by
  cases h with
  | ok h => cases h' with | ok h' => exact .ok (himp _ _ _ h h')
  | error e => cases h' with | error => exact .error e

end Agree

/-! ### Runs -/

namespace Run

variable {α β γ δ : Type} {S : Session → Session → Prop} {R : α → β → Prop}
  {T : γ → δ → Prop}

/-- From related sessions, two evaluations agree and leave related sessions. -/
def Simulates (S : Session → Session → Prop) (R : α → β → Prop) (m : Run α) (m' : Run β) : Prop :=
  ∀ s s', S s s' → Agree R (m.run s).1 (m'.run s').1 ∧ S (m.run s).2 (m'.run s').2

theorem Simulates.pure {a : α} {b : β} (h : R a b) : Simulates S R (pure a) (pure b) :=
  fun _ _ hs => ⟨.ok h, hs⟩

theorem Simulates.throw (e : Error) : Simulates S R (throw e) (throw e) :=
  fun _ _ hs => ⟨.error e, hs⟩

theorem Simulates.ofResult {x : Except Error α} {y : Except Error β} (h : Agree R x y) :
    Simulates S R (ofResult x) (ofResult y) :=
  fun _ _ hs => ⟨h, hs⟩

theorem Simulates.ofSame (x : Except Error α) : Simulates S Eq (Run.ofResult x) (Run.ofResult x) :=
  .ofResult (.refl (fun _ => rfl) x)

theorem Simulates.outcome {m : Run α} {m' : Run β} (h : Simulates S R m m') :
    Simulates S (Agree R) (outcome m) (outcome m') :=
  fun s s' hs => ⟨.ok (h s s' hs).1, (h s s' hs).2⟩

theorem Simulates.mono {R' : α → β → Prop} {m : Run α} {m' : Run β} (h : Simulates S R m m')
    (himp : ∀ a b, R a b → R' a b) : Simulates S R' m m' :=
  fun s s' hs => ⟨(h s s' hs).1.mono himp, (h s s' hs).2⟩

theorem Simulates.bind {m : Run α} {m' : Run β} {f : α → Run γ} {f' : β → Run δ}
    (h : Simulates S R m m') (hf : ∀ a b, R a b → Simulates S T (f a) (f' b)) :
    Simulates S T (m >>= f) (m' >>= f') := by
  intro s s' hs
  obtain ⟨hagree, hs'⟩ := h s s' hs
  rw [run_bind, run_bind]
  rcases hm : m.run s with ⟨x, t⟩
  rcases hm' : m'.run s' with ⟨y, t'⟩
  rw [hm, hm'] at hagree hs'
  cases hagree with
  | ok hab => exact hf _ _ hab _ _ hs'
  | error e => exact ⟨.error e, hs'⟩

/-- Of an outcome that is the same on both sides the rest is shown once. -/
theorem Simulates.bindEq {m m' : Run α} {f : α → Run γ} {f' : α → Run δ}
    (h : Simulates S Eq m m') (hf : ∀ a, Simulates S T (f a) (f' a)) :
    Simulates S T (m >>= f) (m' >>= f') :=
  h.bind fun a _ hab => hab ▸ hf a

end Run

/-! ### Functions -/

/-- Two actions ask for the same, and go on alike if rules they are given are
    related. -/
inductive Action.Alike (C : Compiled → Compiled → Prop) : Action → Action → Prop
  | finish (result : Except Error Value) : Alike C (.finish result) (.finish result)
  | compile (source : String) {next next' : Except Error Compiled → Action}
      (h : ∀ r r', Agree C r r' → Alike C (next r) (next' r')) :
      Alike C (.compile source next) (.compile source next')
  | evaluate {rule rule' : Compiled} (hrule : C rule rule') (record : Record)
      {next next' : Except Error Value → Action} (h : ∀ r, Alike C (next r) (next' r)) :
      Alike C (.evaluate rule record next) (.evaluate rule' record next')
  | search (pattern subject : String) {next next' : Except Error Bool → Action}
      (h : ∀ r, Alike C (next r) (next' r)) :
      Alike C (.search pattern subject next) (.search pattern subject next')

/-- A function does the same if it is answered the same. -/
theorem Action.alike_self (a : Action) : a.Alike Eq a := by
  induction a with
  | finish result => exact .finish result
  | compile source next ih => exact .compile source fun r r' hr => hr.eq ▸ ih r
  | evaluate rule record next ih => exact .evaluate rfl record ih
  | search pattern subject next ih => exact .search pattern subject ih

/-! ### Environments -/

/-- Two environments with the same functions answer alike to what evaluation asks
    of them, from sessions that are related. -/
structure Environment.Alike (S : Session → Session → Prop) (C : Compiled → Compiled → Prop)
    (env env' : Environment) : Prop where
  registry : env'.registry = env.registry
  maxDepth : env'.config.maxDepth = env.config.maxDepth
  root : ∀ {rule rule'}, C rule rule' → rule'.root = rule.root
  note : ∀ call, Run.Simulates S Eq (Run.note call) (Run.note call)
  compile : ∀ source, Run.Simulates S C (Run.compile env source) (Run.compile env' source)
  search : ∀ pattern subject,
    Run.Simulates S Eq (Run.search env pattern subject) (Run.search env' pattern subject)
  action : ∀ {name function}, Fields.get? env.registry name = some function → ∀ call,
    Action.Alike C (function.action (Fields.contains env.registry) call)
      (function.action (Fields.contains env.registry) call)

variable {S : Session → Session → Prop} {C : Compiled → Compiled → Prop} {env env' : Environment}
  {deeper deeper' : Expr → Record → Run Value} {record record' : Record}

/-- An environment answers alike to itself if the session is noted in, and looked up in,
    alike. -/
theorem Environment.alike_of_simulates (env : Environment)
    (hnote : ∀ call, Run.Simulates S Eq (Run.note call) (Run.note call))
    (hcompile : ∀ source,
      Run.Simulates S Eq (Run.compile env source) (Run.compile env source))
    (hsearch : ∀ pattern subject,
      Run.Simulates S Eq (Run.search env pattern subject) (Run.search env pattern subject)) :
    env.Alike S Eq env where
  registry := rfl
  maxDepth := rfl
  root h := h ▸ rfl
  note := hnote
  compile := hcompile
  search := hsearch
  action _ _ := Action.alike_self _

/-- Actions that go on alike are carried out alike. -/
theorem Run.perform_simulates (h : env.Alike S C env')
    (hdeeper : ∀ e record, Simulates S Eq (deeper e record) (deeper' e record)) {a a' : Action}
    (ha : a.Alike C a') : Simulates S Eq (perform env deeper a) (perform env' deeper' a') := by
  induction ha with
  | finish result =>
    rw [perform, perform]
    exact .ofSame result
  | compile source _ ih =>
    rw [perform, perform]
    exact (h.compile source).outcome.bind ih
  | evaluate hrule record _ ih =>
    rw [perform, perform, h.root hrule]
    exact (hdeeper _ record).outcome.bind fun r r' hr => hr.eq ▸ ih r
  | search pattern subject _ ih =>
    rw [perform, perform]
    exact (h.search pattern subject).outcome.bind fun r r' hr => hr.eq ▸ ih r

theorem Matching.apply_simulates (h : env.Alike S C env') (op : Matching) (a b : Value) :
    Run.Simulates S Eq (op.apply env a b) (op.apply env' a b) := by
  unfold Matching.apply
  split
  · exact .pure rfl
  · exact (h.search _ _).bindEq fun found => .pure rfl
  · exact .throw _

/-- Calls of functions agree if their arguments do. -/
theorem Run.call_simulates (h : env.Alike S C env')
    (hdeeper : ∀ e record, Simulates S Eq (deeper e record) (deeper' e record)) (depth : Nat)
    (name : String) {args args' : Run (List Value)} (hargs : Simulates S Eq args args') :
    Simulates S Eq (call env deeper depth name args) (call env' deeper' depth name args') := by
  rw [call, call, h.registry]
  split
  · exact .throw _
  · next function hfunction =>
    refine hargs.bindEq fun values => (h.note _).bindEq fun _ => ?_
    exact perform_simulates h hdeeper (h.action hfunction _)

/-! ### Values that look the same -/

/-- What operators see of a value: they do not look into lists and records. -/
def Value.outline : Value → Value
  | .list _ => .list []
  | .record _ => .record []
  | v => v

theorem Value.truth_outline (v : Value) (operation : Operation) :
    v.outline.truth operation = v.truth operation := by
  cases v <;> rfl

theorem UnaryOp.apply_outline (op : UnaryOp) (v : Value) : op.apply v.outline = op.apply v := by
  cases op <;> cases v <;> rfl

theorem Arithmetic.apply_outline (op : Arithmetic) (a b : Value) :
    op.apply a.outline b.outline = op.apply a b := by
  cases a <;> cases b <;> rfl

theorem Comparison.apply_outline (op : Comparison) (a b : Value) :
    op.apply a.outline b.outline = op.apply a b := by
  cases a <;> cases b <;> rfl

theorem Matching.apply_outline (env : Environment) (op : Matching) (a b : Value) :
    op.apply env a.outline b.outline = op.apply env a b := by
  cases a <;> cases b <;> rfl

/-- Every value may stand for itself, and values that may stand for each other look
    the same to operators. -/
structure Value.IsResemblance (V : Value → Value → Prop) : Prop where
  refl : ∀ v, V v v
  outline : ∀ {v v'}, V v v' → v'.outline = v.outline

theorem Value.isResemblance_eq : IsResemblance Eq :=
  ⟨fun _ => rfl, fun h => h ▸ rfl⟩

variable {V : Value → Value → Prop} {depth depth' : Nat}

namespace Expr

mutual

/-- An expression has values on both sides that resemble each other if the fields it
    reads have, and calls preserve that. -/
theorem evalWith_resembles (hV : Value.IsResemblance V)
    (hmatching : ∀ (op : Matching) a b,
      Run.Simulates S Eq (op.apply env a b) (op.apply env' a b))
    (hcall : ∀ name args args', Run.Simulates S (List.Forall₂ V) args args' →
      Run.Simulates S V (Run.call env deeper depth name args)
        (Run.call env' deeper' depth' name args')) :
    (e : Expr) → (∀ name ∈ e.reads, V (record.lookup name) (record'.lookup name)) →
    Run.Simulates S V (evalWith env deeper depth record e) (evalWith env' deeper' depth' record' e)
  | .literal value, _ => by
    rw [evalWith, evalWith]
    exact .pure (hV.refl value)
  | .field name, hreads => by
    rw [evalWith, evalWith]
    exact .pure (hreads name List.mem_cons_self)
  | .binary op left right, hreads => by
    obtain ⟨hleft, hright⟩ := List.forall_mem_append.mp hreads
    have ihleft := evalWith_resembles hV hmatching hcall left hleft
    have ihright := evalWith_resembles hV hmatching hcall right hright
    rcases op with op | op | op | op
    · rw [evalWith, evalWith]
      refine ihleft.bind fun a a' ha => ihright.bind fun b b' hb => ?_
      rw [← op.apply_outline a' b', hV.outline ha, hV.outline hb, op.apply_outline]
      exact .ofResult (.refl hV.refl _)
    · rw [evalWith, evalWith]
      refine ihleft.bind fun a a' ha => ihright.bind fun b b' hb => ?_
      rw [← op.apply_outline a' b', hV.outline ha, hV.outline hb, op.apply_outline]
      exact .ofResult (.refl hV.refl _)
    · rw [evalWith, evalWith]
      refine ihleft.bind fun a a' ha => ihright.bind fun b b' hb => ?_
      rw [← op.apply_outline env' a' b', hV.outline ha, hV.outline hb, op.apply_outline]
      exact (hmatching op a b).mono fun v _ hv => hv ▸ hV.refl v
    · rw [evalWith, evalWith]
      refine ihleft.bind fun a a' ha => ?_
      rw [← a'.truth_outline, hV.outline ha, a.truth_outline]
      refine (Run.Simulates.ofSame _).bindEq fun x => ?_
      -- The left operand has the same truth on both sides, and so it decides on both or neither.
      split
      · exact .pure (hV.refl _)
      · refine ihright.bind fun b b' hb => ?_
        rw [← b'.truth_outline, hV.outline hb, b.truth_outline]
        exact (Run.Simulates.ofSame _).bindEq fun y => .pure (hV.refl _)
  | .unary op operand, hreads => by
    rw [evalWith, evalWith]
    refine (evalWith_resembles hV hmatching hcall operand hreads).bind fun a a' ha => ?_
    rw [← op.apply_outline a', hV.outline ha, op.apply_outline]
    exact .ofResult (.refl hV.refl _)
  | .call name args, hreads => by
    rw [evalWith, evalWith]
    exact hcall name _ _ (evalAllWith_resembles hV hmatching hcall args hreads)

theorem evalAllWith_resembles (hV : Value.IsResemblance V)
    (hmatching : ∀ (op : Matching) a b,
      Run.Simulates S Eq (op.apply env a b) (op.apply env' a b))
    (hcall : ∀ name args args', Run.Simulates S (List.Forall₂ V) args args' →
      Run.Simulates S V (Run.call env deeper depth name args)
        (Run.call env' deeper' depth' name args')) :
    (es : List Expr) → (∀ name ∈ readsOfAll es, V (record.lookup name) (record'.lookup name)) →
    Run.Simulates S (List.Forall₂ V) (evalAllWith env deeper depth record es)
      (evalAllWith env' deeper' depth' record' es)
  | [], _ => by
    rw [evalAllWith, evalAllWith]
    exact .pure .nil
  | e :: rest, hreads => by
    obtain ⟨hfirst, hrest⟩ := List.forall_mem_append.mp hreads
    rw [evalAllWith, evalAllWith]
    refine (evalWith_resembles hV hmatching hcall e hfirst).bind fun value value' hvalue => ?_
    have ihrest := evalAllWith_resembles hV hmatching hcall rest hrest
    exact ihrest.bind fun values values' hvalues => .pure (.cons hvalue hvalues)

end

/-- An expression has the same value on both sides if the fields it reads have. -/
theorem evalWith_simulates (h : env.Alike S C env')
    (hdeeper : ∀ e record, Run.Simulates S Eq (deeper e record) (deeper' e record)) (depth : Nat)
    (e : Expr) (hreads : ∀ name ∈ e.reads, record'.lookup name = record.lookup name) :
    Run.Simulates S Eq (evalWith env deeper depth record e)
      (evalWith env' deeper' depth record' e) := by
  refine evalWith_resembles Value.isResemblance_eq (Matching.apply_simulates h)
    (fun name args args' hargs => ?_) e fun name hname => (hreads name hname).symm
  rw [List.forall₂_eq_eq_eq] at hargs
  exact Run.call_simulates h hdeeper depth name hargs

theorem evalAt_simulates (h : env.Alike S C env') (levels : Nat) (e : Expr)
    (hreads : ∀ name ∈ e.reads, record'.lookup name = record.lookup name) :
    Run.Simulates S Eq (evalAt env levels e record) (evalAt env' levels e record') := by
  induction levels generalizing e record record' with
  | zero =>
    rw [evalAt, evalAt, h.maxDepth]
    exact evalWith_simulates h (fun _ _ => .throw _) _ e hreads
  | succ levels ih =>
    rw [evalAt, evalAt, h.maxDepth]
    exact evalWith_simulates h (fun e _ => ih e fun _ _ => rfl) _ e hreads

/-- An expression has the same value in environments that answer alike, on records
    with the same values in the fields that it reads. -/
theorem eval_simulates (h : env.Alike S C env') (e : Expr)
    (hreads : ∀ name ∈ e.reads, record'.lookup name = record.lookup name) :
    Run.Simulates S Eq (eval env e record) (eval env' e record') := by
  rw [eval, eval, h.maxDepth]
  exact evalAt_simulates h _ e hreads

end Expr

end RuleEngine
