import RuleEngine.Function.Host
import RuleEngine.Proofs.Evaluation.Invariants

/-!
# How deep evaluation goes

Evaluation counts how many calls it is inside of. Only a rule that a function has
evaluated counts as one more, whatever text it was compiled from; where that is
more than the configuration allows, the function is refused and nothing is
evaluated. The rules for this are given here as a relation without any bound but
this one (`Evaluates`).

By these rules every evaluation comes to an end (`exists_evaluates`): what
decreases is first the depth that is left, then what the function called does
next, then the tree. The outcome is the one that evaluation by levels left
computes (`Expr.evaluates_iff`), so there is only one.

The calls made on the way are noted with the depth they are made at. No call of a
tree is deeper than the tree, be it an argument of another call or not
(`Expr.evalWith_adds`), and no call at all is deeper than the limit
(`Expr.evalAt_adds`).
-/

namespace RuleEngine

/-! ### Rules of evaluation -/

/-- The outcome that the left operand decides alone, if it does. -/
def BinaryOp.settled? (op : BinaryOp) (left : Value) : Option (Except Error Value) :=
  match op with
  | .logical l =>
    match left.truth (.binary op) with
    | .error e => some (.error e)
    | .ok b => if b = l.decisive then some (.ok (.boolean b)) else none
  | _ => none

/-- The outcome on both operands, where the left one does not decide alone. -/
def BinaryOp.applyBoth (op : BinaryOp) (env : Environment) (left right : Value) : Run Value :=
  match op with
  | .logical _ => Run.ofResult ((right.truth (.binary op)).map .boolean)
  | .arithmetic op => Run.ofResult (op.apply left right)
  | .comparison op => Run.ofResult (op.apply left right)
  | .matching op => op.apply env left right

mutual

/-- An expression is evaluated against a record inside so many calls, from one
    session to another, with an outcome. -/
inductive Evaluates (env : Environment) :
    Nat → Record → Expr → Session → Except Error Value → Session → Prop
  | literal {depth record value s} :
      Evaluates env depth record (.literal value) s (.ok value) s
  | field {depth record name s} :
      Evaluates env depth record (.field name) s (.ok (record.lookup name)) s
  | leftFails {depth record op left right s t e}
      (hleft : Evaluates env depth record left s (.error e) t) :
      Evaluates env depth record (.binary op left right) s (.error e) t
  | leftSettles {depth record op left right s t a result}
      (hleft : Evaluates env depth record left s (.ok a) t)
      (hsettled : op.settled? a = some result) :
      Evaluates env depth record (.binary op left right) s result t
  | rightFails {depth record op left right s t u a e}
      (hleft : Evaluates env depth record left s (.ok a) t) (hopen : op.settled? a = none)
      (hright : Evaluates env depth record right t (.error e) u) :
      Evaluates env depth record (.binary op left right) s (.error e) u
  | both {depth record op left right s t u v a b result}
      (hleft : Evaluates env depth record left s (.ok a) t) (hopen : op.settled? a = none)
      (hright : Evaluates env depth record right t (.ok b) u)
      (happly : (op.applyBoth env a b).run u = (result, v)) :
      Evaluates env depth record (.binary op left right) s result v
  | operandFails {depth record op operand s t e}
      (hoperand : Evaluates env depth record operand s (.error e) t) :
      Evaluates env depth record (.unary op operand) s (.error e) t
  | operand {depth record op operand s t a}
      (hoperand : Evaluates env depth record operand s (.ok a) t) :
      Evaluates env depth record (.unary op operand) s (op.apply a) t
  | unknown {depth record name args s}
      (hname : Fields.get? env.registry name = none) :
      Evaluates env depth record (.call name args) s (.error (.unknownFunction name)) s
  | argumentFails {depth record name args function s t e}
      (hname : Fields.get? env.registry name = some function)
      (hargs : EvaluatesAll env depth record args s (.error e) t) :
      Evaluates env depth record (.call name args) s (.error e) t
  | call {depth record name args function s t u values result}
      (hname : Fields.get? env.registry name = some function)
      (hargs : EvaluatesAll env depth record args s (.ok values) t)
      (hcall : Performs env depth
        (function.action (Fields.contains env.registry) ⟨name, depth, values⟩)
        { t with journal := ⟨name, depth, values⟩ :: t.journal } result u) :
      Evaluates env depth record (.call name args) s result u

/-- Expressions are evaluated one after the other, up to the first that fails. -/
inductive EvaluatesAll (env : Environment) :
    Nat → Record → List Expr → Session → Except Error (List Value) → Session → Prop
  | nil {depth record s} :
      EvaluatesAll env depth record [] s (.ok []) s
  | firstFails {depth record first rest s t e}
      (hfirst : Evaluates env depth record first s (.error e) t) :
      EvaluatesAll env depth record (first :: rest) s (.error e) t
  | cons {depth record first rest s t u value result}
      (hfirst : Evaluates env depth record first s (.ok value) t)
      (hrest : EvaluatesAll env depth record rest t result u) :
      EvaluatesAll env depth record (first :: rest) s (result.map (value :: ·)) u

/-- What a function does on a call that is inside so many others is carried out. A
    rule is evaluated inside one call more, if the limit allows as many. -/
inductive Performs (env : Environment) :
    Nat → Action → Session → Except Error Value → Session → Prop
  | finish {depth result s} :
      Performs env depth (.finish result) s result s
  | compile {depth source next s t u compiled result}
      (hcompile : (Run.compile env source).run s = (compiled, t))
      (hnext : Performs env depth (next compiled) t result u) :
      Performs env depth (.compile source next) s result u
  | evaluate {depth rule record next s t u value result}
      (hdepth : depth + 1 ≤ env.config.maxDepth)
      (hrule : Evaluates env (depth + 1) record rule.root s value t)
      (hnext : Performs env depth (next value) t result u) :
      Performs env depth (.evaluate rule record next) s result u
  | refuse {depth rule record next s t result}
      (hdepth : env.config.maxDepth < depth + 1)
      (hnext : Performs env depth (next (.error (.recursionLimit env.config.maxDepth))) s result
        t) :
      Performs env depth (.evaluate rule record next) s result t
  | search {depth text subject next s t u found result}
      (hsearch : (Run.search env text subject).run s = (found, t))
      (hnext : Performs env depth (next found) t result u) :
      Performs env depth (.search text subject next) s result u

end

variable {env : Environment} {deeper : Expr → Record → Run Value} {depth : Nat} {record : Record}

/-! ### Every evaluation ends -/

mutual

/-- By the rules, every expression is evaluated if the actions at its depth are
    carried out. -/
theorem exists_evaluates_of_performs
    (hperform : ∀ action s, ∃ result t, Performs env depth action s result t) :
    (e : Expr) → ∀ s, ∃ result t, Evaluates env depth record e s result t
  | .literal value, s => ⟨_, s, .literal⟩
  | .field name, s => ⟨_, s, .field⟩
  | .binary op left right, s => by
    obtain ⟨x, t, hleft⟩ := exists_evaluates_of_performs hperform left s
    cases x with
    | error e => exact ⟨_, t, .leftFails hleft⟩
    | ok a =>
      cases hsettled : op.settled? a with
      | some result => exact ⟨result, t, .leftSettles hleft hsettled⟩
      | none =>
        obtain ⟨y, u, hright⟩ := exists_evaluates_of_performs hperform right t
        cases y with
        | error e => exact ⟨_, u, .rightFails hleft hsettled hright⟩
        | ok b => exact ⟨_, _, .both hleft hsettled hright rfl⟩
  | .unary op operand, s => by
    obtain ⟨x, t, hoperand⟩ := exists_evaluates_of_performs hperform operand s
    cases x with
    | error e => exact ⟨_, t, .operandFails hoperand⟩
    | ok a => exact ⟨_, t, .operand hoperand⟩
  | .call name args, s => by
    cases hname : Fields.get? env.registry name with
    | none => exact ⟨_, s, .unknown hname⟩
    | some function =>
      obtain ⟨x, t, hargs⟩ := exists_evaluatesAll_of_performs hperform args s
      cases x with
      | error e => exact ⟨_, t, .argumentFails hname hargs⟩
      | ok values =>
        obtain ⟨result, u, hcall⟩ := hperform _ _
        exact ⟨result, u, .call hname hargs hcall⟩

theorem exists_evaluatesAll_of_performs
    (hperform : ∀ action s, ∃ result t, Performs env depth action s result t) :
    (es : List Expr) → ∀ s, ∃ result t, EvaluatesAll env depth record es s result t
  | [], s => ⟨_, s, .nil⟩
  | first :: rest, s => by
    obtain ⟨x, t, hfirst⟩ := exists_evaluates_of_performs hperform first s
    cases x with
    | error e => exact ⟨_, t, .firstFails hfirst⟩
    | ok value =>
      obtain ⟨result, u, hrest⟩ := exists_evaluatesAll_of_performs hperform rest t
      exact ⟨_, u, .cons hfirst hrest⟩

end

/-- By the rules, every action is carried out if expressions one level deeper are
    evaluated, as far as the limit allows any. -/
theorem exists_performs
    (hdeeper : depth + 1 ≤ env.config.maxDepth → ∀ record e s, ∃ result t,
      Evaluates env (depth + 1) record e s result t) (action : Action) (s : Session) :
    ∃ result t, Performs env depth action s result t := by
  induction action generalizing s with
  | finish result => exact ⟨result, s, .finish⟩
  | compile source next ih =>
    obtain ⟨result, t, hnext⟩ := ih _ _
    exact ⟨result, t, .compile rfl hnext⟩
  | evaluate rule record next ih =>
    by_cases hdepth : depth + 1 ≤ env.config.maxDepth
    · obtain ⟨value, t, hrule⟩ := hdeeper hdepth record rule.root s
      obtain ⟨result, u, hnext⟩ := ih value t
      exact ⟨result, u, .evaluate hdepth hrule hnext⟩
    · obtain ⟨result, t, hnext⟩ := ih (.error (.recursionLimit env.config.maxDepth)) s
      exact ⟨result, t, .refuse (Nat.lt_of_not_le hdepth) hnext⟩
  | search text subject next ih =>
    obtain ⟨result, t, hnext⟩ := ih _ _
    exact ⟨result, t, .search rfl hnext⟩

/-- By the rules, every evaluation comes to an end, at whatever depth it is. The
    induction is on the depth that is left, within it on what functions do
    (`exists_performs`), and within that on trees. -/
theorem exists_evaluates (env : Environment) (depth : Nat) (record : Record) (e : Expr)
    (s : Session) : ∃ result t, Evaluates env depth record e s result t := by
  induction hleft : env.config.maxDepth - depth generalizing depth record e s with
  | zero =>
    refine exists_evaluates_of_performs (exists_performs fun hdepth => ?_) e s
    omega
  | succ left ih =>
    refine exists_evaluates_of_performs (exists_performs fun hdepth => ?_) e s
    exact fun record e s => ih (depth + 1) record e s (by omega)

/-! ### The evaluator follows the rules -/

namespace Expr

/-- An operator is applied to both operands unless the left one decides alone. -/
theorem evalWith_binary (op : BinaryOp) (left right : Expr) :
    evalWith env deeper depth record (.binary op left right) =
      (do
        let a ← evalWith env deeper depth record left
        match op.settled? a with
        | some result => Run.ofResult result
        | none => do
          let b ← evalWith env deeper depth record right
          op.applyBoth env a b) := by
  cases op with
  | logical op =>
    rw [evalWith]
    refine congrArg (_ >>= ·) (funext fun a => ?_)
    simp only [BinaryOp.settled?]
    cases a.truth (.binary (.logical op)) with
    | error e => rfl
    | ok x =>
      change (if x = op.decisive then _ else _) = _
      by_cases hx : x = op.decisive
      · simp only [hx, if_true]
        rfl
      · simp only [hx, if_false]
        refine congrArg (_ >>= ·) (funext fun b => ?_)
        rw [BinaryOp.applyBoth]
        cases b.truth (.binary (.logical op)) <;> rfl
  | _ =>
    rw [evalWith]
    rfl

end Expr

theorem Expr.evalBelow_succ {levels : Nat} (hlevels : depth + (levels + 1) = env.config.maxDepth)
    (e : Expr) (record : Record) : evalBelow env (levels + 1) e record =
      evalWith env (evalBelow env levels) (depth + 1) record e := by
  have hdepth : env.config.maxDepth - levels = depth + 1 := by omega
  rw [evalBelow, evalAt_eq, hdepth]

mutual

/-- What is evaluated by the rules is evaluated so by levels. -/
theorem Evaluates.run_eq {depth : Nat} {record : Record} {e : Expr} {s t : Session}
    {result : Except Error Value} :
    Evaluates env depth record e s result t → ∀ levels, depth + levels = env.config.maxDepth →
      (Expr.evalWith env (Expr.evalBelow env levels) depth record e).run s = (result, t)
  | .literal, levels, hlevels => by
    rw [Expr.evalWith]
    rfl
  | .field, levels, hlevels => by
    rw [Expr.evalWith]
    rfl
  | .leftFails hleft, levels, hlevels => by
    rw [Expr.evalWith_binary, run_bind, hleft.run_eq levels hlevels]
  | .leftSettles hleft hsettled, levels, hlevels => by
    rw [Expr.evalWith_binary, run_bind_ok (hleft.run_eq levels hlevels), hsettled]
    rfl
  | .rightFails hleft hopen hright, levels, hlevels => by
    rw [Expr.evalWith_binary, run_bind_ok (hleft.run_eq levels hlevels), hopen]
    dsimp only
    rw [run_bind, hright.run_eq levels hlevels]
  | .both hleft hopen hright happly, levels, hlevels => by
    rw [Expr.evalWith_binary, run_bind_ok (hleft.run_eq levels hlevels), hopen]
    dsimp only
    rw [run_bind_ok (hright.run_eq levels hlevels), happly]
  | .operandFails hoperand, levels, hlevels => by
    rw [Expr.evalWith, run_bind, hoperand.run_eq levels hlevels]
  | .operand hoperand, levels, hlevels => by
    rw [Expr.evalWith, run_bind_ok (hoperand.run_eq levels hlevels)]
    rfl
  | .unknown hname, levels, hlevels => by
    rw [Expr.evalWith, hname]
    rfl
  | .argumentFails hname hargs, levels, hlevels => by
    rw [Expr.evalWith, hname]
    dsimp only
    rw [run_bind, hargs.run_eq levels hlevels]
  | .call hname hargs hcall, levels, hlevels => by
    rw [Expr.evalWith, hname]
    dsimp only
    rw [run_bind_ok (hargs.run_eq levels hlevels)]
    exact hcall.run_eq levels hlevels

theorem EvaluatesAll.run_eq {depth : Nat} {record : Record} {es : List Expr} {s t : Session}
    {result : Except Error (List Value)} :
    EvaluatesAll env depth record es s result t →
      ∀ levels, depth + levels = env.config.maxDepth →
      (Expr.evalAllWith env (Expr.evalBelow env levels) depth record es).run s = (result, t)
  | .nil, levels, hlevels => by
    rw [Expr.evalAllWith]
    rfl
  | .firstFails hfirst, levels, hlevels => by
    rw [Expr.evalAllWith, run_bind, hfirst.run_eq levels hlevels]
  | .cons hfirst hrest, levels, hlevels => by
    rw [Expr.evalAllWith, run_bind_ok (hfirst.run_eq levels hlevels), run_bind_pure,
      hrest.run_eq levels hlevels]

theorem Performs.run_eq {depth : Nat} {action : Action} {s t : Session}
    {result : Except Error Value} :
    Performs env depth action s result t → ∀ levels, depth + levels = env.config.maxDepth →
      (Run.perform env (Expr.evalBelow env levels) action).run s = (result, t)
  | .finish, levels, hlevels => by
    rw [Run.perform]
    rfl
  | .compile hcompile hnext, levels, hlevels => by
    rw [Run.run_perform_compile, hcompile]
    exact hnext.run_eq levels hlevels
  | .evaluate hdepth hrule hnext, levels, hlevels => by
    -- A level is left exactly where the limit allows one call more.
    cases levels with
    | zero => omega
    | succ left =>
      rw [Run.run_perform_evaluate, Expr.evalBelow_succ hlevels,
        hrule.run_eq left (by omega)]
      exact hnext.run_eq (left + 1) hlevels
  | .refuse hdepth hnext, levels, hlevels => by
    cases levels with
    | zero =>
      rw [Run.run_perform_evaluate]
      exact hnext.run_eq 0 hlevels
    | succ left => omega
  | .search hsearch hnext, levels, hlevels => by
    rw [Run.run_perform_search, hsearch]
    exact hnext.run_eq levels hlevels

end

/-! ### The depth of calls -/

/-- A session has the calls of a journal, and after those only calls at certain
    depths. -/
def Session.Adds (D : Nat → Prop) (journal : List Call) (s : Session) : Prop :=
  ∃ calls, s.journal = calls ++ journal ∧ ∀ call ∈ calls, D call.depth

theorem Session.adds_self (D : Nat → Prop) (s : Session) : s.Adds D s.journal :=
  ⟨[], rfl, nofun⟩

theorem Session.Adds.note {D : Nat → Prop} {journal : List Call} {s : Session}
    (h : s.Adds D journal) {call : Call} (hcall : D call.depth) :
    ((Run.note call).run s).2.Adds D journal := by
  obtain ⟨calls, hcalls, hdepths⟩ := h
  exact ⟨call :: calls, congrArg (call :: ·) hcalls, List.forall_mem_cons.mpr ⟨hcall, hdepths⟩⟩

/-- Only calls are noted in the journal. -/
theorem Environment.preserves_adds (env : Environment) (D : Nat → Prop) (journal : List Call) :
    env.Preserves (Session.Adds D journal) :=
  ⟨fun _ _ h => h, fun _ _ h => h⟩

namespace Expr

/-- Where functions have nothing evaluated that makes calls, all calls are as deep as
    the tree, those in arguments of others too. -/
theorem evalWith_adds (hdeeper : ∀ e record s, ((deeper e record).run s).2.journal = s.journal)
    (e : Expr) (s : Session) :
    ((evalWith env deeper depth record e).run s).2.Adds (· = depth) s.journal := by
  have hpreserves := env.preserves_adds (· = depth) s.journal
  refine (evalWith_preserves hpreserves (fun e record t ht => ⟨?_, fun _ _ => trivial⟩)
    (fun call t hcall ht => ht.note hcall) e s (s.adds_self _)).1
  rw [Session.Adds, hdeeper]
  exact ht

/-- No call is deeper than the limit. -/
theorem evalAt_adds (levels : Nat) (e : Expr) (record : Record) (s : Session) :
    ((evalAt env levels e record).run s).2.Adds (· ≤ env.config.maxDepth) s.journal :=
  (evalAt_preserves (env.preserves_adds _ s.journal) (fun _ _ hcall ht => ht.note hcall) levels e
    record s (s.adds_self _)).1

/-- Evaluation by levels is evaluation by the rules. -/
theorem evaluates_iff {e : Expr} {s t : Session} {result : Except Error Value} :
    Evaluates env 0 record e s result t ↔ (eval env e record).run s = (result, t) := by
  have heval : eval env e record =
      evalWith env (evalBelow env env.config.maxDepth) 0 record e := by
    rw [eval, evalAt_eq, Nat.sub_self]
  rw [heval]
  refine ⟨fun h => h.run_eq _ (Nat.zero_add _), fun h => ?_⟩
  -- Some outcome there is by the rules, and it can only be the one computed.
  obtain ⟨result', t', h'⟩ := exists_evaluates env 0 record e s
  rw [h'.run_eq _ (Nat.zero_add _)] at h
  cases h
  exact h'

/-- Evaluation ends, and is bounded by the limit on depth. By the rules, which count
    how many calls an evaluation is inside of, every evaluation has exactly one
    outcome, the one that is computed. No call is deeper than the limit. A function
    at the limit that has a rule evaluated is told so, and nothing happens. And
    calls that stand in arguments of others are not deeper than those. -/
theorem eval_bounded (env : Environment) (e : Expr) (record : Record) (s : Session) :
    (∀ result t, Evaluates env 0 record e s result t ↔ (eval env e record).run s = (result, t)) ∧
    ((eval env e record).run s).2.Adds (· ≤ env.config.maxDepth) s.journal ∧
    (∀ rule fields next t result u,
      Performs env env.config.maxDepth (.evaluate rule fields next) t result u ↔
        Performs env env.config.maxDepth (next (.error (.recursionLimit env.config.maxDepth)))
          t result u) ∧
    (∀ depth deeper, (∀ e record s, ((deeper e record).run s).2.journal = s.journal) →
      ((evalWith env deeper depth record e).run s).2.Adds (· = depth) s.journal) := by
  refine ⟨fun _ _ => evaluates_iff, evalAt_adds _ e record s, ?_, fun _ _ hdeeper =>
    evalWith_adds hdeeper e s⟩
  intro rule fields next t result u
  constructor
  · intro h
    cases h with
    | evaluate hdepth => exact absurd hdepth (Nat.not_succ_le_self _)
    | refuse _ hnext => exact hnext
  · exact .refuse (Nat.lt_succ_self _)

/-- Where nothing is evaluated for a function, a call in an argument of another one is
    as deep as that. -/
theorem eval_bounded_nested :
    let again := HostFunction.again.toFunction none
    let env : Environment := ⟨Fields.insert Registry.builtin "again" again, { maxDepth := 3 }⟩
    let e : Expr := .call "again" [.call "again" [.field "Rule"]]
    let s : Session := ⟨Caches.empty 0, []⟩
    let refused : Expr → Record → Run Value := fun _ _ => throw (.recursionLimit 3)
    (∀ e record s, ((refused e record).run s).2.journal = s.journal) ∧
      ((evalWith env refused 2 [("Rule", .string "again(Rule)")] e).run s).2.Adds (· = 2) [] := by
  intro again env e s refused
  have hrefused : ∀ e record s, ((refused e record).run s).2.journal = s.journal :=
    fun _ _ _ => rfl
  exact ⟨hrefused, (eval_bounded env e _ s).2.2.2 2 refused hrefused⟩

/-- A rule that has itself evaluated ends at the limit. -/
example :
    failure? ((eval ⟨Fields.insert Registry.builtin "again" (HostFunction.again.toFunction none),
      { maxDepth := 3 }⟩ (.call "again" [.field "Rule"])
      [("Rule", .string "again(Rule)")]).run ⟨Caches.empty 0, []⟩).1 =
      some (.recursionLimit 3) := by
  decide +kernel

end Expr

end RuleEngine
