import RuleEngine.Function.Builtin
import RuleEngine.Proofs.Evaluation.Answers

/-!
# How quantifiers scan

A quantifier goes through the elements of a list from left to right. An element may
settle the call: it is no record, the rule cannot be compiled or evaluated on it, its
result is no condition, or it has the truth that decides (`Quantifier.Settles`). Each
of these is said of the session before the call, although the elements before have
been evaluated by then: evaluations leave sessions that answer the same.

An element that settles the call ends the scan (`Quantifier.run_scan_of_settles`), and
any other is passed (`Quantifier.run_scan_of_not_settles`). So by induction a scan gets
to the first element that settles the call and sees nothing of those after it
(`Quantifier.run_scan_of_first`).
-/

namespace RuleEngine

namespace Quantifier

variable (q : Quantifier) (env : Environment) (levels : Nat) (source : String) (s : Session)

/-- An element settles a call of a quantifier with a result. The rule and its value are
    those that there are in the session before the call. -/
inductive Settles (index : Nat) : Value → Except Error Value → Prop
  | notARecord {v : Value} (h : v.kind ≠ .record) :
      Settles index v (.error (.invalidArgument q.name (.notARecord index v.kind)))
  | notCompiled {fields : Record} {e : Error} (h : ((Run.compile env source).run s).1 = .error e) :
      Settles index (.record fields) (.error e)
  | fails {fields : Record} {rule : Compiled} {e : Error}
      (hrule : ((Run.compile env source).run s).1 = .ok rule)
      (h : ((Expr.evalBelow env levels rule.root fields).run s).1 = .error e) :
      Settles index (.record fields) (.error (.inElement q.name index e))
  | notACondition {fields : Record} {rule : Compiled} {v : Value}
      (hrule : ((Run.compile env source).run s).1 = .ok rule)
      (h : ((Expr.evalBelow env levels rule.root fields).run s).1 = .ok v)
      (hboolean : v.kind ≠ .boolean) (hmissing : v.kind ≠ .missing) :
      Settles index (.record fields) (.error (.inElement q.name index
        (.typeMismatch (.conditionOf rule.source) v.kind none)))
  | decides {fields : Record} {rule : Compiled} {v : Value}
      (hrule : ((Run.compile env source).run s).1 = .ok rule)
      (h : ((Expr.evalBelow env levels rule.root fields).run s).1 = .ok v)
      (htruth : v = .boolean q.decisive ∨ v = .missing ∧ q.decisive = false) :
      Settles index (.record fields) (.ok (.boolean q.decisive))

/-- The element at an index settles a call, and none before it does. -/
structure FirstSettles (items : List Value) (index : Nat) (result : Except Error Value) :
    Prop where
  settles : ∃ v, items[index]? = some v ∧ q.Settles env levels source s index v result
  unsettled : ∀ i < index, ∀ v, items[i]? = some v →
    ∀ result, ¬q.Settles env levels source s i v result

/-! ### One element -/

/-- In the middle of a scan a session answers as the one before the call, and the rule
    that has been compiled is the one that is compiled there. -/
structure IsUnderWay (compiled : Option Compiled) (s' : Session) : Prop where
  answersAlike : s.AnswersAlike env s'
  compiled_eq : ∀ rule, compiled = some rule → ((Run.compile env source).run s).1 = .ok rule

/-- Rules are evaluated as functions have them evaluated, on the records among some
    elements. -/
def EvaluatesOn (items : List Value) (deeper : Expr → Record → Run Value) : Prop :=
  ∀ fields, Value.record fields ∈ items →
    ∀ e, deeper e fields = Expr.evalBelow env levels e fields

variable {q env levels source s} {compiled : Option Compiled} {s' : Session} {rule : Compiled}
  {index : Nat}

theorem EvaluatesOn.mono {items items' : List Value} {deeper : Expr → Record → Run Value}
    (h : EvaluatesOn env levels items deeper) (hsubset : items' ⊆ items) :
    EvaluatesOn env levels items' deeper :=
  fun fields hfields => h fields (hsubset hfields)

/-- At a record the rule is there, compiled now if it was not before. -/
theorem run_scan_compiled (h : IsUnderWay env source s compiled s')
    (hrule : ((Run.compile env source).run s).1 = .ok rule) (index : Nat) (fields : Record) :
    ∃ t, s.AnswersAlike env t ∧ ∀ rest deeper,
      (Run.perform env deeper (q.scan source compiled index (.record fields :: rest))).run s' =
        (Run.perform env deeper
          (q.scan source (some rule) index (.record fields :: rest))).run t := by
  cases compiled with
  | some rule' =>
    obtain rfl : rule' = rule := Except.ok.inj ((h.compiled_eq rule' rfl).symm.trans hrule)
    exact ⟨s', h.answersAlike, fun _ _ => rfl⟩
  | none =>
    refine ⟨((Run.compile env source).run s').2, h.answersAlike.trans (.compiled source s'),
      fun rest deeper => ?_⟩
    refine (Run.run_perform_compile env deeper s' source _).trans ?_
    rw [h.answersAlike.compile, hrule]
    rfl

/-- What comes of the rule on a record is what came of it before the call. -/
theorem run_scan_record (h : IsUnderWay env source s compiled s')
    (hrule : ((Run.compile env source).run s).1 = .ok rule) (fields : Record) :
    ∃ t, IsUnderWay env source s (some rule) t ∧
      ∀ rest deeper, EvaluatesOn env levels [.record fields] deeper →
        (Run.perform env deeper (q.scan source compiled index (.record fields :: rest))).run s' =
          match ((Expr.evalBelow env levels rule.root fields).run s).1.bind
            (Value.truth (.conditionOf rule.source)) with
          | .error e => (.error (.inElement q.name index e), t)
          | .ok holds =>
            if holds = q.decisive then (.ok (.boolean q.decisive), t)
            else (Run.perform env deeper (q.scan source (some rule) (index + 1) rest)).run t := by
  obtain ⟨t, ht, hcompiled⟩ := run_scan_compiled h hrule index fields
  refine ⟨((Expr.evalBelow env levels rule.root fields).run t).2,
    ⟨ht.trans (Expr.answersAlike_evalBelow env levels rule.root fields t),
      fun _ hsome => Option.some.inj hsome ▸ hrule⟩, fun rest deeper hdeeper => ?_⟩
  rw [hcompiled rest deeper, scan, Run.run_perform_evaluate,
    hdeeper fields (List.mem_singleton_self _),
    Expr.evalBelow_fst_eq env levels rule.root fields ht]
  cases ((Expr.evalBelow env levels rule.root fields).run s).1.bind
      (Value.truth (.conditionOf rule.source)) with
  | error e => rfl
  | ok holds =>
    dsimp only
    split <;> rfl

/-- An element that settles the call ends the scan. -/
theorem run_scan_of_settles {v : Value} {result : Except Error Value}
    (h : IsUnderWay env source s compiled s') (hv : q.Settles env levels source s index v result) :
    ∃ t, ∀ rest deeper, EvaluatesOn env levels [v] deeper →
      (Run.perform env deeper (q.scan source compiled index (v :: rest))).run s' = (result, t) := by
  cases hv with
  | notARecord hkind =>
    refine ⟨s', fun rest deeper _ => ?_⟩
    cases v with
    | record fields => exact absurd rfl hkind
    | _ => rfl
  | notCompiled hcompile =>
    cases compiled with
    | some rule => cases (h.compiled_eq rule rfl).symm.trans hcompile
    | none =>
      refine ⟨((Run.compile env source).run s').2, fun rest deeper _ => ?_⟩
      rw [scan, Run.run_perform_compile, h.answersAlike.compile, hcompile]
      rfl
  | @fails fields rule e hrule hvalue =>
    obtain ⟨t, _, hrun⟩ := run_scan_record h hrule fields
    refine ⟨t, fun rest deeper hdeeper => ?_⟩
    rw [hrun rest deeper hdeeper, hvalue]
    rfl
  | @notACondition fields rule v hrule hvalue hboolean hmissing =>
    obtain ⟨t, _, hrun⟩ := run_scan_record h hrule fields
    refine ⟨t, fun rest deeper hdeeper => ?_⟩
    rw [hrun rest deeper hdeeper, hvalue]
    cases v with
    | boolean b => exact absurd rfl hboolean
    | missing => exact absurd rfl hmissing
    | _ => rfl
  | @decides fields rule v hrule hvalue htruth =>
    obtain ⟨t, _, hrun⟩ := run_scan_record h hrule fields
    refine ⟨t, fun rest deeper hdeeper => ?_⟩
    rw [hrun rest deeper hdeeper, hvalue]
    rcases htruth with rfl | ⟨rfl, hdecisive⟩
    · exact if_pos rfl
    · exact if_pos hdecisive.symm

/-- An element that does not is passed. -/
theorem run_scan_of_not_settles {v : Value} (h : IsUnderWay env source s compiled s')
    (hv : ∀ result, ¬q.Settles env levels source s index v result) :
    ∃ rule t, IsUnderWay env source s (some rule) t ∧
      ∀ rest deeper, EvaluatesOn env levels [v] deeper →
        (Run.perform env deeper (q.scan source compiled index (v :: rest))).run s' =
          (Run.perform env deeper (q.scan source (some rule) (index + 1) rest)).run t := by
  obtain ⟨fields, rfl⟩ : ∃ fields, v = .record fields := by
    cases v with
    | record fields => exact ⟨fields, rfl⟩
    | _ => exact absurd (.notARecord nofun) (hv _)
  cases hrule : ((Run.compile env source).run s).1 with
  | error e => exact absurd (.notCompiled hrule) (hv _)
  | ok rule =>
    obtain ⟨t, ht, hrun⟩ := run_scan_record h hrule fields
    refine ⟨rule, t, ht, fun rest deeper hdeeper => ?_⟩
    rw [hrun rest deeper hdeeper]
    cases hvalue : ((Expr.evalBelow env levels rule.root fields).run s).1 with
    | error e => exact absurd (.fails hrule hvalue) (hv _)
    | ok v =>
      cases v with
      | boolean b =>
        refine if_neg fun hb => hv _ (.decides hrule hvalue (.inl ?_))
        rw [hb]
      | missing => exact if_neg fun hb => hv _ (.decides hrule hvalue (.inr ⟨rfl, hb.symm⟩))
      | _ => exact absurd (.notACondition hrule hvalue nofun nofun) (hv _)

/-! ### Lists -/

/-- Elements that do not settle the call are passed one after the other. -/
theorem run_scan_of_forall_not_settles {before : List Value}
    (h : IsUnderWay env source s compiled s')
    (hbefore : ∀ i v, before[i]? = some v →
      ∀ result, ¬q.Settles env levels source s (index + i) v result) :
    ∃ compiled' t, IsUnderWay env source s compiled' t ∧
      ∀ rest deeper, EvaluatesOn env levels before deeper →
        (Run.perform env deeper (q.scan source compiled index (before ++ rest))).run s' =
          (Run.perform env deeper
            (q.scan source compiled' (index + before.length) rest)).run t := by
  induction before generalizing compiled s' index with
  | nil => exact ⟨compiled, s', h, fun _ _ _ => rfl⟩
  | cons v before ih =>
    obtain ⟨rule, t, ht, hrun⟩ : ∃ rule t, IsUnderWay env source s (some rule) t ∧ _ :=
      run_scan_of_not_settles h (Nat.add_zero index ▸ hbefore 0 v rfl)
    have hrest (i : Nat) (w : Value) (hw : before[i]? = some w) (result : Except Error Value) :
        ¬q.Settles env levels source s (index + 1 + i) w result := by
      rw [Nat.add_right_comm]
      exact hbefore (i + 1) w hw result
    obtain ⟨compiled', t', ht', hruns⟩ := ih ht hrest
    refine ⟨compiled', t', ht', fun rest deeper hdeeper => ?_⟩
    rw [List.cons_append, hrun _ deeper (hdeeper.mono (List.cons_subset_cons v before.nil_subset)),
      hruns rest deeper (hdeeper.mono (List.subset_cons_self v before)), List.length_cons,
      Nat.add_right_comm, Nat.add_assoc]

theorem isUnderWay_start : IsUnderWay env source s none s :=
  ⟨.refl env s, nofun⟩

/-- A scan ends at the first element that settles the call, whatever comes after it. -/
theorem run_scan_of_first {items : List Value} {result : Except Error Value}
    (h : q.FirstSettles env levels source s items index result) :
    ∃ t, ∀ items' deeper, items'.take (index + 1) = items.take (index + 1) →
      EvaluatesOn env levels (items.take (index + 1)) deeper →
      (Run.perform env deeper (q.scan source none 0 items')).run s = (result, t) := by
  obtain ⟨v, hv, hsettles⟩ := h.settles
  obtain ⟨hindex, rfl⟩ := List.getElem?_eq_some_iff.mp hv
  have hlength : 0 + (items.take index).length = index := by
    rw [List.length_take]
    omega
  have hbefore (i : Nat) (w : Value) (hw : (items.take index)[i]? = some w)
      (result : Except Error Value) : ¬q.Settles env levels source s (0 + i) w result := by
    rw [List.getElem?_take] at hw
    split at hw
    · next hi =>
      rw [Nat.zero_add]
      exact h.unsettled i hi w hw result
    · cases hw
  obtain ⟨compiled, t, ht, hpassed⟩ := run_scan_of_forall_not_settles isUnderWay_start hbefore
  rw [hlength] at hpassed
  obtain ⟨t', hended⟩ := run_scan_of_settles ht hsettles
  refine ⟨t', fun items' deeper hitems hdeeper => ?_⟩
  rw [List.take_succ_eq_append_getElem hindex] at hitems hdeeper
  rw [← List.take_append_drop (index + 1) items', hitems, List.append_assoc,
    hpassed _ deeper (hdeeper.mono (List.subset_append_left _ _))]
  exact hended _ deeper (hdeeper.mono (List.subset_append_right _ _))

/-- Where there is no first element that settles the call, none does. -/
theorem not_settles_of_not_firstSettles {items : List Value}
    (h : ∀ index result, ¬q.FirstSettles env levels source s items index result) (i : Nat) :
    ∀ v, items[i]? = some v → ∀ result, ¬q.Settles env levels source s i v result := by
  induction i using Nat.strongRecOn with
  | ind i ih => exact fun v hv result hsettles => h i result ⟨⟨v, hv, hsettles⟩, ih⟩

/-- A rule that cannot be compiled settles the call at the first element, if that is not
    settled otherwise. -/
theorem FirstSettles.eq_zero {items : List Value} {result : Except Error Value}
    (h : q.FirstSettles env levels source s items index result) {e : Error}
    (he : ((Run.compile env source).run s).1 = .error e) : index = 0 := by
  obtain ⟨v, hv, _⟩ := h.settles
  obtain ⟨hindex, _⟩ := List.getElem?_eq_some_iff.mp hv
  by_contra hpos
  obtain ⟨w, hw⟩ : ∃ w, items[0]? = some w := ⟨_, List.getElem?_eq_getElem (by omega)⟩
  have hunsettled := h.unsettled 0 (by omega) w hw
  cases w with
  | record fields => exact hunsettled _ (.notCompiled he)
  | _ => exact hunsettled _ (.notARecord nofun)

/-- A call of a quantifier on no elements has nothing compiled. On others it returns what
    the first element that settles it does, or the truth that is not decisive if there is
    none. That the rule cannot be compiled comes out at the very first element. What comes
    after the element that settles the call makes no difference to the answer or to the
    session, and neither does what evaluating the rule on it would do. -/
theorem call_stops_at_first (q : Quantifier) (env : Environment) (levels : Nat) (source : String)
    (s : Session) (registered : String → Bool) (name : String) (depth : Nat) :
    let evaluate := Expr.evalBelow env levels
    let action elements := q.toFunction.action registered ⟨name, depth, [.string source, elements]⟩
    action .missing = .done (.boolean !q.decisive) ∧
      action (.list []) = .done (.boolean !q.decisive) ∧
      ∀ items,
        ((∀ index result, ¬q.FirstSettles env levels source s items index result) →
          ((Run.perform env evaluate (action (.list items))).run s).1 =
            .ok (.boolean !q.decisive)) ∧
        ∀ index result, q.FirstSettles env levels source s items index result →
          ((Run.perform env evaluate (action (.list items))).run s).1 = result ∧
            (∀ e, ((Run.compile env source).run s).1 = .error e → index = 0) ∧
            ∀ items' deeper, items'.take (index + 1) = items.take (index + 1) →
              EvaluatesOn env levels (items.take (index + 1)) deeper →
              (Run.perform env deeper (action (.list items'))).run s =
                (Run.perform env evaluate (action (.list items))).run s := by
  intro evaluate action
  have hevaluate (items : List Value) : EvaluatesOn env levels items evaluate :=
    fun _ _ _ => rfl
  refine ⟨rfl, rfl, fun items => ⟨fun hnone => ?_, fun index result hfirst => ?_⟩⟩
  · have hunsettled (i : Nat) (v : Value) (hv : items[i]? = some v) (result : Except Error Value) :
        ¬q.Settles env levels source s (0 + i) v result := by
      rw [Nat.zero_add]
      exact not_settles_of_not_firstSettles hnone i v hv result
    obtain ⟨compiled, t, _, hpassed⟩ := run_scan_of_forall_not_settles isUnderWay_start hunsettled
    have hrun := hpassed [] evaluate (hevaluate items)
    rw [List.append_nil] at hrun
    exact congrArg Prod.fst hrun
  · obtain ⟨t, hended⟩ := run_scan_of_first hfirst
    have hrun : (Run.perform env evaluate (action (.list items))).run s = (result, t) :=
      hended items evaluate rfl (hevaluate _)
    exact ⟨congrArg Prod.fst hrun, fun _ he => hfirst.eq_zero he,
      fun items' deeper hitems hdeeper => (hended items' deeper hitems hdeeper).trans hrun.symm⟩

/-- The second of three records settles that not all are as the rule says, although the
    third element is no record. -/
theorem call_stops_at_first_decisive :
    let env : Environment := ⟨Registry.builtin, {}⟩
    let s : Session := ⟨Caches.empty env.config.cacheCapacity, []⟩
    let items : List Value := [.record [("x", .boolean true)], .record [], .integer 5]
    all.FirstSettles env 8 "x" s items 1 (.ok (.boolean false)) ∧
      ((Run.perform env (Expr.evalBelow env 8)
        (all.toFunction.action (fun _ => true) ⟨"all", 0, [.string "x", .list items]⟩)).run s).1 =
          .ok (.boolean false) := by
  intro env s items
  have hrule : ((Run.compile env "x").run s).1 = .ok ⟨"x", .field "x", [], none⟩ := by
    rfl
  have hfirst : all.FirstSettles env 8 "x" s items 1 (.ok (.boolean false)) := by
    refine ⟨⟨.record [], rfl, .decides hrule rfl (.inr ⟨rfl, rfl⟩)⟩, fun i hi v hv result h => ?_⟩
    obtain rfl : i = 0 := by omega
    obtain rfl : Value.record [("x", .boolean true)] = v := Option.some.inj hv
    have hvalue : ((Expr.evalBelow env 8 (.field "x") [("x", .boolean true)]).run s).1 =
        .ok (.boolean true) := rfl
    cases h with
    | notARecord hkind => exact hkind rfl
    | notCompiled he => cases hrule.symm.trans he
    | fails hrule' he =>
      cases hrule.symm.trans hrule'
      cases hvalue.symm.trans he
    | notACondition hrule' hv' hboolean _ =>
      cases hrule.symm.trans hrule'
      cases hvalue.symm.trans hv'
      exact hboolean rfl
    | decides hrule' hv' htruth =>
      cases hrule.symm.trans hrule'
      cases hvalue.symm.trans hv'
      rcases htruth with htruth | ⟨htruth, _⟩ <;> cases htruth
  obtain ⟨_, _, hitems⟩ := call_stops_at_first all env 8 "x" s (fun _ => true) "all" 0
  exact ⟨hfirst, ((hitems items).2 1 _ hfirst).1⟩

end Quantifier

end RuleEngine
