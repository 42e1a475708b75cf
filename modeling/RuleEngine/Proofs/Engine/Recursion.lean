import RuleEngine.Proofs.Engine.Compiling
import RuleEngine.Proofs.Engine.States
import RuleEngine.Proofs.Evaluation.Scanning
import RuleEngine.Proofs.Parser.Acceptance

/-!
# Where recursion is cut off

A record can hold the rule for the records in it. The rule that applies it with `any` is
evaluated one level deeper for each record inside another, and refused where no level is
left. Here it is shown that this is exactly the level that is configured: so many levels
are evaluated, and one more fails with as many notes of an element as there are levels
above it (`Engine.recursion_cut_off`).
-/

namespace RuleEngine

/-- Records so many levels inside each other, each with the rule for those inside. The
    innermost one has a rule, but no records that it would be for. -/
def Record.nested : Nat → Record
  | 0 => [("Rule", .string "true")]
  | n + 1 => [("Items", .list [.record (nested n)]), ("Rule", .string "any(Rule, Items)")]

/-- The failure of an element, first of its list, inside so many others. -/
def Error.inElements : Nat → Error → Error
  | 0, e => e
  | count + 1, e => .inElement "any" 0 (inElements count e)

namespace Expr

/-- Some of the records in a record are as its rule says. -/
def anyItem : Expr :=
  .call "any" [.field "Rule", .field "Items"]

theorem parse_anyItem {limit : Nat} (h : 2 ≤ limit) :
    parse "any(Rule, Items)" limit = .ok anyItem := by
  have hscan : Token.scan "any(Rule, Items)" = .ok [⟨.identifier "any", 0⟩,
      ⟨.symbol .leftParen, 3⟩, ⟨.identifier "Rule", 4⟩, ⟨.symbol .comma, 8⟩,
      ⟨.identifier "Items", 10⟩, ⟨.symbol .rightParen, 15⟩, ⟨.endOfInput, 16⟩] := rfl
  refine parse_of_le h ?_
  rw [parse, hscan]
  rfl

variable {env : Environment} {s : Session}

/-- The quantifier gets the rule and the records of the record at hand, and the call is
    noted. -/
theorem run_anyItem (hany : Fields.get? env.registry "any" = some Quantifier.any.toFunction)
    (levels : Nat) (record : Record) (s : Session) : ∃ call,
      (evalAt env levels anyItem record).run s =
        (Run.perform env (evalBelow env levels)
          (Quantifier.any.action [record.lookup "Rule", record.lookup "Items"])).run
          ((Run.note call).run s).2 := by
  refine ⟨⟨"any", env.config.maxDepth - levels, [record.lookup "Rule", record.lookup "Items"]⟩, ?_⟩
  rw [evalAt_eq, anyItem, evalWith, hany]
  rfl

/-- The rule can be compiled, strictly or not. -/
theorem exists_ofSource_anyItem (hdepth : 2 ≤ env.config.maxDepth)
    (hany : Fields.get? env.registry "any" = some Quantifier.any.toFunction) :
    ∃ rule, Compiled.ofSource env.scope env.config.maxDepth "any(Rule, Items)" = .ok rule ∧
      rule.root = anyItem := by
  have hkind : env.scope.returnKind? "any" = some (some .boolean) :=
    congrArg (Option.map Function.returnKind) hany
  have hcheck : anyItem.check env.scope = .ok (some .boolean) := by
    refine check_call_eq_ok_iff.mpr ⟨rfl, ?_⟩
    rw [callKind, hkind]
  exact ⟨_, Compiled.ofSource_eq_ok_iff.mpr ⟨_, parse_anyItem hdepth, _, hcheck, rfl⟩, rfl⟩

/-- Sound caches answer with the rule, stored or compiled now. -/
theorem exists_compile_anyItem (hdepth : 2 ≤ env.config.maxDepth)
    (hany : Fields.get? env.registry "any" = some Quantifier.any.toFunction)
    (hs : s.caches.IsSound env) : ∃ rule,
      ((Run.compile env "any(Rule, Items)").run s).1 = .ok rule ∧ rule.root = anyItem := by
  obtain ⟨rule, hrule, hroot⟩ := exists_ofSource_anyItem hdepth hany
  have hagree : Agree Compiled.Alike ((Run.compile env "any(Rule, Items)").run s).1
      (Compiled.ofSource env.scope env.config.maxDepth "any(Rule, Items)") :=
    (hs.expression _).1
  obtain ⟨answered, hanswered, halike⟩ := hagree.exists_of_right hrule
  exact ⟨answered, hanswered, halike.root.symm.trans hroot⟩

/-- One level: what comes of the record inside comes of the record around it, and a failure
    is noted to be that of the first element. -/
theorem run_anyItem_nested (hdepth : 2 ≤ env.config.maxDepth)
    (hany : Fields.get? env.registry "any" = some Quantifier.any.toFunction)
    (hs : s.caches.IsSound env) (levels n : Nat) :
    ∃ t : Session, t.caches.IsSound env ∧ ∀ result,
      ((evalBelow env levels anyItem (.nested n)).run t).1 = result →
        ((∃ b, result = .ok (.boolean b)) ∨ ∃ e, result = .error e) →
        ((evalAt env levels anyItem (.nested (n + 1))).run s).1 =
          result.mapError (.inElement "any" 0) := by
  obtain ⟨call, hrun⟩ := run_anyItem hany levels (.nested (n + 1)) s
  have ht : ((Run.note call).run s).2.caches.IsSound env := hs
  obtain ⟨rule, hrule, hroot⟩ := exists_compile_anyItem hdepth hany ht
  obtain ⟨t, _, hscan⟩ := @Quantifier.run_scan_record .any env levels _ _ _ _ _ 0
    Quantifier.isUnderWay_start hrule (.nested n)
  have hstep := hscan [] (evalBelow env levels) fun _ _ _ => rfl
  -- The rule in the record is the one that is being evaluated.
  rw [hroot] at hstep
  refine ⟨_, ht, fun result hresult houtcome => ?_⟩
  rw [hresult] at hstep
  rw [hrun]
  refine (congrArg Prod.fst hstep).trans ?_
  rcases houtcome with ⟨_ | _, rfl⟩ | ⟨e, rfl⟩ <;> rfl

/-- With so many levels left, records inside each other are all evaluated if there are no more
    of them, and otherwise each level notes the failure of the one below. The induction is on
    the levels that are left, with any session in which the caches are sound. -/
theorem run_anyItem_levels (hdepth : 2 ≤ env.config.maxDepth)
    (hany : Fields.get? env.registry "any" = some Quantifier.any.toFunction)
    (hs : s.caches.IsSound env) (levels n : Nat) :
    ((evalBelow env levels anyItem (.nested n)).run s).1 =
      if n < levels then .ok (.boolean false)
      else .error (.inElements levels (.recursionLimit env.config.maxDepth)) := by
  induction levels generalizing n s with
  | zero => rfl
  | succ levels ih =>
    cases n with
    | zero =>
      -- There are no records inside the innermost one, so none is evaluated.
      obtain ⟨call, hrun⟩ := run_anyItem hany levels (.nested 0) s
      rw [if_pos (Nat.succ_pos levels), evalBelow, hrun]
      rfl
    | succ n =>
      obtain ⟨t, ht, hstep⟩ := run_anyItem_nested hdepth hany hs levels n
      rw [evalBelow, hstep _ (ih ht n) ?_]
      · by_cases hn : n < levels
        · rw [if_pos hn, if_pos (Nat.succ_lt_succ hn)]
          rfl
        · rw [if_neg hn, if_neg (mt Nat.lt_of_succ_lt_succ hn)]
          rfl
      · by_cases hn : n < levels
        · exact .inl ⟨false, if_pos hn⟩
        · exact .inr ⟨_, if_neg hn⟩

end Expr

namespace Engine

/-- Recursion is cut off exactly at the level that is configured. An engine with the built-in
    functions and at least two levels, whatever it has been asked before, compiles the rule
    for records inside each other. On records inside each other no more often than there are
    levels it finds that none is as its rule says. On any others it fails, since the limit is
    met, and the failure is noted to be that of a first element once more than there are
    levels. -/
theorem recursion_cut_off (config : Config) (hdepth : 2 ≤ config.maxDepth)
    (requests : List Request) (n : Nat) :
    let engine := (ofConfig config).after requests
    ∃ rule, engine.compile "any(Rule, Items)" = .ok rule ∧
      (engine.evaluate rule (.nested n)).1 =
        if n ≤ config.maxDepth then .ok (.boolean false)
        else .error (.inElements (config.maxDepth + 1) (.recursionLimit config.maxDepth)) := by
  intro engine
  have hsteady : engine.IsSteady config := isSteady_after _ config requests
  have hany : Fields.get? engine.environment.registry "any" =
      some Quantifier.any.toFunction :=
    extends_after (ofConfig config) requests "any" _ rfl
  have hlimit : engine.environment.config.maxDepth = config.maxDepth :=
    congrArg Config.maxDepth hsteady.config
  have hlevels : 2 ≤ engine.environment.config.maxDepth := hlimit ▸ hdepth
  obtain ⟨rule, hrule, hroot⟩ := Expr.exists_ofSource_anyItem hlevels hany
  have hrun := Expr.run_anyItem_levels hlevels hany hsteady.isSound (config.maxDepth + 1) n
  refine ⟨rule, hrule, ?_⟩
  rw [evaluate, Expr.eval, hroot, hlimit]
  simp only [hlimit, Nat.lt_succ_iff] at hrun
  exact hrun

/-- With two levels, a record inside another inside a third is the last that is evaluated. -/
theorem recursion_cut_off_third :
    let config : Config := { maxDepth := 2 }
    let requests : List Request := [.compile "Rule"]
    2 ≤ config.maxDepth ∧ ∃ rule,
      ((ofConfig config).after requests).compile "any(Rule, Items)" = .ok rule ∧
      (((ofConfig config).after requests).evaluate rule (.nested 2)).1 = .ok (.boolean false) ∧
      (((ofConfig config).after requests).evaluate rule (.nested 3)).1 =
        .error (.inElement "any" 0 (.inElement "any" 0 (.inElement "any" 0
          (.recursionLimit 2)))) := by
  intro config requests
  obtain ⟨rule, hrule, hvalue⟩ := recursion_cut_off config (Nat.le_refl 2) requests 2
  obtain ⟨rule', hrule', hfails⟩ := recursion_cut_off config (Nat.le_refl 2) requests 3
  obtain rfl := Except.ok.inj (hrule.symm.trans hrule')
  exact ⟨Nat.le_refl 2, rule, hrule, hvalue, hfails⟩

end Engine

end RuleEngine
