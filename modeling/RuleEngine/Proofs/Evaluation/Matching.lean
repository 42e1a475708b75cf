import RuleEngine.Function.Builtin
import RuleEngine.Proofs.Evaluation.Invariants

/-!
# Matching by operator and by call

A pattern can be matched by the operators `=~` and `!~` and by a call of
`regexMatch`. The operators look at both operands at once; the function counts
its arguments and checks one after the other. They come to the same: given the
values of the operands, all three decide, or refuse the pattern, or refuse the
operands (`Matching.Outcomes`), and they leave the same caches
(`Matching.outcomes`). Only how operands are refused differs: for an operator
their kinds do not match, for the function an argument is not a string.

In an evaluation the operands come first, and are evaluated alike
(`Expr.operandsAt`). So the two ways cannot be told apart but by the journal and
by how operands are refused (`Expr.matching_agrees_with_call`).
-/

namespace RuleEngine

/-! ### Searches -/

/-- Only a text that is no pattern within the limits fails to be built. -/
theorem Pattern.exists_problem {config : Config} {text : String} {e : Error}
    (h : build config text = .error e) : ∃ problem, e = .invalidPattern text problem := by
  rw [build] at h
  generalize (if config.maxPatternLength < text.utf8ByteSize then _ else _ :
    Except PatternProblem Pattern) = built at h
  cases built with
  | ok pattern => cases h
  | error problem => exact ⟨problem, (Except.error.inj h).symm⟩

namespace Run

variable (env : Environment) (text subject : String) (s : Session)

/-- A search looks a pattern up in the caches and does nothing else to the session. -/
theorem run_search : (search env text subject).run s =
      ((s.caches.pattern env.config text).1.map (·.occursIn subject),
        { s with caches := (s.caches.pattern env.config text).2 }) :=
  run_bind_pure _ _ _

/-- The journal makes no difference to a search. -/
theorem run_search_noted (call : Call) :
    (search env text subject).run ⟨s.caches, call :: s.journal⟩ =
      (((search env text subject).run s).1,
        ⟨((search env text subject).run s).2.caches, call :: s.journal⟩) := by
  rw [run_search, run_search]

variable {env text subject s}

theorem exists_problem_of_search {e : Error} (h : ((search env text subject).run s).1 = .error e) :
    ∃ problem, e = .invalidPattern text problem := by
  rw [run_search] at h
  cases hpattern : (s.caches.pattern env.config text).1 with
  | ok pattern =>
    rw [hpattern] at h
    cases h
  | error e' =>
    rw [hpattern] at h
    obtain rfl := Except.error.inj h
    exact Pattern.exists_problem (Cache.eq_error_of_fetch hpattern)

end Run

/-! ### Values -/

/-- What comes of matching two values, by `=~`, by a call, and by `!~`. -/
inductive Matching.Outcomes (a b : Value) :
    Except Error Value → Except Error Value → Except Error Value → Prop
  /-- It is decided whether the pattern occurs. -/
  | decided (found : Bool) :
      Outcomes a b (.ok (.boolean found)) (.ok (.boolean found)) (.ok (.boolean !found))
  /-- The text is no pattern, or none within the limits. -/
  | invalid (text : String) (problem : PatternProblem) :
      Outcomes a b (.error (.invalidPattern text problem)) (.error (.invalidPattern text problem))
        (.error (.invalidPattern text problem))
  /-- The values are of the wrong kinds. -/
  | refused (position : Nat) (actual : Kind) :
      Outcomes a b (.error (.typeMismatch (.binary (.matching .found)) a.kind (some b.kind)))
        (.error (.invalidArgument regexMatchName (.notAString position actual)))
        (.error (.typeMismatch (.binary (.matching .absent)) a.kind (some b.kind)))

variable {env : Environment} {deeper : Expr → Record → Run Value}

theorem Matching.run_apply_strings (op : Matching) (subject text : String) (s : Session) :
    (op.apply env (.string subject) (.string text)).run s =
      (((Run.search env text subject).run s).1.map fun found => .boolean (found != (op = absent)),
        ((Run.search env text subject).run s).2) :=
  run_bind_pure _ _ s

/-- The function searches what the operators search. -/
theorem Run.run_regexMatch_strings (subject text : String) (s : Session) :
    (perform env deeper (regexMatchAction [.string subject, .string text])).run s =
      (((search env text subject).run s).1.map .boolean, ((search env text subject).run s).2) :=
  run_perform_search env deeper s text subject _

/-- A subject and a pattern are searched alike. -/
theorem Matching.outcomes_strings (subject text : String) (call : Call) (s : Session) :
    Outcomes (.string subject) (.string text)
        ((Matching.found.apply env (.string subject) (.string text)).run s).1
        ((Run.perform env deeper (regexMatchAction [.string subject, .string text])).run
          ⟨s.caches, call :: s.journal⟩).1
        ((Matching.absent.apply env (.string subject) (.string text)).run s).1 ∧
      ((Run.perform env deeper (regexMatchAction [.string subject, .string text])).run
          ⟨s.caches, call :: s.journal⟩).2.caches =
        ((Matching.found.apply env (.string subject) (.string text)).run s).2.caches ∧
      ((Matching.absent.apply env (.string subject) (.string text)).run s).2 =
        ((Matching.found.apply env (.string subject) (.string text)).run s).2 := by
  rw [run_apply_strings, run_apply_strings, Run.run_regexMatch_strings, Run.run_search_noted]
  refine ⟨?_, rfl, rfl⟩
  cases hresult : ((Run.search env text subject).run s).1 with
  | ok found =>
    cases found
    · exact .decided false
    · exact .decided true
  | error e =>
    obtain ⟨problem, rfl⟩ := Run.exists_problem_of_search hresult
    exact .invalid text problem

/-- Of any two values the operators and the function make the same. -/
theorem Matching.outcomes (a b : Value) (call : Call) (s : Session) :
    Outcomes a b ((Matching.found.apply env a b).run s).1
        ((Run.perform env deeper (regexMatchAction [a, b])).run ⟨s.caches, call :: s.journal⟩).1
        ((Matching.absent.apply env a b).run s).1 ∧
      ((Run.perform env deeper (regexMatchAction [a, b])).run
          ⟨s.caches, call :: s.journal⟩).2.caches =
        ((Matching.found.apply env a b).run s).2.caches ∧
      ((Matching.absent.apply env a b).run s).2 = ((Matching.found.apply env a b).run s).2 := by
  cases a with
  | string subject =>
    cases b with
    | string text => exact outcomes_strings subject text call s
    | _ => exact ⟨.refused 1 _, rfl, rfl⟩
  | missing =>
    -- The function lets a missing subject pass, so the pattern is checked first.
    cases b with
    | string text => exact ⟨.decided false, rfl, rfl⟩
    | _ => exact ⟨.refused 1 _, rfl, rfl⟩
  | _ => exact ⟨.refused 0 _, rfl, rfl⟩

/-! ### Expressions -/

namespace Expr

variable (env : Environment) (levels : Nat) (left right : Expr) (record : Record)

/-- The values of two operands, the left one first. -/
def operandsAt : Run (Value × Value) := do
  let a ← evalAt env levels left record
  let b ← evalAt env levels right record
  return (a, b)

theorem evalAt_matching (op : Matching) :
    evalAt env levels (.binary (.matching op) left right) record =
      operandsAt env levels left right record >>= fun (a, b) => op.apply env a b := by
  simp only [operandsAt, evalAt_eq, evalWith, bind_assoc, pure_bind]

variable {env}

theorem evalAt_regexMatch (h : Fields.get? env.registry regexMatchName = some regexMatch) :
    evalAt env levels (.call regexMatchName [left, right]) record =
      operandsAt env levels left right record >>= fun (a, b) => (do
        Run.note ⟨regexMatchName, env.config.maxDepth - levels, [a, b]⟩
        Run.perform env (evalBelow env levels) (regexMatchAction [a, b])) := by
  simp only [operandsAt, evalAt_eq, evalWith, evalAllWith, bind_assoc, pure_bind, h]
  rfl

/-- Where `regexMatch` is the built-in function, `a =~ b`, `regexMatch(a, b)` and
    `a !~ b` leave the same caches. A failure of an operand is the failure of all three.
    Otherwise they come to the same, and in a missing subject nothing is found by any of
    them, whatever the text of the pattern is and without a look at the caches. -/
theorem matching_agrees_with_call (h : Fields.get? env.registry regexMatchName = some regexMatch)
    (s : Session) :
    let operands := (operandsAt env levels left right record).run s
    let found := (evalAt env levels (.binary (.matching .found) left right) record).run s
    let called := (evalAt env levels (.call regexMatchName [left, right]) record).run s
    let absent := (evalAt env levels (.binary (.matching .absent) left right) record).run s
    called.2.caches = found.2.caches ∧ absent.2.caches = found.2.caches ∧
      (∀ e, operands.1 = .error e →
        found.1 = .error e ∧ called.1 = .error e ∧ absent.1 = .error e) ∧
      ∀ a b, operands.1 = .ok (a, b) →
        Matching.Outcomes a b found.1 called.1 absent.1 ∧
          ∀ text, a = .missing → b = .string text →
            found.1 = .ok (.boolean false) ∧ called.1 = .ok (.boolean false) ∧
              absent.1 = .ok (.boolean true) ∧ found.2.caches = operands.2.caches := by
  simp only [evalAt_matching, evalAt_regexMatch levels left right record h, run_bind]
  rcases (operandsAt env levels left right record).run s with ⟨e | ⟨a, b⟩, s'⟩
  · exact ⟨rfl, rfl, fun e' he => Except.error.inj he ▸ ⟨rfl, rfl, rfl⟩, nofun⟩
  · obtain ⟨houtcomes, hcalled, habsent⟩ := @Matching.outcomes env (evalBelow env levels) a b
      ⟨regexMatchName, env.config.maxDepth - levels, [a, b]⟩ s'
    refine ⟨hcalled, congrArg Session.caches habsent, nofun, ?_⟩
    rintro a' b' hvalues
    cases hvalues
    refine ⟨houtcomes, ?_⟩
    rintro text rfl rfl
    exact ⟨rfl, rfl, rfl, rfl⟩

/-- In an absent field nothing is found, even by a text that is no pattern. -/
theorem matching_agrees_with_call_absent_field :
    let env : Environment := ⟨Registry.builtin, {}⟩
    let s : Session := ⟨Caches.empty env.config.cacheCapacity, []⟩
    let left : Expr := .field "Name"
    let right : Expr := .literal (.string "(")
    let found := (evalAt env 64 (.binary (.matching .found) left right) []).run s
    let called := (evalAt env 64 (.call regexMatchName [left, right]) []).run s
    let absent := (evalAt env 64 (.binary (.matching .absent) left right) []).run s
    Fields.get? env.registry regexMatchName = some regexMatch ∧
      (Pattern.build env.config "(").isOk = false ∧
      Matching.Outcomes .missing (.string "(") found.1 called.1 absent.1 ∧
      found.1 = .ok (.boolean false) ∧ called.1 = .ok (.boolean false) ∧
      absent.1 = .ok (.boolean true) ∧ called.2.caches = s.caches := by
  intro env s left right found called absent
  have hregistry : Fields.get? env.registry regexMatchName = some regexMatch := rfl
  have hoperands : (operandsAt env 64 left right []).run s = (.ok (.missing, .string "("), s) := rfl
  obtain ⟨hcalled, _, _, hvalues⟩ := matching_agrees_with_call 64 left right [] hregistry s
  obtain ⟨houtcomes, hmissing⟩ := hvalues .missing (.string "(") (congrArg Prod.fst hoperands)
  obtain ⟨hfound, hcall, habsent, hcaches⟩ := hmissing "(" rfl rfl
  have hunchanged : called.2.caches = s.caches := by
    rw [hoperands] at hcaches
    exact hcalled.trans hcaches
  exact ⟨hregistry, rfl, houtcomes, hfound, hcall, habsent, hunchanged⟩

end Expr

end RuleEngine
