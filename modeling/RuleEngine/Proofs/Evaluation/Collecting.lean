import Mathlib.Data.List.Sort
import RuleEngine.Proofs.Parser.Branches

/-!
# Names in a tree

The functions of a tree are those of its calls, wherever they stand: in an operand
that evaluation would skip, or among the arguments of another call
(`Expr.mem_functionNames_iff`). The same goes for its fields
(`Expr.mem_fieldNames_iff`). Whether a call is collected before its arguments or
after them makes no difference (`Expr.functionNames_eq`).
-/

namespace RuleEngine

/-! ### Parts of a tree -/

namespace Expr

/-- One tree is within another: it is that tree, or is within an operand or an argument
    of it. -/
inductive Within (part : Expr) : Expr → Prop
  | self : Within part part
  | under {e child : Expr} (hchild : child ∈ e.children) (h : Within part child) : Within part e

/-- What holds of a tree by itself or by one of its operands or arguments holds by a part
    that has it by itself. -/
theorem iff_exists_within {Has Own : Expr → Prop}
    (h : ∀ e, Has e ↔ Own e ∨ ∃ child ∈ e.children, Has child) (e : Expr) :
    Has e ↔ ∃ part, part.Within e ∧ Own part := by
  constructor
  · intro he
    -- The induction is on the depth, since operands and arguments are met as children.
    induction hdepth : e.depthBy 1 using Nat.strong_induction_on generalizing e with
    | _ depth ih =>
      rcases (h e).mp he with hown | ⟨child, hchild, hhas⟩
      · exact ⟨e, .self, hown⟩
      · have hlt : child.depthBy 1 < depth := by
          rw [← hdepth, depthBy_one e]
          exact Nat.lt_succ_of_le (depthBy_le_ofAll hchild)
        obtain ⟨part, hpart, hown⟩ := ih _ hlt child hhas rfl
        exact ⟨part, .under hchild hpart, hown⟩
  · rintro ⟨part, hpart, hown⟩
    induction hpart with
    | self => exact (h part).mpr (.inl hown)
    | under hchild _ ih => exact (h _).mpr (.inr ⟨_, hchild, ih⟩)

/-! ### Calls and fields -/

variable {name : String}

theorem callsOfAll_eq_flatMap (es : List Expr) : callsOfAll es = es.flatMap calls := by
  induction es with
  | nil => rfl
  | cons e rest ih => rw [callsOfAll, ih, List.flatMap_cons]

theorem readsOfAll_eq_flatMap (es : List Expr) : readsOfAll es = es.flatMap reads := by
  induction es with
  | nil => rfl
  | cons e rest ih => rw [readsOfAll, ih, List.flatMap_cons]

/-- The names of the calls are those of the calls within the tree. -/
theorem mem_calls_iff (e : Expr) :
    name ∈ e.calls ↔ ∃ args, (call name args).Within e := by
  have hstep (e : Expr) : name ∈ e.calls ↔
      (∃ args, e = call name args) ∨ ∃ child ∈ e.children, name ∈ child.calls := by
    cases e with
    | call function args =>
      rw [calls, List.mem_append, callsOfAll_eq_flatMap, List.mem_flatMap, or_comm]
      simp [children, eq_comm]
    | _ => simp [calls, children]
  rw [iff_exists_within hstep]
  constructor
  · rintro ⟨_, hpart, args, rfl⟩
    exact ⟨args, hpart⟩
  · rintro ⟨args, h⟩
    exact ⟨_, h, args, rfl⟩

/-- The names of the fields are those of the fields within the tree. -/
theorem mem_reads_iff (e : Expr) : name ∈ e.reads ↔ (field name).Within e := by
  have hstep (e : Expr) : name ∈ e.reads ↔
      e = field name ∨ ∃ child ∈ e.children, name ∈ child.reads := by
    cases e with
    | field other => simp [reads, children, eq_comm]
    | call function args => simp [reads, children, readsOfAll_eq_flatMap]
    | _ => simp [reads, children]
  rw [iff_exists_within hstep, exists_eq_right]

theorem mem_functionNames_iff (e : Expr) :
    name ∈ e.functionNames ↔ ∃ args, (call name args).Within e :=
  mem_sortedNames.trans (mem_calls_iff e)

theorem mem_fieldNames_iff (e : Expr) : name ∈ e.fieldNames ↔ (field name).Within e :=
  mem_sortedNames.trans (mem_reads_iff e)

end Expr

theorem pairwise_sortedNames (names : List String) : (sortedNames names).Pairwise (· < ·) :=
  List.pairwise_map.mpr (Table.ofList _).sorted

/-- Which names there are decides what they are in order. -/
theorem sortedNames_congr {names names' : List String} (h : ∀ name, name ∈ names ↔ name ∈ names') :
    sortedNames names = sortedNames names' := by
  refine (pairwise_sortedNames names).eq_of_mem_iff (pairwise_sortedNames names') fun name => ?_
  rw [mem_sortedNames, mem_sortedNames, h]

namespace Expr

mutual

/-- The names of the calls from left to right, each call before its arguments. -/
def callsInward : Expr → List String
  | literal _ => []
  | field _ => []
  | binary _ left right => callsInward left ++ callsInward right
  | unary _ operand => callsInward operand
  | call function args => function :: callsInwardOfAll args

/-- The same of the calls in some expressions. -/
def callsInwardOfAll : List Expr → List String
  | [] => []
  | e :: rest => callsInward e ++ callsInwardOfAll rest

end

mutual

theorem callsInward_perm : (e : Expr) → e.callsInward.Perm e.calls
  | literal _ => .refl _
  | field _ => .refl _
  | binary _ left right => (callsInward_perm left).append (callsInward_perm right)
  | unary _ operand => callsInward_perm operand
  | call function args =>
    ((callsInwardOfAll_perm args).cons function).trans (List.perm_append_singleton _ _).symm

theorem callsInwardOfAll_perm : (es : List Expr) → (callsInwardOfAll es).Perm (callsOfAll es)
  | [] => .refl _
  | e :: rest => (callsInward_perm e).append (callsInwardOfAll_perm rest)

end

/-- It makes no difference whether a call is collected before its arguments or after
    them. -/
theorem functionNames_eq (e : Expr) : e.functionNames = sortedNames e.callsInward :=
  sortedNames_congr fun _ => (callsInward_perm e).mem_iff.symm

end Expr

end RuleEngine
