/-!
# Kinds

Every value has a *kind*. The operator tables, the checks made before a rule
runs and the messages of failures speak of kinds, not of values.
-/

namespace RuleEngine

/-- What sort of thing a value is. -/
inductive Kind where
  | missing
  | boolean
  | integer
  | float
  | string
  | list
  | record
  deriving DecidableEq

/-- The word for a kind in messages. -/
def Kind.name : Kind → String
  | missing => "missing"
  | boolean => "boolean"
  | integer => "integer"
  | float => "float"
  | string => "string"
  | list => "list"
  | record => "record"

/-- All kinds, in the order of the constructors. -/
def Kind.all : List Kind := [missing, boolean, integer, float, string, list, record]

theorem Kind.mem_all (k : Kind) : k ∈ Kind.all := by
  cases k <;> simp [Kind.all]

/-- What is said of all kinds can be checked for each of them, as of an operator table. -/
instance {p : Kind → Prop} [DecidablePred p] : Decidable (∀ k, p k) :=
  decidable_of_decidable_of_iff (p := ∀ k ∈ Kind.all, p k)
    ⟨fun h k => h k k.mem_all, fun h k _ => h k⟩

end RuleEngine
