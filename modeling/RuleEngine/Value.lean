import RuleEngine.Fields
import RuleEngine.Kind
import RuleEngine.Numeric.Word

/-!
# Values

The values that fields hold and expressions compute: booleans, 64-bit integers,
double precision floats, strings, lists and records, and `missing` for the
value of an absent field. A record is a table from field names to values. That
its names increase, and those of the records inside it, is `Value.IsOrdered`: so
they do in what is extracted, whereas a rule or a host may hold any value.
-/

namespace RuleEngine

/-- A value of some kind. -/
inductive Value where
  | missing
  | boolean (b : Bool)
  | integer (n : Int64)
  | float (x : Float)
  | string (s : String)
  | list (items : List Value)
  | record (fields : List (String × Value))

/-- What a rule is evaluated against: a value for each field. -/
abbrev Record := Fields Value

/-- The value of a field; an absent field is missing. -/
def Record.lookup (record : Record) (name : String) : Value :=
  (Fields.get? record name).getD .missing

namespace Value

/-- The kind of a value. -/
def kind : Value → Kind
  | missing => .missing
  | boolean _ => .boolean
  | integer _ => .integer
  | float _ => .float
  | string _ => .string
  | list _ => .list
  | record _ => .record

/-- Whether a value is that of an absent field. -/
def isMissing (v : Value) : Bool :=
  v.kind = .missing

/-- The text of a string. -/
def string? : Value → Option String
  | string s => some s
  | _ => none

/-- The items of a list. -/
def items? : Value → Option (List Value)
  | list items => some items
  | _ => none

/-- The fields of a record. -/
def record? : Value → Option Record
  | record fields => some fields
  | _ => none

/-- Integers and floats as floats; an integer goes to the nearest one. -/
def number? : Value → Option Float
  | integer n => some (nearestFloat n)
  | float x => some x
  | _ => none

/-! ### Order -/

/-- The names in each record of a value increase. -/
inductive IsOrdered : Value → Prop
  | missing : IsOrdered .missing
  | boolean (b : Bool) : IsOrdered (.boolean b)
  | integer (n : Int64) : IsOrdered (.integer n)
  | float (x : Float) : IsOrdered (.float x)
  | string (s : String) : IsOrdered (.string s)
  | list {items : List Value} (h : ∀ item ∈ items, IsOrdered item) : IsOrdered (.list items)
  | record {fields : List (String × Value)} (hsorted : Fields.Sorted fields)
      (h : ∀ field ∈ fields, IsOrdered field.2) : IsOrdered (.record fields)

theorem isOrdered_list_iff {items : List Value} :
    (list items).IsOrdered ↔ ∀ item ∈ items, item.IsOrdered :=
  ⟨fun | .list h => h, .list⟩

theorem isOrdered_record_iff {fields : List (String × Value)} :
    (record fields).IsOrdered ↔ Fields.Sorted fields ∧ ∀ field ∈ fields, field.2.IsOrdered :=
  ⟨fun | .record hsorted h => ⟨hsorted, h⟩, fun ⟨hsorted, h⟩ => .record hsorted h⟩

/-! ### Equality

Floats are equal as numbers: a NaN differs from itself, and the two zeros are
equal. An integer never equals a float. -/

mutual

/-- Whether two values are equal. -/
def same : Value → Value → Bool
  | missing, missing => true
  | boolean a, boolean b => a == b
  | integer a, integer b => a == b
  | float a, float b => a == b
  | string a, string b => a == b
  | list as, list bs => sameItems as bs
  | record as, record bs => sameFields as bs
  | _, _ => false

/-- Whether two lists have equal items in the same order. -/
def sameItems : List Value → List Value → Bool
  | [], [] => true
  | a :: as, b :: bs => same a b && sameItems as bs
  | _, _ => false

/-- Whether two records have equal fields. -/
def sameFields : List (String × Value) → List (String × Value) → Bool
  | [], [] => true
  | (name, a) :: as, (name', b) :: bs => name == name' && same a b && sameFields as bs
  | _, _ => false

end

instance : BEq Value := ⟨same⟩

end Value

end RuleEngine
