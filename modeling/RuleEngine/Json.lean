import RuleEngine.Error
import RuleEngine.Fields
import RuleEngine.Numeric.Word

/-!
# JSON values

A number is a signed 64-bit integer, a larger integer that fits 64 bits without
sign, or a float. Objects are tables in the order of their keys, also inside each
other: JSON is read, and made of the data of a host, as a `Json.Ordered`, which
carries this order. `Json` is what is underneath.
-/

namespace RuleEngine

/-- A number, as it is written. -/
inductive JsonNumber where
  | integer (n : Int64)
  /-- An integer beyond the signed ones. -/
  | unsigned (n : UInt64)
  | float (x : Float)

/-- A JSON value. -/
inductive Json where
  | null
  | boolean (b : Bool)
  | number (n : JsonNumber)
  | string (s : String)
  | array (items : List Json)
  | object (members : List (String × Json))

namespace Json

/-- The sort of a JSON value. -/
def kind : Json → JsonKind
  | null => .null
  | boolean _ => .boolean
  | number _ => .number
  | string _ => .string
  | array _ => .sequence
  | object _ => .record

/-- An integer as a JSON number, if 64 bits hold it. -/
def ofInt? (n : Int) : Option JsonNumber :=
  match int64? n with
  | some m => some (.integer m)
  | none =>
    if 0 ≤ n ∧ n < UInt64.size then some (.unsigned (UInt64.ofNat n.toNat)) else none

/-- A float as JSON; infinities and what is no number become null. -/
def ofFloat (x : Float) : Json :=
  if x.isFinite then number (.float x) else null

/-! ### Order -/

/-- The names in each object of a JSON value increase. -/
inductive IsOrdered : Json → Prop
  | null : IsOrdered .null
  | boolean (b : Bool) : IsOrdered (.boolean b)
  | number (n : JsonNumber) : IsOrdered (.number n)
  | string (s : String) : IsOrdered (.string s)
  | array {items : List Json} (h : ∀ item ∈ items, IsOrdered item) : IsOrdered (.array items)
  | object {members : List (String × Json)} (hsorted : Fields.Sorted members)
      (h : ∀ member ∈ members, IsOrdered member.2) : IsOrdered (.object members)

theorem isOrdered_array_iff {items : List Json} :
    (array items).IsOrdered ↔ ∀ item ∈ items, item.IsOrdered :=
  ⟨fun | .array h => h, .array⟩

theorem isOrdered_object_iff {members : List (String × Json)} :
    (object members).IsOrdered ↔
      Fields.Sorted members ∧ ∀ member ∈ members, member.2.IsOrdered :=
  ⟨fun | .object hsorted h => ⟨hsorted, h⟩, fun ⟨hsorted, h⟩ => .object hsorted h⟩

mutual

/-- Whether a JSON value is ordered can be computed. -/
instance decidableIsOrdered : (json : Json) → Decidable json.IsOrdered
  | .null => .isTrue .null
  | .boolean b => .isTrue (.boolean b)
  | .number n => .isTrue (.number n)
  | .string s => .isTrue (.string s)
  | .array items =>
    have := decidableItemsOrdered items
    decidable_of_decidable_of_iff isOrdered_array_iff.symm
  | .object members =>
    have := decidableMembersOrdered members
    decidable_of_decidable_of_iff isOrdered_object_iff.symm

def decidableItemsOrdered : (items : List Json) → Decidable (∀ item ∈ items, item.IsOrdered)
  | [] => .isTrue (List.forall_mem_nil _)
  | json :: rest =>
    have := decidableIsOrdered json
    have := decidableItemsOrdered rest
    decidable_of_decidable_of_iff List.forall_mem_cons.symm

def decidableMembersOrdered : (members : List (String × Json)) →
    Decidable (∀ member ∈ members, member.2.IsOrdered)
  | [] => .isTrue (List.forall_mem_nil _)
  | (_, json) :: rest =>
    have := decidableIsOrdered json
    have := decidableMembersOrdered rest
    decidable_of_decidable_of_iff List.forall_mem_cons.symm

end

/-- A JSON value together with its order. -/
abbrev Ordered : Type :=
  { json : Json // json.IsOrdered }

namespace Ordered

def null : Ordered :=
  ⟨.null, .null⟩

def boolean (b : Bool) : Ordered :=
  ⟨.boolean b, .boolean b⟩

def number (n : JsonNumber) : Ordered :=
  ⟨.number n, .number n⟩

def string (s : String) : Ordered :=
  ⟨.string s, .string s⟩

def array (items : List Ordered) : Ordered :=
  ⟨.array items.unattach, .array fun _ h => (List.mem_unattach.mp h).1⟩

def object (members : Table Ordered) : Ordered :=
  ⟨.object (members.map Subtype.val).entries, .object (members.map Subtype.val).sorted fun _ h => by
    obtain ⟨member, _, rfl⟩ := List.mem_map.mp h
    exact member.2.2⟩

def ofFloat (x : Float) : Ordered :=
  ⟨Json.ofFloat x, by
    rw [Json.ofFloat]
    split
    · exact .number _
    · exact .null⟩

end Ordered

end Json

end RuleEngine
