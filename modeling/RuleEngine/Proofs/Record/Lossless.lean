import RuleEngine.Proofs.Runs
import RuleEngine.Record.Extract

/-!
# What extraction accepts and keeps

A JSON value is read as a record exactly if it has the shape of one: an object
whose members are null, truth values, strings, numbers within the signed 64-bit
integers or the floats, or arrays of objects of the same shape (`Json.IsRecord`).
Nothing is lost then: writing the record back gives the JSON value
(`Record.ofJson_lossless`).

The functions that extract records go down the JSON value one after the other,
through the members of an object, a member, and the items of an array, and so do
the proofs: what a member is read as is written back as that member
(`Record.toJson_of_ofMember`), and a member of the right shape is read
(`Record.exists_ofMember`). Numbers are taken as JSON holds them: one form for
each integer, and finite floats.
-/

namespace RuleEngine

/-! ### Numbers -/

/-- A number as JSON holds it: the integers beyond the signed ones have a form of
    their own, and floats are finite. -/
def JsonNumber.IsProper : JsonNumber → Prop
  | integer _ => True
  | unsigned n => 9223372036854775807 < n.toNat
  | float x => x.isFinite = true

/-- A number that is no integer beyond the signed 64-bit ones. -/
def JsonNumber.InRange : JsonNumber → Prop
  | unsigned n => n.toNat ≤ 9223372036854775807
  | _ => True

namespace Json

mutual

/-- The numbers anywhere in a JSON value. -/
def numbers : Json → List JsonNumber
  | number n => [n]
  | array items => numbersOfItems items
  | object members => numbersOfMembers members
  | _ => []

/-- The numbers in the items of an array. -/
def numbersOfItems : List Json → List JsonNumber
  | [] => []
  | json :: rest => numbers json ++ numbersOfItems rest

/-- The numbers in the members of an object. -/
def numbersOfMembers : List (String × Json) → List JsonNumber
  | [] => []
  | (_, json) :: rest => numbers json ++ numbersOfMembers rest

end

/-- The numbers in a JSON value are as JSON holds them. -/
def IsProper (json : Json) : Prop :=
  ∀ n ∈ json.numbers, n.IsProper

/-! ### Shapes -/

mutual

/-- A JSON value that a member of a record may have. -/
inductive IsField : Json → Prop
  | null : IsField .null
  | boolean (b : Bool) : IsField (.boolean b)
  | string (s : String) : IsField (.string s)
  | number {n : JsonNumber} (h : n.InRange) : IsField (.number n)
  | array {items : List Json} (h : ∀ item ∈ items, IsRecord item) : IsField (.array items)

/-- A JSON value of the shape of a record. -/
inductive IsRecord : Json → Prop
  | object {members : List (String × Json)} (h : ∀ member ∈ members, IsField member.2) :
    IsRecord (.object members)

end

/-! ### Equality

As with values, floats are equal as numbers: the two zeros are equal. -/

end Json

/-- Whether two numbers are equal. -/
def JsonNumber.same : JsonNumber → JsonNumber → Bool
  | integer a, integer b => a == b
  | unsigned a, unsigned b => a == b
  | float a, float b => a == b
  | _, _ => false

namespace Json

mutual

/-- Whether two JSON values are equal. -/
def same : Json → Json → Bool
  | null, null => true
  | boolean a, boolean b => a == b
  | number a, number b => a.same b
  | string a, string b => a == b
  | array as, array bs => sameItems as bs
  | object as, object bs => sameMembers as bs
  | _, _ => false

/-- Whether two arrays have equal items in the same order. -/
def sameItems : List Json → List Json → Bool
  | [], [] => true
  | a :: as, b :: bs => same a b && sameItems as bs
  | _, _ => false

/-- Whether two objects have equal members. -/
def sameMembers : List (String × Json) → List (String × Json) → Bool
  | [], [] => true
  | (name, a) :: as, (name', b) :: bs => name == name' && same a b && sameMembers as bs
  | _, _ => false

end

end Json

/-! ### Writing records -/

namespace Value

mutual

/-- A value as JSON. -/
def toJson : Value → Json
  | missing => .null
  | boolean b => .boolean b
  | integer n => .number (.integer n)
  | float x => .ofFloat x
  | string s => .string s
  | list items => .array (itemsToJson items)
  | record fields => .object (fieldsToJson fields)

/-- The items of a list as those of an array. -/
def itemsToJson : List Value → List Json
  | [] => []
  | v :: rest => toJson v :: itemsToJson rest

/-- The fields of a record as the members of an object. -/
def fieldsToJson : List (String × Value) → List (String × Json)
  | [] => []
  | (name, v) :: rest => (name, toJson v) :: fieldsToJson rest

end

end Value

namespace Record

/-- A record as JSON. -/
def toJson (record : Record) : Json :=
  .object (Value.fieldsToJson record)

/-! ### What is read is written back -/

theorem toJson_of_ofNumber {place : Path} {n : JsonNumber} {v : Value} (hn : n.IsProper)
    (h : ofNumber place n = .ok v) : n.InRange ∧ v.toJson = .number n := by
  cases n with
  | integer n =>
    cases h
    exact ⟨trivial, rfl⟩
  | unsigned n => cases h
  | float x =>
    cases h
    -- A float that is finite is written as a number and not as null.
    exact ⟨trivial, if_pos hn⟩

mutual

theorem toJson_of_ofMember {place : Path} {v : Value} :
    (json : Json) → json.IsProper → ofMember place json = .ok v → json.IsField ∧ v.toJson = json
  | .null, _, h => by
    cases h
    exact ⟨.null, rfl⟩
  | .boolean b, _, h => by
    cases h
    exact ⟨.boolean b, rfl⟩
  | .number n, hproper, h => by
    obtain ⟨hrange, hjson⟩ := toJson_of_ofNumber (hproper n (List.mem_singleton_self n)) h
    exact ⟨.number hrange, hjson⟩
  | .string s, _, h => by
    cases h
    exact ⟨.string s, rfl⟩
  | .array items, hproper, h => by
    obtain ⟨values, hvalues, h⟩ := bind_eq_ok_iff.mp h
    cases h
    obtain ⟨hitems, hjson⟩ := itemsToJson_of_ofItems items hproper hvalues
    exact ⟨.array hitems, by rw [Value.toJson, hjson]⟩
  | .object _, _, h => by cases h

theorem fieldsToJson_of_ofMembers {place : Path} {fields : List (String × Value)} :
    (members : List (String × Json)) → (∀ n ∈ Json.numbersOfMembers members, n.IsProper) →
    ofMembers place members = .ok fields →
    (∀ member ∈ members, member.2.IsField) ∧ Value.fieldsToJson fields = members
  | [], _, h => by
    cases h
    exact ⟨nofun, rfl⟩
  | (name, json) :: rest, hproper, h => by
    obtain ⟨hfirst, hrest⟩ := List.forall_mem_append.mp hproper
    obtain ⟨v, hv, h⟩ := bind_eq_ok_iff.mp h
    obtain ⟨fields, hfields, h⟩ := bind_eq_ok_iff.mp h
    cases h
    obtain ⟨hfield, hjson⟩ := toJson_of_ofMember json hfirst hv
    obtain ⟨hmembers, hwritten⟩ := fieldsToJson_of_ofMembers rest hrest hfields
    exact ⟨List.forall_mem_cons.mpr ⟨hfield, hmembers⟩, by rw [Value.fieldsToJson, hjson, hwritten]⟩

theorem itemsToJson_of_ofItems {place : Path} {index : Nat} {values : List Value} :
    (items : List Json) → (∀ n ∈ Json.numbersOfItems items, n.IsProper) →
    ofItems place index items = .ok values →
    (∀ item ∈ items, item.IsRecord) ∧ Value.itemsToJson values = items
  | [], _, h => by
    cases h
    exact ⟨nofun, rfl⟩
  | .object members :: rest, hproper, h => by
    obtain ⟨hfirst, hrest⟩ := List.forall_mem_append.mp hproper
    obtain ⟨fields, hfields, h⟩ := bind_eq_ok_iff.mp h
    obtain ⟨values, hvalues, h⟩ := bind_eq_ok_iff.mp h
    cases h
    obtain ⟨hmembers, hjson⟩ := fieldsToJson_of_ofMembers members hfirst hfields
    obtain ⟨hitems, hwritten⟩ := itemsToJson_of_ofItems rest hrest hvalues
    refine ⟨List.forall_mem_cons.mpr ⟨.object hmembers, hitems⟩, ?_⟩
    rw [Value.itemsToJson, Value.toJson, hjson, hwritten]
  | .null :: _, _, h => by cases h
  | .boolean _ :: _, _, h => by cases h
  | .number _ :: _, _, h => by cases h
  | .string _ :: _, _, h => by cases h
  | .array _ :: _, _, h => by cases h

end

/-! ### What has the right shape is read -/

mutual

theorem exists_ofMember (place : Path) :
    (json : Json) → json.IsProper → json.IsField → ∃ v, ofMember place json = .ok v
  | .null, _, _ => ⟨_, rfl⟩
  | .boolean _, _, _ => ⟨_, rfl⟩
  | .number (.integer _), _, _ => ⟨_, rfl⟩
  | .number (.float _), _, _ => ⟨_, rfl⟩
  | .number (.unsigned n), hproper, h => by
    -- Proper numbers of this form are too large, and a number in range is not.
    have hbeyond : 9223372036854775807 < n.toNat := hproper _ (List.mem_singleton_self _)
    rcases h with _ | _ | _ | hrange
    exact absurd hrange (Nat.not_le_of_lt hbeyond)
  | .string _, _, _ => ⟨_, rfl⟩
  | .array items, hproper, h => by
    rcases h with _ | _ | _ | _ | hitems
    obtain ⟨values, hvalues⟩ := exists_ofItems place 0 items hproper hitems
    exact ⟨.list values, bind_eq_ok_iff.mpr ⟨values, hvalues, rfl⟩⟩
  | .object _, _, h => nomatch h

theorem exists_ofMembers (place : Path) :
    (members : List (String × Json)) → (∀ n ∈ Json.numbersOfMembers members, n.IsProper) →
    (∀ member ∈ members, member.2.IsField) → ∃ fields, ofMembers place members = .ok fields
  | [], _, _ => ⟨_, rfl⟩
  | (name, json) :: rest, hproper, h => by
    obtain ⟨hfirst, hrest⟩ := List.forall_mem_append.mp hproper
    obtain ⟨hfield, hfields⟩ := List.forall_mem_cons.mp h
    obtain ⟨v, hv⟩ := exists_ofMember (place ++ [.field name]) json hfirst hfield
    obtain ⟨fields, hread⟩ := exists_ofMembers place rest hrest hfields
    exact ⟨(name, v) :: fields,
      bind_eq_ok_iff.mpr ⟨v, hv, bind_eq_ok_iff.mpr ⟨fields, hread, rfl⟩⟩⟩

theorem exists_ofItems (place : Path) (index : Nat) :
    (items : List Json) → (∀ n ∈ Json.numbersOfItems items, n.IsProper) →
    (∀ item ∈ items, item.IsRecord) → ∃ values, ofItems place index items = .ok values
  | [], _, _ => ⟨_, rfl⟩
  | .object members :: rest, hproper, h => by
    obtain ⟨hfirst, hrest⟩ := List.forall_mem_append.mp hproper
    obtain ⟨⟨hmembers⟩, hitems⟩ := List.forall_mem_cons.mp h
    obtain ⟨fields, hfields⟩ := exists_ofMembers (place ++ [.item index]) members hfirst hmembers
    obtain ⟨values, hvalues⟩ := exists_ofItems place (index + 1) rest hrest hitems
    exact ⟨.record fields :: values,
      bind_eq_ok_iff.mpr ⟨fields, hfields, bind_eq_ok_iff.mpr ⟨values, hvalues, rfl⟩⟩⟩
  | .null :: _, _, h => nomatch h _ List.mem_cons_self
  | .boolean _ :: _, _, h => nomatch h _ List.mem_cons_self
  | .number _ :: _, _, h => nomatch h _ List.mem_cons_self
  | .string _ :: _, _, h => nomatch h _ List.mem_cons_self
  | .array _ :: _, _, h => nomatch h _ List.mem_cons_self

end

/-! ### Comparing what is read -/

section

variable {place place' : Path} {index index' : Nat} {json json' : Json} {v v' : Value}

/-- A member is read as a value of its own sort. -/
theorem ofMember_eq_ok (h : ofMember place json = .ok v) :
    (json = .null ∧ v = .missing) ∨ (∃ b, json = .boolean b ∧ v = .boolean b) ∨
      (∃ n, json = .number (.integer n) ∧ v = .integer n) ∨
      (∃ x, json = .number (.float x) ∧ v = .float x) ∨ (∃ s, json = .string s ∧ v = .string s) ∨
      ∃ items values, json = .array items ∧ ofItems place 0 items = .ok values ∧
        v = .list values := by
  rcases json with _ | b | (n | n | x) | s | items | members
  case array =>
    obtain ⟨values, hvalues, h⟩ := bind_eq_ok_iff.mp h
    cases h
    simp [hvalues]
  all_goals
    cases h
    try simp

/-- An item is read as a record. -/
theorem ofItems_cons_eq_ok {rest : List Json} {values : List Value}
    (h : ofItems place index (json :: rest) = .ok values) :
    ∃ members fields values', json = .object members ∧
      ofMembers (place ++ [.item index]) members = .ok fields ∧
      ofItems place (index + 1) rest = .ok values' ∧ values = .record fields :: values' := by
  rcases json with _ | _ | _ | _ | _ | members
  case object =>
    obtain ⟨fields, hfields, h⟩ := bind_eq_ok_iff.mp h
    obtain ⟨values', hvalues', h⟩ := bind_eq_ok_iff.mp h
    cases h
    exact ⟨members, fields, values', rfl, hfields, hvalues', rfl⟩
  all_goals cases h

theorem same_of_scalar (h : ofMember place json = .ok v) (h' : ofMember place' json' = .ok v')
    (hjson : ∀ items, json ≠ .array items) : v.same v' = json.same json' := by
  rcases ofMember_eq_ok h with ⟨rfl, rfl⟩ | ⟨_, rfl, rfl⟩ | ⟨_, rfl, rfl⟩ | ⟨_, rfl, rfl⟩ |
    ⟨_, rfl, rfl⟩ | ⟨items, _, rfl, _⟩
  case inr.inr.inr.inr.inr => exact absurd rfl (hjson items)
  -- Those of one sort are compared in the same way, and others differ.
  all_goals
    rcases ofMember_eq_ok h' with ⟨rfl, rfl⟩ | ⟨_, rfl, rfl⟩ | ⟨_, rfl, rfl⟩ | ⟨_, rfl, rfl⟩ |
      ⟨_, rfl, rfl⟩ | ⟨_, _, rfl, _, rfl⟩
    all_goals rfl

end

mutual

/-- Values that are read compare as what they are read from. -/
theorem same_of_ofMember {place place' : Path} {v v' : Value} : (json json' : Json) →
    ofMember place json = .ok v → ofMember place' json' = .ok v' → v.same v' = json.same json'
  | .array items, json', h, h' => by
    obtain ⟨values, hvalues, h⟩ := bind_eq_ok_iff.mp h
    cases h
    rcases ofMember_eq_ok h' with ⟨rfl, rfl⟩ | ⟨_, rfl, rfl⟩ | ⟨_, rfl, rfl⟩ | ⟨_, rfl, rfl⟩ |
      ⟨_, rfl, rfl⟩ | ⟨items', values', rfl, hvalues', rfl⟩
    case inr.inr.inr.inr.inr => exact sameItems_of_ofItems items items' hvalues hvalues'
    all_goals rfl
  | .null, _, h, h' => same_of_scalar h h' nofun
  | .boolean _, _, h, h' => same_of_scalar h h' nofun
  | .number _, _, h, h' => same_of_scalar h h' nofun
  | .string _, _, h, h' => same_of_scalar h h' nofun
  | .object _, _, h, h' => same_of_scalar h h' nofun

theorem sameItems_of_ofItems {place place' : Path} {index index' : Nat}
    {values values' : List Value} : (items items' : List Json) →
    ofItems place index items = .ok values → ofItems place' index' items' = .ok values' →
    Value.sameItems values values' = Json.sameItems items items'
  | [], [], h, h' => by
    cases h
    cases h'
    rfl
  | [], _ :: _, h, h' => by
    obtain ⟨_, _, _, _, _, _, rfl⟩ := ofItems_cons_eq_ok h'
    cases h
    rfl
  | .object members :: rest, items', h, h' => by
    obtain ⟨fields, hfields, h⟩ := bind_eq_ok_iff.mp h
    obtain ⟨values, hvalues, h⟩ := bind_eq_ok_iff.mp h
    cases h
    rcases items' with _ | ⟨json', rest'⟩
    · cases h'
      rfl
    · obtain ⟨members', fields', values', rfl, hfields', hvalues', rfl⟩ := ofItems_cons_eq_ok h'
      rw [Value.sameItems, Json.sameItems, Value.same, Json.same,
        sameFields_of_ofMembers members members' hfields hfields',
        sameItems_of_ofItems rest rest' hvalues hvalues']
  | .null :: _, _, h, _ => by cases h
  | .boolean _ :: _, _, h, _ => by cases h
  | .number _ :: _, _, h, _ => by cases h
  | .string _ :: _, _, h, _ => by cases h
  | .array _ :: _, _, h, _ => by cases h

theorem sameFields_of_ofMembers {place place' : Path} {fields fields' : List (String × Value)} :
    (members members' : List (String × Json)) → ofMembers place members = .ok fields →
    ofMembers place' members' = .ok fields' →
    Value.sameFields fields fields' = Json.sameMembers members members'
  | [], [], h, h' => by
    cases h
    cases h'
    rfl
  | [], (_, _) :: _, h, h' => by
    obtain ⟨_, _, h'⟩ := bind_eq_ok_iff.mp h'
    obtain ⟨_, _, h'⟩ := bind_eq_ok_iff.mp h'
    cases h
    cases h'
    rfl
  | (name, json) :: rest, members', h, h' => by
    obtain ⟨v, hv, h⟩ := bind_eq_ok_iff.mp h
    obtain ⟨fields, hfields, h⟩ := bind_eq_ok_iff.mp h
    cases h
    rcases members' with _ | ⟨⟨name', json'⟩, rest'⟩
    · cases h'
      rfl
    · obtain ⟨v', hv', h'⟩ := bind_eq_ok_iff.mp h'
      obtain ⟨fields', hfields', h'⟩ := bind_eq_ok_iff.mp h'
      cases h'
      rw [Value.sameFields, Json.sameMembers, same_of_ofMember json json' hv hv',
        sameFields_of_ofMembers rest rest' hfields hfields']

end

/-! ### Whole records -/

theorem ofJson_eq_ok {json : Json} {record : Record} (h : ofJson json = .ok record) :
    ∃ members, json = .object members ∧ ofMembers [] members = .ok record := by
  rcases json with _ | _ | _ | _ | _ | members
  case object => exact ⟨members, rfl, h⟩
  all_goals cases h

theorem toJson_of_ofJson {json : Json} {record : Record} (hproper : json.IsProper)
    (h : ofJson json = .ok record) : json.IsRecord ∧ record.toJson = json := by
  obtain ⟨members, rfl, hmembers⟩ := ofJson_eq_ok h
  obtain ⟨hfields, hjson⟩ := fieldsToJson_of_ofMembers members hproper hmembers
  exact ⟨.object hfields, by rw [toJson, hjson]⟩

/-- A JSON value is read exactly if it has the shape of a record. What is written back
    then is the same JSON value, so that different ones never become one record, nor do
    they become records that are equal unless they are equal as JSON. -/
theorem ofJson_lossless (json : Json) (hproper : json.IsProper) :
    ((∃ record, ofJson json = .ok record) ↔ json.IsRecord) ∧
      ∀ record, ofJson json = .ok record → record.toJson = json ∧
        ∀ json' record', json'.IsProper → ofJson json' = .ok record' →
          (record = record' → json = json') ∧
            Value.sameFields record record' = json.same json' := by
  refine ⟨⟨fun ⟨record, h⟩ => (toJson_of_ofJson hproper h).1, fun h => ?_⟩, fun record h => ?_⟩
  · obtain ⟨hfields⟩ := h
    exact exists_ofMembers [] _ hproper hfields
  · refine ⟨(toJson_of_ofJson hproper h).2, fun json' record' hproper' h' => ⟨fun heq => ?_, ?_⟩⟩
    · calc
        json = record.toJson := (toJson_of_ofJson hproper h).2.symm
        _ = record'.toJson := by rw [heq]
        _ = json' := (toJson_of_ofJson hproper' h').2
    · obtain ⟨members, rfl, hmembers⟩ := ofJson_eq_ok h
      obtain ⟨members', rfl, hmembers'⟩ := ofJson_eq_ok h'
      exact sameFields_of_ofMembers members members' hmembers hmembers'

/-- Objects in arrays are read with what they hold, and an empty array differs from null. -/
theorem ofJson_lossless_nested :
    let items : Json := .array [.object [("Name", .null), ("Tags", .array [])]]
    let json : Json := .object [("Count", .number (.integer 2)), ("Items", items)]
    let items' : Json := .array [.object [("Name", .null), ("Tags", .null)]]
    let json' : Json := .object [("Count", .number (.integer 2)), ("Items", items')]
    let tags : Value := .list [.record [("Name", .missing), ("Tags", .list [])]]
    let record : Record := [("Count", .integer 2), ("Items", tags)]
    let tags' : Value := .list [.record [("Name", .missing), ("Tags", .missing)]]
    let record' : Record := [("Count", .integer 2), ("Items", tags')]
    json.IsProper ∧ json'.IsProper ∧ ofJson json = .ok record ∧ ofJson json' = .ok record' ∧
      json.IsRecord ∧ record.toJson = json ∧ Value.sameFields record record' = false := by
  intro items json items' json' tags record tags' record'
  have hproper : json.IsProper := List.forall_mem_singleton.mpr trivial
  have hproper' : json'.IsProper := List.forall_mem_singleton.mpr trivial
  have h : ofJson json = .ok record := rfl
  have h' : ofJson json' = .ok record' := rfl
  obtain ⟨hread, hkept⟩ := ofJson_lossless json hproper
  obtain ⟨hjson, hequal⟩ := hkept record h
  refine ⟨hproper, hproper', h, h', hread.mp ⟨record, h⟩, hjson, ?_⟩
  rw [(hequal json' record' hproper' h').2]
  rfl

end Record

end RuleEngine
