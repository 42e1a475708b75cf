import Mathlib.Data.List.Forall2
import RuleEngine.Proofs.Record.Ordered

/-!
# Null and absent

A member of an object that is null is read as a field whose value is missing,
and so is the value of a field that is not there. Leaving out the null members
of a JSON value, in all its objects, leaves out the missing fields of what it is
read as, and nothing is refused then that was not refused before, nor for
another reason or at another place (`Record.ofJson_withoutNulls`).

In the record that is left the values under the names are the same but for what
is left out inside them (`Record.lookup_withoutMissing`). This is the one place
where it matters that the names of an object increase: if a name stood twice,
leaving out the first entry would uncover the second. So records that differ in
missing fields only have under each name values that differ in no more
(`Value.Interchangeable.lookup`).
-/

namespace RuleEngine

/-! ### Leaving out -/

namespace Json

mutual

/-- A JSON value without the members that are null in any of its objects. -/
def withoutNulls : Json → Json
  | array items => .array (itemsWithoutNulls items)
  | object members => .object (membersWithoutNulls members)
  | json => json

/-- The items of an array without the null members inside them. Items that are null
    stay. -/
def itemsWithoutNulls : List Json → List Json
  | [] => []
  | json :: rest => withoutNulls json :: itemsWithoutNulls rest

/-- The members of an object that are not null. -/
def membersWithoutNulls : List (String × Json) → List (String × Json)
  | [] => []
  | (name, json) :: rest =>
    if json.kind = .null then membersWithoutNulls rest
    else (name, withoutNulls json) :: membersWithoutNulls rest

end

end Json

namespace Value

mutual

/-- A value without the missing fields of any record in it. -/
def withoutMissing : Value → Value
  | list items => .list (itemsWithoutMissing items)
  | record fields => .record (fieldsWithoutMissing fields)
  | v => v

/-- The items of a list without the missing fields inside them. -/
def itemsWithoutMissing : List Value → List Value
  | [] => []
  | v :: rest => withoutMissing v :: itemsWithoutMissing rest

/-- The fields of a record that are not missing. -/
def fieldsWithoutMissing : List (String × Value) → List (String × Value)
  | [] => []
  | (name, v) :: rest =>
    if v.kind = .missing then fieldsWithoutMissing rest
    else (name, withoutMissing v) :: fieldsWithoutMissing rest

end

end Value

namespace Record

/-! ### Reading what is left -/

theorem kind_of_ofMember {place : Path} {json : Json} {v : Value}
    (h : ofMember place json = .ok v) : v.kind = .missing ↔ json.kind = .null := by
  rcases ofMember_eq_ok h with ⟨rfl, rfl⟩ | ⟨_, rfl, rfl⟩ | ⟨_, rfl, rfl⟩ | ⟨_, rfl, rfl⟩ |
    ⟨_, rfl, rfl⟩ | ⟨_, _, rfl, _, rfl⟩
  all_goals simp [Value.kind, Json.kind]

mutual

/-- A member without null members is read as its value without missing fields. -/
theorem ofMember_withoutNulls (place : Path) : (json : Json) →
    ofMember place json.withoutNulls = (ofMember place json).map Value.withoutMissing
  | .null => rfl
  | .boolean _ => rfl
  | .number (.integer _) => rfl
  | .number (.unsigned _) => rfl
  | .number (.float _) => rfl
  | .string _ => rfl
  | .array items => by
    rw [Json.withoutNulls, ofMember, ofMember, ofItems_withoutNulls]
    rcases ofItems place 0 items with _ | values <;> rfl
  | .object _ => rfl

theorem ofMembers_withoutNulls (place : Path) : (members : List (String × Json)) →
    ofMembers place (Json.membersWithoutNulls members) =
      (ofMembers place members).map Value.fieldsWithoutMissing
  | [] => rfl
  | (name, json) :: rest => by
    have ih := ofMembers_withoutNulls place rest
    rw [Json.membersWithoutNulls, ofMembers]
    split
    · next hnull =>
      -- A null member is read as missing, and neither is there afterwards.
      obtain rfl : json = .null := by
        rcases json with _ | _ | _ | _ | _ | _ <;> first | rfl | cases hnull
      rw [ih]
      rcases ofMembers place rest with _ | fields <;> rfl
    · next hnull =>
      rw [ofMembers, ofMember_withoutNulls (place ++ [PathStep.field name]) json, ih]
      rcases hv : ofMember (place ++ [PathStep.field name]) json with e | v
      · rfl
      · have hmissing : ¬v.kind = .missing := mt (kind_of_ofMember hv).mp hnull
        rcases ofMembers place rest with e | fields
        · rfl
        · change Except.ok _ = Except.ok (Value.fieldsWithoutMissing ((name, v) :: fields))
          rw [Value.fieldsWithoutMissing, if_neg hmissing]

theorem ofItems_withoutNulls (place : Path) (index : Nat) : (items : List Json) →
    ofItems place index (Json.itemsWithoutNulls items) =
      (ofItems place index items).map Value.itemsWithoutMissing
  | [] => rfl
  | .object members :: rest => by
    rw [Json.itemsWithoutNulls, Json.withoutNulls, ofItems, ofItems,
      ofMembers_withoutNulls (place ++ [PathStep.item index]) members,
      ofItems_withoutNulls place (index + 1) rest]
    rcases ofMembers (place ++ [PathStep.item index]) members with _ | fields
    · rfl
    · rcases ofItems place (index + 1) rest with _ | values <;> rfl
  | .null :: _ => rfl
  | .boolean _ :: _ => rfl
  | .number _ :: _ => rfl
  | .string _ :: _ => rfl
  | .array _ :: _ => rfl

end

/-- A JSON value without null members is read as its record without missing fields,
    or refused for the same reason at the same place. -/
theorem ofJson_withoutNulls (json : Json) :
    ofJson json.withoutNulls = (ofJson json).map Value.fieldsWithoutMissing := by
  rcases json with _ | _ | _ | _ | _ | members
  case object => exact ofMembers_withoutNulls [] members
  all_goals rfl

/-! ### Looking up what is left -/

theorem lookup_cons (key : String) (v : Value) (rest : Record) (name : String) :
    lookup ((key, v) :: rest) name = if key = name then v else lookup rest name := by
  rw [lookup, lookup, Fields.get?]
  split <;> rfl

/-- A field is missing if its name is not among those that are bound. -/
theorem lookup_of_forall_ne {record : Record} {name : String}
    (h : ∀ entry ∈ record, name ≠ entry.1) : record.lookup name = .missing := by
  induction record with
  | nil => rfl
  | cons entry rest ih =>
    obtain ⟨hne, hrest⟩ := List.forall_mem_cons.mp h
    rw [lookup_cons, if_neg hne.symm, ih hrest]

/-- Leaving out missing fields changes the value of a field only inside. -/
theorem lookup_withoutMissing {record : Record} (hsorted : Fields.Sorted record) (name : String) :
    lookup (Value.fieldsWithoutMissing record) name = (record.lookup name).withoutMissing := by
  induction record with
  | nil => rfl
  | cons entry rest ih =>
    obtain ⟨key, v⟩ := entry
    obtain ⟨hfirst, hrest⟩ := List.pairwise_cons.mp hsorted
    rw [Value.fieldsWithoutMissing, lookup_cons]
    by_cases hname : key = name
    · subst hname
      rw [if_pos rfl]
      by_cases hmissing : v.kind = .missing
      · -- No later entry has the name, so what is found is missing on both sides.
        have habsent : lookup rest key = .missing :=
          lookup_of_forall_ne fun entry hentry heq => String.lt_irrefl _ (heq ▸ hfirst entry hentry)
        rcases v with _ | _ | _ | _ | _ | _ | _
        case missing => rw [if_pos hmissing, ih hrest, habsent]
        all_goals cases hmissing
      · rw [if_neg hmissing, lookup_cons, if_pos rfl]
    · rw [if_neg hname]
      by_cases hmissing : v.kind = .missing
      · rw [if_pos hmissing, ih hrest]
      · rw [if_neg hmissing, lookup_cons, if_neg hname, ih hrest]

theorem isOrdered_lookup {record : Record} (h : ∀ field ∈ record, field.2.IsOrdered)
    (name : String) : (record.lookup name).IsOrdered := by
  induction record with
  | nil => exact .missing
  | cons entry rest ih =>
    obtain ⟨hfirst, hrest⟩ := List.forall_mem_cons.mp h
    rw [lookup_cons]
    split
    · exact hfirst
    · exact ih hrest

end Record

/-! ### Values that differ in missing fields -/

namespace Value

/-- Values that are equal, or ordered and equal but for the missing fields of the
    records inside them. What a rule itself holds need not be ordered, but is the same
    on both sides. -/
def Interchangeable (v v' : Value) : Prop :=
  v = v' ∨ (v.IsOrdered ∧ v'.IsOrdered ∧ v.withoutMissing = v'.withoutMissing)

variable {v v' : Value} {items items' : List Value} {fields fields' : Record}

theorem Interchangeable.refl (v : Value) : Interchangeable v v :=
  .inl rfl

theorem Interchangeable.withoutMissing_eq (h : Interchangeable v v') :
    v.withoutMissing = v'.withoutMissing := by
  rcases h with rfl | ⟨_, _, h⟩
  · rfl
  · exact h

theorem forall₂_interchangeable : {items items' : List Value} →
    (∀ v ∈ items, v.IsOrdered) → (∀ v ∈ items', v.IsOrdered) →
    itemsWithoutMissing items = itemsWithoutMissing items' →
    List.Forall₂ Interchangeable items items'
  | [], [], _, _, _ => .nil
  | [], _ :: _, _, _, heq => nomatch heq
  | _ :: _, [], _, _, heq => nomatch heq
  | v :: rest, v' :: rest', h, h', heq => by
    obtain ⟨hv, hrest⟩ := List.forall_mem_cons.mp h
    obtain ⟨hv', hrest'⟩ := List.forall_mem_cons.mp h'
    rw [itemsWithoutMissing, itemsWithoutMissing, List.cons.injEq] at heq
    exact .cons (.inr ⟨hv, hv', heq.1⟩) (forall₂_interchangeable hrest hrest' heq.2)

/-- The items of lists that may stand for each other may, one by one. -/
theorem Interchangeable.forall₂ (h : Interchangeable (.list items) (.list items')) :
    List.Forall₂ Interchangeable items items' := by
  rcases h with h | ⟨h, h', heq⟩
  · cases h
    exact List.forall₂_same.mpr fun v _ => .refl v
  · rw [withoutMissing, withoutMissing, list.injEq] at heq
    exact forall₂_interchangeable (isOrdered_list_iff.mp h) (isOrdered_list_iff.mp h') heq

/-- So may the values of the fields of records. -/
theorem Interchangeable.lookup (h : Interchangeable (.record fields) (.record fields'))
    (name : String) : Interchangeable (fields.lookup name) (fields'.lookup name) := by
  rcases h with h | ⟨h, h', heq⟩
  · cases h
    exact .refl _
  · obtain ⟨hsorted, hfields⟩ := isOrdered_record_iff.mp h
    obtain ⟨hsorted', hfields'⟩ := isOrdered_record_iff.mp h'
    rw [withoutMissing, withoutMissing, record.injEq] at heq
    refine .inr ⟨Record.isOrdered_lookup hfields name, Record.isOrdered_lookup hfields' name, ?_⟩
    rw [← Record.lookup_withoutMissing hsorted, heq, Record.lookup_withoutMissing hsorted']

end Value

end RuleEngine
