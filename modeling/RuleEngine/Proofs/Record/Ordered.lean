import RuleEngine.Proofs.Record.Lossless

/-!
# Records in order

The names in a JSON value that is read increase in every object (`Json.Ordered`). What
is read as a record keeps them, and so it is ordered as well
(`Record.isOrdered_of_ofJson`).
-/

namespace RuleEngine

namespace Record

theorem names_of_ofMembers {place : Path} {members : List (String × Json)}
    {fields : List (String × Value)} (h : ofMembers place members = .ok fields) :
    Fields.names fields = Fields.names members := by
  induction members generalizing fields with
  | nil =>
    cases h
    rfl
  | cons member rest ih =>
    obtain ⟨v, _, h⟩ := bind_eq_ok_iff.mp h
    obtain ⟨others, hothers, h⟩ := bind_eq_ok_iff.mp h
    cases h
    exact congrArg (member.1 :: ·) (ih hothers)

theorem sorted_of_ofMembers {place : Path} {members : List (String × Json)}
    {fields : List (String × Value)} (hsorted : Fields.Sorted members)
    (h : ofMembers place members = .ok fields) : Fields.Sorted fields := by
  have hnames : (Fields.names members).Pairwise (· < ·) := List.pairwise_map.mpr hsorted
  rw [← names_of_ofMembers h] at hnames
  exact List.pairwise_map.mp hnames

mutual

theorem isOrdered_of_ofMember {place : Path} {v : Value} : (json : Json) → json.IsOrdered →
    ofMember place json = .ok v → v.IsOrdered
  | .null, _, h => by
    cases h
    exact .missing
  | .boolean b, _, h => by
    cases h
    exact .boolean b
  | .number (.integer n), _, h => by
    cases h
    exact .integer n
  | .number (.unsigned _), _, h => by cases h
  | .number (.float x), _, h => by
    cases h
    exact .float x
  | .string s, _, h => by
    cases h
    exact .string s
  | .array items, hordered, h => by
    obtain ⟨values, hvalues, h⟩ := bind_eq_ok_iff.mp h
    cases h
    exact .list (isOrdered_of_ofItems items (Json.isOrdered_array_iff.mp hordered) hvalues)
  | .object _, _, h => by cases h

theorem isOrdered_of_ofMembers {place : Path} {fields : List (String × Value)} :
    (members : List (String × Json)) → (∀ member ∈ members, member.2.IsOrdered) →
    ofMembers place members = .ok fields → ∀ field ∈ fields, field.2.IsOrdered
  | [], _, h => by
    cases h
    exact nofun
  | (name, json) :: rest, hordered, h => by
    obtain ⟨hfirst, hrest⟩ := List.forall_mem_cons.mp hordered
    obtain ⟨v, hv, h⟩ := bind_eq_ok_iff.mp h
    obtain ⟨fields, hfields, h⟩ := bind_eq_ok_iff.mp h
    cases h
    exact List.forall_mem_cons.mpr
      ⟨isOrdered_of_ofMember json hfirst hv, isOrdered_of_ofMembers rest hrest hfields⟩

theorem isOrdered_of_ofItems {place : Path} {index : Nat} {values : List Value} :
    (items : List Json) → (∀ item ∈ items, item.IsOrdered) →
    ofItems place index items = .ok values → ∀ v ∈ values, v.IsOrdered
  | [], _, h => by
    cases h
    exact nofun
  | .object members :: rest, hordered, h => by
    obtain ⟨hfirst, hrest⟩ := List.forall_mem_cons.mp hordered
    obtain ⟨hsorted, hmembers⟩ := Json.isOrdered_object_iff.mp hfirst
    obtain ⟨fields, hfields, h⟩ := bind_eq_ok_iff.mp h
    obtain ⟨values, hvalues, h⟩ := bind_eq_ok_iff.mp h
    cases h
    refine List.forall_mem_cons.mpr ⟨?_, isOrdered_of_ofItems rest hrest hvalues⟩
    exact .record (sorted_of_ofMembers hsorted hfields)
      (isOrdered_of_ofMembers members hmembers hfields)
  | .null :: _, _, h => by cases h
  | .boolean _ :: _, _, h => by cases h
  | .number _ :: _, _, h => by cases h
  | .string _ :: _, _, h => by cases h
  | .array _ :: _, _, h => by cases h

end

/-- The record of a JSON value is in the order of that. -/
theorem isOrdered_of_ofJson {json : Json.Ordered} {record : Record}
    (h : ofJson json.1 = .ok record) : (Value.record record).IsOrdered := by
  obtain ⟨members, hobject, hmembers⟩ := ofJson_eq_ok h
  obtain ⟨hsorted, hfields⟩ := Json.isOrdered_object_iff.mp (hobject ▸ json.2)
  exact .record (sorted_of_ofMembers hsorted hmembers)
    (isOrdered_of_ofMembers members hfields hmembers)

end Record

end RuleEngine
