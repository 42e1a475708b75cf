import RuleEngine.Engine
import RuleEngine.Proofs.Evaluation.Absent

/-!
# Null fields and absent fields

To an engine with the built-in functions alone a null member of a JSON object is
the same as none (`Engine.evaluate_null_eq_absent`). JSON values that are equal
without their null members are refused for the same reason, or read as records
that a rule does not tell apart, wherever in the record or in the items of its
lists the members were: not by its result, not by its failure, and not by what
it leaves in the caches.

A rule may hand on a list, and then its value shows which members were there. So
values are the same only without their missing fields. Functions of a host could
tell more, as they may look into the lists that they are given.
-/

namespace RuleEngine

/-- JSON values that are equal without null members are read as records that are equal
    without missing fields. -/
theorem Record.ofJson_interchangeable {json json' : Json.Ordered}
    (h : json.1.withoutNulls = json'.1.withoutNulls) :
    Agree (fun record record' => Value.Interchangeable (.record record) (.record record'))
      (ofJson json.1) (ofJson json'.1) := by
  have hmap : (ofJson json.1).map Value.fieldsWithoutMissing =
      (ofJson json'.1).map Value.fieldsWithoutMissing := by
    rw [← ofJson_withoutNulls, h, ofJson_withoutNulls]
  refine (Agree.of_map_eq hmap).mono fun record record' ⟨hread, hread', heq⟩ => .inr ⟨?_, ?_, ?_⟩
  · exact isOrdered_of_ofJson hread
  · exact isOrdered_of_ofJson hread'
  · rw [Value.withoutMissing, Value.withoutMissing, heq]

namespace Engine

/-- A null field and an absent one are the same to rules. On JSON values that are equal
    without null members extraction fails alike, or an engine with the built-in
    functions alone evaluates a rule with the same outcome: the same truth or failure, the
    same value without missing fields, and the same entries in its caches afterwards. -/
theorem evaluate_null_eq_absent (engine : Engine) (hbuiltin : engine.registry.IsBuiltin)
    (rule : Compiled) (json json' : Json.Ordered)
    (h : json.1.withoutNulls = json'.1.withoutNulls) :
    Agree
      (fun record record' =>
        (engine.evaluateRecord rule record).1 = (engine.evaluateRecord rule record').1 ∧
          (engine.evaluate rule record).1.map Value.withoutMissing =
            (engine.evaluate rule record').1.map Value.withoutMissing ∧
          (engine.evaluateRecord rule record).2.session.caches =
            (engine.evaluateRecord rule record').2.session.caches ∧
          (engine.evaluate rule record).2.session.caches =
            (engine.evaluate rule record').2.session.caches)
      (Record.ofJson json.1) (Record.ofJson json'.1) := by
  refine (Record.ofJson_interchangeable h).mono fun record record' hrecord => ?_
  have hbuiltin : engine.environment.registry.IsBuiltin := hbuiltin
  obtain ⟨hagree, hcaches⟩ := Expr.evalAt_interchangeable hbuiltin
    engine.environment.config.maxDepth rule.root hrecord engine.session engine.session rfl
  refine ⟨?_, ?_, hcaches, hcaches⟩
  · exact (Value.bind_truth_eq_of_agree hagree (.conditionOf rule.source)).symm
  · exact hagree.map_eq fun _ _ hvalue => hvalue.withoutMissing_eq

/-- A member of an item that is null may as well not be there. -/
theorem evaluate_null_eq_absent_quantified :
    let json : Json.Ordered := ⟨.object [("Items", .array [.object [("Name", .null),
      ("Size", .number (.integer 2))]]), ("Note", .null)], by decide⟩
    let json' : Json.Ordered := ⟨.object [("Items", .array [.object
      [("Size", .number (.integer 2))]])], by decide⟩
    let fields : Record := [("Name", .missing), ("Size", .integer 2)]
    let record : Record := [("Items", .list [.record fields]), ("Note", .missing)]
    let fields' : Record := [("Size", .integer 2)]
    let record' : Record := [("Items", .list [.record fields'])]
    let source := "any('Name == Note && Size > 1', Items)"
    let args : List Expr := [.literal (.string "Name == Note && Size > 1"), .field "Items"]
    let rule : Compiled := ⟨source, .call "any" args, ["any"], some .boolean⟩
    let engine := ofConfig {}
    engine.registry.IsBuiltin ∧ json.1.withoutNulls = json'.1.withoutNulls ∧
      Record.ofJson json.1 = .ok record ∧ Record.ofJson json'.1 = .ok record' ∧
      (engine.evaluateRecord rule record).1 = (engine.evaluateRecord rule record').1 ∧
      (engine.evaluateRecord rule record).2.session.caches =
        (engine.evaluateRecord rule record').2.session.caches := by
  intro json json' fields record fields' record' source args rule engine
  have h : json.1.withoutNulls = json'.1.withoutNulls := rfl
  have hread : Record.ofJson json.1 = .ok record := rfl
  have hread' : Record.ofJson json'.1 = .ok record' := rfl
  have hagree := evaluate_null_eq_absent engine Registry.isBuiltin_builtin rule json json' h
  rw [hread, hread'] at hagree
  obtain ⟨htruth, _, hcaches, _⟩ := hagree
  exact ⟨Registry.isBuiltin_builtin, h, hread, hread', htruth, hcaches⟩

end Engine

end RuleEngine
