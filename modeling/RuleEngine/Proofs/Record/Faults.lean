import Mathlib.Data.List.Induction
import RuleEngine.Proofs.Record.Ordered

/-!
# The first fault of a JSON value

A JSON object that is no record has faults: nodes that are not supported where they
stand (`PathStep.Refuses`). A depth-first walk, through members in the order of their
names and through items by position, meets a node before what is inside it, so it
meets nodes in the lexicographic order of their places (`Path.Before`). Extraction
names the place of the first fault and says why it is one (`Record.ofJson_names_first`).

What is extracted of a part of a value *reports* the faults in it
(`Record.Reports`): it names the first of them, or there are none. Reports are put
together as the functions that extract records are, one for each of them, since the
faults of what is extracted first come first (`Record.Reports.bind`).
-/

namespace RuleEngine

/-! ### Places -/

/-- A step leads to a place before another: to a smaller name, or an earlier item. -/
inductive PathStep.Before : PathStep → PathStep → Prop
  | field {name name' : String} (h : name < name') : Before (.field name) (.field name')
  | item {index index' : Nat} (h : index < index') : Before (.item index) (.item index')

/-- A place is met before another on a depth-first walk. -/
def Path.Before (place place' : Path) : Prop :=
  List.Lex PathStep.Before place place'

/-- How a place is written: names with points between them, and positions in brackets. -/
inductive Path.IsWritten : Path → String → Prop
  | name (name : String) : IsWritten [.field name] name
  | field {place : Path} {text : String} (h : IsWritten place text) (name : String) :
      IsWritten (place ++ [.field name]) (text ++ "." ++ name)
  | item {place : Path} {text : String} (h : IsWritten place text) (index : Nat) :
      IsWritten (place ++ [.item index]) (text ++ "[" ++ toString index ++ "]")

theorem Path.tail_append (place place' : Path) :
    tail (place ++ place') = tail place ++ tail place' := by
  induction place with
  | nil => simp [tail]
  | cons step place ih => cases step <;> simp [tail, ih, String.append_assoc]

/-- The text of a place inside a record is how it is written. -/
theorem Path.isWritten_text (name : String) (place : Path) :
    IsWritten (.field name :: place) (text (.field name :: place)) := by
  induction place using List.reverseRecOn with
  | nil => simpa [text, tail] using IsWritten.name name
  | append_singleton place step ih =>
    rw [text] at ih ⊢
    rw [tail_append, ← String.append_assoc, ← List.cons_append]
    cases step with
    | field name' => simpa [tail, String.append_assoc] using ih.field name'
    | item index => simpa [tail, String.append_assoc] using ih.item index

/-! ### Faults -/

/-- A step leads to a JSON value that is not supported there, for a reason: an object or
    an integer beyond the signed ones as a member, or anything but an object as an item. -/
inductive PathStep.Refuses : PathStep → Json → ShapeProblem → Prop
  | nestedRecord (name : String) (members : List (String × Json)) :
      Refuses (.field name) (.object members) .nestedRecord
  | integerTooLarge (name : String) {n : UInt64} (h : 9223372036854775807 < n.toNat) :
      Refuses (.field name) (.number (.unsigned n)) (.integerTooLarge n.toNat)
  | itemNotARecord (index : Nat) {json : Json} (h : json.kind ≠ .record) :
      Refuses (.item index) json (.itemNotARecord json.kind)

namespace Json

/-- At a place inside a JSON value there is a node. -/
inductive At : Json → Path → Json → Prop
  | here (json : Json) : At json [] json
  | member {members : List (String × Json)} {name : String} {json node : Json} {place : Path}
      (h : (name, json) ∈ members) (hat : At json place node) :
      At (.object members) (.field name :: place) node
  | item {items : List Json} {index : Nat} {json node : Json} {place : Path}
      (h : items[index]? = some json) (hat : At json place node) :
      At (.array items) (.item index :: place) node

/-- A node is not supported where the last step to it leads. -/
def HasFault (json : Json) (place : Path) (problem : ShapeProblem) : Prop :=
  ∃ node step, json.At place node ∧ place.getLast? = some step ∧ step.Refuses node problem

/-- A fault that is met before all others. -/
structure IsFirstFault (json : Json) (place : Path) (problem : ShapeProblem) : Prop where
  hasFault : json.HasFault place problem
  first : ∀ place' problem', json.HasFault place' problem' → place' = place ∨ place.Before place'

/-- A fault in a JSON value that a step leads to: it is not supported itself, or has a fault
    inside it. -/
def FaultFrom (step : PathStep) (json : Json) (place : Path) (problem : ShapeProblem) : Prop :=
  (place = [] ∧ step.Refuses json problem) ∨ json.HasFault place problem

/-- A fault in the members of an object. -/
def FaultOfMembers (members : List (String × Json)) (place : Path) (problem : ShapeProblem) :
    Prop :=
  ∃ name json below, (name, json) ∈ members ∧ place = .field name :: below ∧
    FaultFrom (.field name) json below problem

/-- A fault in the items of an array, the first of which has an index. -/
def FaultOfItems (index : Nat) (items : List Json) (place : Path) (problem : ShapeProblem) :
    Prop :=
  ∃ k json below, items[k]? = some json ∧ place = .item (index + k) :: below ∧
    FaultFrom (.item (index + k)) json below problem

variable {place : Path} {problem : ShapeProblem}

/-- The faults behind a step are those of what the step leads to. -/
theorem faultFrom_iff {step : PathStep} {json : Json} :
    FaultFrom step json place problem ↔
      ∃ node last, json.At place node ∧ (step :: place).getLast? = some last ∧
        last.Refuses node problem := by
  cases place with
  | nil =>
    constructor
    · rintro (⟨_, h⟩ | ⟨_, _, _, hlast, _⟩)
      · exact ⟨json, step, .here json, rfl, h⟩
      · cases hlast
    · rintro ⟨_, _, ⟨⟩, ⟨⟩, h⟩
      exact .inl ⟨rfl, h⟩
  | cons next below =>
    rw [List.getLast?_cons_cons]
    exact or_iff_right nofun

theorem hasFault_object_iff {members : List (String × Json)} :
    (object members).HasFault place problem ↔ FaultOfMembers members place problem := by
  constructor
  · rintro ⟨node, last, hat, hlast, h⟩
    cases hat with
    | here => cases hlast
    | member hmember hat => exact ⟨_, _, _, hmember, rfl, faultFrom_iff.mpr ⟨_, _, hat, hlast, h⟩⟩
  · rintro ⟨name, json, below, hmember, rfl, h⟩
    obtain ⟨node, last, hat, hlast, h⟩ := faultFrom_iff.mp h
    exact ⟨node, last, .member hmember hat, hlast, h⟩

theorem hasFault_array_iff {items : List Json} :
    (array items).HasFault place problem ↔ FaultOfItems 0 items place problem := by
  simp only [FaultOfItems, Nat.zero_add]
  constructor
  · rintro ⟨node, last, hat, hlast, h⟩
    cases hat with
    | here => cases hlast
    | item hitem hat => exact ⟨_, _, _, hitem, rfl, faultFrom_iff.mpr ⟨_, _, hat, hlast, h⟩⟩
  · rintro ⟨index, json, below, hitem, rfl, h⟩
    obtain ⟨node, last, hat, hlast, h⟩ := faultFrom_iff.mp h
    exact ⟨node, last, .item hitem hat, hlast, h⟩

/-- An object is supported as an item, so only its members may have faults. -/
theorem faultFrom_item_object {index : Nat} {members : List (String × Json)} :
    FaultFrom (.item index) (object members) place problem ↔
      FaultOfMembers members place problem := by
  rw [← hasFault_object_iff]
  refine or_iff_right ?_
  rintro ⟨_, ⟨⟩⟩
  contradiction

/-- An array is supported as a member, so only its items may have faults. -/
theorem faultFrom_field_array {name : String} {items : List Json} :
    FaultFrom (.field name) (array items) place problem ↔ FaultOfItems 0 items place problem := by
  rw [← hasFault_array_iff]
  exact or_iff_right nofun

/-- What has no members and no items has no fault inside it. -/
theorem not_hasFault {json : Json} (hmembers : ∀ members, json ≠ object members)
    (hitems : ∀ items, json ≠ array items) : ¬json.HasFault place problem := by
  rintro ⟨node, last, hat, hlast, _⟩
  cases hat with
  | here => cases hlast
  | member _ _ => exact hmembers _ rfl
  | item _ _ => exact hitems _ rfl

theorem faultOfMembers_cons {name : String} {json : Json} {rest : List (String × Json)} :
    FaultOfMembers ((name, json) :: rest) place problem ↔
      (∃ below, place = .field name :: below ∧ FaultFrom (.field name) json below problem) ∨
        FaultOfMembers rest place problem := by
  constructor
  · rintro ⟨name', json', below, hmember, hplace, h⟩
    rcases List.mem_cons.mp hmember with heq | hmember
    · cases heq
      exact .inl ⟨below, hplace, h⟩
    · exact .inr ⟨name', json', below, hmember, hplace, h⟩
  · rintro (⟨below, hplace, h⟩ | ⟨name', json', below, hmember, hplace, h⟩)
    · exact ⟨name, json, below, List.mem_cons_self, hplace, h⟩
    · exact ⟨name', json', below, List.mem_cons_of_mem _ hmember, hplace, h⟩

theorem faultOfItems_cons {index : Nat} {json : Json} {rest : List Json} :
    FaultOfItems index (json :: rest) place problem ↔
      (∃ below, place = .item index :: below ∧ FaultFrom (.item index) json below problem) ∨
        FaultOfItems (index + 1) rest place problem := by
  constructor
  · rintro ⟨k, json', below, hitem, hplace, h⟩
    cases k with
    | zero =>
      cases hitem
      exact .inl ⟨below, hplace, h⟩
    | succ k =>
      rw [Nat.add_comm k 1, ← Nat.add_assoc] at hplace h
      exact .inr ⟨k, json', below, hitem, hplace, h⟩
  · rintro (⟨below, hplace, h⟩ | ⟨k, json', below, hitem, hplace, h⟩)
    · exact ⟨0, json, below, rfl, hplace, h⟩
    · rw [Nat.add_assoc, Nat.add_comm 1 k] at hplace h
      exact ⟨k + 1, json', below, hitem, hplace, h⟩

end Json

/-! ### Reports -/

namespace Record

/-- What is extracted at a place names the first of some faults below it; or there are none. -/
def Reports {α : Type} (place : Path) (F : Path → ShapeProblem → Prop) : Except Error α → Prop
  | .ok _ => ∀ below problem, ¬F below problem
  | .error e => ∃ below problem, e = .unsupportedShape (place ++ below) problem ∧
      F below problem ∧
      ∀ below' problem', F below' problem' → below' = below ∨ Path.Before below below'

variable {α β : Type} {place : Path} {F G : Path → ShapeProblem → Prop} {x : Except Error α}

theorem Reports.congr (h : Reports place F x) (hiff : ∀ below problem,
    F below problem ↔ G below problem) : Reports place G x := by
  rwa [← funext₂ fun below problem => propext (hiff below problem)]

/-- A place is met before all that is inside it. -/
theorem Reports.here {problem : ShapeProblem} (h : F [] problem) :
    Reports place F (.error (.unsupportedShape place problem) : Except Error α) := by
  refine ⟨[], problem, by rw [List.append_nil], h, fun below' _ _ => ?_⟩
  cases below' with
  | nil => exact .inl rfl
  | cons _ _ => exact .inr .nil

/-- What is made of what was extracted has no more faults. -/
theorem Reports.map (h : Reports place F x) (f : α → β) :
    Reports place F (x >>= fun a => return f a) := by
  cases x <;> exact h

/-- The faults behind a step are those at the place that it leads to. -/
theorem Reports.behind {step : PathStep} (h : Reports (place ++ [step]) F x) :
    Reports place (fun place problem => ∃ below, place = step :: below ∧ F below problem) x := by
  cases x with
  | ok a =>
    rintro _ problem ⟨below, _, hfault⟩
    exact h below problem hfault
  | error e =>
    obtain ⟨below, problem, rfl, hfault, hfirst⟩ := h
    refine ⟨step :: below, problem, ?_, ⟨below, rfl, hfault⟩, ?_⟩
    · rw [List.append_assoc, List.singleton_append]
    · rintro _ problem' ⟨below', rfl, hfault'⟩
      exact (hfirst below' problem' hfault').imp (congrArg _) .cons

/-- If one part is extracted and then another, the faults of the first have to come first. -/
theorem Reports.bind {f : α → Except Error β} (hx : Reports place F x)
    (hf : ∀ a, Reports place G (f a))
    (hbefore : ∀ below problem below' problem', F below problem → G below' problem' →
      Path.Before below below') :
    Reports place (fun below problem => F below problem ∨ G below problem) (x >>= f) := by
  cases x with
  | error e =>
    obtain ⟨below, problem, rfl, hfault, hfirst⟩ := hx
    refine ⟨below, problem, rfl, .inl hfault, fun below' problem' hfault' => ?_⟩
    rcases hfault' with hfault' | hfault'
    · exact hfirst below' problem' hfault'
    · exact .inr (hbefore below problem below' problem' hfault hfault')
  | ok a =>
    -- There is no fault in the first part, so those of the second are all there are.
    exact (hf a).congr fun below problem => (or_iff_right (hx below problem)).symm

/-! ### Extraction -/

open Json

/-- What has nothing inside it and is supported as a member has no fault. -/
theorem reports_supported {name : String} {json : Json} {v : Value}
    (hstep : ∀ problem, ¬(PathStep.field name).Refuses json problem)
    (hmembers : ∀ members, json ≠ .object members) (hitems : ∀ items, json ≠ .array items) :
    Reports place (FaultFrom (.field name) json) (.ok v) := by
  rintro below problem (⟨_, h⟩ | h)
  · exact hstep problem h
  · exact not_hasFault hmembers hitems h

/-- An item that is no object is met before what is inside it, and before the items after it. -/
theorem reports_refused {index : Nat} {json : Json} {rest : List Json}
    (h : json.kind ≠ .record) : Reports place (FaultOfItems index (json :: rest))
      (.error (.unsupportedShape (place ++ [.item index]) (.itemNotARecord json.kind)) :
        Except Error α) := by
  refine ⟨[.item index], _, rfl,
    faultOfItems_cons.mpr (.inl ⟨[], rfl, .inl ⟨rfl, .itemNotARecord index h⟩⟩), ?_⟩
  rintro _ _ ⟨k, json', below, _, rfl, _⟩
  cases k with
  | zero =>
    cases below with
    | nil => exact .inl rfl
    | cons _ _ => exact .inr (.cons .nil)
  | succ k => exact .inr (.rel (.item (by omega)))

mutual

/-- What is extracted of a member reports the faults behind its name. -/
theorem ofMember_reports (place : Path) (name : String) : (json : Json) → json.IsProper →
    json.IsOrdered → Reports place (FaultFrom (.field name) json) (ofMember place json)
  | .null, _, _ => reports_supported nofun nofun nofun
  | .boolean _, _, _ => reports_supported nofun nofun nofun
  | .number (.integer _), _, _ => reports_supported nofun nofun nofun
  | .number (.float _), _, _ => reports_supported nofun nofun nofun
  | .number (.unsigned n), hproper, _ =>
    .here (.inl ⟨rfl, .integerTooLarge name (hproper _ (List.mem_singleton_self _))⟩)
  | .string _, _, _ => reports_supported nofun nofun nofun
  | .array items, hproper, hordered => by
    have hitems := ofItems_reports place 0 items hproper (isOrdered_array_iff.mp hordered)
    exact (hitems.congr fun _ _ => faultFrom_field_array.symm).map Value.list
  | .object members, _, _ => .here (.inl ⟨rfl, .nestedRecord name members⟩)

theorem ofMembers_reports (place : Path) : (members : List (String × Json)) →
    (∀ n ∈ numbersOfMembers members, n.IsProper) → Fields.Sorted members →
    (∀ member ∈ members, member.2.IsOrdered) →
    Reports place (FaultOfMembers members) (ofMembers place members)
  | [], _, _, _ => by
    rintro _ _ ⟨_, _, _, hmember, _⟩
    cases hmember
  | (name, json) :: rest, hproper, hsorted, hordered => by
    obtain ⟨hfirst, hrest⟩ := List.forall_mem_append.mp hproper
    obtain ⟨hnames, hsorted⟩ := List.pairwise_cons.mp hsorted
    obtain ⟨hjson, hordered⟩ := List.forall_mem_cons.mp hordered
    have hmember := (ofMember_reports (place ++ [.field name]) name json hfirst hjson).behind
    have hmembers := ofMembers_reports place rest hrest hsorted hordered
    refine (hmember.bind (fun v => hmembers.map ((name, v) :: ·)) ?_).congr fun _ _ =>
      faultOfMembers_cons.symm
    rintro _ _ _ _ ⟨_, rfl, _⟩ ⟨name', json', _, hmember', rfl, _⟩
    exact .rel (.field (hnames (name', json') hmember'))

theorem ofItems_reports (place : Path) (index : Nat) : (items : List Json) →
    (∀ n ∈ numbersOfItems items, n.IsProper) → (∀ item ∈ items, item.IsOrdered) →
    Reports place (FaultOfItems index items) (ofItems place index items)
  | [], _, _ => by
    rintro _ _ ⟨_, _, _, hitem, _⟩
    cases hitem
  | .object members :: rest, hproper, hordered => by
    obtain ⟨hfirst, hrest⟩ := List.forall_mem_append.mp hproper
    obtain ⟨hobject, hordered⟩ := List.forall_mem_cons.mp hordered
    obtain ⟨hsorted, hmembers⟩ := isOrdered_object_iff.mp hobject
    have hfields := ofMembers_reports (place ++ [.item index]) members hfirst hsorted hmembers
    have hitem := (hfields.congr fun _ _ =>
      (faultFrom_item_object : FaultFrom (.item index) _ _ _ ↔ _).symm).behind
    have hitems := ofItems_reports place (index + 1) rest hrest hordered
    refine (hitem.bind (fun fields => hitems.map (Value.record fields :: ·)) ?_).congr fun _ _ =>
      faultOfItems_cons.symm
    rintro _ _ _ _ ⟨_, rfl, _⟩ ⟨k, _, _, _, rfl, _⟩
    exact .rel (.item (by omega))
  | .null :: _, _, _ => reports_refused nofun
  | .boolean _ :: _, _, _ => reports_refused nofun
  | .number _ :: _, _, _ => reports_refused nofun
  | .string _ :: _, _, _ => reports_refused nofun
  | .array _ :: _, _, _ => reports_refused nofun

end

/-- A JSON object is refused if it has a fault and only then. The failure names the place of
    the first fault on a depth-first walk, by names with points between them and positions in
    brackets, and says why the node there is not supported. -/
theorem ofJson_names_first {json : Json.Ordered} (hobject : json.1.kind = .record)
    (hproper : json.1.IsProper) :
    ((∃ e, ofJson json.1 = .error e) ↔ ∃ place problem, json.1.HasFault place problem) ∧
      ∀ e, ofJson json.1 = .error e → ∃ place problem, e = .unsupportedShape place problem ∧
        json.1.IsFirstFault place problem ∧ place.IsWritten place.text := by
  obtain ⟨json, hordered⟩ := json
  dsimp only at hobject hproper ⊢
  obtain ⟨members, rfl⟩ : ∃ members, json = .object members := by
    cases json with
    | object members => exact ⟨members, rfl⟩
    | _ => cases hobject
  obtain ⟨hsorted, hmembers⟩ := isOrdered_object_iff.mp hordered
  have hreports : Reports [] ((Json.object members).HasFault) (ofJson (.object members)) :=
    (ofMembers_reports [] members hproper hsorted hmembers).congr fun _ _ =>
      hasFault_object_iff.symm
  cases hresult : ofJson (.object members) with
  | ok record =>
    rw [hresult] at hreports
    refine ⟨⟨nofun, fun ⟨place, problem, hfault⟩ => ?_⟩, nofun⟩
    exact absurd hfault (hreports place problem)
  | error e =>
    rw [hresult] at hreports
    obtain ⟨place, problem, rfl, hfault, hfirst⟩ := hreports
    refine ⟨⟨fun _ => ⟨place, problem, hfault⟩, fun _ => ⟨_, rfl⟩⟩, ?_⟩
    rintro _ ⟨⟩
    refine ⟨place, problem, rfl, ⟨hfault, hfirst⟩, ?_⟩
    -- The first step leads to a member, so the place is written like one.
    obtain ⟨name, _, below, _, rfl, _⟩ := hasFault_object_iff.mp hfault
    exact Path.isWritten_text name below

/-- Of four faults the first is named, which is deeper inside than the others. -/
theorem ofJson_names_first_nested :
    let tooLarge : JsonNumber := .unsigned 9223372036854775808
    let json : Json.Ordered := ⟨.object [("a", .array [.object [("b", .array [.object [],
      .object [("c", .number tooLarge), ("d", .object [])], .null])]]), ("b", .object [])],
        by decide⟩
    let place : Path := [.field "a", .item 0, .field "b", .item 1, .field "c"]
    json.1.kind = .record ∧ json.1.IsProper ∧
      ofJson json.1 = .error (.unsupportedShape place (.integerTooLarge 9223372036854775808)) ∧
      json.1.IsFirstFault place (.integerTooLarge 9223372036854775808) ∧
      place.IsWritten "a[0].b[1].c" := by
  intro tooLarge json place
  have hproper : json.1.IsProper :=
    List.forall_mem_singleton.mpr (by decide : 9223372036854775807 < 9223372036854775808)
  have hread : ofJson json.1 =
      .error (.unsupportedShape place (.integerTooLarge 9223372036854775808)) := rfl
  obtain ⟨_, _, heq, hfirst, hwritten⟩ := (ofJson_names_first rfl hproper).2 _ hread
  cases heq
  exact ⟨rfl, hproper, hread, hfirst, hwritten⟩

end Record

end RuleEngine
