import RuleEngine.Json
import RuleEngine.Value

/-!
# Records from JSON

A JSON object is read as a record: its members become fields, null becomes
missing, and an array of objects becomes a list of records. Objects anywhere
else, arrays of anything else and integers beyond the signed 64-bit ones are
refused, with the place of the first of them.
-/

namespace RuleEngine

namespace Record

/-- The value of a number at a place. -/
def ofNumber (place : Path) : JsonNumber → Except Error Value
  | .integer n => .ok (.integer n)
  | .unsigned n => .error (.unsupportedShape place (.integerTooLarge n.toNat))
  | .float x => .ok (.float x)

mutual

/-- The fields of an object at a place. -/
def ofMembers (place : Path) : List (String × Json) → Except Error (List (String × Value))
  | [] => .ok []
  | (name, json) :: rest => do
    let value ← ofMember (place ++ [.field name]) json
    let fields ← ofMembers place rest
    return (name, value) :: fields

/-- The value of a member at a place. -/
def ofMember (place : Path) : Json → Except Error Value
  | .null => .ok .missing
  | .boolean b => .ok (.boolean b)
  | .number n => ofNumber place n
  | .string s => .ok (.string s)
  | .array items => do
    let values ← ofItems place 0 items
    return .list values
  | .object _ => .error (.unsupportedShape place .nestedRecord)

/-- The records of the items of an array at a place, from `index` on. -/
def ofItems (place : Path) (index : Nat) : List Json → Except Error (List Value)
  | [] => .ok []
  | .object members :: rest => do
    let fields ← ofMembers (place ++ [.item index]) members
    let values ← ofItems place (index + 1) rest
    return .record fields :: values
  | json :: _ => .error (.unsupportedShape (place ++ [.item index]) (.itemNotARecord json.kind))

end

/-- The record of a JSON value. -/
def ofJson : Json → Except Error Record
  | .object members => ofMembers [] members
  | json => .error (.unsupportedShape [] (.rootNotARecord json.kind))

end Record

end RuleEngine
