import RuleEngine.Record.Extract
import RuleEngine.Numeric.Shortest

/-!
# Records from structured data

Data of a host, as a host describes it: with integers of up to 64 bits, floats,
optional parts, and maps whose keys may be of any kind. It becomes JSON first, in
the order of its keys. Keys that are integers or truth values become their texts;
all other keys but strings are refused, floats among them.

Hosts can have integers of 128 bits, and data that fails in describing itself, with
a message of its own. There is neither here.
-/

namespace RuleEngine

/-- Structured data. -/
inductive Serial where
  | none
  | boolean (b : Bool)
  | signed (n : Int64)
  | unsigned (n : UInt64)
  | float (x : Float)
  | string (s : String)
  | some (data : Serial)
  | sequence (items : List Serial)
  | map (entries : List (Serial × Serial))

namespace Serial

/-- The text of a key, if it is a string, a truth value or an integer. -/
def key? : Serial → Option String
  | string s => .some s
  | boolean b => .some (if b then "true" else "false")
  | signed n => .some (toString n.toInt)
  | unsigned n => .some (toString n.toNat)
  | _ => .none

mutual

/-- The data as JSON, unless a key is refused. -/
def toJson? : Serial → Option Json.Ordered
  | none => .some .null
  | boolean b => .some (.boolean b)
  | signed n => .some (.number (.integer n))
  | unsigned n => (Json.ofInt? n.toNat).map .number
  | float x => .some (.ofFloat x)
  | string s => .some (.string s)
  | some data => toJson? data
  | sequence items => (itemsToJson? items).map .array
  | map entries => (entriesToJson? .empty entries).map .object

/-- The items of a sequence as JSON. -/
def itemsToJson? : List Serial → Option (List Json.Ordered)
  | [] => .some []
  | data :: rest => do
    let item ← toJson? data
    let items ← itemsToJson? rest
    return item :: items

/-- The members of a map after those read; of two under one key the later one
    counts. -/
def entriesToJson? (read : Table Json.Ordered) :
    List (Serial × Serial) → Option (Table Json.Ordered)
  | [] => .some read
  | (key, data) :: rest => do
    let name ← key? key
    let member ← toJson? data
    entriesToJson? (read.insert name member) rest

end

end Serial

/-- The record of structured data. -/
def Record.ofSerial (data : Serial) : Except Error Record :=
  match data.toJson? with
  | some json => Record.ofJson json.1
  | none => .error (.unsupportedShape [] .keyNotAString)

end RuleEngine
