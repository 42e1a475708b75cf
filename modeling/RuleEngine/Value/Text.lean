import RuleEngine.Numeric.Shortest
import RuleEngine.Text.Quoted
import RuleEngine.Value

/-!
# Text of values

How values and records are shown. Strings are quoted, the names of fields are
not.
-/

namespace RuleEngine

namespace Value

mutual

/-- How a value is shown. -/
def text : Value → String
  | missing => "<missing>"
  | boolean b => if b then "true" else "false"
  | integer n => toString n.toInt
  | float x => floatText x
  | string s => Quoted.text s
  | list items => "[" ++ ", ".intercalate (itemTexts items) ++ "]"
  | record fields => "\x7b" ++ ", ".intercalate (fieldTexts fields) ++ "\x7d"

/-- How the items of a list are shown. -/
def itemTexts : List Value → List String
  | [] => []
  | v :: rest => text v :: itemTexts rest

/-- How the fields of a record are shown, each after its name. -/
def fieldTexts : List (String × Value) → List String
  | [] => []
  | (name, v) :: rest => (name ++ ": " ++ text v) :: fieldTexts rest

end

end Value

/-- How a record is shown. -/
def Record.text (record : Record) : String :=
  Value.text (.record record)

end RuleEngine
