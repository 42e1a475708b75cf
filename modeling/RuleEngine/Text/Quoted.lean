import RuleEngine.Text.Recent

/-!
# Quoted text

A string in a message stands between double quotes. The quote, the backslash
and the common controls are escaped by name; characters that have no visible
form, or that would attach to the one before them, are written by number.
-/

namespace RuleEngine

namespace Quoted

/-- The hexadecimal digits of a number, in lower case. -/
def hexDigits (n : Nat) : String :=
  String.ofList (Nat.toDigits 16 n)

/-- A character between the quotes. -/
def character (c : Char) : String :=
  if c = '\x00' then "\\0"
  else if c = '\t' then "\\t"
  else if c = '\n' then "\\n"
  else if c = '\r' then "\\r"
  else if c = '"' then "\\\""
  else if c = '\\' then "\\\\"
  else if Recent.extending.contains c || Recent.hidden.contains c then
    "\\u\x7b" ++ hexDigits c.toNat ++ "\x7d"
  else c.toString

/-- A string in quotes. -/
def text (s : String) : String :=
  "\"" ++ String.join (s.toList.map character) ++ "\""

end Quoted

end RuleEngine
