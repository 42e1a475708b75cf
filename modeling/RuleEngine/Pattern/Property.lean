import RuleEngine.Text.Edition
import RuleEngine.Text.Property
import RuleEngine.Text.Script
import RuleEngine.Text.Segment

/-!
# Named sets of characters

The sets that patterns name: the ASCII classes in `[:...:]`, and after `\p` the
properties, general categories and scripts under their short and long names.
-/

namespace RuleEngine

namespace Regex

/-- The classes with names in `[:...:]`. -/
def namedClass? (name : String) : Option CharSet :=
  (match name with
    | "alnum" => some "30-39 41-5A 61-7A"
    | "alpha" => some "41-5A 61-7A"
    | "ascii" => some "0-7F"
    | "blank" => some "9 20"
    | "cntrl" => some "0-1F 7F"
    | "digit" => some "30-39"
    | "graph" => some "21-7E"
    | "lower" => some "61-7A"
    | "print" => some "20-7E"
    | "punct" => some "21-2F 3A-40 5B-60 7B-7E"
    | "space" => some "9-D 20"
    | "upper" => some "41-5A"
    | "word" => some "30-39 41-5A 5F 61-7A"
    | "xdigit" => some "30-39 41-46 61-66"
    | _ => none).map CharSet.ofTable

/-- The categories under the names that `\p` takes, in small letters. -/
def categories? (name : String) : Option (List Category) :=
  match name with
  | "l" | "letter" => some Category.letters
  | "lc" | "casedletter" => some Category.casedLetters
  | "lu" | "uppercaseletter" => some [.uppercaseLetter]
  | "ll" | "lowercaseletter" => some [.lowercaseLetter]
  | "lt" | "titlecaseletter" => some [.titlecaseLetter]
  | "lm" | "modifierletter" => some [.modifierLetter]
  | "lo" | "otherletter" => some [.otherLetter]
  | "m" | "mark" | "combiningmark" => some Category.marks
  | "mn" | "nonspacingmark" => some [.nonspacingMark]
  | "mc" | "spacingmark" => some [.spacingMark]
  | "me" | "enclosingmark" => some [.enclosingMark]
  | "n" | "number" => some Category.numbers
  | "nd" | "decimalnumber" | "digit" => some [.decimalNumber]
  | "nl" | "letternumber" => some [.letterNumber]
  | "no" | "othernumber" => some [.otherNumber]
  | "p" | "punctuation" | "punct" => some Category.punctuation
  | "pc" | "connectorpunctuation" => some [.connectorPunctuation]
  | "pd" | "dashpunctuation" => some [.dashPunctuation]
  | "ps" | "openpunctuation" => some [.openPunctuation]
  | "pe" | "closepunctuation" => some [.closePunctuation]
  | "pi" | "initialpunctuation" => some [.initialPunctuation]
  | "pf" | "finalpunctuation" => some [.finalPunctuation]
  | "po" | "otherpunctuation" => some [.otherPunctuation]
  | "s" | "symbol" => some Category.symbols
  | "sm" | "mathsymbol" => some [.mathSymbol]
  | "sc" | "currencysymbol" => some [.currencySymbol]
  | "sk" | "modifiersymbol" => some [.modifierSymbol]
  | "so" | "othersymbol" => some [.otherSymbol]
  | "z" | "separator" => some Category.separators
  | "zs" | "spaceseparator" => some [.spaceSeparator]
  | "zl" | "lineseparator" => some [.lineSeparator]
  | "zp" | "paragraphseparator" => some [.paragraphSeparator]
  | "c" | "other" => some Category.others
  | "cc" | "control" | "cntrl" => some [.control]
  | "cf" | "format" => some [.format]
  | "co" | "privateuse" => some [.privateUse]
  | "cn" | "unassigned" => some [.unassigned]
  | _ => none

/-- A name as it is looked up: in small letters, without the word `is` before it
    and without blanks, hyphens, underscores and what is not ASCII. The word stays
    where only a `c` is left, since `isc` is no category. -/
def propertyName (name : String) : String :=
  let small (cs : List Char) : List Char :=
    (cs.filter fun c => c.toNat < 128 && c ∉ [' ', '-', '_']).map Char.toLower
  match name.toList with
  | a :: b :: rest =>
    if a ∈ ['i', 'I'] && b ∈ ['s', 'S'] then
      String.ofList (if small rest = ['c'] then ['i', 's', 'c'] else small rest)
    else String.ofList (small name.toList)
  | cs => String.ofList (small cs)

/-- The characters of a category, or of those that are not one. -/
def categorySet? (name : String) : Option CharSet :=
  match name with
  | "any" => some CharSet.all
  | "ascii" => some (CharSet.range 0 0x7F)
  | "assigned" => some Category.assignedSet
  | name => (categories? name).map Category.union

/-- The characters of a property, a category or a script. -/
def property? (name : String) : Option CharSet :=
  let name := propertyName name
  CharProperty.ofName? name <|> categorySet? name <|> (Script.ofName? name).map Script.toSet

/-- The characters for which a property has a value. -/
def propertyValue? (name value : String) : Option CharSet :=
  let value := propertyName value
  match propertyName name with
  | "gc" | "generalcategory" | "category" => categorySet? value
  | "sc" | "script" => (Script.ofName? value).map Script.toSet
  | "scx" | "scriptextensions" => (Script.ofName? value).map Script.extended
  | "age" => Edition.charactersOf? value
  | "gcb" | "graphemeclusterbreak" => Segment.graphemeClass? value
  | "wb" | "wordbreak" => Segment.wordClass? value
  | "sb" | "sentencebreak" => Segment.sentenceClass? value
  | _ => none

/-- The two sides of the first place where a text has a mark. -/
def splitAtMark? (mark : List Char) : List Char → Option (List Char × List Char)
  | [] => none
  | c :: cs =>
    if mark.isPrefixOf (c :: cs) then some ([], (c :: cs).drop mark.length)
    else (splitAtMark? mark cs).map fun (name, value) => (c :: name, value)

/-- The characters with a property, by itself or with a value after one of the
    marks `!=`, `:` and `=`, which all mean the same. -/
def propertyQuery? (query : String) : Option CharSet :=
  let split? (mark : List Char) : Option (List Char × List Char) :=
    splitAtMark? mark query.toList
  match split? ['!', '='] <|> split? [':'] <|> split? ['='] with
  | some (name, value) => propertyValue? (String.ofList name) (String.ofList value)
  | none => property? query

end Regex

end RuleEngine
