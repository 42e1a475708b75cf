import RuleEngine.Pattern.Tree

/-!
# Matching

A regular expression is matched with all its possible positions at once. In a
`Machine` every set of characters carries a mark, which says that some match
under way has just taken a character there. A character moves the marks on
(`Machine.shift`), and a match ends at a boundary where a mark stands at the end
of the machine (`Machine.isFinal`) or where the machine passes over nothing
(`Machine.isNullable`). The time per character is bounded by the machine.
-/

namespace RuleEngine

/-- A regular expression with marks. -/
inductive Machine where
  | empty
  | chars (set : CharSet) (marked : Bool)
  | anchor (a : Anchor)
  | seq (first second : Machine)
  | alt (left right : Machine)
  | optional (body : Machine)
  | some (body : Machine)

namespace Machine

/-- `count` copies in sequence before a machine. -/
def copies (body : Machine) : Nat → Machine → Machine
  | 0, next => next
  | count + 1, next => seq body (copies body count next)

/-- At most `count` copies in sequence. -/
def upTo (body : Machine) : Nat → Machine
  | 0 => empty
  | count + 1 => optional (seq body (upTo body count))

/-- Characters one after the other. -/
def ofText : List Char → Machine
  | [] => empty
  | [c] => chars (CharSet.singleton c) false
  | c :: cs => seq (chars (CharSet.singleton c) false) (ofText cs)

/-- One of some texts. -/
def ofTexts : List (List Char) → Machine
  | [] => chars ⟨[]⟩ false
  | [cs] => ofText cs
  | cs :: rest => alt (ofText cs) (ofTexts rest)

/-- A regular expression without marks, its counted repetitions written out. -/
def ofRegex : Regex → Machine
  | .empty => empty
  | .text cs => ofText cs
  | .chars set => chars set false
  | .anchor a => anchor a
  | .group _ body => ofRegex body
  | .seq first second => seq (ofRegex first) (ofRegex second)
  | .alt left right => alt (ofRegex left) (ofRegex right)
  | .times body least none _ => copies (ofRegex body) least (optional (some (ofRegex body)))
  | .times body least (.some most) _ =>
    copies (ofRegex body) least (upTo (ofRegex body) (most - least))

/-- Whether the machine passes over nothing at a boundary. -/
def isNullable (b : Boundary) : Machine → Bool
  | empty => true
  | chars _ _ => false
  | anchor a => a.holds b
  | seq first second => isNullable b first && isNullable b second
  | alt left right => isNullable b left || isNullable b right
  | optional _ => true
  | some body => isNullable b body

/-- Whether a mark stands at the end of the machine at a boundary. -/
def isFinal (b : Boundary) : Machine → Bool
  | empty => false
  | chars _ marked => marked
  | anchor _ => false
  | seq first second => isFinal b second || (isFinal b first && isNullable b second)
  | alt left right => isFinal b left || isFinal b right
  | optional body => isFinal b body
  | some body => isFinal b body

/-- The marks after a character. `enter` says whether a match may start at the
    boundary before it. -/
def shift (b : Boundary) (c : Char) (enter : Bool) : Machine → Machine
  | empty => empty
  | chars set _ => chars set (enter && set.contains c)
  | anchor a => anchor a
  | seq first second =>
    seq (shift b c enter first)
      (shift b c (isFinal b first || (enter && isNullable b first)) second)
  | alt left right => alt (shift b c enter left) (shift b c enter right)
  | optional body => optional (shift b c enter body)
  | some body => some (shift b c (enter || isFinal b body) body)

/-- Whether the machine matches somewhere in the characters after `before`, with
    a match that starts there or is under way. -/
def matchesFrom (m : Machine) (before : Option Char) : List Char → Bool
  | [] => isFinal ⟨before, none⟩ m || isNullable ⟨before, none⟩ m
  | c :: rest =>
    let b : Boundary := ⟨before, c⟩
    isFinal b m || isNullable b m || matchesFrom (shift b c true m) c rest

/-- Whether the machine matches somewhere in a text. -/
def matchesIn (m : Machine) (text : String) : Bool :=
  matchesFrom m none text.toList

end Machine

end RuleEngine
