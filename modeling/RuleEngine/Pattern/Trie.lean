/-!
# Tries

A trie holds texts, as bytes, by what they begin with. Where a text ends the
order in which texts were added is kept: what was added after it stays after it.
-/

namespace RuleEngine

/-- The texts that go on from some place: the bytes that come next, each with what
    comes after it, and the ends of texts in between. -/
inductive Trie where
  | none
  | stop (rest : Trie)
  | step (byte : UInt8) (next : Trie) (rest : Trie)

namespace Trie

/-- Whether a text ends here. -/
def hasStop : Trie → Bool
  | none => false
  | stop _ => true
  | step _ _ rest => rest.hasStop

/-- Whether no text goes on from here. -/
def isLeaf : Trie → Bool
  | none => true
  | stop rest => rest.isLeaf
  | step _ _ _ => false

/-- One text. -/
def ofBytes : List UInt8 → Trie
  | [] => stop none
  | b :: bs => step b (ofBytes bs) none

/-- A text ends after all others. -/
def stopLast : Trie → Trie
  | none => stop none
  | stop rest => stop rest.stopLast
  | step b next rest => step b next rest.stopLast

/-- Adds a text. A byte is shared with the texts since the last end; where nothing
    goes on, one end is enough. -/
def add : Trie → List UInt8 → Trie
  | stop none, [] => stop none
  | t, [] => t.stopLast
  | none, bs => ofBytes bs
  | stop rest, bs => stop (add rest bs)
  | step b next rest, c :: cs =>
    if b = c && !rest.hasStop then step b (add next cs) rest else step b next (add rest (c :: cs))

/-- The trie of some texts. -/
def ofTexts (texts : List (List UInt8)) : Trie :=
  texts.foldl add none

end Trie

end RuleEngine
