import RuleEngine.Pattern.Tree
import RuleEngine.Pattern.Trie
import RuleEngine.Text.Utf8
import Std.Data.HashMap

/-!
# The size of automata

A regular expression stands for two automata over the bytes of a text: one reads
matches forwards and notes where groups start and end, the other reads them
backwards. Each takes a number of states, and some states own a list. Here the
automata are not built, only their sizes are counted, state by state, so that
counting stops as soon as a limit is exceeded (`Regex.fits`).

Counting goes with the states in the order in which they would be made. The order
matters for sets beyond ASCII: within one of them states are shared as far as a
small table remembers them, and what the table forgets depends on the numbers of
the states.
-/

namespace RuleEngine

namespace Automaton

/-- How many states there are, and the bytes of the lists that they own. -/
structure Size where
  states : Nat
  bytes : Nat

/-- The bytes of a state, its list not counted. -/
def stateBytes : Nat := 32

/-- The bytes of a transition in a list: a range of bytes and a state. -/
def transitionBytes : Nat := 8

/-- The bytes of a state in a list. -/
def referenceBytes : Nat := 4

namespace Size

/-- All bytes of states and lists. -/
def total (s : Size) : Nat :=
  stateBytes * s.states + s.bytes

/-- More states, with so many transitions in lists. -/
def addStates (s : Size) (states transitions : Nat) : Size :=
  ⟨s.states + states, s.bytes + transitionBytes * transitions⟩

/-- More states, with so many states in lists. -/
def addBranches (s : Size) (states references : Nat) : Size :=
  ⟨s.states + states, s.bytes + referenceBytes * references⟩

end Size

/-! ### Sets beyond ASCII -/

/-- The slot of a key in a table: its numbers folded into 64 bits, each by an
    exclusive or and a multiplication. -/
def slot (slots : UInt64) (key : List Nat) : UInt64 :=
  key.foldl (fun h n => (h ^^^ UInt64.ofNat n) * 1099511628211) 14695981039346656037 % slots

/-- States that are remembered, each in the slot of its key; a slot holds only the
    last of them. -/
abbrev Memory := Std.HashMap UInt64 (List Nat × Nat)

/-- What is counted for a set, and the states that it can share. -/
structure Sharing where
  size : Size
  memory : Memory

/-- The state of a key: the one that is remembered, or a new one. -/
def Sharing.state (slots : UInt64) (key : List Nat) (transitions : Nat) : StateM Sharing Nat :=
  modifyGet fun s =>
    let at? := slot slots key
    let remembered :=
      match s.memory[at?]? with
      | some (known, state) => if known = key then some state else none
      | none => none
    match remembered with
    | some state => (state, s)
    | none =>
      (s.size.states, ⟨s.size.addStates 1 transitions, s.memory.insert at? (key, s.size.states)⟩)

/-- A place in the block being read: the transitions that are settled, as numbers
    (last first), and the range that leads to the next place. -/
structure Place where
  settled : List (List Nat)
  leading : ByteRange

/-- Settles the range of a place, which leads to a state. -/
def Place.settle (p : Place) (next : Nat) : List (List Nat) :=
  [p.leading.low, p.leading.high, next] :: p.settled

/-- Settles the places of a block from the last on; the state of the first. -/
def settleAll (last : Nat) : List Place → StateM Sharing Nat
  | [] => return last
  | p :: ps => do
    let transitions := (p.settle (← settleAll last ps)).reverse
    Sharing.state 10000 transitions.flatten transitions.length

/-- Goes on to the next block: places that lead as before are kept. -/
def nextBlock (last : Nat) : List Place → List ByteRange → StateM Sharing (List Place)
  | p :: ps, r :: rs => do
    if p.leading = r then return p :: (← nextBlock last ps rs)
    else
      let settled := p.settle (← settleAll last ps)
      return ⟨settled, r⟩ :: rs.map (⟨[], ·⟩)
  | _, rs => return rs.map (⟨[], ·⟩)

/-- Counts a set that is read forwards: what blocks have in common at either end is
    shared. -/
def forwardSet (set : CharSet) (size : Size) : Size :=
  let last := size.states
  let count : StateM Sharing Nat := do
    let places ← (Utf8.setBlocks set).foldlM (nextBlock last) []
    settleAll last places
  (count.run ⟨size.addStates 1 0, ∅⟩).2.size

/-- Counts a block that is read backwards: what comes after a byte in the text is
    read before it. -/
def backwardBlock (last : Nat) : List ByteRange → StateM Sharing Unit
  | [] => pure ()
  | r :: rs => do
    let state ← Sharing.state 1000 [last, r.low, r.high] 0
    backwardBlock state rs

/-- Counts a set that is read backwards: what blocks have in common at the start is
    shared. -/
def backwardSet (set : CharSet) (size : Size) : Size :=
  let blocks := Utf8.setBlocks set
  let last := size.states + 1
  let count := blocks.forM (backwardBlock last)
  (count.run ⟨size.addBranches 2 blocks.length, ∅⟩).2.size

/-- Counts a set. ASCII characters take one state. -/
def setSize (backward : Bool) (set : CharSet) (size : Size) : Size :=
  if set.ranges.all (·.high < 128) then size.addStates 2 set.ranges.length
  else if backward then backwardSet set size
  else forwardSet set size

/-! ### Choices between texts -/

/-- Counts the state of some steps that leave a place, if there are any, and says
    how many states there are. -/
def closeSteps (steps : Nat) (size : Size) : Nat × Size :=
  match steps with
  | 0 => (0, size)
  | 1 => (1, size.addStates 1 0)
  | _ => (1, size.addStates 1 steps)

/-- Counts a trie from some place on, where so many steps and alternatives are under
    way. -/
def trieSize (steps alternatives : Nat) : Trie → Size → Size
  | .none, size =>
    let (more, size) := closeSteps steps size
    if alternatives + more = 1 then size else size.addBranches 1 (alternatives + more)
  | .stop rest, size =>
    let (more, size) := closeSteps steps size
    trieSize 0 (alternatives + more + 1) rest size
  | .step _ next rest, size =>
    trieSize (steps + 1) alternatives rest (if next.isLeaf then size else trieSize 0 0 next size)

/-- Counts a choice between texts: those that begin alike share states. -/
def textsSize (backward : Bool) (texts : List (List Char)) (size : Size) : Size :=
  let written := texts.map Utf8.encode
  trieSize 0 0 (Trie.ofTexts (if backward then written.map List.reverse else written))
    (size.addStates 1 0)

/-! ### Expressions -/

/-- Counting within a limit. -/
abbrev Count := StateT Size Option Unit

/-- Counts something if it is within the limit. -/
def count (limit : Nat) (add : Size → Size) : Count := fun size =>
  let size := add size
  if size.total ≤ limit then some ((), size) else none

/-- Counts something so many times. -/
def repeatCount (body : Count) : Nat → Count
  | 0 => pure ()
  | n + 1 => do
    body
    repeatCount body n

/-- Counts the end of an expression with so many branches before it in its choice. -/
def countBranch (limit : Nat) : Nat → Count
  | 0 => pure ()
  | 1 => count limit (·.addBranches 2 2)
  | _ => count limit (·.addBranches 0 1)

end Automaton

namespace Regex

open Automaton

/-- Counts an expression with so many branches before it in its choice. -/
def countFrom (limit : Nat) (backward : Bool) (before : Nat) : Regex → Count
  | empty => do
    count limit (·.addStates 1 0)
    countBranch limit before
  | text cs => do
    count limit (·.addStates (Utf8.encode cs).length 0)
    countBranch limit before
  | chars set => do
    count limit (setSize backward set)
    countBranch limit before
  | anchor _ => do
    count limit (·.addStates 1 0)
    countBranch limit before
  | group _ body => do
    if !backward then count limit (·.addStates 1 0)
    countFrom limit backward 0 body
    if !backward then count limit (·.addStates 1 0)
    countBranch limit before
  | seq first second => do
    if backward then
      countFrom limit backward 0 second
      countFrom limit backward 0 first
    else
      countFrom limit backward 0 first
      countFrom limit backward 0 second
    countBranch limit before
  | alt left right =>
    match if before = 0 then texts? (alt left right).branches else none with
    | some texts => count limit (textsSize backward texts)
    | none => do
      countFrom limit backward before left
      countFrom limit backward (before + 1) right
  | times body least most _ => do
    let once := countFrom limit backward 0 body
    let required := if least = 0 then count limit (·.addStates 1 0) else repeatCount once least
    match least, most with
    | 0, some 1 =>
      count limit (·.addBranches 1 2)
      once
      count limit (·.addStates 1 0)
    | 0, none =>
      if body.takesText then
        count limit (·.addBranches 1 2)
        once
      else
        once
        count limit (·.addBranches 3 4)
    | _, none =>
      required
      count limit (·.addBranches 1 2)
    | least, some most =>
      required
      if least < most then
        count limit (·.addStates 1 0)
        repeatCount (do
          count limit (·.addBranches 1 2)
          once) (most - least)
    countBranch limit before

/-- Counts an automaton: what it passes over before a match, unless matches stand
    at the end where it starts; the match; and its end. -/
def countAll (limit : Nat) (backward : Bool) (r : Regex) : Count := do
  let fixed := if backward then r.endsAt .textEnd else r.startsAt .textStart
  if fixed then count limit (·.addStates 1 0)
  else
    count limit (·.addStates 2 1)
    count limit (·.addBranches 1 2)
  if !backward then count limit (·.addStates 1 0)
  r.countFrom limit backward 0
  if !backward then count limit (·.addStates 1 0)
  count limit (·.addStates 1 0)

/-- Whether both automata are within a limit on their bytes. -/
def fits (limit : Nat) (r : Regex) : Bool :=
  let within (backward : Bool) : Bool := (r.countAll limit backward ⟨0, 0⟩).isSome
  within false && within true

end Regex

end RuleEngine
