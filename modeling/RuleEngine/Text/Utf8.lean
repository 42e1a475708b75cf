import RuleEngine.Text.CharSet

/-!
# Texts as bytes

UTF-8 writes a code point as a first byte and up to three bytes that continue
it, each with six bits of it. So the characters of a range are written by few
*blocks*: sequences of ranges of bytes, any choice from which is a character of
the range.
-/

namespace RuleEngine

/-- The bytes from `low` to `high`, both included. -/
structure ByteRange where
  low : Nat
  high : Nat
  deriving DecidableEq

namespace Utf8

/-- How many code points share all but the last so many bytes. -/
def blockSize (trailing : Nat) : Nat :=
  Nat.pow 64 trailing

/-- The last bytes of a code point. -/
def trailingBytes : Nat → Nat → List Nat
  | 0, _ => []
  | trailing + 1, n => (0x80 + n / blockSize trailing % 64) :: trailingBytes trailing n

/-- The first byte of a code point with so many bytes after it. -/
def leadingByte (trailing n : Nat) : Nat :=
  let mark :=
    match trailing with
    | 0 => 0
    | 1 => 0xC0
    | 2 => 0xE0
    | _ => 0xF0
  mark + n / blockSize trailing

/-- The bytes of a code point, so many of them after the first. -/
def bytes (trailing n : Nat) : List Nat :=
  leadingByte trailing n :: trailingBytes trailing n

/-- The bytes of a text. -/
def encode (cs : List Char) : List UInt8 :=
  cs.flatMap String.utf8EncodeChar

/-- Cuts a range of code points so that within a piece the last bytes, from the
    first that varies on, are arbitrary but for the first of them; at most so
    many bytes vary besides that one. -/
def pieces : Nat → CharRange → List CharRange
  | 0, r => [r]
  | trailing + 1, r =>
    let size := blockSize (trailing + 1)
    let first := r.low / size * size
    let last := r.high / size * size
    if first = last then pieces trailing r
    else
      let startsEven := r.low % size = 0
      let endsEven := (r.high + 1) % size = 0
      let low := if startsEven then first else first + size
      let next := if endsEven then last + size else last
      (if startsEven then [] else pieces trailing ⟨r.low, first + size - 1⟩) ++
        (if low < next then [⟨low, next - 1⟩] else []) ++
        (if endsEven then [] else pieces trailing ⟨last, r.high⟩)

/-- The code points whose forms have equally many bytes, with the number of those
    after the first. The surrogates have no form. -/
def lengths : List (CharRange × Nat) :=
  [(⟨0, 0x7F⟩, 0), (⟨0x80, 0x7FF⟩, 1), (⟨0x800, 0xD7FF⟩, 2), (⟨0xE000, 0xFFFF⟩, 2),
    (⟨0x10000, CharSet.lastCodePoint⟩, 3)]

/-- The blocks of a range of code points, in increasing order. -/
def blocks (r : CharRange) : List (List ByteRange) :=
  lengths.flatMap fun (width, trailing) =>
    let low := max r.low width.low
    let high := min r.high width.high
    if low ≤ high then
      (pieces trailing ⟨low, high⟩).map fun piece =>
        (bytes trailing piece.low).zipWith ByteRange.mk (bytes trailing piece.high)
    else []

/-- The blocks of a set, in increasing order. -/
def setBlocks (s : CharSet) : List (List ByteRange) :=
  s.ranges.flatMap blocks

end Utf8

end RuleEngine
