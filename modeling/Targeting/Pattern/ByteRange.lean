import Targeting.Unicode.Ranges

/-!
# Characters by bytes

A range of characters in UTF-8: sequences of byte ranges in order, each of which admits
every choice of one byte from each of its ranges.
-/

namespace Targeting.Pattern

def utf8 (point : Nat) : List Nat :=
  let trail (shift : Nat) := 0x80 + point / shift % 64
  if point < 0x80 then [point]
  else if point < 0x800 then [0xC0 + point / 0x40, trail 1]
  else if point < 0x10000 then [0xE0 + point / 0x1000, trail 0x40, trail 1]
  else [0xF0 + point / 0x40000, trail 0x1000, trail 0x40, trail 1]

/-- Where a range has to be cut so that all characters of its first part have as many
bytes and, after bytes that differ, any bytes: the last point of that part. -/
def cut? (low high : Nat) : Option Nat :=
  let atLength := [0x7F, 0x7FF, 0xFFFF].find? fun last => low ≤ last && last < high
  let atBlock (size : Nat) : Option Nat :=
    if low / size = high / size then none
    else if low % size ≠ 0 then some (low / size * size + size - 1)
    else if high % size ≠ size - 1 then some (high / size * size - 1)
    else none
  atLength.or
    (if high ≤ 0x7F then none
    else ((atBlock 0x40).or (atBlock 0x1000)).or (atBlock 0x40000))

def pieces (low high : Nat) : List (Nat × Nat) :=
  match cut? low high with
  | none => [(low, high)]
  | some last =>
    if _h : low ≤ last ∧ last < high then pieces low last ++ pieces (last + 1) high
    else [(low, high)]
termination_by high - low
decreasing_by all_goals omega

/-- The range without the surrogates, which are no characters. -/
def characters (low high : Nat) : List (Nat × Nat) :=
  if low < 0xE000 ∧ 0xD7FF < high then [(low, 0xD7FF), (0xE000, high)] else [(low, high)]

abbrev ByteSequence := List (Nat × Nat)

def byteSequences (ranges : Unicode.Ranges) : List ByteSequence :=
  ((ranges.flatMap fun (low, high) => characters low high).flatMap
    fun (low, high) => pieces low high).map fun (low, high) => (utf8 low).zip (utf8 high)

end Targeting.Pattern
