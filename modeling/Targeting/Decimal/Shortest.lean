/-!
# The fewest digits that read back

A positive binary float is `mantissa * 2 ^ exponent`. The decimals that round to it
fill an interval around it, which holds its ends exactly when the mantissa is even.
For one, two, ... digits the two neighbours of the value on that decimal grid are
tried against the interval; the first grid with a hit wins and of two hits the
nearer. Which of two equally near ones is left to the format.
-/

namespace Targeting

/-- `digits * 10 ^ exponent`, the digits with the most significant first. -/
structure Decimal where
  digits : Nat
  exponent : Int
  deriving DecidableEq, Repr

namespace Decimal

/-- The value, and half the gaps below and above it, as multiples of one unit. -/
structure Span where
  value : Nat
  below : Nat
  above : Nat
  closed : Bool

def Span.holds (span : Span) (point : Nat) : Bool :=
  let low := span.value - span.below
  let high := span.value + span.above
  if span.closed then low ≤ point && point ≤ high else low < point && point < high

inductive Tie where
  | up
  /-- The one with an even last digit. -/
  | even
  deriving DecidableEq, Repr

def Tie.takesLow (tie : Tie) (low : Nat) : Bool :=
  match tie with
  | .up => false
  | .even => low % 2 = 0

/-- The better of the two grid points around the value, if one of them rounds to it. -/
def Span.onGrid (span : Span) (tie : Tie) (gap : Nat) : Option Nat :=
  let low := span.value / gap
  let high := low + 1
  match 0 < low && span.holds (low * gap), span.holds (high * gap) with
  | true, true =>
    some (match compare (span.value - low * gap) (high * gap - span.value) with
      | .lt => low
      | .eq => if tie.takesLow low then low else high
      | .gt => high)
  | true, false => some low
  | false, true => some high
  | false, false => none

def dropZeros : Nat → Decimal → Decimal
  | 0, d => d
  | fuel + 1, d =>
    if d.digits % 10 = 0 ∧ d.digits ≠ 0 then dropZeros fuel ⟨d.digits / 10, d.exponent + 1⟩
    else d

/-- The least `k` with `value < 10 ^ k`, for `value = numerator / denominator`. -/
def magnitude (numerator denominator : Nat) : Int :=
  if denominator ≤ numerator then
    (Nat.toDigits 10 (numerator / denominator)).length
  else
    match (List.range 400).find? fun j => denominator ≤ numerator * Nat.pow 10 (j + 1) with
    | some j => -(j : Int)
    | none => 0

def fraction (mantissa : Nat) (exponent : Int) : Nat × Nat :=
  if 0 ≤ exponent then (mantissa * Nat.pow 2 exponent.toNat, 1)
  else (mantissa, Nat.pow 2 (-exponent).toNat)

/-- The shortest decimal of `mantissa * 2 ^ exponent`; `narrow` says that the gap
below is half the gap above. -/
def shortest (tie : Tie) (mantissa : Nat) (exponent : Int) (narrow : Bool) : Decimal :=
  let (num, den) := fraction (4 * mantissa) (exponent - 2)
  let (half, _) := fraction 1 (exponent - 2)
  let top := magnitude num den
  let attempt (count : Nat) : Option Decimal :=
    let place := top - count
    -- one unit is `1 / (den * down)`, a grid step `up * den` of them
    let up := Nat.pow 10 place.toNat
    let down := Nat.pow 10 (-place).toNat
    let span : Span :=
      ⟨num * down, (if narrow then half else 2 * half) * down, 2 * half * down, mantissa % 2 = 0⟩
    (span.onGrid tie (up * den)).map fun digits => ⟨digits, place⟩
  match ((List.range 17).map (· + 1)).findSome? attempt with
  | some d => dropZeros 20 d
  | none => ⟨0, 0⟩

inductive Reading where
  | nan
  | infinite (negative : Bool)
  | zero (negative : Bool)
  | finite (negative : Bool) (decimal : Decimal)

def leadingBit : Nat := 0x10000000000000

def ofFloat (tie : Tie) (x : Float) : Reading :=
  let bits : Nat := x.toBits.toNat
  let negative := bits / 0x8000000000000000 = 1
  let biased : Nat := bits / leadingBit % 0x800
  let stored : Nat := bits % leadingBit
  if biased = 2047 then
    if stored = 0 then .infinite negative else .nan
  else if biased = 0 then
    if stored = 0 then .zero negative else .finite negative (shortest tie stored (-1074) false)
  else
    .finite negative
      (shortest tie (stored + leadingBit) ((biased : Int) - 1075) (stored = 0 ∧ 1 < biased))

end Decimal

end Targeting
