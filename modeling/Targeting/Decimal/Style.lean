import Targeting.Decimal.Shortest

/-!
# Written floats

Two notations of the shortest decimal: the one of JSON texts, always marked as a real
by a point or an exponent, and the plain one, positional at any size.
-/

namespace Targeting

namespace Decimal

/-- Positional notation is used while the point stands between `low` places left of
the digits and `high` places into them. -/
structure Style where
  low : Option Int
  high : Option Int
  pointZero : Bool
  tie : Tie
  nan : String
  infinity : String

/-- Positional from `1e-5` to below `1e16`, else one digit, the point and a signed exponent. -/
def json : Style := ⟨some (-5), some 16, true, .even, "null", "null"⟩

/-- Positional at any size; no fraction on an integral value. -/
def plain : Style := ⟨none, none, false, .up, "NaN", "inf"⟩

def pointed : Style := ⟨none, none, true, .up, "NaN", "inf"⟩

private def zeros (count : Int) : String := "".pushn '0' count.toNat

def Style.positional (n : Style) (digits : String) (point : Int) : String :=
  let count : Int := digits.length
  if count ≤ point then
    digits ++ zeros (point - count) ++ (if n.pointZero then ".0" else "")
  else if 0 < point then
    String.ofList (digits.toList.take point.toNat) ++ "." ++
      String.ofList (digits.toList.drop point.toNat)
  else
    "0." ++ zeros (-point) ++ digits

def exponential (digits : String) (point : Int) : String :=
  let exponent := point - 1
  let tail := String.ofList (digits.toList.drop 1)
  String.ofList (digits.toList.take 1) ++ (if tail = "" then "" else "." ++ tail) ++ "e" ++
    (if exponent < 0 then "-" else "+") ++ toString exponent.natAbs

def Style.magnitude (n : Style) (d : Decimal) : String :=
  let digits := toString d.digits
  let point : Int := digits.length + d.exponent
  if n.low.all (· < point) && n.high.all (point ≤ ·) then n.positional digits point
  else exponential digits point

def Style.sign (negative : Bool) : String := if negative then "-" else ""

def Style.write (n : Style) (x : Float) : String :=
  match ofFloat n.tie x with
  | .nan => n.nan
  | .infinite negative => sign negative ++ n.infinity
  | .zero negative => sign negative ++ (if n.pointZero then "0.0" else "0")
  | .finite negative d => sign negative ++ n.magnitude d

end Decimal

end Targeting
