/-!
# Reading numbers

Whole numbers with a sign, within 64 bits, and floats: digits with a point anywhere and
an exponent, or the words for infinity and for what is no number. A float is the
nearest one to the decimal that is written.
-/

namespace Targeting.Decimal

def isDigit (c : Char) : Bool := '0' ≤ c && c ≤ '9'

def digitsValue (digits : List Char) : Nat :=
  digits.foldl (fun n d => n * 10 + (d.toNat - '0'.toNat)) 0

/-- The text after its sign, and whether the sign is a minus. -/
def splitSign : List Char → Bool × List Char
  | '+' :: rest => (false, rest)
  | '-' :: rest => (true, rest)
  | rest => (false, rest)

def signed (negative : Bool) (n : Nat) : Int := if negative then -(n : Int) else n

def fitsWord (n : Int) : Bool := -0x8000000000000000 ≤ n && n < 0x8000000000000000

def integer? (text : String) : Option Int :=
  let (negative, digits) := splitSign text.toList
  let n := signed negative (digitsValue digits)
  if !digits.isEmpty && digits.all isDigit && fitsWord n then some n else none

/-- The float nearest to `mantissa * 10 ^ exponent`. -/
def nearest (mantissa : Nat) (exponent : Int) : Float :=
  let size := (toString mantissa).length + exponent
  if mantissa = 0 ∨ size < -330 then 0.0
  else if 330 < size then 1.0 / 0.0
  else Float.ofScientific mantissa (exponent < 0) exponent.natAbs

/-- The exponent part, if the rest of the text is one or is empty. -/
def exponent? : List Char → Option Int
  | [] => some 0
  | c :: rest =>
    let (negative, digits) := splitSign rest
    if (c = 'e' || c = 'E') && !digits.isEmpty && digits.all isDigit then
      some (signed negative (digitsValue digits))
    else none

def magnitude? (text : List Char) : Option Float :=
  let whole := text.takeWhile isDigit
  let rest := text.drop whole.length
  let (fraction, rest) := match rest with
    | '.' :: after =>
      let fraction := after.takeWhile isDigit
      (fraction, after.drop fraction.length)
    | rest => ([], rest)
  if whole.isEmpty && fraction.isEmpty then none
  else
    (exponent? rest).map fun e => nearest (digitsValue (whole ++ fraction)) (e - fraction.length)

def float? (text : String) : Option Float :=
  let (negative, rest) := splitSign text.toList
  let word := rest.map Char.toLower
  let magnitude :=
    if word = "inf".toList ∨ word = "infinity".toList then some (1.0 / 0.0)
    else if word = "nan".toList then some (0.0 / 0.0)
    else magnitude? rest
  magnitude.map fun x => if negative then -x else x

end Targeting.Decimal
