import Targeting.Decimal.Read
import Targeting.Text.Ascii

/-!
# Numbers of settings files

Underscores stand between digits only. Decimal integers have a sign and no leading
zeros, those in other bases neither. A float has a fraction, an exponent or both. What
does not fit into 64 bits is no number.
-/

namespace Targeting.Toml.Number

open Decimal (isDigit)

/-- The digits without the underscores, each of which has a digit on both sides. -/
def digits? (isDigit : Char → Bool) : List Char → Option (List Char)
  | [] => none
  | [d] => if isDigit d then some [d] else none
  | d :: '_' :: rest => if isDigit d then (digits? isDigit rest).map (d :: ·) else none
  | d :: rest => if isDigit d then (digits? isDigit rest).map (d :: ·) else none

def isDigitIn (base : Nat) (c : Char) : Bool := (Text.hexValue? c).any (· < base)

def valueIn (base : Nat) (digits : List Char) : Nat :=
  digits.foldl (fun n d => n * base + (Text.hexValue? d).getD 0) 0

def inRange (n : Int) : Option Int := if Decimal.fitsWord n then some n else none

def inBase? (base : Nat) (text : List Char) : Option Int := do
  inRange (valueIn base (← digits? (isDigitIn base) text))

def whole? (text : List Char) : Option (List Char) := do
  let ds ← digits? isDigit text
  if ds.head? = some '0' ∧ ds.length ≠ 1 then none else some ds

def integer? : List Char → Option Int
  | '0' :: 'x' :: rest => inBase? 16 rest
  | '0' :: 'o' :: rest => inBase? 8 rest
  | '0' :: 'b' :: rest => inBase? 2 rest
  | written => do
    let (negative, rest) := Decimal.splitSign written
    inRange (Decimal.signed negative (valueIn 10 (← whole? rest)))

def isExponentMark (c : Char) : Bool := c = 'e' || c = 'E'

def exponent? : List Char → Option Int
  | [] => some 0
  | _ :: rest => do
    let (negative, rest) := Decimal.splitSign rest
    return Decimal.signed negative (valueIn 10 (← digits? isDigit rest))

def fraction? : List Char → Option (List Char)
  | [] => some []
  | _ :: rest => digits? isDigit rest

def magnitude? (text : List Char) : Option Float := do
  let mantissa := text.takeWhile (!isExponentMark ·)
  let whole := mantissa.takeWhile (· ≠ '.')
  let ds ← whole? whole
  guard (whole ≠ text)
  let fraction ← fraction? (mantissa.drop whole.length)
  let exponent ← exponent? (text.drop mantissa.length)
  let x := Decimal.nearest (valueIn 10 (ds ++ fraction)) (exponent - fraction.length)
  if x.isInf then none else some x

def float? (text : List Char) : Option Float :=
  let (negative, rest) := Decimal.splitSign text
  let magnitude :=
    if rest = ['i', 'n', 'f'] then some (1.0 / 0.0)
    else if rest = ['n', 'a', 'n'] then some (0.0 / 0.0)
    else magnitude? rest
  magnitude.map fun x => if negative then -x else x

end Targeting.Toml.Number
