import Targeting.Decimal.Read
import Targeting.Text.Ascii

/-!
# Dates and times

A moment is a date, a time of day, or both with or without an offset. Its normal text
has a `T` before the time, and no zeros at the end of a fraction (of nine digits at most),
of which one digit is left at least; it writes offset zero as `Z` or `+00:00`.
-/

namespace Targeting.Toml.Moment

open Decimal (isDigit digitsValue)

def digits? (count : Nat) (text : List Char) : Option (List Char × List Char) :=
  let ds := text.take count
  if ds.length = count ∧ ds.all isDigit then some (ds, text.drop count) else none

def pair? (low high : Nat) (text : List Char) : Option (List Char × List Char) := do
  let (ds, rest) ← digits? 2 text
  if low ≤ digitsValue ds ∧ digitsValue ds ≤ high then some (ds, rest) else none

def mark? (c : Char) : List Char → Option (List Char)
  | x :: rest => if x = c then some rest else none
  | [] => none

def isLeap (year : Nat) : Bool := year % 4 = 0 && (year % 100 ≠ 0 || year % 400 = 0)

def daysIn (year month : Nat) : Nat :=
  if month = 2 then if isLeap year then 29 else 28
  else if month ∈ [4, 6, 9, 11] then 30
  else 31

def date? (text : List Char) : Option (List Char × List Char) := do
  let (year, rest) ← digits? 4 text
  let rest ← mark? '-' rest
  let (month, rest) ← pair? 1 12 rest
  let rest ← mark? '-' rest
  let (day, rest) ← pair? 1 (daysIn (digitsValue year) (digitsValue month)) rest
  return (year ++ '-' :: month ++ '-' :: day, rest)

def trimZeros (ds : List Char) : List Char := (ds.reverse.dropWhile (· = '0')).reverse

def fraction? : List Char → Option (List Char × List Char)
  | '.' :: rest =>
    let ds := rest.takeWhile isDigit
    let shown := trimZeros (ds.take 9)
    if ds.isEmpty then none
    else some ('.' :: (if shown.isEmpty then ['0'] else shown), rest.drop ds.length)
  | rest => some ([], rest)

def seconds? : List Char → Option (List Char × List Char)
  | ':' :: rest => do
    let (seconds, rest) ← pair? 0 60 rest
    let (fraction, rest) ← fraction? rest
    return (':' :: seconds ++ fraction, rest)
  | rest => some ([], rest)

def time? (text : List Char) : Option (List Char × List Char) := do
  let (hour, rest) ← pair? 0 23 text
  let rest ← mark? ':' rest
  let (minute, rest) ← pair? 0 59 rest
  let (seconds, rest) ← seconds? rest
  return (hour ++ ':' :: minute ++ seconds, rest)

def offset? : List Char → Option (List Char)
  | [] => some []
  | ['Z'] | ['z'] => some ['Z']
  | sign :: rest => do
    let (hour, rest) ← pair? 0 23 rest
    let rest ← mark? ':' rest
    let (minute, rest) ← pair? 0 59 rest
    let zero := digitsValue (hour ++ minute) = 0
    if (sign = '+' ∨ sign = '-') ∧ rest = [] then
      some ((if zero then '+' else sign) :: hour ++ ':' :: minute)
    else none

def normal? (text : List Char) : Option String :=
  match date? text with
  | some (date, []) => some (.ofList date)
  | some (date, mark :: rest) => do
    let (time, rest) ← time? rest
    let offset ← offset? rest
    if mark ∈ ['T', 't', ' '] then some (.ofList (date ++ 'T' :: time ++ offset)) else none
  | none =>
    match time? text with
    | some (time, []) => some (.ofList time)
    | _ => none

end Targeting.Toml.Moment
