/-!
# Ranges of code points

A set of code points is written as its ranges in hexadecimal, `41-5a 5f 61-7a`.
-/

namespace Targeting.Unicode

abbrev Ranges := List (Nat × Nat)

namespace Ranges

/-- Whether the point lies in one of the ranges, which need not be in order. -/
def holds (ranges : Ranges) (point : Nat) : Bool :=
  ranges.any fun (first, last) => first ≤ point && point ≤ last

def hexDigit (c : Char) : Nat :=
  if c.isDigit then c.toNat - '0'.toNat else c.toNat - 'a'.toNat + 10

/-- What is read so far: the ranges, the start of an open range, the digits of a number. -/
structure Scan where
  done : Ranges
  start : Option Nat
  number : Option Nat

def Scan.close (scan : Scan) : Scan :=
  match scan.number with
  | none => ⟨scan.done, none, none⟩
  | some n => ⟨(scan.start.getD n, n) :: scan.done, none, none⟩

def Scan.step (scan : Scan) (c : Char) : Scan :=
  if c = '-' then ⟨scan.done, scan.number, none⟩
  else if c = ' ' then scan.close
  else ⟨scan.done, scan.start, some (scan.number.getD 0 * 16 + hexDigit c)⟩

def parseLine (line : String) : Ranges :=
  (line.toList.foldl Scan.step ⟨[], none, none⟩).close.done.reverse

def parse (table : List String) : Ranges := table.flatMap parseLine

-- ---------------------------------------------------------------------------
-- Sets of ranges
-- ---------------------------------------------------------------------------

def joinFrom (first last : Nat) : Ranges → Ranges
  | [] => [(first, last)]
  | (a, b) :: rest =>
    if a ≤ last + 1 then joinFrom first (max last b) rest
    else (first, last) :: joinFrom a b rest

/-- The same points by ranges in order and apart. -/
def normal (ranges : Ranges) : Ranges :=
  match ranges.mergeSort (fun a b => a.1 ≤ b.1) with
  | [] => []
  | (first, last) :: rest => joinFrom first last rest

def gapsFrom (start : Nat) : Ranges → Ranges
  | [] => if start < 0x110000 then [(start, 0x10FFFF)] else []
  | (first, last) :: rest =>
    if start < first then (start, first - 1) :: gapsFrom (last + 1) rest
    else gapsFrom (last + 1) rest

def complement (ranges : Ranges) : Ranges := gapsFrom 0 ranges.normal

def inter (a b : Ranges) : Ranges := complement (a.complement ++ b.complement)

end Ranges

end Targeting.Unicode
