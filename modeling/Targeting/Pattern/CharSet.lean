import Targeting.Unicode.Folding
import Targeting.Unicode.Ranges

/-!
# Sets of characters

What a class of a pattern admits, as ranges in order and apart. Two sets with the same
characters are the same set.
-/

namespace Targeting.Pattern

structure CharSet where
  ranges : Unicode.Ranges
  deriving DecidableEq

namespace CharSet

def ofRanges (ranges : Unicode.Ranges) : CharSet := ⟨ranges.normal⟩

def empty : CharSet := ⟨[]⟩

def single (c : Char) : CharSet := ⟨[(c.toNat, c.toNat)]⟩

def all : CharSet := ⟨[(0, 0x10FFFF)]⟩

def holds (s : CharSet) (point : Nat) : Bool := s.ranges.holds point

def union (a b : CharSet) : CharSet := .ofRanges (a.ranges ++ b.ranges)

def complement (a : CharSet) : CharSet := ⟨a.ranges.complement⟩

def inter (a b : CharSet) : CharSet := ⟨a.ranges.inter b.ranges⟩

def diff (a b : CharSet) : CharSet := a.inter b.complement

def symmetricDifference (a b : CharSet) : CharSet := (a.diff b).union (b.diff a)

def asciiFamilies : List (List Nat) := (List.range 26).map fun i => [65 + i, 97 + i]

/-- With all that differs in case only from one of the set, among all letters or among
the ASCII letters. -/
def folded (unicode : Bool) (a : CharSet) : CharSet :=
  let families := if unicode then Unicode.families else asciiFamilies
  let more := (families.filter (·.any a.holds)).flatten
  a.union ⟨more.map fun point => (point, point)⟩

def isAscii (a : CharSet) : Bool := a.ranges.all fun (_, last) => last < 128

def only? (a : CharSet) : Option Char :=
  match a.ranges with
  | [(first, last)] => if first = last then some (.ofNat first) else none
  | _ => none

end CharSet

end Targeting.Pattern
