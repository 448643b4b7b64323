/-!
# Text up to ASCII case

Names of headers are compared with the letters `A`-`Z` and `a`-`z` identified and
all other characters as they are.
-/

namespace Targeting.Text

def lowerAscii (text : String) : String := .ofList (text.toList.map Char.toLower)

def sameIgnoringCase (a b : String) : Bool := lowerAscii a = lowerAscii b

theorem toLower_toLower (c : Char) : c.toLower.toLower = c.toLower := by
  unfold Char.toLower
  grind

theorem lowerAscii_lowerAscii (text : String) : lowerAscii (lowerAscii text) = lowerAscii text := by
  have hlower : Char.toLower ∘ Char.toLower = Char.toLower := funext toLower_toLower
  rw [lowerAscii, lowerAscii, String.toList_ofList, List.map_map, hlower]

def hexValue? (c : Char) : Option Nat :=
  if '0' ≤ c ∧ c ≤ '9' then some (c.toNat - '0'.toNat)
  else if 'a' ≤ c ∧ c ≤ 'f' then some (c.toNat - 'a'.toNat + 10)
  else if 'A' ≤ c ∧ c ≤ 'F' then some (c.toNat - 'A'.toNat + 10)
  else none

/-- Lower-case hexadecimal, without leading zeros. -/
def hex (n : Nat) : String := .ofList (Nat.toDigits 16 n)

def padLeft (width : Nat) (fill : Char) (text : String) : String :=
  "".pushn fill (width - text.length) ++ text

def upTo (separator : Char) (text : String) : String :=
  .ofList (text.toList.takeWhile (· ≠ separator))

end Targeting.Text
