import Targeting.Json.Shape
import Targeting.Text.Ascii

/-!
# Buckets

The last two characters of a browser id, read as a hexadecimal number up to the first
character that is no digit, scaled from `0..255` to `0..100` and rounded. A bucket
condition is a list of closed intervals.
-/

namespace Targeting.Bucket

def lastTwo (text : List Char) : List Char := text.drop (text.length - 2)

theorem lastTwo_lastTwo (text : List Char) : lastTwo (lastTwo text) = lastTwo text := by
  have hlength : (lastTwo text).length - 2 = 0 := by simp only [lastTwo, List.length_drop]; omega
  rw [lastTwo, hlength, List.drop_zero]

def leadingHex : List Char → List Nat
  | [] => []
  | c :: rest =>
    match Text.hexValue? c with
    | some d => d :: leadingHex rest
    | none => []

def number (digits : List Nat) : Nat := digits.foldl (fun n d => n * 16 + d) 0

/-- The whole number nearest to `100 * value / 255`; there are no ties. -/
def scale (value : Nat) : Nat := (2 * 100 * value + 255) / (2 * 255)

def ofBid (bid : String) : Option Nat :=
  match leadingHex (lastTwo bid.toList) with
  | [] => none
  | digits => some (scale (number digits))

structure Range where
  min : Int
  max : Int
  deriving DecidableEq

def Range.contains (range : Range) (bucket : Nat) : Bool :=
  range.min ≤ bucket && bucket ≤ range.max

def Range.layout : Layout := .cons "min" true .integer (.cons "max" true .integer .nil)

def Range.shape : Shape := .record "BucketRange" Range.layout

def Range.ofContent : Range.shape.Content → Range
  | (min, max, _) => ⟨min, max⟩

end Targeting.Bucket
