import Mathlib.Algebra.Order.Field.Basic
import Mathlib.Algebra.Order.Field.Rat
import Mathlib.Data.List.TakeWhile
import Mathlib.Data.Nat.Digits.Lemmas
import Mathlib.Tactic.IntervalCases
import Mathlib.Tactic.Ring
import Targeting.Bucket
import Targeting.Decimal.Shortest

/-!
# The bucket of any browser id

The digits that count (`Bucket.digits`), their value in base 16 (`Bucket.value`) and the whole
number nearest to a fraction of it (`Bucket.IsNearest`): there is a bucket if there are digits
(`ofBid_eq`), and it is the number nearest to 100 times the value over 255 (`scale_isNearest`),
which is also what computing in floating point gives (`rounded_scaled`).
-/

namespace Targeting

-- ---------------------------------------------------------------------------
-- Hexadecimal digits
-- ---------------------------------------------------------------------------

namespace Text

def hexDigit (c : Char) : Nat := "0123456789abcdef".toList.idxOf c.toLower

theorem hexValue?_alphabet : ∀ c ∈ "0123456789abcdefABCDEF".toList,
    hexValue? c = some (hexDigit c) ∧ hexDigit c < 16 := by
  -- by way of `all`, so that no instance goes through all characters
  have hall : ("0123456789abcdefABCDEF".toList.all fun c =>
      hexValue? c = some (hexDigit c) ∧ hexDigit c < 16) = true := by decide
  intro c hc
  exact of_decide_eq_true (List.all_eq_true.mp hall c hc)

theorem isHexDigit_iff {c : Char} :
    c.isHexDigit = true ↔ ('0' ≤ c ∧ c ≤ '9') ∨ ('a' ≤ c ∧ c ≤ 'f') ∨ ('A' ≤ c ∧ c ≤ 'F') := by
  simp [Char.isHexDigit, Char.isDigit, Char.le_def, or_assoc]

theorem mem_alphabet {c : Char} (h : c.isHexDigit = true) :
    c ∈ "0123456789abcdefABCDEF".toList := by
  rw [← Char.ofNat_toNat c]
  rcases isHexDigit_iff.mp h with ⟨hlow, hhigh⟩ | ⟨hlow, hhigh⟩ | ⟨hlow, hhigh⟩
  · have hlow : 48 ≤ c.toNat := hlow
    have hhigh : c.toNat ≤ 57 := hhigh
    interval_cases c.toNat <;> decide
  · have hlow : 97 ≤ c.toNat := hlow
    have hhigh : c.toNat ≤ 102 := hhigh
    interval_cases c.toNat <;> decide
  · have hlow : 65 ≤ c.toNat := hlow
    have hhigh : c.toNat ≤ 70 := hhigh
    interval_cases c.toNat <;> decide

theorem hexDigit_lt {c : Char} (h : c.isHexDigit = true) : hexDigit c < 16 :=
  (hexValue?_alphabet c (mem_alphabet h)).2

theorem hexValue?_eq (c : Char) :
    hexValue? c = if c.isHexDigit then some (hexDigit c) else none := by
  split
  · next h => exact (hexValue?_alphabet c (mem_alphabet h)).1
  · next h =>
    rw [isHexDigit_iff, not_or, not_or] at h
    obtain ⟨hdigit, hlower, hupper⟩ := h
    rw [hexValue?, if_neg hdigit, if_neg hlower, if_neg hupper]

theorem isHexDigit_toLower (c : Char) : c.toLower.isHexDigit = c.isHexDigit := by
  unfold Char.toLower Char.isHexDigit Char.isDigit
  grind

theorem hexValue?_toLower (c : Char) : hexValue? c.toLower = hexValue? c := by
  rw [hexValue?_eq, hexValue?_eq, isHexDigit_toLower, hexDigit, hexDigit, toLower_toLower]

end Text

namespace Bucket

-- ---------------------------------------------------------------------------
-- Digits and their value
-- ---------------------------------------------------------------------------

/-- The hexadecimal digits that the last two characters of the id begin with. -/
def digits (bid : String) : List Char := (lastTwo bid.toList).takeWhile Char.isHexDigit

/-- What the digits say in base 16, the first one being the most significant. -/
def value (bid : String) : Nat := Nat.ofDigits 16 ((digits bid).map Text.hexDigit).reverse

theorem lastTwo_suffix (text : List Char) : lastTwo text <:+ text := List.drop_suffix _ _

theorem lastTwo_length (text : List Char) : (lastTwo text).length = min 2 text.length := by
  rw [lastTwo, List.length_drop]
  omega

theorem lastTwo_append (before : List Char) {text : List Char} (h : 2 ≤ text.length) :
    lastTwo (before ++ text) = lastTwo text := by
  have hdrop : (before ++ text).length - 2 = before.length + (text.length - 2) := by
    rw [List.length_append]
    omega
  rw [lastTwo, hdrop, List.drop_length_add_append, lastTwo]

theorem lastTwo_map (f : Char → Char) (text : List Char) :
    lastTwo (text.map f) = (lastTwo text).map f := by
  rw [lastTwo, List.length_map, ← List.map_drop, lastTwo]

theorem leadingHex_eq (text : List Char) :
    leadingHex text = (text.takeWhile Char.isHexDigit).map Text.hexDigit := by
  induction text with
  | nil => rfl
  | cons c rest ih =>
    rw [leadingHex, Text.hexValue?_eq, List.takeWhile_cons, ih]
    cases c.isHexDigit <;> rfl

theorem leadingHex_toLower (text : List Char) :
    leadingHex (text.map Char.toLower) = leadingHex text := by
  induction text with
  | nil => rfl
  | cons c rest ih => rw [List.map_cons, leadingHex, leadingHex, Text.hexValue?_toLower, ih]

theorem number_eq (ds : List Nat) : number ds = Nat.ofDigits 16 ds.reverse := by
  rw [Nat.ofDigits_eq_foldr, List.foldr_reverse, number]
  congr
  funext n d
  rw [Nat.cast_id]
  omega

theorem ofBid_eq (bid : String) :
    ofBid bid = if digits bid = [] then none else some (scale (value bid)) := by
  rw [ofBid, leadingHex_eq, value, digits, ← number_eq]
  cases (lastTwo bid.toList).takeWhile Char.isHexDigit <;> rfl

theorem ofBid_eq_some {bid : String} {b : Nat} :
    ofBid bid = some b ↔ digits bid ≠ [] ∧ b = scale (value bid) := by
  rw [ofBid_eq]
  by_cases h : digits bid = []
  · rw [if_pos h]
    exact ⟨nofun, fun hb => absurd h hb.1⟩
  · rw [if_neg h, Option.some_inj, eq_comm, and_iff_right h]

theorem digits_length (bid : String) : (digits bid).length ≤ 2 := by
  have hprefix := (List.takeWhile_prefix (l := lastTwo bid.toList) Char.isHexDigit).length_le
  rw [lastTwo_length] at hprefix
  exact hprefix.trans (Nat.min_le_left ..)

theorem value_le (bid : String) : value bid ≤ 255 := by
  have hdigits : ∀ d ∈ ((digits bid).map Text.hexDigit).reverse, d < 16 := by
    intro d hd
    obtain ⟨c, hc, rfl⟩ := List.mem_map.mp (List.mem_reverse.mp hd)
    exact Text.hexDigit_lt (List.mem_takeWhile_imp hc)
  have hlength : ((digits bid).map Text.hexDigit).reverse.length ≤ 2 := by
    simpa using digits_length bid
  have hvalue : value bid < 16 ^ 2 :=
    (Nat.ofDigits_lt_base_pow_length (by decide) hdigits).trans_le
      (Nat.pow_le_pow_right (by decide) hlength)
  omega

-- ---------------------------------------------------------------------------
-- Rounding
-- ---------------------------------------------------------------------------

/-- Nearer than every other whole number; so it is not one of two that are equally near. -/
def IsNearest (x : ℚ) (n : ℤ) : Prop := ∀ other : ℤ, other ≠ n → |x - n| < |x - other|

theorem scale_eq (v : Nat) : scale v = (40 * v + 51) / 102 := by
  rw [scale]
  omega

theorem scale_isNearest (v : Nat) : IsNearest (100 * v / 255) (scale v) := by
  intro other hother
  have hdistance : ∀ n : ℤ, |(100 * v / 255 : ℚ) - n| = ((|40 * v - 102 * n| : ℤ) : ℚ) / 102 := by
    intro n
    have hsub : (100 * v / 255 : ℚ) - n = ((40 * v - 102 * n : ℤ) : ℚ) / 102 := by
      push_cast
      ring
    rw [hsub, abs_div, Int.cast_abs]
    rfl
  rw [hdistance, hdistance]
  have hnear : |40 * (v : ℤ) - 102 * (scale v : ℤ)| < 51 := by
    rw [scale_eq, abs_lt]
    omega
  have hfar : 51 ≤ |40 * (v : ℤ) - 102 * other| := by
    rw [scale_eq] at hother
    rw [le_abs]
    omega
  exact div_lt_div_of_pos_right (Int.cast_lt.mpr (hnear.trans_le hfar)) (by decide)

theorem scale_le {v : Nat} (h : v ≤ 255) : scale v ≤ 100 := by
  rw [scale]
  omega

theorem scale_mono {v w : Nat} (h : v ≤ w) : scale v ≤ scale w := by
  rw [scale, scale]
  omega

/-- In floating point, divided first and multiplied then. -/
def scaled (v : Nat) : Float := v.toUInt64.toFloat / 255.0 * 100.0

/-- The whole number nearest to a float, a half going up; none is below zero. -/
def rounded (x : Float) : Nat :=
  match x.toModel.unpack with
  | .finite .positive mantissa exponent _ =>
    let (numerator, denominator) := Decimal.fraction mantissa exponent
    (2 * numerator + denominator) / (2 * denominator)
  | _ => 0

/-- Floating point rounds three times, never far enough to reach another whole number. -/
theorem rounded_scaled : ∀ v < 256, rounded (scaled v) = scale v := by decide +kernel

-- ---------------------------------------------------------------------------
-- Buckets
-- ---------------------------------------------------------------------------

theorem ofBid_append (before : String) {bid : String} (h : 2 ≤ bid.length) :
    ofBid (before ++ bid) = ofBid bid := by
  rw [ofBid, ofBid, String.toList_append, lastTwo_append _ (String.length_toList ▸ h)]

theorem ofBid_lowerAscii (bid : String) : ofBid (Text.lowerAscii bid) = ofBid bid := by
  rw [ofBid, ofBid, Text.lowerAscii, String.toList_ofList, lastTwo_map, leadingHex_toLower]

/-- The last two characters are a suffix of the id, all of it if it has no more. If they begin
with hexadecimal digits, the bucket is the number nearest to 100 times the value of these over
255, as it comes out in floating point too; if not, there is none. So a greater value gives no
smaller bucket, and neither what comes before two characters nor the case of letters matters. -/
theorem ofBid_nearest :
    (∀ bid : String, lastTwo bid.toList <:+ bid.toList ∧
      (lastTwo bid.toList).length = min 2 bid.length ∧
      (ofBid bid = none ↔ digits bid = []) ∧
      (digits bid ≠ [] → ofBid bid = some (scale (value bid))) ∧
      value bid ≤ 255 ∧
      IsNearest (100 * value bid / 255) (scale (value bid)) ∧
      scale (value bid) = (40 * value bid + 51) / 102 ∧
      scale (value bid) ≤ 100 ∧
      rounded (scaled (value bid)) = scale (value bid)) ∧
    (∀ (bid other : String) (b c : Nat), ofBid bid = some b → ofBid other = some c →
      value bid ≤ value other → b ≤ c) ∧
    (∀ before bid : String, 2 ≤ bid.length → ofBid (before ++ bid) = ofBid bid) ∧
    (∀ bid other : String, Text.sameIgnoringCase bid other = true → ofBid bid = ofBid other) := by
  refine ⟨fun bid => ?_, ?_, fun before bid h => ofBid_append before h, ?_⟩
  · have hvalue := value_le bid
    have hlength : (lastTwo bid.toList).length = min 2 bid.length := by
      rw [lastTwo_length, String.length_toList]
    have hnone : ofBid bid = none ↔ digits bid = [] := by
      rw [ofBid_eq]
      simp
    exact ⟨lastTwo_suffix _, hlength, hnone, fun h => ofBid_eq_some.mpr ⟨h, rfl⟩, hvalue,
      scale_isNearest _, scale_eq _, scale_le hvalue, rounded_scaled _ (Nat.lt_succ_of_le hvalue)⟩
  · intro bid other b c hb hc hle
    obtain ⟨-, rfl⟩ := ofBid_eq_some.mp hb
    obtain ⟨-, rfl⟩ := ofBid_eq_some.mp hc
    exact scale_mono hle
  · intro bid other h
    have hlower : Text.lowerAscii bid = Text.lowerAscii other := of_decide_eq_true h
    rw [← ofBid_lowerAscii bid, hlower, ofBid_lowerAscii]

/-- One digit and two; the case of the letters; a sign that is no digit. -/
theorem ofBid_nearest_browsers :
    digits "visitor-4D" ≠ [] ∧ ofBid "visitor-4D" = some 30 ∧
      ofBid "a-" = some 4 ∧ value "a-" ≤ value "visitor-4D" ∧ 4 ≤ 30 ∧
      2 ≤ "4D".length ∧ ofBid ("visitor-" ++ "4D") = ofBid "4D" ∧
      Text.sameIgnoringCase "visitor-4D" "Visitor-4d" = true ∧
      ofBid "visitor-4D" = ofBid "Visitor-4d" ∧ ofBid "-a" = none := by
  obtain ⟨hbucket, hmono, hbefore, hcase⟩ := ofBid_nearest
  have hdigits : digits "visitor-4D" ≠ [] := by decide
  have hone : ofBid "a-" = some 4 := by decide
  have htwo : ofBid "visitor-4D" = some 30 := by decide
  have hvalue : value "a-" ≤ value "visitor-4D" := by decide
  have hsame : Text.sameIgnoringCase "visitor-4D" "Visitor-4d" = true := by decide
  obtain ⟨-, -, hnone, -⟩ := hbucket "-a"
  obtain ⟨-, -, -, hsome, -⟩ := hbucket "visitor-4D"
  exact ⟨hdigits, (hsome hdigits).trans (by decide), hone, hvalue, hmono _ _ _ _ hone htwo hvalue,
    by decide, hbefore _ _ (by decide), hsame, hcase _ _ hsame, hnone.mpr (by decide)⟩

end Bucket

end Targeting
