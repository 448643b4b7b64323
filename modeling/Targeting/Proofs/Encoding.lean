import Mathlib.Algebra.Group.Nat.Defs
import Targeting.Text.Utf8

/-!
# UTF-8

A text is read from some bytes exactly when they are its own in UTF-8, and the bytes of
two texts stand in the order of the texts.
-/

namespace Targeting.Text

def utf8 (text : String) : List Nat := text.toUTF8.data.toList.map UInt8.toNat

def charBytes (c : Char) : List Nat := (String.utf8EncodeChar c).map UInt8.toNat

theorem utf8_ofList (cs : List Char) : utf8 (.ofList cs) = cs.flatMap charBytes := by
  have hbytes : (String.ofList cs).toUTF8 = cs.utf8Encode := String.toByteArray_ofList
  rw [utf8, hbytes, List.utf8Encode, List.toList_data_toByteArray, List.map_flatMap]
  rfl

-- ---------------------------------------------------------------------------
-- Characters
-- ---------------------------------------------------------------------------

/-- The last bytes of a code point, six bits each. -/
def following : Nat → Nat → List Nat
  | 0, _ => []
  | count + 1, n => (n / 64 ^ count % 64 + 0x80) :: following count n

theorem toNat_valid (c : Char) :
    c.toNat < 0xD800 ∨ 0xDFFF < c.toNat ∧ c.toNat < 0x110000 := c.valid

theorem charBytes_eq (c : Char) :
    charBytes c =
      if c.toNat < 0x80 then [c.toNat]
      else if c.toNat < 0x800 then (c.toNat / 64 + 0xC0) :: following 1 c.toNat
      else if c.toNat < 0x10000 then (c.toNat / 64 ^ 2 + 0xE0) :: following 2 c.toNat
      else (c.toNat / 64 ^ 3 + 0xF0) :: following 3 c.toNat := by
  have hvalid := toNat_valid c
  have hval : c.val.toNat = c.toNat := rfl
  simp only [charBytes, String.utf8EncodeChar, hval, following, ← Nat.lt_succ_iff]
  split
  · simp; omega
  split
  · simp; omega
  split
  · simp; omega
  · simp; omega

theorem charBytes_ne_nil (c : Char) : charBytes c ≠ [] := by
  rw [charBytes_eq]
  grind

-- Some second bytes would spell a code point too long, or one that is no character.
theorem followers?_eq (lead : Nat) :
    followers? lead =
      if lead < 0x80 then some (0, 0, 0)
      else if lead < 0xC2 then none
      else if lead < 0xE0 then some (1, 0x80, 0xBF)
      else if lead < 0xF0 then
        some (2, if lead = 0xE0 then 0xA0 else 0x80, if lead = 0xED then 0x9F else 0xBF)
      else if lead < 0xF5 then
        some (3, if lead = 0xF0 then 0x90 else 0x80, if lead = 0xF4 then 0x8F else 0xBF)
      else none := by
  unfold followers?
  by_cases h : lead < 0xE0
  · grind
  · grind

/-- The byte begins the code point, and then as many bytes follow. -/
structure Begins (lead count low high n : Nat) : Prop where
  followers : followers? lead = some (count + 1, low, high)
  bits : n / 64 ^ (count + 1) = leadBits lead (count + 1)
  second : low ≤ n / 64 ^ count % 64 + 0x80 ∧ n / 64 ^ count % 64 + 0x80 ≤ high

theorem exists_begins {c : Char} (h : 0x80 ≤ c.toNat) :
    ∃ lead count low high, Begins lead count low high c.toNat ∧
      charBytes c = lead :: following (count + 1) c.toNat := by
  have hvalid := toNat_valid c
  rw [charBytes_eq, if_neg (Nat.not_lt.mpr h)]
  split
  · have hf := followers?_eq (c.toNat / 64 + 0xC0)
    rw [if_neg (by omega), if_neg (by omega), if_pos (by omega)] at hf
    refine ⟨_, 0, _, _, ⟨hf, ?_, by omega⟩, rfl⟩
    simp only [leadBits]; omega
  split
  · have hf := followers?_eq (c.toNat / 64 ^ 2 + 0xE0)
    rw [if_neg (by omega), if_neg (by omega), if_neg (by omega), if_pos (by omega)] at hf
    refine ⟨_, 1, _, _, ⟨hf, ?_, ?_⟩, rfl⟩
    · simp only [leadBits]; omega
    · split <;> split <;> omega
  · have hf := followers?_eq (c.toNat / 64 ^ 3 + 0xF0)
    rw [if_neg (by omega), if_neg (by omega), if_neg (by omega), if_neg (by omega),
      if_pos (by omega)] at hf
    refine ⟨_, 2, _, _, ⟨hf, ?_, ?_⟩, rfl⟩
    · simp only [leadBits]; omega
    · split <;> split <;> omega

-- The bounds on the second byte leave out just what is spelled in fewer bytes, the
-- surrogates, and what is beyond the last code point.
theorem Begins.charBytes {lead count low high n : Nat} (h : Begins lead count low high n) :
    charBytes (Char.ofNat n) = lead :: following (count + 1) n := by
  obtain ⟨hf, hbits, hlow, hhigh⟩ := h
  have hn (hvalid : n.isValidChar) : (Char.ofNat n).toNat = n := by
    rw [Char.ofNat, dif_pos hvalid]
    rfl
  rw [followers?_eq] at hf
  split at hf
  · cases hf
  split at hf
  · cases hf
  split at hf
  · simp only [Option.some.injEq, Prod.mk.injEq] at hf
    obtain ⟨hcount, rfl, rfl⟩ := hf
    obtain rfl : 0 = count := by omega
    simp only [leadBits] at hbits
    rw [charBytes_eq, hn (.inl (by omega)), if_neg (by omega), if_pos (by omega)]
    congr 1
    omega
  split at hf
  · simp only [Option.some.injEq, Prod.mk.injEq] at hf
    obtain ⟨hcount, rfl, rfl⟩ := hf
    obtain rfl : 1 = count := by omega
    simp only [leadBits] at hbits
    have hvalid : 0x800 ≤ n ∧ n < 0x10000 ∧ n.isValidChar := by
      simp only [Nat.isValidChar]
      split at hlow <;> split at hhigh <;> omega
    rw [charBytes_eq, hn hvalid.2.2, if_neg (by omega), if_neg (by omega), if_pos (by omega)]
    congr 1
    omega
  split at hf
  · simp only [Option.some.injEq, Prod.mk.injEq] at hf
    obtain ⟨hcount, rfl, rfl⟩ := hf
    obtain rfl : 2 = count := by omega
    simp only [leadBits] at hbits
    have hvalid : 0x10000 ≤ n ∧ n.isValidChar := by
      simp only [Nat.isValidChar]
      split at hlow <;> split at hhigh <;> omega
    rw [charBytes_eq, hn hvalid.2, if_neg (by omega), if_neg (by omega), if_neg (by omega)]
    congr 1
    omega
  · cases hf

/-- A character that is open is closed by the bytes that are left of it. -/
theorem decodeFrom_following {low high : Nat} (count n : Nat) (rest : List Nat)
    (h : low ≤ n / 64 ^ count % 64 + 0x80 ∧ n / 64 ^ count % 64 + 0x80 ≤ high) :
    decodeFrom (some ⟨n / 64 ^ (count + 1), count + 1, low, high⟩)
        (following (count + 1) n ++ rest) =
      some (Char.ofNat n) :: decodeFrom none rest := by
  have hbits (k : Nat) : n / 64 ^ (k + 1) * 64 + (n / 64 ^ k % 64 + 0x80) % 64 = n / 64 ^ k := by
    rw [Nat.pow_succ, ← Nat.div_div_eq_div_mul]
    omega
  induction count generalizing low high with
  | zero =>
    rw [following, List.cons_append, decodeFrom, if_pos h, if_pos rfl, hbits, Nat.pow_zero,
      Nat.div_one]
    rfl
  | succ count ih =>
    rw [following, List.cons_append, decodeFrom, if_pos h, if_neg (by simp), hbits]
    exact ih (by omega)

theorem decodeFrom_charBytes (c : Char) (rest : List Nat) :
    decodeFrom none (charBytes c ++ rest) = some c :: decodeFrom none rest := by
  have hself : Char.ofNat c.toNat = c := by simp
  by_cases hascii : c.toNat < 0x80
  · rw [charBytes_eq, if_pos hascii]
    simp [decodeFrom, startChar, followers?_eq, hascii]
  · obtain ⟨lead, count, low, high, hbegins, hbytes⟩ := exists_begins (Nat.not_lt.mp hascii)
    have hstart : startChar lead =
        ([], some ⟨c.toNat / 64 ^ (count + 1), count + 1, low, high⟩) := by
      simp [startChar, hbegins.followers, hbegins.bits]
    rw [hbytes, List.cons_append, decodeFrom, hstart]
    show [] ++ decodeFrom (some _) _ = _
    rw [List.nil_append, decodeFrom_following count _ _ hbegins.second, hself]

theorem exists_next {o : OpenChar} {bytes : List Nat} (h : none ∉ decodeFrom (some o) bytes) :
    ∃ byte rest, bytes = byte :: rest ∧ o.low ≤ byte ∧ byte ≤ o.high := by
  cases bytes with
  | nil => simp [decodeFrom] at h
  | cons byte rest =>
    by_cases hmem : o.low ≤ byte ∧ byte ≤ o.high
    · exact ⟨byte, rest, rfl, hmem⟩
    · simp [decodeFrom, hmem] at h

/-- The other bytes of a character that was begun, if nothing is amiss with them. -/
theorem exists_following {count bits low high : Nat} {bytes : List Nat} (hlow : 0x80 ≤ low)
    (hhigh : high ≤ 0xBF) (h : none ∉ decodeFrom (some ⟨bits, count + 1, low, high⟩) bytes) :
    ∃ n rest, bytes = following (count + 1) n ++ rest ∧ n / 64 ^ (count + 1) = bits ∧
      low ≤ n / 64 ^ count % 64 + 0x80 ∧ n / 64 ^ count % 64 + 0x80 ≤ high := by
  induction count generalizing bits low high bytes with
  | zero =>
    obtain ⟨byte, rest, rfl, hmem⟩ := exists_next h
    dsimp only at hmem
    have hsplit : (bits * 64 + byte % 64) % 64 + 0x80 = byte := by omega
    refine ⟨bits * 64 + byte % 64, rest, ?_⟩
    simp only [following, Nat.pow_zero, Nat.div_one, hsplit]
    exact ⟨rfl, by omega, hmem⟩
  | succ count ih =>
    obtain ⟨byte, rest, rfl, hmem⟩ := exists_next h
    rw [decodeFrom, if_pos hmem, if_neg (by simp)] at h
    obtain ⟨n, rest, rfl, hbits, -⟩ := ih (Nat.le_refl _) (Nat.le_refl _) h
    dsimp only at hbits hmem
    have hsplit : n / 64 ^ (count + 1) % 64 + 0x80 = byte := by omega
    have hfollowing : following (count + 2) n = byte :: following (count + 1) n := by
      rw [following, hsplit]
    refine ⟨n, rest, by rw [hfollowing, List.cons_append], ?_, hsplit ▸ hmem⟩
    rw [Nat.pow_succ, ← Nat.div_div_eq_div_mul, hbits]
    omega

theorem exists_charBytes {byte : Nat} {rest : List Nat}
    (h : none ∉ decodeFrom none (byte :: rest)) :
    ∃ c tail, byte :: rest = charBytes c ++ tail := by
  rw [decodeFrom] at h
  cases hf : followers? byte with
  | none => simp [startChar, hf] at h
  | some followers =>
    obtain ⟨count, low, high⟩ := followers
    have hcases := hf
    rw [followers?_eq] at hcases
    cases count with
    | zero =>
      have hascii : byte < 0x80 := by grind
      have hchar : (Char.ofNat byte).toNat = byte := by
        rw [Char.ofNat, dif_pos (.inl (by omega))]
        rfl
      refine ⟨Char.ofNat byte, rest, ?_⟩
      rw [charBytes_eq, hchar, if_pos hascii]
      rfl
    | succ count =>
      have hrange : 0x80 ≤ low ∧ high ≤ 0xBF := by grind
      have hopen :
          none ∉ decodeFrom (some ⟨leadBits byte (count + 1), count + 1, low, high⟩) rest := by
        simpa [startChar, hf] using h
      obtain ⟨n, tail, rfl, hbits, hsecond⟩ := exists_following hrange.1 hrange.2 hopen
      exact ⟨Char.ofNat n, tail, by rw [Begins.charBytes ⟨hf, hbits, hsecond⟩]; rfl⟩

-- ---------------------------------------------------------------------------
-- Texts
-- ---------------------------------------------------------------------------

theorem decode_flatMap (cs : List Char) : decode (cs.flatMap charBytes) = cs.map some := by
  rw [decode]
  induction cs with
  | nil => rfl
  | cons c rest ih => rw [List.flatMap_cons, decodeFrom_charBytes, ih, List.map_cons]

theorem exists_flatMap (bytes : List Nat) (h : none ∉ decode bytes) :
    ∃ cs : List Char, bytes = cs.flatMap charBytes := by
  induction hn : bytes.length using Nat.strongRecOn generalizing bytes with
  | _ n ih =>
    cases bytes with
    | nil => exact ⟨[], rfl⟩
    | cons byte rest =>
      obtain ⟨c, tail, heq⟩ := exists_charBytes h
      rw [heq, decode, decodeFrom_charBytes, List.mem_cons, not_or] at h
      have hlt : tail.length < n := by
        have hpos := List.length_pos_iff.mpr (charBytes_ne_nil c)
        rw [← hn, heq, List.length_append]
        omega
      obtain ⟨cs, rfl⟩ := ih _ hlt tail h.2 rfl
      exact ⟨c :: cs, heq⟩

theorem mapM_id_eq_some {marks : List (Option Char)} {cs : List Char} :
    marks.mapM id = some cs ↔ marks = cs.map some := by
  induction marks generalizing cs with
  | nil => cases cs <;> simp
  | cons mark rest ih =>
    cases mark with
    | none => cases cs <;> simp [List.mapM_cons]
    | some c =>
      rw [List.mapM_cons]
      cases cs with
      | nil => cases rest.mapM id <;> simp
      | cons d cs =>
        rw [List.map_cons, List.cons.injEq, Option.some.injEq, ← ih]
        cases rest.mapM id <;> simp

/-- What is read as a text is that text in UTF-8. -/
theorem ofBytes?_eq_some {bytes : List Nat} {text : String} :
    ofBytes? bytes = some text ↔ bytes = utf8 text := by
  rw [ofBytes?, Option.map_eq_some_iff]
  constructor
  · rintro ⟨cs, hmarks, rfl⟩
    rw [mapM_id_eq_some] at hmarks
    obtain ⟨spelled, rfl⟩ := exists_flatMap bytes (by simp [hmarks])
    rw [decode_flatMap] at hmarks
    rw [utf8_ofList, (List.map_inj_right fun _ _ => Option.some.inj).mp hmarks]
  · rintro rfl
    refine ⟨text.toList, ?_, by simp⟩
    rw [mapM_id_eq_some, ← decode_flatMap, ← utf8_ofList, String.ofList_toList]

-- ---------------------------------------------------------------------------
-- The order
-- ---------------------------------------------------------------------------

theorem following_lt {m n : Nat} (count : Nat) (hlt : m < n) (h : m / 64 ^ count = n / 64 ^ count)
    (x y : List Nat) : following count m ++ x < following count n ++ y := by
  induction count with
  | zero =>
    rw [Nat.pow_zero, Nat.div_one, Nat.div_one] at h
    omega
  | succ count ih =>
    have hle : m / 64 ^ count ≤ n / 64 ^ count := Nat.div_le_div_right (Nat.le_of_lt hlt)
    rw [Nat.pow_succ, ← Nat.div_div_eq_div_mul, ← Nat.div_div_eq_div_mul] at h
    rw [following, following, List.cons_append, List.cons_append, List.cons_lt_cons_iff]
    by_cases heq : m / 64 ^ count = n / 64 ^ count
    · exact .inr ⟨by rw [heq], ih heq⟩
    · exact .inl (by omega)

theorem cons_following_lt {m n : Nat} (count lead : Nat) (hlt : m < n) (x y : List Nat) :
    ((m / 64 ^ count + lead) :: following count m) ++ x <
      ((n / 64 ^ count + lead) :: following count n) ++ y := by
  have hle : m / 64 ^ count ≤ n / 64 ^ count := Nat.div_le_div_right (Nat.le_of_lt hlt)
  rw [List.cons_append, List.cons_append, List.cons_lt_cons_iff]
  by_cases heq : m / 64 ^ count = n / 64 ^ count
  · exact .inr ⟨by rw [heq], following_lt count hlt heq x y⟩
  · exact .inl (by omega)

theorem charBytes_lt {c d : Char} (hlt : c < d) (x y : List Nat) :
    charBytes c ++ x < charBytes d ++ y := by
  have hlt : c.toNat < d.toNat := hlt
  have hvalid := toNat_valid d
  -- A longer character begins with a larger byte.
  have hlead {a b : Nat} (h : a < b) (s t : List Nat) : (a :: s) ++ x < (b :: t) ++ y :=
    List.cons_lt_cons_iff.mpr (.inl h)
  rw [charBytes_eq c]
  split
  · rw [charBytes_eq]
    split
    · exact hlead hlt _ _
    split
    · exact hlead (by omega) _ _
    split
    · exact hlead (by omega) _ _
    · exact hlead (by omega) _ _
  split
  · rw [charBytes_eq, if_neg (by omega)]
    split
    · simpa using cons_following_lt 1 0xC0 hlt x y
    split
    · exact hlead (by omega) _ _
    · exact hlead (by omega) _ _
  split
  · rw [charBytes_eq, if_neg (by omega), if_neg (by omega)]
    split
    · exact cons_following_lt 2 0xE0 hlt x y
    · exact hlead (by omega) _ _
  · rw [charBytes_eq, if_neg (by omega), if_neg (by omega), if_neg (by omega)]
    exact cons_following_lt 3 0xF0 hlt x y

/-- Texts stand in the order of their bytes. -/
theorem utf8_lt {a b : String} (h : a < b) : utf8 a < utf8 b := by
  have hlt {cs ds : List Char} (h : cs < ds) : cs.flatMap charBytes < ds.flatMap charBytes := by
    induction h with
    | @nil d ds =>
      obtain ⟨byte, rest, hbytes⟩ := List.exists_cons_of_ne_nil (charBytes_ne_nil d)
      rw [List.flatMap_cons, hbytes]
      exact List.nil_lt_cons _ _
    | rel hlt => exact charBytes_lt hlt _ _
    | cons _ ih => exact List.append_left_lt ih
  rw [← String.ofList_toList (s := a), ← String.ofList_toList (s := b), utf8_ofList, utf8_ofList]
  exact hlt (String.lt_iff.mp h)

end Targeting.Text
