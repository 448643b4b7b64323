import Targeting.Json.Reader
import Targeting.Json.Text

/-!
# Printed records

A record that is printed a member a line reads as itself (`ofText_laidOut`), as long as no
member is a list, an object or a real number. A reader is described by the characters that it
passes over (`Takes`); a number needs something behind it that ends it.
-/

namespace Targeting.Json

def fourDigits (n : Nat) : List Char := (Text.padLeft 4 '0' (Text.hex n)).toList

theorem fourDigits_control : ∀ n < 0x20, (fourDigits n).length = 4 ∧
    (fourDigits n).mapM Text.hexValue? = some [0, 0, n / 16, n % 16] := by
  decide

namespace Reader

variable {α β : Type}

/-- The reader passes over the characters up to the rest and gives the value. -/
def Takes (reader : Reader α) (chars : List Char) (x : α) (rest : List Char) : Prop :=
  ∀ offset, ∃ offset', reader ⟨chars, offset⟩ = .ok (x, ⟨rest, offset'⟩)

theorem Takes.bind {reader : Reader α} {next : α → Reader β} {chars middle rest : List Char}
    {x : α} {y : β} (h : Takes reader chars x middle) (hnext : Takes (next x) middle y rest) :
    Takes (reader >>= next) chars y rest := by
  intro offset
  obtain ⟨between, hreader⟩ := h offset
  obtain ⟨offset', hrest⟩ := hnext between
  refine ⟨offset', ?_⟩
  show (reader ⟨chars, offset⟩ >>= fun (x, c) => next x c) = _
  rw [hreader]
  exact hrest

theorem takes_pure (x : α) (chars : List Char) : Takes (pure x) chars x chars :=
  fun offset => ⟨offset, rfl⟩

theorem takes_peek (chars : List Char) : Takes peek chars chars.head? chars :=
  fun offset => ⟨offset, rfl⟩

theorem takes_skip (c : Char) (rest : List Char) : Takes skip (c :: rest) () rest :=
  fun offset => ⟨offset + c.utf8Size, rfl⟩

theorem Takes.map {reader : Reader α} {f : α → β} {chars rest : List Char} {x : α}
    (h : Takes reader chars x rest) : Takes (f <$> reader) chars (f x) rest := by
  intro offset
  obtain ⟨offset', hreader⟩ := h offset
  refine ⟨offset', ?_⟩
  show (do let (x, c) ← reader ⟨chars, offset⟩; return (f x, c)) = _
  rw [hreader]
  rfl

theorem takes_peekToken {blanks : List Char} (hblanks : blanks.all isBlank = true)
    {rest : List Char} (hrest : ∀ c ∈ rest.head?, isBlank c = false) :
    Takes peekToken (blanks ++ rest) rest.head? rest := by
  intro offset
  have hpassed : ∃ offset', blanksFrom (blanks ++ rest) offset = ⟨rest, offset'⟩ := by
    induction blanks generalizing offset with
    | nil =>
      cases rest with
      | nil => exact ⟨offset, rfl⟩
      | cons c rest =>
        have hc : isBlank c = false := hrest c rfl
        exact ⟨offset, by simp [blanksFrom, hc]⟩
    | cons c blanks ih =>
      rw [List.all_cons, Bool.and_eq_true] at hblanks
      obtain ⟨offset', hpassed⟩ := ih hblanks.2 (offset + 1)
      exact ⟨offset', by simp [blanksFrom, hblanks.1, hpassed]⟩
  obtain ⟨offset', hpassed⟩ := hpassed
  exact ⟨offset', by simp [peekToken, hpassed]⟩

theorem takes_token (blanks : List Char) (hblanks : blanks.all isBlank = true) {c : Char}
    (hc : isBlank c = false) (rest : List Char) :
    Takes peekToken (blanks ++ c :: rest) (some c) (c :: rest) :=
  takes_peekToken hblanks (by simpa using hc)

theorem takes_word (word rest : List Char) : Takes (Reader.word word) (word ++ rest) () rest := by
  induction word with
  | nil => exact takes_pure () rest
  | cons c word ih =>
    rw [Reader.word]
    refine (takes_peek _).bind ?_
    simp only [List.cons_append, List.head?_cons, if_true]
    exact (takes_skip c _).bind ih

theorem takes_literal (c : Char) (word rest : List Char) (x : α) :
    Takes (do skip; Reader.word word; pure x) (c :: (word ++ rest)) x rest :=
  (takes_skip c _).bind ((takes_word word rest).bind (takes_pure x rest))

-- ---------------------------------------------------------------------------
-- Texts
-- ---------------------------------------------------------------------------

theorem takes_fourHex {chars : List Char} {a b c d : Nat} (hlength : chars.length = 4)
    (h : chars.mapM Text.hexValue? = some [a, b, c, d]) (rest : List Char) :
    Takes fourHex (chars ++ rest) (((a * 16 + b) * 16 + c) * 16 + d) rest := by
  intro offset
  refine ⟨offset + 4, ?_⟩
  simp only [fourHex, ← hlength, List.take_left, List.drop_left, h]

section
variable {fuel : Nat} {done chars rest : List Char} {x : String}

theorem takes_textRest_quote (fuel : Nat) (done rest : List Char) :
    Takes (textRest (fuel + 1) done) ('"' :: rest) (.ofList done.reverse) rest := by
  rw [textRest]
  refine (takes_peek _).bind ?_
  exact (takes_skip _ _).bind (takes_pure _ _)

theorem takes_textRest_plain {c : Char} (hquote : c ≠ '"') (hbackslash : c ≠ '\\')
    (hcontrol : ¬ c < ' ') (h : Takes (textRest fuel (c :: done)) chars x rest) :
    Takes (textRest (fuel + 1) done) (c :: chars) x rest := by
  rw [textRest]
  refine (takes_peek _).bind ?_
  rw [List.head?_cons]
  split
  · contradiction
  · next heq => exact absurd (Option.some.inj heq) hquote
  · next heq => exact absurd (Option.some.inj heq) hbackslash
  · next heq =>
    cases heq
    rw [if_neg hcontrol]
    exact (takes_skip _ _).bind h

theorem takes_textRest_short {letter c : Char} (hletter : shortEscape letter = some c)
    (h : Takes (textRest fuel (c :: done)) chars x rest) :
    Takes (textRest (fuel + 1) done) ('\\' :: letter :: chars) x rest := by
  rw [textRest]
  refine (takes_peek _).bind ?_
  refine (takes_skip _ _).bind ?_
  refine (takes_peek _).bind ?_
  rw [List.head?_cons]
  split
  · contradiction
  · next heq =>
    cases heq
    cases hletter
  · next heq =>
    cases heq
    simp only [hletter]
    exact (takes_skip _ _).bind h

theorem takes_textRest_unicode {c : Char} (hc : c.toNat < 0x20)
    (h : Takes (textRest fuel (c :: done)) chars x rest) :
    Takes (textRest (fuel + 1) done)
      ('\\' :: 'u' :: (fourDigits c.toNat ++ chars)) x rest := by
  rw [textRest]
  refine (takes_peek _).bind ?_
  refine (takes_skip _ _).bind ?_
  refine (takes_peek _).bind ?_
  refine (takes_skip _ _).bind ?_
  have hescape : Takes unicodeEscape (fourDigits c.toNat ++ chars) c chars := by
    obtain ⟨hlength, hvalues⟩ := fourDigits_control _ hc
    have hvalue : ((0 * 16 + 0) * 16 + c.toNat / 16) * 16 + c.toNat % 16 = c.toNat := by omega
    rw [unicodeEscape]
    refine (takes_fourHex hlength hvalues chars).bind ?_
    rw [hvalue, if_neg (by omega), if_pos (by omega), Char.ofNat_toNat]
    exact takes_pure _ _
  exact hescape.bind h

/-- A text is read a character at a time. -/
theorem takes_textRest_escaped {fuel : Nat} {done chars rest : List Char} {x : String} (c : Char)
    (h : Takes (textRest fuel (c :: done)) chars x rest) :
    Takes (textRest (fuel + 1) done) ((escaped c).toList ++ chars) x rest := by
  unfold escaped
  split
  · exact takes_textRest_short rfl h
  · exact takes_textRest_short rfl h
  · exact takes_textRest_short rfl h
  · exact takes_textRest_short rfl h
  · exact takes_textRest_short rfl h
  · exact takes_textRest_short rfl h
  · exact takes_textRest_short rfl h
  · split
    · next hcontrol =>
      have hcode : c.toNat < 0x20 := hcontrol
      have hdigits : ("\\u" ++ Text.padLeft 4 '0' (Text.hex c.toNat)).toList ++ chars =
          '\\' :: 'u' :: (fourDigits c.toNat ++ chars) := by
        simp [fourDigits]
      rw [hdigits]
      exact takes_textRest_unicode hcode h
    · next hcontrol =>
      rw [Char.toString_eq_singleton, String.toList_singleton]
      exact takes_textRest_plain ‹_› ‹_› hcontrol h

theorem takes_textRest (text done rest : List Char) {fuel : Nat} (hfuel : text.length < fuel) :
    Takes (textRest fuel done) (text.flatMap (fun c => (escaped c).toList) ++ '"' :: rest)
      (.ofList (done.reverse ++ text)) rest := by
  induction text generalizing done fuel with
  | nil =>
    obtain ⟨fuel, rfl⟩ := Nat.exists_eq_add_one.mpr hfuel
    rw [List.append_nil]
    exact takes_textRest_quote fuel done rest
  | cons c text ih =>
    obtain ⟨fuel, rfl⟩ := Nat.exists_eq_add_one.mpr (Nat.zero_lt_of_lt hfuel)
    rw [List.length_cons] at hfuel
    have hrest := ih (c :: done) (Nat.lt_of_succ_lt_succ hfuel)
    rw [List.reverse_cons, List.append_assoc, List.singleton_append] at hrest
    rw [List.flatMap_cons, List.append_assoc]
    exact takes_textRest_escaped c hrest

theorem toList_quote (text : String) :
    (quote text).toList =
      '"' :: (text.toList.flatMap (fun c => (escaped c).toList) ++ ['"']) := by
  have hfold (cs : List Char) (out : String) :
      (cs.foldl (fun out c => out ++ escaped c) out).toList =
        out.toList ++ cs.flatMap fun c => (escaped c).toList := by
    induction cs generalizing out with
    | nil => simp
    | cons c rest ih => simp [ih]
  simp [quote, hfold]

theorem escaped_ne_nil (c : Char) : (escaped c).toList ≠ [] := by
  unfold escaped
  split
  case h_8 => split <;> simp
  all_goals simp

theorem length_lt_quote (text : String) : text.length < (quote text).length := by
  have hflat (cs : List Char) : cs.length ≤ (cs.flatMap fun c => (escaped c).toList).length := by
    induction cs with
    | nil => exact Nat.le_refl 0
    | cons c rest ih =>
      have hpos := List.length_pos_iff.mpr (escaped_ne_nil c)
      rw [List.flatMap_cons, List.length_append, List.length_cons]
      omega
  rw [← String.length_toList, ← String.length_toList, toList_quote, List.length_cons,
    List.length_append]
  have := hflat text.toList
  omega

theorem takes_text (text : String) (rest : List Char) {fuel : Nat} (hfuel : text.length < fuel) :
    Takes (Reader.text fuel) ((quote text).toList ++ rest) text rest := by
  rw [toList_quote, List.cons_append, List.append_assoc, List.singleton_append, Reader.text]
  have htext := takes_textRest text.toList [] rest hfuel
  rw [List.reverse_nil, List.nil_append, String.ofList_toList] at htext
  exact (takes_skip _ _).bind htext

end

-- ---------------------------------------------------------------------------
-- Numbers
-- ---------------------------------------------------------------------------

/-- A number ends where neither a digit follows nor a point nor an exponent. -/
def EndsNumber (rest : List Char) : Prop :=
  ∀ c ∈ rest.head?, isDigit c = false ∧ c ≠ '.' ∧ c ≠ 'e' ∧ c ≠ 'E'

theorem head_toDigits {n : Nat} (hn : 0 < n) : (Nat.toDigits 10 n).head? ≠ some '0' := by
  induction n using Nat.strongRecOn with
  | _ n ih =>
    by_cases hlt : n < 10
    · have hdigit : ∀ d < 10, 0 < d → d.digitChar ≠ '0' := by decide
      rw [Nat.toDigits_of_lt_base hlt, List.head?_cons, Ne, Option.some.injEq]
      exact hdigit n hlt hn
    · have hle : 10 ≤ n := Nat.not_lt.mp hlt
      have hhead := ih (n / 10) (Nat.div_lt_self hn (by decide)) (Nat.div_pos hle (by decide))
      rw [Nat.toDigits_of_base_le (by decide) hle]
      cases hdigits : Nat.toDigits 10 (n / 10) with
      | nil => exact absurd hdigits (by simp)
      | cons c rest => simpa [hdigits] using hhead

theorem le_ofDigitChars (ds : List Char) (n : Nat) : n ≤ Nat.ofDigitChars 10 ds n := by
  induction ds generalizing n with
  | nil => exact Nat.le_refl n
  | cons d rest ih =>
    rw [Nat.ofDigitChars_cons]
    refine Nat.le_trans ?_ (ih _)
    omega

theorem fit_eq {limit : Nat} (ds : List Char) (n : Nat) (h : Nat.ofDigitChars 10 ds n ≤ limit) :
    fit limit n ds = (Nat.ofDigitChars 10 ds n, 0) := by
  induction ds generalizing n with
  | nil => rfl
  | cons d rest ih =>
    rw [Nat.ofDigitChars_cons] at h ⊢
    rw [fit, Nat.mul_comm n 10, if_pos (Nat.le_trans (le_ofDigitChars rest _) h), ih _ h]

theorem takes_digits {ds rest : List Char} (hds : ∀ d ∈ ds, isDigit d = true)
    (hrest : EndsNumber rest) : Takes digits (ds ++ rest) ds rest := by
  intro offset
  have htaken : (ds ++ rest).takeWhile isDigit = ds := by
    rw [List.takeWhile_append_of_pos hds]
    cases rest with
    | nil => exact List.append_nil ds
    | cons c rest => rw [List.takeWhile_cons_of_neg (by simp [(hrest c rfl).1]), List.append_nil]
  exact ⟨offset + ds.length, by simp only [digits, htaken, List.drop_left]⟩

theorem takes_afterInteger (n : Nat) {rest : List Char} (hrest : EndsNumber rest) :
    Takes (afterInteger true n 0) rest (.integer n) rest := by
  rw [afterInteger]
  refine (takes_peek _).bind ?_
  split
  · next hpoint => exact absurd rfl (hrest _ hpoint).2.1
  · next he => exact absurd rfl (hrest _ he).2.2.1
  · next he => exact absurd rfl (hrest _ he).2.2.2
  · rw [if_neg (by simp), if_pos rfl]
    exact takes_pure _ _

theorem isDigit_of_mem_toDigits {n : Nat} {d : Char} (h : d ∈ Nat.toDigits 10 n) :
    isDigit d = true :=
  Nat.isDigit_of_mem_toDigits (by decide) (by decide) h

theorem takes_number {n : Nat} (hn : n ≤ word64) {rest : List Char} (hrest : EndsNumber rest) :
    Takes (number true) (Nat.toDigits 10 n ++ rest) (.integer n) rest := by
  have hdigits : ∀ d ∈ Nat.toDigits 10 n, isDigit d = true := fun _ => isDigit_of_mem_toDigits
  rw [number]
  refine (takes_peek _).bind ?_
  by_cases hzero : n = 0
  · subst hzero
    refine (takes_skip _ _).bind ((takes_peek rest).bind ?_)
    have hdigit : rest.head?.any isDigit = false := by
      cases hhead : rest.head? with
      | none => rfl
      | some c => exact (hrest c hhead).1
    rw [hdigit, if_neg Bool.false_ne_true]
    exact takes_afterInteger 0 hrest
  · have hhead := head_toDigits (Nat.pos_of_ne_zero hzero)
    have hvalue : Nat.ofDigitChars 10 (Nat.toDigits 10 n) 0 = n := Nat.ofDigitChars_ten_toDigits
    have htaken := takes_digits hdigits hrest
    generalize Nat.toDigits 10 n = ds at *
    have hfit := fit_eq ds 0 (hvalue.symm ▸ hn)
    rw [hvalue] at hfit
    cases ds with
    | nil => exact absurd hvalue.symm hzero
    | cons d ds =>
      rw [List.cons_append, List.head?_cons]
      split
      · contradiction
      · next heq => exact absurd heq hhead
      · next heq =>
        cases heq
        rw [if_pos (hdigits d List.mem_cons_self)]
        refine htaken.bind ?_
        rw [hfit]
        exact takes_afterInteger n hrest

-- ---------------------------------------------------------------------------
-- Values and members
-- ---------------------------------------------------------------------------

theorem takes_scalar {fuel depth : Nat} {c : Char} {chars rest : List Char} {v : Json}
    {reader : Reader Json} (hscalar : scalar? fuel c = some reader) (hblank : isBlank c = false)
    (h : Takes reader (c :: chars) v rest) {blanks : List Char}
    (hblanks : blanks.all isBlank = true) :
    Takes (Reader.value (fuel + 1) depth) (blanks ++ c :: chars) v rest := by
  rw [Reader.value]
  refine (takes_token blanks hblanks hblank chars).bind ?_
  split
  · contradiction
  · next heq =>
    cases heq
    cases hscalar
  · next heq =>
    cases heq
    cases hscalar
  · next heq =>
    cases heq
    rw [hscalar]
    exact h

end Reader

/-- No list, no object, no real number, and of the whole numbers those of one word. -/
inductive Flat : Json → Prop
  | null : Flat .null
  | bool (b : Bool) : Flat (.bool b)
  | natural (n : Nat) (h : n ≤ Reader.word64) : Flat (.integer n)
  | text (s : String) : Flat (.text s)

section
open Reader

theorem scalar?_digit {c : Char} (h : isDigit c = true) (fuel : Nat) :
    scalar? fuel c = some (number true) := by
  unfold scalar?
  split
  case h_6 => rw [if_pos h]
  all_goals cases h

theorem isBlank_digit {c : Char} (h : isDigit c = true) : isBlank c = false := by
  simp only [isBlank, Bool.or_eq_false_iff, decide_eq_false_iff_not]
  refine ⟨⟨⟨?_, ?_⟩, ?_⟩, ?_⟩ <;> rintro rfl <;> cases h

theorem toList_natural (n : Nat) : (toText (.integer n)).toList = Nat.toDigits 10 n := by
  simp [toText, Int.toString_eq_repr, Int.repr]

theorem Flat.takes_value {v : Json} (h : v.Flat) {fuel : Nat} (hfuel : v.toText.length < fuel)
    {depth : Nat} {rest : List Char} (hrest : EndsNumber rest) (blanks : List Char)
    (hblanks : blanks.all isBlank = true) :
    Takes (Reader.value fuel depth) (blanks ++ (v.toText.toList ++ rest)) v rest := by
  obtain ⟨fuel, rfl⟩ := Nat.exists_eq_add_one.mpr (Nat.zero_lt_of_lt hfuel)
  cases h with
  | null => exact takes_scalar rfl rfl (takes_literal 'n' _ rest _) hblanks
  | bool b =>
    cases b
    · exact takes_scalar rfl rfl (takes_literal 'f' _ rest _) hblanks
    · exact takes_scalar rfl rfl (takes_literal 't' _ rest _) hblanks
  | natural n hn =>
    have hnumber := takes_number hn hrest
    rw [toList_natural]
    cases hds : Nat.toDigits 10 n with
    | nil => exact absurd hds (by simp)
    | cons d ds =>
      rw [hds] at hnumber
      have hdigit : isDigit d = true :=
        isDigit_of_mem_toDigits (hds.symm ▸ List.mem_cons_self)
      exact takes_scalar (scalar?_digit hdigit _) (isBlank_digit hdigit) hnumber hblanks
  | text s =>
    have hlength : s.length < fuel :=
      Nat.lt_of_lt_of_le (length_lt_quote s) (Nat.le_of_lt_succ hfuel)
    have htext := takes_text s rest hlength
    rw [toText]
    rw [toList_quote, List.cons_append] at htext ⊢
    exact takes_scalar rfl rfl htext.map hblanks

-- ---------------------------------------------------------------------------
-- Records that are laid out
-- ---------------------------------------------------------------------------

def memberText (m : String × Json) : List Char :=
  (quote m.1).toList ++ (':' :: ' ' :: m.2.toText.toList)

/-- The members after the first one, and the end of the record. -/
def moreLines : List (String × Json) → List Char
  | [] => ['\n', '\x7d']
  | m :: rest => ',' :: '\n' :: ' ' :: ' ' :: (memberText m ++ moreLines rest)

theorem toList_laidOut (first : String × Json) (rest : List (String × Json)) :
    (laidOut (first :: rest)).toList =
      '\x7b' :: '\n' :: ' ' :: ' ' :: (memberText first ++ moreLines rest) := by
  have hlines : (String.intercalate ",\n" ((first :: rest).map fun m =>
      "  " ++ quote m.1 ++ ": " ++ m.2.toText)).toList ++ ['\n', '\x7d'] =
        ' ' :: ' ' :: (memberText first ++ moreLines rest) := by
    induction rest generalizing first with
    | nil => simp [memberText, moreLines]
    | cons second rest ih =>
      have hsecond := ih second
      rw [List.map_cons] at hsecond
      rw [List.map_cons, List.map_cons, String.intercalate_cons_cons]
      simp only [String.toList_append, List.append_assoc, hsecond]
      simp [memberText, moreLines]
  rw [← hlines, laidOut]
  simp

theorem takes_lineStart (m : String × Json) (chars : List Char) :
    Takes peekToken ('\n' :: ' ' :: ' ' :: (memberText m ++ chars)) (some '"')
      (memberText m ++ chars) := by
  rw [memberText, toList_quote]
  exact takes_token ['\n', ' ', ' '] rfl rfl _

theorem takes_hasMember_first (m : String × Json) (chars : List Char) :
    Takes (hasMember true) ('\n' :: ' ' :: ' ' :: (memberText m ++ chars)) true
      (memberText m ++ chars) :=
  (takes_lineStart m chars).bind (takes_pure _ _)

theorem takes_hasMember_next (m : String × Json) (chars : List Char) :
    Takes (hasMember false) (',' :: '\n' :: ' ' :: ' ' :: (memberText m ++ chars)) true
      (memberText m ++ chars) := by
  refine (takes_token [] rfl rfl _).bind ?_
  exact (takes_skip _ _).bind ((takes_lineStart m chars).bind (takes_pure _ _))

theorem takes_hasMember_end (first : Bool) (rest : List Char) :
    Takes (hasMember first) ('\n' :: '\x7d' :: rest) false ('\x7d' :: rest) :=
  (takes_token ['\n'] rfl rfl rest).bind (takes_pure _ _)

theorem takes_colon (rest : List Char) : Takes colon (':' :: rest) () rest :=
  (takes_token [] rfl rfl rest).bind (takes_skip _ _)

theorem endsNumber_moreLines (members : List (String × Json)) (rest : List Char) :
    EndsNumber (moreLines members ++ rest) := by
  cases members <;> simp [moreLines, EndsNumber, isDigit]

/-- A member is put into the table, and the members after it are read on. -/
theorem takes_member {m : String × Json} (hflat : m.2.Flat) {fuel depth : Nat}
    (hfuel : (memberText m).length < fuel) {first : Bool} {done members : Assoc Json}
    {before chars rest : List Char} (hchars : EndsNumber chars)
    (hmember : Takes (hasMember first) before true (memberText m ++ chars))
    (h : Takes (membersRest fuel depth false (done.put m.1 m.2)) chars members rest) :
    Takes (membersRest (fuel + 1) depth first done) before members rest := by
  have hlength : (memberText m).length = (quote m.1).length + m.2.toText.length + 2 := by
    simp only [memberText, List.length_cons, List.length_append, String.length_toList]
    omega
  have hname : m.1.length < fuel := by
    have := length_lt_quote m.1
    omega
  rw [membersRest]
  refine hmember.bind ?_
  rw [if_pos rfl, memberText, List.append_assoc]
  refine (takes_text m.1 _ hname).bind ((takes_colon _).bind ?_)
  exact (hflat.takes_value (by omega) hchars [' '] rfl).bind h

theorem takes_membersRest {members done : List (String × Json)}
    (hkeys : (Assoc.keys (done ++ members)).Nodup) (hflat : ∀ m ∈ members, m.2.Flat)
    {fuel : Nat} (hfuel : (moreLines members).length < fuel) (depth : Nat) (rest : List Char) :
    Takes (membersRest fuel depth false done) (moreLines members ++ rest) (done ++ members)
      rest := by
  induction members generalizing done fuel with
  | nil =>
    obtain ⟨fuel, rfl⟩ := Nat.exists_eq_add_one.mpr (Nat.zero_lt_of_lt hfuel)
    rw [membersRest, List.append_nil]
    refine (takes_hasMember_end false rest).bind ?_
    exact (takes_skip _ _).bind (takes_pure _ _)
  | cons m members ih =>
    obtain ⟨fuel, rfl⟩ := Nat.exists_eq_add_one.mpr (Nat.zero_lt_of_lt hfuel)
    obtain ⟨hm, hmembers⟩ := List.forall_mem_cons.mp hflat
    have hlength : (moreLines (m :: members)).length =
        (memberText m).length + (moreLines members).length + 4 := by
      simp only [moreLines, List.length_cons, List.length_append]
    have hnew : m.1 ∉ Assoc.keys done := by
      rw [Assoc.keys, List.map_append] at hkeys
      exact fun hmem => (List.nodup_append.mp hkeys).2.2 _ hmem _ List.mem_cons_self rfl
    have hput : done ++ m :: members = Assoc.put done m.1 m.2 ++ members := by
      rw [Assoc.put_of_not_mem hnew, List.append_assoc, List.singleton_append]
    rw [hput] at hkeys ⊢
    refine takes_member hm (by omega) (endsNumber_moreLines members rest) ?_
      (ih hkeys hmembers (by omega))
    rw [moreLines]
    simp only [List.cons_append, List.append_assoc]
    exact takes_hasMember_next m _

theorem takes_finish {blanks : List Char} (hblanks : blanks.all isBlank = true) :
    Takes finish blanks () [] := by
  have hend : Takes peekToken (blanks ++ []) none [] := takes_peekToken hblanks (by simp)
  rw [List.append_nil] at hend
  exact hend.bind (takes_pure () [])

theorem run_of_takes {reader : Reader α} {text : String} {x : α} {blanks : List Char}
    (h : Takes reader text.toList x blanks) (hblanks : blanks.all isBlank = true) :
    run reader text = .ok x := by
  have hall : Takes (do let x ← reader; finish; pure x) text.toList x [] :=
    h.bind ((takes_finish hblanks).bind (takes_pure x []))
  obtain ⟨offset, hread⟩ := hall 0
  exact congrArg (Except.map (·.1)) hread

/-- A record that is laid out reads as itself, and as nothing more. -/
theorem ofText_laidOut {first : String × Json} {members : List (String × Json)}
    (hkeys : (Assoc.keys (first :: members)).Nodup) (hflat : ∀ m ∈ first :: members, m.2.Flat) :
    ofText (laidOut (first :: members) ++ "\n") maxDepth = .ok (.object (first :: members)) := by
  obtain ⟨hfirst, hmembers⟩ := List.forall_mem_cons.mp hflat
  have hchars : (laidOut (first :: members) ++ "\n").toList =
      '\x7b' :: '\n' :: ' ' :: ' ' :: (memberText first ++ (moreLines members ++ ['\n'])) := by
    rw [String.toList_append, toList_laidOut]
    simp
  have hlength : (laidOut (first :: members) ++ "\n").length =
      (memberText first).length + (moreLines members).length + 5 := by
    rw [← String.length_toList, hchars]
    simp only [List.length_cons, List.length_append, List.length_nil]
    omega
  have hblank : ['\n'].all isBlank = true := rfl
  refine run_of_takes ?_ hblank
  obtain ⟨fuel, hsteps, hfuel⟩ : ∃ fuel, steps (laidOut (first :: members) ++ "\n") = fuel + 2 ∧
      (memberText first).length + (moreLines members).length < fuel := by
    rw [steps, hlength]
    exact ⟨_, rfl, by omega⟩
  have hmore : Takes (membersRest fuel 127 false [first]) (moreLines members ++ ['\n'])
      (first :: members) ['\n'] :=
    takes_membersRest hkeys hmembers (by omega) 127 ['\n']
  have hall : Takes (membersRest (fuel + 1) 127 true []) _ (first :: members) ['\n'] :=
    takes_member hfirst (by omega) (endsNumber_moreLines members _)
      (takes_hasMember_first first _) hmore
  rw [hchars, hsteps, Reader.value]
  refine (takes_token [] rfl rfl _).bind ?_
  exact (takes_skip _ _).bind hall.map

end

end Targeting.Json
