import Mathlib.Data.List.DropRight
import Targeting.Text.Ascii
import Targeting.Unicode.Space

/-!
# Parts of texts

What the part before the first separator is (`Text.IsHead`) and what a text is without the
white space around it (`Unicode.IsTrimmed`), said without how they are found. Each is what
the function for it gives, and nothing else is (`Text.upTo_eq_iff`, `Unicode.trim_eq_iff`).
-/

namespace Targeting

-- ---------------------------------------------------------------------------
-- The part before the first separator
-- ---------------------------------------------------------------------------

namespace Text

/-- The part is without a separator and one follows it, unless it is the whole text. -/
def IsHead (separator : Char) (part text : String) : Prop :=
  separator ∉ part.toList ∧ (part = text ∨ part.toList ++ [separator] <+: text.toList)

section
variable {separator : Char} {part : List Char}

theorem forall_ne_separator (h : separator ∉ part) : ∀ c ∈ part, decide (c ≠ separator) = true :=
  fun _ hc => decide_eq_true (ne_of_mem_of_not_mem hc h)

theorem takeWhile_ne_append (h : separator ∉ part) (rest : List Char) :
    (part ++ separator :: rest).takeWhile (· ≠ separator) = part := by
  rw [List.takeWhile_append_of_pos (forall_ne_separator h), List.takeWhile_cons_of_neg (by simp),
    List.append_nil]

end

theorem upTo_isHead (separator : Char) (text : String) :
    IsHead separator (upTo separator text) text := by
  have hsplit := List.takeWhile_append_dropWhile (p := (· ≠ separator)) (l := text.toList)
  rw [IsHead, upTo, String.toList_ofList]
  constructor
  · intro hmem
    simpa using List.mem_takeWhile_imp hmem
  · by_cases hrest : text.toList.dropWhile (· ≠ separator) = []
    · left
      rw [hrest, List.append_nil] at hsplit
      rw [hsplit, String.ofList_toList]
    · right
      obtain ⟨c, rest, hcons⟩ := List.exists_cons_of_ne_nil hrest
      have hc := List.head?_dropWhile_not (· ≠ separator) text.toList
      rw [hcons] at hc
      obtain rfl : c = separator := by simpa using hc
      exact ⟨rest, by rw [List.append_assoc, List.singleton_append, ← hcons, hsplit]⟩

theorem upTo_eq_iff {separator : Char} {text part : String} :
    upTo separator text = part ↔ IsHead separator part text := by
  constructor
  · rintro rfl
    exact upTo_isHead separator text
  · rintro ⟨hnot, rfl | ⟨rest, hrest⟩⟩
    · rw [upTo, List.takeWhile_eq_self_iff.mpr (forall_ne_separator hnot), String.ofList_toList]
    · rw [upTo, ← hrest, List.append_assoc, List.singleton_append, takeWhile_ne_append hnot,
        String.ofList_toList]

end Text

-- ---------------------------------------------------------------------------
-- White space at both ends
-- ---------------------------------------------------------------------------

namespace Unicode

/-- The part neither begins nor ends with white space, and around it there is nothing else. -/
structure IsTrimmed (part text : String) : Prop where
  margins : ∃ before after : String, text = before ++ part ++ after ∧
    (∀ c ∈ before.toList, isSpace c = true) ∧ ∀ c ∈ after.toList, isSpace c = true
  first : ∀ c ∈ part.toList.head?, isSpace c = false
  last : ∀ c ∈ part.toList.getLast?, isSpace c = false

theorem toList_trim (text : String) :
    (trim text).toList = (text.toList.dropWhile isSpace).rdropWhile isSpace :=
  String.toList_ofList

theorem trim_isTrimmed (text : String) : IsTrimmed (trim text) text := by
  have htrim := toList_trim text
  set inner := text.toList.dropWhile isSpace with hinner
  have hleft := List.takeWhile_append_dropWhile (p := isSpace) (l := text.toList)
  have hright := List.rdropWhile_append_rtakeWhile (p := isSpace) (l := inner)
  refine ⟨⟨.ofList (text.toList.takeWhile isSpace), .ofList (inner.rtakeWhile isSpace), ?_, ?_, ?_⟩,
    ?_, ?_⟩
  · rw [← String.toList_inj, String.toList_append, String.toList_append, htrim,
      String.toList_ofList, String.toList_ofList, List.append_assoc, hright, hinner, hleft]
  · intro c hc
    exact List.mem_takeWhile_imp (String.toList_ofList ▸ hc)
  · intro c hc
    exact List.mem_rtakeWhile_imp (String.toList_ofList ▸ hc)
  · intro c hc
    obtain ⟨rest, hrest⟩ := List.head?_eq_some_iff.mp hc
    obtain ⟨more, hmore⟩ := List.rdropWhile_prefix isSpace (l := inner)
    have hhead := List.head?_dropWhile_not isSpace text.toList
    rw [← hinner, ← hmore, ← htrim, hrest] at hhead
    exact hhead
  · intro c hc
    rw [htrim] at hc
    obtain ⟨hne, rfl⟩ := List.mem_getLast?_eq_getLast hc
    exact eq_false_of_ne_true (List.rdropWhile_last_not isSpace inner hne)

theorem rdropWhile_append {p : α → Bool} {part after : List α} (hafter : ∀ c ∈ after, p c = true)
    (hlast : ∀ c ∈ part.getLast?, p c = false) : (part ++ after).rdropWhile p = part := by
  have hself : part.rdropWhile p = part := by
    rw [List.rdropWhile_eq_self_iff]
    intro hne
    rw [hlast _ (List.getLast?_eq_some_getLast hne)]
    exact Bool.false_ne_true
  have hreverse : ∀ c ∈ after.reverse, p c = true := fun c hc =>
    hafter c (List.mem_reverse.mp hc)
  rw [List.rdropWhile, List.reverse_append, List.dropWhile_append_of_pos hreverse]
  exact hself

theorem trim_eq_iff {text part : String} : trim text = part ↔ IsTrimmed part text := by
  constructor
  · rintro rfl
    exact trim_isTrimmed text
  · rintro ⟨⟨before, after, rfl, hbefore, hafter⟩, hfirst, hlast⟩
    rw [← String.toList_inj, toList_trim, String.toList_append, String.toList_append,
      List.append_assoc, List.dropWhile_append_of_pos hbefore]
    cases hpart : part.toList with
    | nil =>
      rw [List.nil_append, List.dropWhile_eq_nil_iff.mpr hafter]
      exact List.rdropWhile_nil isSpace
    | cons c rest =>
      rw [hpart] at hfirst hlast
      have hc : ¬isSpace c = true := by simp [hfirst c rfl]
      rw [List.cons_append, List.dropWhile_cons_of_neg hc, ← List.cons_append]
      exact rdropWhile_append hafter hlast

end Unicode

end Targeting
