import Mathlib.Data.Set.Function
import Targeting.Geo
import Targeting.Proofs.Excerpts

/-!
# Which locations a criterion covers

A criterion is a text, and so is a written location; what the criterion says of countries,
regions and cities has to be read off the two. As long as the country has no dot, a criterion
covers the location that it spells out and, if it ends with a dot, every location of the
country before its first dot (`covers_iff`). So whatever stands between the two dots does not
matter. Locations without any dot are written differently (`written_injOn`).
-/

namespace Targeting.Geo

/-- Asks for a country, and not for one location only. -/
def EndsWithDot (criterion : String) : Prop := ∃ start : String, criterion = start ++ "."

structure Location.DotFree (l : Location) : Prop where
  country : '.' ∉ l.country.toList
  region : '.' ∉ l.region.toList
  city : '.' ∉ l.city.toList

variable {criterion : String} {l m : Location}

-- ---------------------------------------------------------------------------
-- Written locations
-- ---------------------------------------------------------------------------

theorem toList_written (l : Location) :
    l.written.toList = l.country.toList ++ '.' :: (l.region.toList ++ '.' :: l.city.toList) := by
  simp [Location.written]

theorem country_written (h : '.' ∉ l.country.toList) :
    country l.written = l.country.toList := by
  rw [country, toList_written, Text.takeWhile_ne_append h]

/-- The first dot ends the country, the second one the region. -/
theorem written_injOn : Set.InjOn Location.written {l | l.DotFree} := by
  intro l hl m hm h
  have hcountry : l.country.toList = m.country.toList := by
    rw [← country_written hl.country, h, country_written hm.country]
  have hparts := congrArg String.toList h
  rw [toList_written, toList_written, hcountry, List.append_cancel_left_eq, List.cons_inj_right,
    List.append_cons_inj_of_notMem hl.region hl.city] at hparts
  obtain ⟨hregion, -, hcity⟩ := hparts
  rw [String.toList_inj] at hcountry hregion hcity
  cases l
  cases m
  simp_all

-- ---------------------------------------------------------------------------
-- Criteria
-- ---------------------------------------------------------------------------

theorem endsWithDot_iff : EndsWithDot criterion ↔ criterion.toList.getLast? = some '.' := by
  rw [List.getLast?_eq_some_iff]
  constructor
  · rintro ⟨start, rfl⟩
    exact ⟨start.toList, String.toList_append⟩
  · rintro ⟨start, hstart⟩
    exact ⟨.ofList start, by simp [← String.toList_inj, hstart]⟩

theorem country_eq_iff {name : String} :
    country criterion = name.toList ↔ Text.IsHead '.' name criterion := by
  rw [← Text.upTo_eq_iff, Text.upTo, ← String.toList_inj, String.toList_ofList, country]

theorem covers_iff (h : '.' ∉ l.country.toList) :
    covers criterion l.written = true ↔
      criterion = l.written ∨ EndsWithDot criterion ∧ Text.IsHead '.' l.country criterion := by
  rw [endsWithDot_iff, ← country_eq_iff, covers, country_written h]
  simp

/-- A criterion that ends with a dot and spells out a location asks for the country of it. -/
theorem isHead_country_written (h : '.' ∉ l.country.toList) :
    Text.IsHead '.' l.country l.written := by
  rw [← country_eq_iff, country_written h]

theorem covers_iff_of_endsWithDot (h : '.' ∉ l.country.toList) (hdot : EndsWithDot criterion) :
    covers criterion l.written = true ↔ Text.IsHead '.' l.country criterion := by
  rw [covers_iff h]
  constructor
  · rintro (rfl | ⟨-, hhead⟩)
    · exact isHead_country_written h
    · exact hhead
  · intro hhead
    exact .inr ⟨hdot, hhead⟩

/-- A criterion covers the location that it spells out and, with a dot at its end, all of the
country. So what else it spells out does not matter then, and without the dot it covers no more
than one location, as long as there is no dot in the names. -/
theorem covers_written :
    (∀ (criterion : String) (l : Location), '.' ∉ l.country.toList →
      (covers criterion l.written = true ↔
        criterion = l.country ++ "." ++ l.region ++ "." ++ l.city ∨
          EndsWithDot criterion ∧ Text.IsHead '.' l.country criterion)) ∧
      (∀ (criterion : String) (l m : Location), EndsWithDot criterion →
        '.' ∉ l.country.toList → l.country = m.country →
          covers criterion l.written = covers criterion m.written) ∧
      Set.InjOn Location.written {l | l.DotFree} ∧
      ∀ (criterion : String) (l m : Location), ¬EndsWithDot criterion → l.DotFree → m.DotFree →
        covers criterion l.written = true → covers criterion m.written = true → l = m := by
  refine ⟨fun criterion l h => covers_iff h, ?_, written_injOn, ?_⟩
  · intro criterion l m hdot hl hcountry
    have hm : '.' ∉ m.country.toList := hcountry ▸ hl
    rw [Bool.eq_iff_iff, covers_iff_of_endsWithDot hl hdot, covers_iff_of_endsWithDot hm hdot,
      hcountry]
  · intro criterion l m hdot hl hm hcl hcm
    have hspelt : ∀ l : Location, l.DotFree → covers criterion l.written = true →
        criterion = l.written := by
      intro l hl hcovers
      exact ((covers_iff hl.country).mp hcovers).resolve_right fun h => hdot h.1
    exact written_injOn hl hm ((hspelt l hl hcl).symm.trans (hspelt m hm hcm))

def california : Location := ⟨"US", "CA", ""⟩

def albany : Location := ⟨"US", "NY", "Albany"⟩

theorem california_dotFree : california.DotFree := ⟨by decide, by decide, by decide⟩

theorem albany_dotFree : albany.DotFree := ⟨by decide, by decide, by decide⟩

/-- Written without a city, a location ends with a dot: as a criterion it is about the country. -/
theorem covers_written_cityless :
    '.' ∉ albany.country.toList ∧ EndsWithDot california.written ∧
      Text.IsHead '.' albany.country california.written ∧
      covers california.written albany.written = true ∧ albany.country = california.country ∧
      covers california.written albany.written = covers california.written california.written ∧
      california.written ≠ albany.written ∧ ¬EndsWithDot albany.written ∧
      covers albany.written albany.written = true ∧
      ¬covers albany.written california.written = true := by
  obtain ⟨hcovers, hcountry, hinj, honly⟩ := covers_written
  have hdot : EndsWithDot california.written := ⟨"US.CA", rfl⟩
  have hnodot : ¬EndsWithDot albany.written := by
    rw [endsWithDot_iff]
    decide
  have hhead : Text.IsHead '.' albany.country california.written :=
    isHead_country_written california_dotFree.country
  have halbany : covers albany.written albany.written = true :=
    (hcovers albany.written albany albany_dotFree.country).mpr (.inl rfl)
  have hne : albany ≠ california := by decide
  refine ⟨albany_dotFree.country, hdot, hhead, ?_, rfl, ?_, ?_, hnodot, halbany, ?_⟩
  · exact (hcovers _ albany albany_dotFree.country).mpr (.inr ⟨hdot, hhead⟩)
  · exact hcountry _ albany california hdot albany_dotFree.country rfl
  · exact hinj.ne california_dotFree albany_dotFree hne.symm
  · intro hcalifornia
    exact hne (honly _ albany california hnodot albany_dotFree california_dotFree halbany
      hcalifornia)

end Targeting.Geo
