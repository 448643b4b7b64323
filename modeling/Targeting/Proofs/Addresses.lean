import Targeting.Proofs.Excerpts
import Targeting.Proofs.MissingData
import Targeting.Proofs.NormalRequests

/-!
# The address that is looked up

An address comes from one of five sources, which are asked in order. What each of them has to
offer is a matter of the request and the settings alone (`Engine.Offers`), and the first that
offers anything decides (`Engine.IsFirst`): its address is looked up and no other, whatever
comes of it (`resolveGeo_first`). So nothing below a source that has an address matters.
-/

namespace Targeting

-- ---------------------------------------------------------------------------
-- Sources
-- ---------------------------------------------------------------------------

inductive Geo.Source where
  | override | forwarded | connection | socket | tunnel

/-- In the order in which they are asked. -/
def Geo.Source.all : List Source := [.override, .forwarded, .connection, .socket, .tunnel]

theorem Geo.Source.mem_all (source : Source) : source ∈ all := by
  cases source <;> simp [all]

def Geo.Resolution.ofLocation : Option Location → Resolution
  | some l => .resolved l.written
  | none => .notFound

namespace Engine

/-- What a source holds. The parameter has one name, the header any spelling of its name; of a
list of addresses the first counts, without the white space around it. -/
def Holds (e : Engine) (r : Request) : Geo.Source → String → Prop
  | .override, text => (e.settings.overrideParam, text) ∈ r.params
  | .forwarded, text => ∃ name value first, (name, value) ∈ r.headers ∧
      Text.lowerAscii name = Text.lowerAscii e.settings.forwardedHeader ∧
      Text.IsHead ',' first value ∧ Unicode.IsTrimmed text first
  | .connection, text => r.connectionAddr = some text
  | .socket, text => r.socketAddr = some text
  | .tunnel, text => r.tunnelAddr = some text

/-- An empty text is no address. -/
def Offers (e : Engine) (r : Request) (source : Geo.Source) (address : String) : Prop :=
  e.Holds r source address ∧ address ≠ ""

/-- The source offers the address, and no source before it offers any. -/
def IsFirst (e : Engine) (r : Request) (address : String) : Prop :=
  ∃ above source below, Geo.Source.all = above ++ source :: below ∧
    e.Offers r source address ∧ ∀ higher ∈ above, ∀ other, ¬e.Offers r higher other

end Engine

-- ---------------------------------------------------------------------------
-- Requests
-- ---------------------------------------------------------------------------

namespace Request

variable {r : Request}

theorem param_eq_some (h : r.Distinct) {name value : String} :
    r.param name = some value ↔ (name, value) ∈ r.params ∧ value ≠ "" := by
  rw [param, filled_eq_some, Assoc.get?_eq_some h.params]

theorem header_eq_some (h : r.Distinct) {name value : String} :
    r.header name = some value ↔
      (∃ spelt, (spelt, value) ∈ r.headers ∧ Text.lowerAscii spelt = Text.lowerAscii name) ∧
        value ≠ "" := by
  have hkeys : r.loweredHeaders.keys.Nodup := by
    rw [loweredHeaders_keys]
    exact h.headers
  rw [header_lowered, filled_eq_some, Assoc.get?_eq_some hkeys, loweredHeaders, List.mem_map]
  simp [and_comm]

end Request

namespace Engine

variable {e e' : Engine} {r r' : Request}

-- ---------------------------------------------------------------------------
-- The sources asked
-- ---------------------------------------------------------------------------

def offer (e : Engine) (r : Request) : Geo.Source → Option String
  | .override => r.param e.settings.overrideParam
  | .forwarded => e.forwarded r
  | .connection => filled r.connectionAddr
  | .socket => filled r.socketAddr
  | .tunnel => filled r.tunnelAddr

theorem address_eq (e : Engine) (r : Request) :
    e.address r = Geo.Source.all.findSome? (e.offer r) := by
  simp only [address, Request.remoteAddr, Geo.Source.all, List.findSome?, offer]
  cases r.param e.settings.overrideParam <;> cases e.forwarded r <;>
    cases filled r.connectionAddr <;> cases filled r.socketAddr <;>
    cases filled r.tunnelAddr <;> rfl

theorem forwarded_eq_some (h : r.Distinct) {address : String} :
    e.forwarded r = some address ↔ e.Offers r .forwarded address := by
  rw [forwarded, filled_eq_some, Option.map_eq_some_iff]
  refine and_congr_left fun hne => ⟨?_, ?_⟩
  · rintro ⟨value, hvalue, htrim⟩
    obtain ⟨⟨name, hmem, hname⟩, -⟩ := (Request.header_eq_some h).mp hvalue
    exact ⟨name, value, _, hmem, hname, Text.upTo_isHead ',' value, Unicode.trim_eq_iff.mp htrim⟩
  · rintro ⟨name, value, first, hmem, hname, hhead, htrimmed⟩
    obtain rfl := Text.upTo_eq_iff.mpr hhead
    obtain rfl := Unicode.trim_eq_iff.mpr htrimmed
    -- a header without text would leave nothing to trim
    have hvalue : value ≠ "" := by
      rintro rfl
      exact hne rfl
    exact ⟨value, (Request.header_eq_some h).mpr ⟨⟨name, hmem, hname⟩, hvalue⟩, rfl⟩

theorem offer_eq_some (h : r.Distinct) {source : Geo.Source} {address : String} :
    e.offer r source = some address ↔ e.Offers r source address := by
  cases source with
  | override => exact Request.param_eq_some h
  | forwarded => exact forwarded_eq_some h
  | connection | socket | tunnel => exact filled_eq_some

theorem offer_eq_none (h : r.Distinct) {source : Geo.Source} :
    e.offer r source = none ↔ ∀ address, ¬e.Offers r source address := by
  simp only [Option.eq_none_iff_forall_ne_some, ne_eq, offer_eq_some h]

theorem address_eq_some (h : r.Distinct) {address : String} :
    e.address r = some address ↔ e.IsFirst r address := by
  rw [address_eq, List.findSome?_eq_some_iff]
  simp only [offer_eq_some h, offer_eq_none h, IsFirst]

theorem address_eq_none (h : r.Distinct) :
    e.address r = none ↔ ∀ source address, ¬e.Offers r source address := by
  rw [address_eq, List.findSome?_eq_none_iff]
  simp only [offer_eq_none h, Geo.Source.mem_all, true_imp_iff]

theorem resolveGeo_fst (e : Engine) (r : Request) :
    (e.resolveGeo r).1 = .ofLocation ((e.address r).bind e.locate) := by
  unfold resolveGeo
  cases e.address r with
  | none => rfl
  | some address => cases hl : e.locate address <;> simp [hl, Geo.Resolution.ofLocation]

/-- Up to a source that has an address, the same is found; so the rest is not asked. -/
theorem address_same {above below : List Geo.Source} {source : Geo.Source} {address : String}
    (hall : Geo.Source.all = above ++ source :: below) (haddress : e.offer r source = some address)
    (hkept : ∀ kept ∈ above ++ [source], e.offer r kept = e'.offer r' kept) :
    e.address r = e'.address r' := by
  rw [List.forall_mem_append, List.forall_mem_singleton] at hkept
  obtain ⟨habove, hsource⟩ := hkept
  have habove : above.findSome? (e.offer r) = above.findSome? (e'.offer r') := by
    rw [← List.head?_filterMap, ← List.head?_filterMap, List.filterMap_congr habove]
  rw [address_eq, address_eq, hall, List.findSome?_append, List.findSome?_append, habove,
    List.findSome?_cons, List.findSome?_cons, ← hsource, haddress]

-- ---------------------------------------------------------------------------
-- Look-ups
-- ---------------------------------------------------------------------------

/-- The address of the first source that has one is looked up, no other is, and what is found
there is the location; without an address nothing is looked up and nothing found. As long as a
source has an address, what the sources below it hold is all the same. -/
theorem resolveGeo_first :
    (∀ (e : Engine) (r : Request), r.Distinct →
      (∀ address, e.address r = some address ↔ e.IsFirst r address) ∧
      (e.address r = none ↔ ∀ source address, ¬e.Offers r source address) ∧
      (e.resolveGeo r).1 = .ofLocation ((e.address r).bind e.locate) ∧
      (e.resolveGeo r).2.filterMap Effect.lookup? = (e.address r).toList ∧
      (e.resolveGeo r).2.filterMap Effect.geoCall? =
        if e.geo.isSome then (e.address r).toList else []) ∧
    (∀ (e e' : Engine) (r r' : Request), e.geo = e'.geo → r.Distinct → r'.Distinct →
      ∀ (above below : List Geo.Source) (source : Geo.Source) (address : String),
        Geo.Source.all = above ++ source :: below → e.Offers r source address →
        (∀ kept ∈ above ++ [source], ∀ other, e.Offers r kept other ↔ e'.Offers r' kept other) →
          e.resolveGeo r = e'.resolveGeo r') := by
  refine ⟨fun e r h => ⟨fun _ => address_eq_some h, address_eq_none h, resolveGeo_fst e r,
    lookups_inquiry, geoCalls_inquiry⟩, ?_⟩
  intro e e' r r' hgeo h h' above below source address hall hoffers hkept
  have hsame : e.address r = e'.address r' := by
    refine address_same hall ((offer_eq_some h).mpr hoffers) fun kept hmem => ?_
    refine Option.ext fun other => ?_
    rw [offer_eq_some h, offer_eq_some h', hkept kept hmem]
  unfold resolveGeo
  rw [hsame, hgeo]
  simp only [locate, hgeo]

/-- The name of the parameter is in the wrong case; for the header that does not matter. -/
def forwardedVisitor : Request where
  headers := [("X-FORWARDED-FOR", " 192.0.2.1\t,198.51.100.7")]
  url := none
  cookies := none
  params := [("splitterip", "203.0.113.9")]
  connectionAddr := some "198.51.100.7"
  socketAddr := none
  tunnelAddr := none
  bid := none

def reconnectedVisitor : Request :=
  { forwardedVisitor with connectionAddr := some "", tunnelAddr := some "203.0.113.1" }

theorem resolveGeo_first_forwarded :
    forwardedVisitor.Distinct ∧ reconnectedVisitor.Distinct ∧
      locator.IsFirst forwardedVisitor "192.0.2.1" ∧
      (locator.resolveGeo forwardedVisitor).1 = .resolved "US.CA.SF" ∧
      (locator.resolveGeo forwardedVisitor).2.filterMap Effect.lookup? = ["192.0.2.1"] ∧
      Geo.Source.all = [.override] ++ .forwarded :: [.connection, .socket, .tunnel] ∧
      locator.Offers forwardedVisitor .forwarded "192.0.2.1" ∧
      (∀ kept ∈ [Geo.Source.override] ++ [.forwarded], ∀ other,
        locator.Offers forwardedVisitor kept other ↔
          locator.Offers reconnectedVisitor kept other) ∧
      locator.resolveGeo forwardedVisitor = locator.resolveGeo reconnectedVisitor ∧
      Request.empty.Distinct ∧ ∀ source address, ¬locator.Offers .empty source address := by
  obtain ⟨hfirst, hbelow⟩ := resolveGeo_first
  have hdistinct : forwardedVisitor.Distinct := ⟨by decide, by decide, by decide⟩
  have hdistinct' : reconnectedVisitor.Distinct := ⟨by decide, by decide, by decide⟩
  have haddress : locator.address forwardedVisitor = some "192.0.2.1" := by decide
  obtain ⟨hiff, -, hfound, hlookups, -⟩ := hfirst locator forwardedVisitor hdistinct
  obtain ⟨-, hnone, -⟩ := hfirst locator .empty Request.empty_tidy.toDistinct
  have hall : Geo.Source.all = [.override] ++ .forwarded :: [.connection, .socket, .tunnel] := rfl
  have hoffers : locator.Offers forwardedVisitor .forwarded "192.0.2.1" :=
    (offer_eq_some hdistinct).mp (by decide)
  have hkept : ∀ kept ∈ [Geo.Source.override] ++ [.forwarded], ∀ other,
      locator.Offers forwardedVisitor kept other ↔ locator.Offers reconnectedVisitor kept other := by
    intro kept hkept other
    rcases List.mem_cons.mp hkept with rfl | hkept
    · exact Iff.rfl
    · rw [List.mem_singleton.mp hkept]
      exact Iff.rfl
  refine ⟨hdistinct, hdistinct', (hiff _).mp haddress, ?_, ?_, hall, hoffers, hkept, ?_,
    Request.empty_tidy.toDistinct, hnone.mp rfl⟩
  · rw [hfound, haddress]
    rfl
  · rw [hlookups, haddress]
    rfl
  · exact hbelow locator locator _ _ rfl hdistinct hdistinct' _ _ _ _ hall hoffers hkept

end Engine

end Targeting
