import Targeting.Proofs.Evaluation
import Targeting.Proofs.KnownNames

/-!
# Missing data

Conditions on data that the request lacks fail, visitors aside: they take a request without
the cookie for a new one. So taking data away from a request, or addresses from the table
that the geo service looks them up in, never makes a tree match (`evaluate_without`). The
engine with less to go by is compared with the other one in every value that a condition
looks at (`Engine.KnowsLess`): it lacks the value or has the same.
-/

namespace Targeting

-- ---------------------------------------------------------------------------
-- Values left out
-- ---------------------------------------------------------------------------

/-- The first is the second, or nothing in its place. -/
def LeftOut (a b : Option α) : Prop := a = none ∨ a = b

namespace LeftOut

variable {a b : Option α}

theorem refl (a : Option α) : LeftOut a a := .inr rfl

theorem eq_some (h : LeftOut a b) {x : α} (ha : a = some x) : b = some x := by
  rcases h with rfl | rfl
  · cases ha
  · exact ha

theorem any (h : LeftOut a b) {p : α → Bool} (ha : a.any p = true) : b.any p = true := by
  rcases h with rfl | rfl
  · cases ha
  · exact ha

theorem or_any (h : LeftOut a b) {c : Bool} {p : α → Bool} (ha : (c || a.any p) = true) :
    (c || b.any p) = true := by
  rw [Bool.or_eq_true] at ha ⊢
  exact ha.imp_right h.any

theorem map (h : LeftOut a b) (f : α → β) : LeftOut (a.map f) (b.map f) := by
  rcases h with rfl | rfl
  · exact .inl rfl
  · exact .inr rfl

theorem bind (h : LeftOut a b) {f g : α → Option β} (hfg : ∀ x, LeftOut (f x) (g x)) :
    LeftOut (a.bind f) (b.bind g) := by
  rcases h with rfl | rfl
  · exact .inl rfl
  · cases a with
    | none => exact .inl rfl
    | some x => exact hfg x

end LeftOut

-- ---------------------------------------------------------------------------
-- Knowing less
-- ---------------------------------------------------------------------------

namespace Engine

/-- Of all that conditions look at, visitor cookies aside, the first engine knows no more
about its request than the second about its own. -/
structure KnowsLess (e : Engine) (r : Request) (e' : Engine) (r' : Request) : Prop where
  registry : e.registry = e'.registry
  devices : e.devices = e'.devices
  host : LeftOut r.host r'.host
  path : LeftOut r.path r'.path
  userAgent : LeftOut r.userAgent r'.userAgent
  cookie : ∀ name, LeftOut (r.cookie name) (r'.cookie name)
  bid : LeftOut r.bid r'.bid
  location : LeftOut ((e.address r).bind e.locate) ((e'.address r').bind e'.locate)

theorem resolveGeo_written (e : Engine) (r : Request) :
    (e.resolveGeo r).1.written? = ((e.address r).bind e.locate).map Geo.Location.written := by
  unfold resolveGeo
  cases e.address r with
  | none => rfl
  | some address => cases hl : e.locate address <;> simp [hl, Geo.Resolution.written?]

section
variable {e e' : Engine} {r r' : Request}

namespace KnowsLess

theorem bucket (h : e.KnowsLess r e' r') :
    LeftOut (e.findings r).bucket (e'.findings r').bucket :=
  h.bid.bind fun bid => .refl (Bucket.ofBid bid)

theorem geo (h : e.KnowsLess r e' r') :
    LeftOut (e.findings r).geo.written? (e'.findings r').geo.written? := by
  simp only [findings, resolveGeo_written]
  exact h.location.map _

theorem device (h : e.KnowsLess r e' r') :
    LeftOut (e.findings r).device (e'.findings r').device := by
  have hdetect : e.detect = e'.detect := by
    funext agent
    rw [detect, detect, h.devices]
  simp only [findings, hdetect]
  exact h.userAgent.map _

/-- What holds by less holds by more, for every kind of condition but one. -/
theorem holds (h : e.KnowsLess r e' r') {c : Condition} (hc : c.kind ≠ .visitor)
    (hholds : e.holds r (e.findings r) c = true) : e'.holds r' (e'.findings r') c = true := by
  cases c with
  | host names => exact h.host.or_any hholds
  | path patterns => exact h.path.or_any hholds
  | bucket ranges => exact h.bucket.or_any hholds
  | agent patterns => exact h.userAgent.or_any hholds
  | geoip criteria => exact h.geo.or_any hholds
  | cookie cookies =>
    simp only [Engine.holds, Bool.or_eq_true, List.any_eq_true, decide_eq_true_eq] at hholds ⊢
    refine hholds.imp_right ?_
    rintro ⟨c, hmem, hvalue⟩
    exact ⟨c, hmem, (h.cookie c.name).eq_some hvalue⟩
  | device criteria =>
    simp only [Engine.holds, Bool.or_eq_true, Bool.and_eq_true] at hholds ⊢
    refine hholds.imp_right ?_
    rintro ⟨hagent, hfits⟩
    obtain ⟨agent, ha⟩ := Option.isSome_iff_exists.mp hagent
    refine ⟨?_, h.device.any hfits⟩
    rw [h.userAgent.eq_some ha]
    rfl
  | visitor newOnly => exact absurd rfl hc

end KnowsLess

end

-- ---------------------------------------------------------------------------
-- Rules that fail closed
-- ---------------------------------------------------------------------------

/-- The key means a condition on data of the request, visitors aside, or nothing. -/
def failsClosed (e : Engine) (key : String) : Bool :=
  match e.registry.meaning key with
  | .custom _ => false
  | .condition kind => kind ≠ .visitor
  | .unknown => true

/-- What a compiled tree keeps under such a key is not about visitors either. -/
theorem kept_of_compile {e : Engine} {registered : List String} {v : Json} {t : Tree}
    (h : Tree.compile registered v = .ok t) {rule : Rule} (hrule : rule ∈ t.occurrences)
    (hkey : e.failsClosed rule.key = true) {c : Condition} (hc : rule.condition = some c) :
    c.kind ≠ .visitor := by
  obtain ⟨-, rfl⟩ := (Tree.compile_ok v).mp h
  obtain ⟨⟨key, raw⟩, -, rfl⟩ := Tree.exists_of_mem_ofJson v hrule
  obtain ⟨hname, -⟩ := Rule.condition_of_written hc
  have hkey : e.failsClosed key = true := hkey
  intro hvisitor
  rw [hvisitor] at hname
  rw [failsClosed, Registry.meaning] at hkey
  cases hget : Assoc.get? e.registry key with
  | some custom => simp [hget] at hkey
  | none => simp [hget, hname] at hkey

theorem reading_of_failsClosed {e : Engine} {rule : Rule} (hkey : e.failsClosed rule.key = true)
    (hkept : ∀ c, rule.condition = some c → c.kind ≠ .visitor) :
    match e.reading rule with
    | .custom _ => False
    | .condition c => c.kind ≠ .visitor
    | .invalid _ | .unknown => True := by
  unfold failsClosed at hkey
  unfold reading
  cases hm : e.registry.meaning rule.key with
  | custom custom => simp [hm] at hkey
  | unknown => trivial
  | condition kind =>
    simp only [hm, decide_eq_true_eq] at hkey
    cases hc : rule.condition with
    | some c => simpa [hc] using hkept c hc
    | none =>
      cases hr : Condition.compile kind rule.raw with
      | error error => simp [hr]
      | ok c => simpa [hr, Condition.compile_kind hr] using hkey

theorem KnowsLess.passes {e e' : Engine} {r r' : Request} (h : e.KnowsLess r e' r') {rule : Rule}
    (hkey : e.failsClosed rule.key = true)
    (hkept : ∀ c, rule.condition = some c → c.kind ≠ .visitor)
    (hpasses : e.passes r (e.findings r) rule = true) :
    e'.passes r' (e'.findings r') rule = true := by
  have hreading : e.reading rule = e'.reading rule := by simp only [reading, h.registry]
  have hread := reading_of_failsClosed hkey hkept
  unfold Engine.passes at hpasses ⊢
  rw [← hreading]
  cases hr : e.reading rule with
  | custom custom => simp [hr] at hread
  | invalid error => rfl
  | unknown => rfl
  | condition c =>
    simp only [hr] at hread hpasses
    exact h.holds hread hpasses

/-- What does not match by more does not match by less. -/
theorem KnowsLess.evaluate {e e' : Engine} {r r' : Request} (h : e.KnowsLess r e' r') {t : Tree}
    (hkeys : ∀ rule ∈ t.occurrences, e.failsClosed rule.key = true)
    (hkept : ∀ rule ∈ t.occurrences, ∀ c, rule.condition = some c → c.kind ≠ .visitor)
    (emitBid : Bool) (hmore : (e'.evaluate (some t) r' ⟨.empty, emitBid⟩).matched = false) :
    (e.evaluate (some t) r ⟨.empty, emitBid⟩).matched = false := by
  simp only [evaluate_matched, Cache.empty_view, Bool.eq_false_iff] at hmore ⊢
  exact mt (Tree.holds_mono fun rule hrule => h.passes (hkeys rule hrule) (hkept rule hrule)) hmore

end Engine

-- ---------------------------------------------------------------------------
-- Removing data from a request
-- ---------------------------------------------------------------------------

namespace Request

/-- Without the header, under any spelling of its name. -/
def withoutHeader (r : Request) (name : String) : Request :=
  { r with headers := r.headers.filter fun h => !Text.sameIgnoringCase h.1 name }

def withoutCookies (r : Request) (names : List String) : Request :=
  { r with cookies := r.cookies.map fun table => table.filter fun c => c.1 ∉ names }

theorem header_withoutHeader (r : Request) (name other : String) :
    (r.withoutHeader name).header other =
      if Text.sameIgnoringCase other name then none else r.header other := by
  simp only [header, withoutHeader, List.find?_filter, Text.sameIgnoringCase, decide_eq_true_eq]
  by_cases h : Text.lowerAscii other = Text.lowerAscii name
  · rw [if_pos h, List.find?_eq_none.mpr fun entry _ => by simp [h]]
    rfl
  · rw [if_neg h]
    congr
    funext entry
    by_cases ho : Text.lowerAscii entry.1 = Text.lowerAscii other <;> simp [h, ho]

theorem cookie_withoutCookies (r : Request) (names : List String) (name : String) :
    (r.withoutCookies names).cookie name = if name ∈ names then none else r.cookie name := by
  unfold cookie withoutCookies
  cases r.cookies with
  | none => simp [filled]
  | some table =>
    simp only [Option.map_some, Option.bind_some]
    rw [Assoc.get?_filter (fun n => decide (n ∉ names)) table name]
    by_cases h : name ∈ names <;> simp [h, filled]

theorem leftOut_withoutHeader (r : Request) (name other : String) :
    LeftOut ((r.withoutHeader name).header other) (r.header other) := by
  rw [header_withoutHeader]
  split
  · exact .inl rfl
  · exact .refl _

theorem leftOut_withoutCookies (r : Request) (names : List String) (name : String) :
    LeftOut ((r.withoutCookies names).cookie name) (r.cookie name) := by
  rw [cookie_withoutCookies]
  split
  · exact .inl rfl
  · exact .refl _

end Request

inductive Removal where
  | host
  | userAgent
  | url
  | bid
  | cookies (names : List String)
  | cookieTable
  /-- Every source of an address at once. -/
  | addresses

namespace Engine

/-- The sources of an address are those that the engine looks at. -/
def without (e : Engine) (r : Request) : Removal → Request
  | .host => r.withoutHeader "host"
  | .userAgent => r.withoutHeader "user-agent"
  | .url => { r with url := none }
  | .bid => { r with bid := none }
  | .cookies names => r.withoutCookies names
  | .cookieTable => { r with cookies := none }
  | .addresses =>
    { r.withoutHeader e.settings.forwardedHeader with
      params := r.params.filter fun p => p.1 ≠ e.settings.overrideParam
      connectionAddr := none
      socketAddr := none
      tunnelAddr := none }

section
variable {e : Engine} {r : Request}

theorem address_withoutHeader {name : String}
    (h : Text.sameIgnoringCase e.settings.forwardedHeader name = false) :
    e.address (r.withoutHeader name) = e.address r := by
  have hforwarded : e.forwarded (r.withoutHeader name) = e.forwarded r := by
    rw [forwarded, forwarded, Request.header_withoutHeader, if_neg (by simp [h])]
  rw [address, hforwarded]
  rfl

theorem address_without_addresses : e.address (e.without r .addresses) = none := by
  have hparam : (e.without r .addresses).param e.settings.overrideParam = none := by
    simp only [Request.param, without]
    rw [Assoc.get?_filter (fun n => decide (n ≠ e.settings.overrideParam)) r.params]
    simp [filled]
  have hheader : (e.without r .addresses).header e.settings.forwardedHeader = none :=
    (r.header_withoutHeader _ _).trans (if_pos (by simp [Text.sameIgnoringCase]))
  rw [address, hparam, forwarded, hheader]
  rfl

theorem knowsLess_without
    (hhost : Text.sameIgnoringCase e.settings.forwardedHeader "host" = false)
    (hagent : Text.sameIgnoringCase e.settings.forwardedHeader "user-agent" = false)
    (removal : Removal) : e.KnowsLess (e.without r removal) e r := by
  cases removal with
  | host =>
    refine ⟨rfl, rfl, r.leftOut_withoutHeader _ _, .refl _, r.leftOut_withoutHeader _ _,
      fun _ => .refl _, .refl _, ?_⟩
    rw [without, address_withoutHeader hhost]
    exact .refl _
  | userAgent =>
    refine ⟨rfl, rfl, r.leftOut_withoutHeader _ _, .refl _, r.leftOut_withoutHeader _ _,
      fun _ => .refl _, .refl _, ?_⟩
    rw [without, address_withoutHeader hagent]
    exact .refl _
  | url =>
    exact ⟨rfl, rfl, .refl _, .inl rfl, .refl _, fun _ => .refl _, .refl _, .refl _⟩
  | bid =>
    exact ⟨rfl, rfl, .refl _, .refl _, .refl _, fun _ => .refl _, .inl rfl, .refl _⟩
  | cookies names =>
    exact ⟨rfl, rfl, .refl _, .refl _, .refl _, r.leftOut_withoutCookies names, .refl _, .refl _⟩
  | cookieTable =>
    exact ⟨rfl, rfl, .refl _, .refl _, .refl _, fun _ => .inl rfl, .refl _, .refl _⟩
  | addresses =>
    refine ⟨rfl, rfl, r.leftOut_withoutHeader _ _, .refl _, r.leftOut_withoutHeader _ _,
      fun _ => .refl _, .refl _, ?_⟩
    rw [address_without_addresses]
    exact .inl rfl

def withTable (e : Engine) (table : Geo.Table) : Engine :=
  { e with geo := some (Assoc.get? table) }

theorem knowsLess_withTable {subset table : Geo.Table}
    (h : ∀ address location, Assoc.get? subset address = some location →
      Assoc.get? table address = some location) :
    (e.withTable subset).KnowsLess r (e.withTable table) r := by
  refine ⟨rfl, rfl, .refl _, .refl _, .refl _, fun _ => .refl _, .refl _, ?_⟩
  refine (LeftOut.refl (e.address r)).bind fun address => ?_
  show LeftOut (Assoc.get? subset address) (Assoc.get? table address)
  cases hs : Assoc.get? subset address with
  | none => exact .inl rfl
  | some location => exact .inr (h address location hs).symm

/-- A request that does not match does not match either when data is taken away from it,
one thing after another, or addresses from the table of the geo service. Which rules fail closed
is settled by their keys, except that a tree that was not compiled must keep no condition on
visitors under some other key. -/
theorem evaluate_without
    (hhost : Text.sameIgnoringCase e.settings.forwardedHeader "host" = false)
    (hagent : Text.sameIgnoringCase e.settings.forwardedHeader "user-agent" = false)
    {t : Tree} (hkeys : ∀ rule ∈ t.occurrences, e.failsClosed rule.key = true)
    (hkept : (∃ registered v, Tree.compile registered v = .ok t) ∨
      ∀ rule ∈ t.occurrences, ∀ c, rule.condition = some c → c.kind ≠ .visitor)
    (emitBid : Bool) :
    (∀ (r : Request) (removals : List Removal),
      (e.evaluate (some t) r ⟨.empty, emitBid⟩).matched = false →
        (e.evaluate (some t) (removals.foldl e.without r) ⟨.empty, emitBid⟩).matched = false) ∧
      ∀ (r : Request) (subset table : Geo.Table),
        (∀ address location, Assoc.get? subset address = some location →
          Assoc.get? table address = some location) →
        ((e.withTable table).evaluate (some t) r ⟨.empty, emitBid⟩).matched = false →
          ((e.withTable subset).evaluate (some t) r ⟨.empty, emitBid⟩).matched = false := by
  have hkept : ∀ rule ∈ t.occurrences, ∀ c, rule.condition = some c → c.kind ≠ .visitor := by
    obtain ⟨registered, v, hcompile⟩ | hkept := hkept
    · exact fun rule hrule _ => kept_of_compile hcompile hrule (hkeys rule hrule)
    · exact hkept
  constructor
  · intro r removals hr
    induction removals generalizing r with
    | nil => exact hr
    | cons removal rest ih =>
      exact ih _ ((knowsLess_without hhost hagent removal).evaluate hkeys hkept emitBid hr)
  · intro r subset table hsubset hr
    exact (knowsLess_withTable hsubset).evaluate hkeys hkept emitBid hr

def phones : Engine :=
  { initial with devices := some fun _ => { Device.Profile.undetected with mobile := some "x" } }

def desktops : Json := .array [.object [("device", .text "desktop")]]

def homeTree : Tree :=
  .node [⟨"weather", .null, none⟩] []
    [.node [⟨"device", desktops, some (.device [⟨some .desktop, none, none, none⟩])⟩] [] [] none,
      .node [⟨"geoip", .array [.text "US."], some (.geoip ["US."])⟩] [] [] none] none

def homeJson : Json :=
  .object [("weather", .null),
    ("or", .array
      [.object [("device", desktops)], .object [("geoip", .array [.text "US."])]])]

def caller : Request :=
  { Request.empty with headers := [("User-Agent", "x")], connectionAddr := some "192.0.2.1" }

theorem evaluate_without_agent :
    Text.sameIgnoringCase phones.settings.forwardedHeader "host" = false ∧
      Text.sameIgnoringCase phones.settings.forwardedHeader "user-agent" = false ∧
      (∀ rule ∈ homeTree.occurrences, phones.failsClosed rule.key = true) ∧
      Tree.compile [] homeJson = .ok homeTree ∧
      (phones.evaluate (some homeTree) caller ⟨.empty, false⟩).matched = false ∧
      (phones.evaluate (some homeTree) (phones.without caller .userAgent)
        ⟨.empty, false⟩).matched = false ∧
      ((phones.withTable [("192.0.2.1", ⟨"FR", "", ""⟩)]).evaluate (some homeTree) caller
        ⟨.empty, false⟩).matched = false ∧
      ((phones.withTable []).evaluate (some homeTree) caller ⟨.empty, false⟩).matched = false := by
  have hkeys : ∀ rule ∈ homeTree.occurrences, phones.failsClosed rule.key = true := by decide
  have hcompile : Tree.compile [] homeJson = .ok homeTree := rfl
  have hphone : (phones.evaluate (some homeTree) caller ⟨.empty, false⟩).matched = false := rfl
  have habroad : ((phones.withTable [("192.0.2.1", ⟨"FR", "", ""⟩)]).evaluate (some homeTree)
      caller ⟨.empty, false⟩).matched = false := rfl
  obtain ⟨hremovals, htables⟩ :=
    evaluate_without (e := phones) rfl rfl hkeys (.inl ⟨[], homeJson, hcompile⟩) false
  exact ⟨rfl, rfl, hkeys, hcompile, hphone, hremovals caller [.userAgent] hphone, habroad,
    htables caller [] _ (fun _ _ h => nomatch h) habroad⟩

/-- A condition on visitors that stands under the key of another one, as in no compiled tree. -/
def misfiled : Tree := .node [⟨"host", .null, some (.visitor true)⟩] [] [] none

def regular : Request := { Request.empty with cookies := some [("bid", "x")] }

example :
    (initial.evaluate (some misfiled) regular .fresh).matched = false ∧
      (initial.evaluate (some misfiled) (initial.without regular .cookieTable) .fresh).matched =
        true := by
  decide

end

end Engine

end Targeting
