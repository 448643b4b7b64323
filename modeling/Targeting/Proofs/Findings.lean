import Targeting.Engine

/-!
# What is found out about a request

The three values that are derived from a request at most once an evaluation, all at
once (`Engine.findings`), and what a cache makes of them: filled slots win
(`Cache.view`). `condition_eq` says all that testing a condition does: it decides by
what the cache makes of the findings, asks for at most one slot, and leaves effects
only if that slot was empty.
-/

namespace Targeting

inductive Slot where
  | bucket | geo | device
  deriving DecidableEq

def Slot.only (slot? : Option Slot) (slot : Slot) : Bool := slot? = some slot

@[simp] theorem Slot.only_none : Slot.only none = fun _ => false := by
  funext slot
  simp [Slot.only]

/-- The slot that a condition asks for. An empty list asks for nothing. -/
def Condition.slot? : Condition → Option Slot
  | .bucket (_ :: _) => some .bucket
  | .geoip (_ :: _) => some .geo
  | .device (_ :: _) => some .device
  | _ => none

structure Findings where
  bucket : Option Nat
  geo : Geo.Resolution
  /-- Missing without a user agent. -/
  device : Option Device.Profile

/-- Everything computed from scratch. -/
def Engine.findings (e : Engine) (r : Request) : Findings :=
  ⟨bucketOf r, (e.resolveGeo r).1, r.userAgent.map fun agent => (e.detect agent).1⟩

def Findings.slots (f : Findings) (asked : Slot → Bool) : Cache where
  bucket := if asked .bucket then some f.bucket else none
  geo := if asked .geo then some f.geo else none
  device := if asked .device then f.device else none

-- ---------------------------------------------------------------------------
-- Caches
-- ---------------------------------------------------------------------------

namespace Cache

def has (c : Cache) : Slot → Bool
  | .bucket => c.bucket.isSome
  | .geo => c.geo.isSome
  | .device => c.device.isSome

/-- Slots of the first win. -/
def or (c d : Cache) : Cache := ⟨c.bucket.or d.bucket, c.geo.or d.geo, c.device.or d.device⟩

/-- What an evaluation goes by that starts with the cache. -/
def view (c : Cache) (f : Findings) : Findings :=
  ⟨c.bucket.getD f.bucket, c.geo.getD f.geo, c.device.or f.device⟩

/-- Each slot is empty or holds what is found. -/
structure Coherent (c : Cache) (f : Findings) : Prop where
  bucket : c.bucket = none ∨ c.bucket = some f.bucket
  geo : c.geo = none ∨ c.geo = some f.geo
  device : c.device = none ∨ c.device = f.device

structure Within (c d : Cache) : Prop where
  bucket : ∀ b, c.bucket = some b → d.bucket = some b
  geo : ∀ g, c.geo = some g → d.geo = some g
  device : ∀ p, c.device = some p → d.device = some p

theorem within_or (c d : Cache) : c.Within (c.or d) := by
  refine ⟨?_, ?_, ?_⟩
  · intro b hb
    simp [or, hb]
  · intro g hg
    simp [or, hg]
  · intro p hp
    simp [or, hp]

@[simp] theorem or_empty (c : Cache) : c.or .empty = c := by
  simp [or, empty]

@[simp] theorem empty_or (c : Cache) : empty.or c = c := rfl

theorem or_assoc (a b c : Cache) : (a.or b).or c = a.or (b.or c) := by
  simp [or, Option.or_assoc]

@[simp] theorem empty_view (f : Findings) : empty.view f = f := rfl

theorem coherent_empty (f : Findings) : empty.Coherent f := ⟨.inl rfl, .inl rfl, .inl rfl⟩

theorem coherent_iff_view {c : Cache} {f : Findings} : c.Coherent f ↔ c.view f = f := by
  constructor
  · rintro ⟨hb, hg, hd⟩
    have hbucket : c.bucket.getD f.bucket = f.bucket := by rcases hb with h | h <;> simp [h]
    have hgeo : c.geo.getD f.geo = f.geo := by rcases hg with h | h <;> simp [h]
    have hdevice : c.device.or f.device = f.device := by rcases hd with h | h <;> simp [h]
    simp only [view, hbucket, hgeo, hdevice]
  · intro h
    obtain ⟨bucket, geo, device⟩ := c
    obtain ⟨fb, fg, fd⟩ := f
    simp only [view, Findings.mk.injEq] at h
    obtain ⟨hb, hg, hd⟩ := h
    refine ⟨?_, ?_, ?_⟩
    · cases bucket with
      | none => exact .inl rfl
      | some _ => exact .inr (congrArg some hb)
    · cases geo with
      | none => exact .inl rfl
      | some _ => exact .inr (congrArg some hg)
    · cases device with
      | none => exact .inl rfl
      | some _ => exact .inr hd

@[simp] theorem or_slots_view (c : Cache) (f : Findings) (asked : Slot → Bool) :
    (c.or (f.slots asked)).view f = c.view f := by
  obtain ⟨bucket, geo, device⟩ := c
  simp only [or, view, Findings.slots, Findings.mk.injEq]
  refine ⟨?_, ?_, ?_⟩
  · cases bucket <;> by_cases h : asked .bucket <;> simp [h]
  · cases geo <;> by_cases h : asked .geo <;> simp [h]
  · cases device <;> by_cases h : asked .device <;> simp [h]

theorem has_or (c d : Cache) (slot : Slot) : (c.or d).has slot = (c.has slot || d.has slot) := by
  cases slot <;> simp [has, or, Option.isSome_or]

end Cache

namespace Findings

def has (f : Findings) : Slot → Bool
  | .bucket | .geo => true
  | .device => f.device.isSome

theorem has_slots (f : Findings) (asked : Slot → Bool) (slot : Slot) :
    (f.slots asked).has slot = (asked slot && f.has slot) := by
  cases slot <;> simp only [Cache.has, slots, has] <;> split <;> simp_all

@[simp] theorem slots_none (f : Findings) : f.slots (fun _ => false) = .empty := rfl

theorem slots_or_slots (f : Findings) (p q : Slot → Bool) :
    (f.slots p).or (f.slots q) = f.slots fun slot => p slot || q slot := by
  simp only [slots, Cache.or, Cache.mk.injEq]
  refine ⟨?_, ?_, ?_⟩
  · by_cases h : p .bucket <;> simp [h]
  · by_cases h : p .geo <;> simp [h]
  · by_cases h : p .device <;> by_cases hq : q .device <;> simp [h, hq]

end Findings

-- ---------------------------------------------------------------------------
-- States
-- ---------------------------------------------------------------------------

/-- The findings asked for go into the cache; asking for the bucket raises the flag. -/
def State.learn (s : State) (f : Findings) (asked : Slot → Bool) : State :=
  ⟨s.cache.or (f.slots asked), s.emitBid || asked .bucket⟩

namespace State

@[simp] theorem learn_none (s : State) (f : Findings) : s.learn f (fun _ => false) = s := by
  simp [learn]

theorem learn_learn (s : State) (f : Findings) (p q : Slot → Bool) :
    (s.learn f p).learn f q = s.learn f fun slot => p slot || q slot := by
  simp [learn, Cache.or_assoc, Findings.slots_or_slots, Bool.or_assoc]

@[simp] theorem learn_view (s : State) (f : Findings) (asked : Slot → Bool) :
    (s.learn f asked).cache.view f = s.cache.view f := by
  simp [learn]

theorem has_learn (s : State) (f : Findings) (asked : Slot → Bool) (slot : Slot) :
    (s.learn f asked).cache.has slot = (s.cache.has slot || asked slot && f.has slot) := by
  rw [learn, Cache.has_or, Findings.has_slots]

end State

-- ---------------------------------------------------------------------------
-- Conditions
-- ---------------------------------------------------------------------------

namespace Engine

def holds (e : Engine) (r : Request) (f : Findings) : Condition → Bool
  | .host names => names.isEmpty || r.host.any names.contains
  | .path patterns => patterns.isEmpty || r.path.any fun url => patterns.any (·.isMatch url)
  | .bucket ranges => ranges.isEmpty || f.bucket.any fun b => ranges.any (·.contains b)
  | .cookie cookies => cookies.isEmpty || cookies.any fun c => r.cookie c.name = some c.value
  | .agent patterns =>
    patterns.isEmpty || r.userAgent.any fun agent => patterns.any (·.isMatch agent)
  | .geoip criteria =>
    criteria.isEmpty || f.geo.written?.any fun written => criteria.any (Geo.covers · written)
  | .device criteria =>
    criteria.isEmpty || r.userAgent.isSome && f.device.any fun p => criteria.any (·.fits p)
  | .visitor newOnly => e.isNewVisitor r = newOnly

def inquiry (e : Engine) (r : Request) : Slot → List Effect
  | .bucket => [.traced (.bucketComputed r.bid (bucketOf r))]
  | .geo => (e.resolveGeo r).2
  | .device => r.userAgent.elim [] fun agent => (e.detect agent).2

/-- What is done for the slot asked for: nothing if it is filled. -/
def inquiries (e : Engine) (r : Request) (c : Cache) : Option Slot → List Effect
  | none => []
  | some slot => if c.has slot then [] else e.inquiry r slot

section
variable {e : Engine} {r : Request} {s : State}

theorem verdict_eq (b : Bool) (f : Findings) :
    Step.verdict b s = ⟨b, s.learn f (Slot.only none), []⟩ := by
  simp [Step.verdict]

theorem bucketStep_eq (ranges : List Bucket.Range) :
    bucketStep r ranges s =
      ⟨(s.cache.view (e.findings r)).bucket.any fun b => ranges.any (·.contains b),
        s.learn (e.findings r) (Slot.only (some .bucket)),
        e.inquiries r s.cache (some .bucket)⟩ := by
  obtain ⟨⟨bucket, geo, device⟩, emitBid⟩ := s
  cases bucket <;> simp [bucketStep, findBucket, Cache.view, State.learn, Cache.or,
    Findings.slots, Slot.only, inquiries, inquiry, Cache.has, findings]

theorem geoStep_eq (criteria : List String) :
    e.geoStep r criteria s =
      ⟨(s.cache.view (e.findings r)).geo.written?.any fun w => criteria.any (Geo.covers · w),
        s.learn (e.findings r) (Slot.only (some .geo)),
        e.inquiries r s.cache (some .geo)⟩ := by
  obtain ⟨⟨bucket, geo, device⟩, emitBid⟩ := s
  cases geo <;> simp [geoStep, findGeo, Cache.view, State.learn, Cache.or, Findings.slots,
    Slot.only, inquiries, inquiry, Cache.has, findings]

theorem deviceStep_eq {agent : String} (ha : r.userAgent = some agent)
    (criteria : List Device.Criterion) :
    e.deviceStep agent criteria s =
      ⟨(s.cache.view (e.findings r)).device.any fun p => criteria.any (·.fits p),
        s.learn (e.findings r) (Slot.only (some .device)),
        e.inquiries r s.cache (some .device)⟩ := by
  obtain ⟨⟨bucket, geo, device⟩, emitBid⟩ := s
  cases device <;> simp [deviceStep, findDevice, Cache.view, State.learn, Cache.or,
    Findings.slots, Slot.only, inquiries, inquiry, Cache.has, findings, ha]

theorem learn_device_of_no_agent (ha : r.userAgent = none) :
    s.learn (e.findings r) (Slot.only (some .device)) = s := by
  simp [State.learn, Cache.or, Findings.slots, Slot.only, findings, ha]

/-- All that testing a condition does. -/
theorem condition_eq (c : Condition) :
    e.condition r c s = ⟨e.holds r (s.cache.view (e.findings r)) c,
      s.learn (e.findings r) (Slot.only c.slot?),
      e.inquiries r s.cache c.slot?⟩ := by
  cases c with
  | host names => cases names <;> exact verdict_eq ..
  | path patterns => cases patterns <;> exact verdict_eq ..
  | cookie cookies => cases cookies <;> exact verdict_eq ..
  | agent patterns => cases patterns <;> exact verdict_eq ..
  | visitor newOnly => exact verdict_eq ..
  | bucket ranges =>
    cases ranges with
    | nil => exact verdict_eq ..
    | cons => exact bucketStep_eq _
  | geoip criteria =>
    cases criteria with
    | nil => exact verdict_eq ..
    | cons => exact geoStep_eq _
  | device criteria =>
    cases criteria with
    | nil => exact verdict_eq ..
    | cons first rest =>
      cases ha : r.userAgent with
      | none =>
        simp only [condition, ha, Condition.slot?, learn_device_of_no_agent ha]
        simp [holds, ha, inquiries, inquiry, Step.fail, Step.verdict]
      | some agent =>
        simp only [condition, ha, deviceStep_eq ha, holds, Condition.slot?]
        simp

end

end Engine

end Targeting
