import Targeting.Proofs.Evaluation
import Targeting.Proofs.KnownNames
import Targeting.Proofs.Quiet

/-!
# What an evaluation reads

A condition looks at a few values of the request and at what the services find for them
(`Engine.SameReads`). Two requests that agree on what the conditions of a tree read, each
before an engine of its own, cannot be told apart by evaluating the tree
(`evaluate_reads_only`), whatever else they hold.
-/

namespace Targeting.Engine

variable {e e' : Engine} {r r' : Request}

/-- The two engines have the same registered rules, and one has a service if the other has. -/
structure SameSetup (e e' : Engine) : Prop where
  registry : e.registry = e'.registry
  geo : e.geo.isSome = e'.geo.isSome
  devices : e.devices.isSome = e'.devices.isSome

theorem SameSetup.refl (e : Engine) : e.SameSetup e := ⟨rfl, rfl, rfl⟩

/-- What the condition reads is the same for the first engine with its request as for the
second with its own. -/
def SameReads (e : Engine) (r : Request) (e' : Engine) (r' : Request) : Condition → Prop
  | .host _ => r.host = r'.host
  | .path _ => r.path = r'.path
  | .agent _ => r.userAgent = r'.userAgent
  | .bucket _ => bucketOf r = bucketOf r'
  | .cookie cookies => ∀ c ∈ cookies, r.cookie c.name = r'.cookie c.name
  | .visitor _ => r.cookie e.settings.visitorCookie = r'.cookie e'.settings.visitorCookie
  | .device _ => r.userAgent = r'.userAgent ∧
      ∀ agent, r.userAgent = some agent → (e.detect agent).1 = (e'.detect agent).1
  | .geoip _ => e.address r = e'.address r' ∧
      ∀ address, e.address r = some address → e.locate address = e'.locate address

-- ---------------------------------------------------------------------------
-- Services
-- ---------------------------------------------------------------------------

theorem resolveGeo_same (hsetup : e.SameSetup e') (ha : e.address r = e'.address r')
    (hl : ∀ address, e.address r = some address → e.locate address = e'.locate address) :
    e.resolveGeo r = e'.resolveGeo r' := by
  unfold resolveGeo
  rw [← ha, hsetup.geo]
  cases h : e.address r with
  | none => rfl
  | some address => simp only [hl address h]

theorem detect_same (hsetup : e.SameSetup e') {agent : String}
    (h : (e.detect agent).1 = (e'.detect agent).1) : e.detect agent = e'.detect agent := by
  refine Prod.ext h ?_
  have hdevices := hsetup.devices
  unfold detect
  cases hd : e.devices <;> cases hd' : e'.devices <;> simp_all

-- ---------------------------------------------------------------------------
-- Conditions
-- ---------------------------------------------------------------------------

/-- The browser id itself is only shown by a debug event. -/
theorem bucketStep_quiet (h : bucketOf r = bucketOf r') (ranges : List Bucket.Range) :
    (bucketStep r ranges).quiet = (bucketStep r' ranges).quiet := by
  funext s
  obtain ⟨⟨bucket, geo, device⟩, emitBid⟩ := s
  cases bucket <;>
    simp [Step.quiet, Outcome.quiet, bucketStep, findBucket, Effect.shown, h]

theorem geoStep_same (h : e.resolveGeo r = e'.resolveGeo r') (criteria : List String) :
    e.geoStep r criteria = e'.geoStep r' criteria := by
  funext s
  simp only [geoStep, findGeo, h]

theorem deviceStep_same {agent : String} (h : e.detect agent = e'.detect agent)
    (criteria : List Device.Criterion) :
    e.deviceStep agent criteria = e'.deviceStep agent criteria := by
  funext s
  simp only [deviceStep, findDevice, h]

theorem cookies_same {cookies : List Condition.Cookie}
    (h : ∀ c ∈ cookies, r.cookie c.name = r'.cookie c.name) :
    (cookies.any fun c => r.cookie c.name = some c.value) =
      cookies.any fun c => r'.cookie c.name = some c.value := by
  induction cookies with
  | nil => rfl
  | cons c rest ih =>
    obtain ⟨hc, hrest⟩ := List.forall_mem_cons.mp h
    rw [List.any_cons, List.any_cons, hc, ih hrest]

theorem condition_quiet (hsetup : e.SameSetup e') {c : Condition} (h : SameReads e r e' r' c) :
    (e.condition r c).quiet = (e'.condition r' c).quiet := by
  cases c with
  | host names =>
    have hhost : r.host = r'.host := h
    cases names <;> simp only [condition, hhost]
  | path patterns =>
    have hpath : r.path = r'.path := h
    cases patterns <;> simp only [condition, hpath]
  | agent patterns =>
    have hagent : r.userAgent = r'.userAgent := h
    cases patterns <;> simp only [condition, hagent]
  | cookie cookies =>
    have hcookies := cookies_same h
    cases cookies <;> simp only [condition, hcookies]
  | visitor newOnly =>
    have hnew : e.isNewVisitor r = e'.isNewVisitor r' := congrArg Option.isNone h
    simp only [condition, hnew]
  | bucket ranges =>
    cases ranges with
    | nil => rfl
    | cons first rest => exact bucketStep_quiet h _
  | geoip criteria =>
    cases criteria with
    | nil => rfl
    | cons first rest =>
      have hresolve := resolveGeo_same hsetup h.1 h.2
      exact congrArg Step.quiet (geoStep_same hresolve _)
  | device criteria =>
    cases criteria with
    | nil => rfl
    | cons first rest =>
      obtain ⟨hagent, hprofile⟩ := h
      simp only [condition, ← hagent]
      cases ha : r.userAgent with
      | none => rfl
      | some agent =>
        have hdetect := detect_same hsetup (hprofile agent ha)
        exact congrArg Step.quiet (deviceStep_same hdetect _)

-- ---------------------------------------------------------------------------
-- Rules
-- ---------------------------------------------------------------------------

theorem meaning_of_reading {subject : Rule} {custom : CustomRule}
    (h : e.reading subject = .custom custom) :
    e.registry.meaning subject.key = .custom custom := by
  unfold reading at h
  cases hm : e.registry.meaning subject.key with
  | custom other => simpa [hm] using h
  | unknown => simp [hm] at h
  | condition kind =>
    cases hc : subject.condition with
    | some c => simp [hm, hc] at h
    | none => cases hr : Condition.compile kind subject.raw <;> simp [hm, hc, hr] at h

/-- The rule does the same if the condition that it tests reads the same, and if the
registered rule that it calls, if any, answers the same. -/
theorem rule_quiet (hsetup : e.SameSetup e') {subject : Rule}
    (hreads : ∀ c, e.tested? subject = some c → SameReads e r e' r' c)
    (hcustom : ∀ custom, e.registry.meaning subject.key = .custom custom →
      custom subject.raw r = custom subject.raw r') :
    (e.rule r subject).quiet = (e'.rule r' subject).quiet := by
  have hreading : e.reading subject = e'.reading subject := by
    simp only [reading, hsetup.registry]
  rw [rule_reading, rule_reading, ← hreading]
  cases hr : e.reading subject with
  | condition c => exact condition_quiet hsetup (hreads c (by simp [tested?, hr]))
  | custom custom => simp only [hcustom custom (meaning_of_reading hr)]
  | invalid error => rfl
  | unknown => rfl

theorem evaluate_quiet_congr (hsetup : e.SameSetup e') {t : Tree}
    (hreads : ∀ rule ∈ t.occurrences, ∀ c, e.tested? rule = some c → SameReads e r e' r' c)
    (hcustom : ∀ rule ∈ t.occurrences, ∀ custom,
      e.registry.meaning rule.key = .custom custom → custom rule.raw r = custom rule.raw r')
    (s : State) :
    (e.evaluate (some t) r s).quiet = (e'.evaluate (some t) r' s).quiet := by
  have htree : (e.tree r t).quiet = (e'.tree r' t).quiet :=
    tree_quiet_congr fun rule hrule => rule_quiet hsetup (hreads rule hrule) (hcustom rule hrule)
  exact evaluate_quiet_of_tree htree s

-- ---------------------------------------------------------------------------
-- Read sets
-- ---------------------------------------------------------------------------

def conditions (e : Engine) (t : Tree) : List Condition := t.occurrences.filterMap e.tested?

theorem mem_conditions {t : Tree} {c : Condition} :
    c ∈ e.conditions t ↔ ∃ rule ∈ t.occurrences, e.tested? rule = some c :=
  List.mem_filterMap

theorem kind_of_slot_geo {c : Condition} (h : c.slot? = some .geo) : c.kind = .geoip := by
  unfold Condition.slot? at h
  split at h <;> first | rfl | cases h

/-- Only conditions on the location ask for the location. -/
theorem asked_geo {t : Tree} (h : ∀ c ∈ e.conditions t, c.kind ≠ .geoip) {rules : List Rule}
    (hsub : rules.Sublist t.occurrences) : e.asked rules .geo = false := by
  refine List.any_eq_false.mpr fun rule hrule hslot => ?_
  have hgeo : (e.tested? rule).bind Condition.slot? = some .geo := of_decide_eq_true hslot
  obtain ⟨c, htested, hc⟩ := Option.bind_eq_some_iff.mp hgeo
  exact h c (mem_conditions.mpr ⟨rule, hsub.subset hrule, htested⟩) (kind_of_slot_geo hc)

/-- Where no rule of the tree is registered, an evaluation goes by what its conditions read
and by nothing else: not by other data of the request, nor by the settings or services as
such. Without a condition on the location no location is asked for, and a request without a
cookie table is like one whose table is empty. -/
theorem evaluate_reads_only (hsetup : e.SameSetup e') {t : Tree}
    (hplain : ∀ rule ∈ t.occurrences, rule.key ∉ e.registry.names) (s : State) :
    (∀ r r' : Request, (∀ c ∈ e.conditions t, SameReads e r e' r' c) →
      (e.evaluate (some t) r s).quiet = (e'.evaluate (some t) r' s).quiet) ∧
      (∀ r : Request, (∀ c ∈ e.conditions t, c.kind ≠ .geoip) →
        (e.evaluate (some t) r s).effects.filterMap Effect.geoCall? = []) ∧
      ∀ r : Request, (e.evaluate (some t) { r with cookies := none } s).quiet =
        (e.evaluate (some t) { r with cookies := some [] } s).quiet := by
  have hcustom : ∀ r r' : Request, ∀ rule ∈ t.occurrences, ∀ custom,
      e.registry.meaning rule.key = .custom custom →
        custom rule.raw r = custom rule.raw r' := by
    intro r r' rule hrule custom hm
    exact absurd (Registry.mem_names_of_meaning hm) (hplain rule hrule)
  refine ⟨fun r r' h => ?_, fun r h => ?_, fun r => ?_⟩
  · refine evaluate_quiet_congr hsetup (fun rule hrule c hc => ?_) (hcustom r r') s
    exact h c (mem_conditions.mpr ⟨rule, hrule, hc⟩)
  · have hleaves := evaluate_leaves_visited (e := e) (r := r) (s := s) t
    have hasked : e.asked (e.visited r s.cache t) .geo = false :=
      asked_geo h (Tree.visits_sublist t)
    rw [hleaves.geoCalls, hleaves.lookups, hasked]
    split <;> rfl
  · refine evaluate_quiet_congr (.refl e) (fun rule _ c _ => ?_) (hcustom _ _) s
    cases c <;> first | rfl | exact fun _ _ => rfl | exact ⟨rfl, fun _ _ => rfl⟩

def registrar : Engine :=
  { initial with
    geo := some (Assoc.get? [("192.0.2.1", ⟨"US", "CA", "SF"⟩)]), settings.visitorCookie := "id" }

def lookalike : Request :=
  { Request.empty with
    bid := some "004D", url := some "/", cookies := some [], tunnelAddr := some "192.0.2.1" }

theorem evaluate_reads_only_lookalike :
    locator.SameSetup registrar ∧
      (∀ rule ∈ visitorTree.occurrences, rule.key ∉ locator.registry.names) ∧
      (∀ c ∈ locator.conditions visitorTree, SameReads locator visitor registrar lookalike c) ∧
      (locator.evaluate (some visitorTree) visitor .fresh).quiet =
        (registrar.evaluate (some visitorTree) lookalike .fresh).quiet ∧
      (∀ rule ∈ (Tree.hostInGroupTree none).occurrences, rule.key ∉ locator.registry.names) ∧
      (∀ c ∈ locator.conditions (Tree.hostInGroupTree none), c.kind ≠ .geoip) ∧
      (locator.evaluate (some (Tree.hostInGroupTree none)) visitor .fresh).effects.filterMap
        Effect.geoCall? = [] := by
  have hsetup : locator.SameSetup registrar := ⟨rfl, rfl, rfl⟩
  have hplain : ∀ rule ∈ visitorTree.occurrences, rule.key ∉ locator.registry.names := by decide
  have hplain' : ∀ rule ∈ (Tree.hostInGroupTree none).occurrences,
      rule.key ∉ locator.registry.names := by decide
  have hconditions : locator.conditions visitorTree =
      [.bucket [⟨0, 40⟩], .geoip ["US."], .host ["a.example"]] := rfl
  have hreads : ∀ c ∈ locator.conditions visitorTree,
      SameReads locator visitor registrar lookalike c := by
    simp only [hconditions, List.forall_mem_cons]
    refine ⟨rfl, ⟨rfl, fun address ha => ?_⟩, rfl, nofun⟩
    cases ha
    rfl
  have hnowhere : ∀ c ∈ locator.conditions (Tree.hostInGroupTree none), c.kind ≠ .geoip := by
    decide
  exact ⟨hsetup, hplain, hreads, (evaluate_reads_only hsetup hplain .fresh).1 _ _ hreads,
    hplain', hnowhere, (evaluate_reads_only hsetup hplain' .fresh).2.1 _ hnowhere⟩

end Targeting.Engine
