import Targeting.Proofs.Evaluation
import Targeting.Session

/-!
# The cache over a run of a session

A run tests conditions with the cache of the session, each with the request at hand
(`Session.history`). As long as the cache is kept, each slot holds what was found for the
first request that it was asked for (`after_cache`), and filling it was done once
(`sharedEffects_filterMap`).
-/

namespace Targeting

-- ---------------------------------------------------------------------------
-- Histories
-- ---------------------------------------------------------------------------

/-- Whether the request has what filling the slot needs. -/
def Request.supplies (r : Request) : Slot → Bool
  | .bucket | .geo => true
  | .device => r.userAgent.isSome

def Condition.asked (conditions : List Condition) (slot : Slot) : Bool :=
  conditions.any fun c => Slot.only c.slot? slot

/-- Conditions in the order of their tests, each with the request at hand. -/
abbrev History := List (Request × Condition)

/-- The first request for which the slot was asked for and could be filled. -/
def History.first? (history : History) (slot : Slot) : Option Request :=
  (history.find? fun (r, c) => Slot.only c.slot? slot && r.supplies slot).map (·.1)

/-- The cache that the history asks for. -/
def Engine.determined (e : Engine) (history : History) : Cache where
  bucket := (history.first? .bucket).map fun r => (e.findings r).bucket
  geo := (history.first? .geo).map fun r => (e.findings r).geo
  device := (history.first? .device).bind fun r => (e.findings r).device

theorem Engine.findings_has (e : Engine) (r : Request) (slot : Slot) :
    (e.findings r).has slot = r.supplies slot := by
  cases slot with
  | bucket => rfl
  | geo => rfl
  | device => simp [Findings.has, findings, Request.supplies]

theorem Engine.asked_eq (e : Engine) (rules : List Rule) :
    e.asked rules = Condition.asked (rules.filterMap e.tested?) := by
  funext slot
  induction rules with
  | nil => rfl
  | cons rule rest ih =>
    simp only [asked_cons, ih, slot?, List.filterMap_cons]
    cases e.tested? rule <;> simp [Condition.asked]

namespace History

theorem first?_append (earlier later : History) (slot : Slot) :
    first? (earlier ++ later) slot = (earlier.first? slot).or (later.first? slot) := by
  simp only [first?, List.find?_append, Option.map_or]

/-- Tests with one request at hand. -/
theorem first?_same (r : Request) (conditions : List Condition) (slot : Slot) :
    first? (conditions.map (r, ·)) slot =
      if Condition.asked conditions slot && r.supplies slot then some r else none := by
  induction conditions with
  | nil => rfl
  | cons c rest ih =>
    simp only [first?, List.map_cons, List.find?_cons, Condition.asked, List.any_cons] at ih ⊢
    by_cases hc : Slot.only c.slot? slot <;> by_cases hr : r.supplies slot <;>
      simp_all

theorem supplies_first? {history : History} {slot : Slot} {r : Request}
    (h : history.first? slot = some r) : r.supplies slot = true := by
  simp only [first?, Option.map_eq_some_iff] at h
  obtain ⟨⟨r', c⟩, hfind, rfl⟩ := h
  have hp := List.find?_some hfind
  simp only [Bool.and_eq_true] at hp
  exact hp.2

end History

namespace Engine

variable {e : Engine}

theorem determined_append (earlier later : History) :
    e.determined (earlier ++ later) = (e.determined earlier).or (e.determined later) := by
  simp only [determined, History.first?_append, Cache.or, Option.map_or, Cache.mk.injEq,
    true_and]
  cases h : earlier.first? .device with
  | none => rfl
  | some r =>
    have hdevice : (e.findings r).device.isSome := by
      rw [← History.supplies_first? h, ← e.findings_has r .device]
      rfl
    obtain ⟨p, hp⟩ := Option.isSome_iff_exists.mp hdevice
    simp [hp]

theorem determined_same (r : Request) (conditions : List Condition) :
    e.determined (conditions.map (r, ·)) =
      (e.findings r).slots (Condition.asked conditions) := by
  simp only [determined, History.first?_same, Findings.slots, Cache.mk.injEq]
  refine ⟨?_, ?_, ?_⟩
  · by_cases h : Condition.asked conditions .bucket <;> simp [h, Request.supplies]
  · by_cases h : Condition.asked conditions .geo <;> simp [h, Request.supplies]
  · cases ha : r.userAgent <;> by_cases h : Condition.asked conditions .device <;>
      simp [h, ha, Request.supplies, findings]

end Engine

-- ---------------------------------------------------------------------------
-- Actions
-- ---------------------------------------------------------------------------

namespace Session

def Action.keepsCache : Action → Bool
  | .clearCache => false
  | _ => true

def Action.keepsRequest : Action → Bool
  | .amend _ | .replace _ => false
  | _ => true

def Action.usesCache : Action → Bool
  | .evaluate _ | .test _ => true
  | _ => false

variable {s : Session}

def tests (s : Session) : Action → List Condition
  | .evaluate (some t) =>
    (s.engine.visited s.request s.state.cache t).filterMap s.engine.tested?
  | .test c => [c]
  | _ => []

theorem act_cache {a : Action} (h : a.keepsCache = true) :
    (s.act a).2.1.state.cache =
      s.state.cache.or ((s.engine.findings s.request).slots (Condition.asked (s.tests a))) := by
  cases a with
  | evaluate tree =>
    cases tree with
    | none => exact (Cache.or_empty _).symm
    | some t =>
      rw [tests, ← Engine.asked_eq]
      exact (Engine.evaluate_leaves_visited t).cache
  | test c =>
    simp only [act, Engine.condition_eq, State.learn, tests]
    congr
    funext slot
    simp [Condition.asked]
  | clearCache => cases h
  | _ => exact (Cache.or_empty _).symm

def sharedEffect (s : Session) (a : Action) : List Effect :=
  if a.usesCache then (s.act a).2.2 else []

theorem sharedEffect_filterMap {p : Effect → Option β} {slot : Slot}
    (hp : ∀ x : Effect, x.slot? ≠ some slot → p x = none) (a : Action) :
    (s.sharedEffect a).filterMap p =
      if Condition.asked (s.tests a) slot && !s.state.cache.has slot then
        (s.engine.inquiry s.request slot).filterMap p
      else [] := by
  cases a with
  | evaluate tree =>
    cases tree with
    | none => rfl
    | some t =>
      rw [tests, ← Engine.asked_eq]
      exact Engine.evaluate_filterMap_slot hp t
  | test c =>
    have hasked : Condition.asked (s.tests (.test c)) slot = Slot.only c.slot? slot := by
      simp [tests, Condition.asked]
    simp only [sharedEffect, Action.usesCache, act, Engine.condition_eq, hasked, if_true,
      Engine.inquiries_filterMap_slot hp]
  | _ => rfl

/-- Registering a rule changes no finding. -/
theorem act_findings (s : Session) (a : Action) (r : Request) :
    (s.act a).2.1.engine.findings r = s.engine.findings r := by
  cases a <;> rfl

theorem act_inquiry (s : Session) (a : Action) (r : Request) (slot : Slot) :
    (s.act a).2.1.engine.inquiry r slot = s.engine.inquiry r slot := by
  cases a <;> cases slot <;> rfl

theorem act_request {a : Action} (h : a.keepsRequest = true) :
    (s.act a).2.1.request = s.request := by
  cases a <;> first | rfl | cases h

/-- With a cache that is coherent, the answer is the one with an empty cache. -/
theorem act_answer (h : s.state.cache.Coherent (s.engine.findings s.request)) (a : Action) :
    (s.act a).1 = ((s.act .clearCache).2.1.act a).1 := by
  have hview := Cache.coherent_iff_view.mp h
  cases a with
  | evaluate tree =>
    cases tree with
    | none => rfl
    | some t => simp only [act, Engine.evaluate_matched, hview, Cache.empty_view]
  | test c => simp only [act, Engine.condition_eq, hview, Cache.empty_view]
  | _ => rfl

-- ---------------------------------------------------------------------------
-- Runs
-- ---------------------------------------------------------------------------

def after (s : Session) : List Action → Session
  | [] => s
  | a :: rest => (s.act a).2.1.after rest

def history (s : Session) : List Action → History
  | [] => []
  | a :: rest => (s.tests a).map (s.request, ·) ++ (s.act a).2.1.history rest

def sharedEffects (s : Session) : List Action → List Effect
  | [] => []
  | a :: rest => s.sharedEffect a ++ (s.act a).2.1.sharedEffects rest

theorem act_determined (s : Session) (a : Action) (history : History) :
    (s.act a).2.1.engine.determined history = s.engine.determined history := by
  simp only [Engine.determined, act_findings]

theorem after_append (s : Session) (first second : List Action) :
    s.after (first ++ second) = (s.after first).after second := by
  induction first generalizing s with
  | nil => rfl
  | cons a rest ih => exact ih _

theorem after_cache {actions : List Action} (hk : ∀ a ∈ actions, a.keepsCache = true) :
    (s.after actions).state.cache =
      s.state.cache.or (s.engine.determined (s.history actions)) := by
  induction actions generalizing s with
  | nil => exact (Cache.or_empty _).symm
  | cons a rest ih =>
    obtain ⟨ha, hrest⟩ := List.forall_mem_cons.mp hk
    rw [after, ih hrest, act_cache ha, act_determined, history, Engine.determined_append,
      Engine.determined_same, Cache.or_assoc]

/-- A slot is filled once in the run, for the first request that it was asked for. -/
theorem sharedEffects_filterMap {p : Effect → Option β} {slot : Slot}
    (hp : ∀ x : Effect, x.slot? ≠ some slot → p x = none) {actions : List Action}
    (hk : ∀ a ∈ actions, a.keepsCache = true) :
    (s.sharedEffects actions).filterMap p =
      if s.state.cache.has slot then []
      else ((s.history actions).first? slot).elim [] fun r =>
        (s.engine.inquiry r slot).filterMap p := by
  induction actions generalizing s with
  | nil => simp [sharedEffects, history, History.first?]
  | cons a rest ih =>
    obtain ⟨ha, hrest⟩ := List.forall_mem_cons.mp hk
    rw [sharedEffects, List.filterMap_append, sharedEffect_filterMap hp, ih hrest, act_cache ha,
      Cache.has_or, Findings.has_slots, Engine.findings_has, history, History.first?_append,
      History.first?_same]
    simp only [act_inquiry]
    cases hs : s.request.supplies slot with
    | true =>
      by_cases hc : s.state.cache.has slot <;>
        by_cases hasked : Condition.asked (s.tests a) slot <;> simp [hc, hasked]
    | false =>
      -- asked for in vain: the slot stays empty, but nothing was done either
      have hnil : s.engine.inquiry s.request slot = [] :=
        Engine.inquiry_eq_nil (by rw [Engine.findings_has, hs])
      simp [hnil]

/-- A kind of effects of which filling the slot has at most one. -/
theorem sharedEffects_once {p : Effect → Option β} {slot : Slot}
    (hp : ∀ x : Effect, x.slot? ≠ some slot → p x = none)
    (hone : ∀ r, ((s.engine.inquiry r slot).filterMap p).length ≤ 1) {actions : List Action}
    (hk : ∀ a ∈ actions, a.keepsCache = true) :
    ((s.sharedEffects actions).filterMap p).length ≤ 1 := by
  rw [sharedEffects_filterMap hp hk]
  split
  · exact Nat.zero_le 1
  · cases (s.history actions).first? slot with
    | none => exact Nat.zero_le 1
    | some r => exact hone r

/-- With the same request at hand, what the evaluations go by never changes. -/
theorem after_view {actions : List Action} (hk : ∀ a ∈ actions, a.keepsCache = true)
    (hr : ∀ a ∈ actions, a.keepsRequest = true) :
    (s.after actions).state.cache.view
        ((s.after actions).engine.findings (s.after actions).request) =
      s.state.cache.view (s.engine.findings s.request) := by
  induction actions generalizing s with
  | nil => rfl
  | cons a rest ih =>
    obtain ⟨ha, hrest⟩ := List.forall_mem_cons.mp hk
    obtain ⟨har, hrestr⟩ := List.forall_mem_cons.mp hr
    rw [after, ih hrest hrestr, act_cache ha, act_request har, act_findings, Cache.or_slots_view]

theorem after_findings (s : Session) (actions : List Action) (r : Request) :
    (s.after actions).engine.findings r = s.engine.findings r := by
  induction actions generalizing s with
  | nil => rfl
  | cons a rest ih => rw [after, ih, act_findings]

theorem after_request {actions : List Action} (hr : ∀ a ∈ actions, a.keepsRequest = true) :
    (s.after actions).request = s.request := by
  induction actions generalizing s with
  | nil => rfl
  | cons a rest ih =>
    obtain ⟨ha, hrest⟩ := List.forall_mem_cons.mp hr
    rw [after, ih hrest, act_request ha]

/-- As long as the cache is kept, each slot holds what was found for the first request it
was asked for and could be filled for, it never changes, and no look-up or detection is
made twice. With the same request at hand, the cache does not show in the answers. -/
theorem cache_written_once {actions : List Action} (hs : s.state.cache = .empty)
    (hk : ∀ a ∈ actions, a.keepsCache = true) :
    (s.after actions).state.cache = s.engine.determined (s.history actions) ∧
      (∀ more : List Action, (∀ a ∈ more, a.keepsCache = true) →
        (s.after actions).state.cache.Within (s.after (actions ++ more)).state.cache) ∧
      ((s.sharedEffects actions).filterMap Effect.lookup?).length ≤ 1 ∧
      ((s.sharedEffects actions).filterMap Effect.geoCall?).length ≤ 1 ∧
      ((s.sharedEffects actions).filterMap Effect.deviceCall?).length ≤ 1 ∧
      ((∀ a ∈ actions, a.keepsRequest = true) → ∀ a : Action,
        ((s.after actions).act a).1 = ((s.after (actions ++ [.clearCache])).act a).1) := by
  refine ⟨?_, ?_, ?_, ?_, ?_, ?_⟩
  · rw [after_cache hk, hs, Cache.empty_or]
  · intro more hmore
    rw [after_append, after_cache hmore]
    exact Cache.within_or _ _
  · refine sharedEffects_once (fun x => Effect.lookup?_eq_none) (fun r => ?_) hk
    rw [Engine.lookups_inquiry]
    exact Option.length_toList_le
  · refine sharedEffects_once (fun x => Effect.geoCall?_eq_none) (fun r => ?_) hk
    rw [Engine.geoCalls_inquiry]
    split
    · exact Option.length_toList_le
    · exact Nat.zero_le 1
  · refine sharedEffects_once (fun x => Effect.deviceCall?_eq_none) (fun r => ?_) hk
    rw [Engine.deviceCalls_inquiry]
    split
    · exact Option.length_toList_le
    · exact Nat.zero_le 1
  · intro hr a
    rw [after_append]
    refine act_answer ?_ a
    rw [Cache.coherent_iff_view, after_view hk hr, hs, Cache.empty_view, after_findings,
      after_request hr]

def visitorActions : List Action :=
  [.test (.bucket [⟨0, 40⟩]), .register "weather" fun _ _ => .bool true,
    .evaluate (some Engine.visitorTree), .amend .empty, .locate,
    .evaluate (some Engine.visitorTree)]

theorem cache_written_once_visitor :
    (start Engine.locator Engine.visitor).state.cache = .empty ∧
      (∀ a ∈ visitorActions, a.keepsCache = true) ∧
      ((start Engine.locator Engine.visitor).after visitorActions).state.cache =
        ⟨some (some 30), some (.resolved "US.CA.SF"), none⟩ ∧
      (((start Engine.locator Engine.visitor).sharedEffects visitorActions).filterMap
        Effect.geoCall?).length ≤ 1 := by
  have hk : ∀ a ∈ visitorActions, a.keepsCache = true := by decide
  obtain ⟨hcache, -, -, hcalls, -, -⟩ :=
    cache_written_once (s := start Engine.locator Engine.visitor) rfl hk
  exact ⟨rfl, hk, hcache.trans rfl, hcalls⟩

end Session

end Targeting
