import Targeting.Proofs.Trace
import Targeting.Proofs.Verdict

/-!
# What an evaluation does

An evaluation has the verdict of the tree by the findings, as its cache has them, and
all that it does is what visiting the rules does that the verdict hangs on
(`tree_follows`). With a cache that is coherent with the request neither the cache nor
stopping early shows in the verdict, and the effects are those of the trace.
-/

namespace Targeting.Engine

variable {e : Engine} {r : Request} {s : State}

-- ---------------------------------------------------------------------------
-- Steps that follow a list of visits
-- ---------------------------------------------------------------------------

/-- From every state that goes by the findings, the step has the verdict and does what
visiting the rules does. -/
def Follows (e : Engine) (r : Request) (f : Findings) (step : Step) (verdict : Bool)
    (rules : List Rule) : Prop :=
  ∀ s : State, s.cache.view (e.findings r) = f →
    (step s).matched = verdict ∧ (step s).state = (e.visit r rules s).1 ∧
      (step s).effects.filter Effect.ofRule = (e.visit r rules s).2

namespace Follows

variable {f : Findings} {first second : Step} {v w : Bool} {rules more : List Rule}

theorem verdict (b : Bool) : e.Follows r f (Step.verdict b) b [] := fun _ _ => ⟨rfl, rfl, rfl⟩

theorem noting (h : e.Follows r f first v rules) {event : Event} (he : event.ofTree = true)
    (b : Bool) : e.Follows r f (first.noting b event) v rules := by
  intro s hs
  obtain ⟨hm, hstate, heffects⟩ := h s hs
  simp only [Step.noting]
  split
  · exact ⟨hm, hstate, by simp [heffects, Effect.ofRule, he]⟩
  · exact ⟨hm, hstate, heffects⟩

theorem andThen (hf : e.Follows r f first v rules) (hs : e.Follows r f second w more) :
    e.Follows r f (first.andThen second) (v && w) (rules ++ if v then more else []) := by
  intro s h
  obtain ⟨hm, hstate, heffects⟩ := hf s h
  simp only [Step.andThen, hm]
  cases v with
  | false => simpa using ⟨hm, hstate, heffects⟩
  | true =>
    obtain ⟨hm', hstate', heffects'⟩ := hs (first s).state (by rw [hstate, visit_view, h])
    simp [Step.also, visit_append, hm', hstate', heffects, heffects', ← hstate]

theorem orElse (hf : e.Follows r f first v rules) (hs : e.Follows r f second w more) :
    e.Follows r f (first.orElse second) (v || w) (rules ++ if v then [] else more) := by
  intro s h
  obtain ⟨hm, hstate, heffects⟩ := hf s h
  simp only [Step.orElse, hm]
  cases v with
  | true => simpa using ⟨hm, hstate, heffects⟩
  | false =>
    obtain ⟨hm', hstate', heffects'⟩ := hs (first s).state (by rw [hstate, visit_view, h])
    simp [Step.also, visit_append, hm', hstate', heffects, heffects', ← hstate]

end Follows

-- ---------------------------------------------------------------------------
-- Trees
-- ---------------------------------------------------------------------------

theorem effects_ofRule {c : Cache} {x : Effect} {subject : Rule}
    (h : x ∈ e.effects r c subject) : x.ofRule = true := by
  simp only [effects, List.mem_append, Option.mem_toList, Option.map_eq_some_iff] at h
  obtain (⟨name, -, rfl⟩ | hx) | ⟨warning, -, rfl⟩ := h
  · rfl
  · exact Effect.ofRule_of_slot (inquiries_slot hx)
  · rfl

theorem rule_follows (f : Findings) (subject : Rule) :
    e.Follows r f (e.rule r subject) (e.passes r f subject) [subject] := by
  intro s hs
  rw [rule_eq, hs]
  refine ⟨rfl, rfl, ?_⟩
  simp only [visit, List.append_nil]
  exact List.filter_eq_self.mpr fun x hx => effects_ofRule hx

theorem rules_follow (f : Findings) (rules : List Rule) :
    e.Follows r f (e.rules r rules) (rules.all (e.passes r f))
      (Tree.visitedRules (e.passes r f) rules) := by
  induction rules with
  | nil => exact .verdict true
  | cons rule rest ih =>
    exact ((rule_follows f rule).noting rfl false).andThen ih

theorem allOf_follows {f : Findings} {ts : List Tree}
    (h : ∀ t ∈ ts, e.Follows r f (e.tree r t) (t.holds (e.passes r f))
      (t.visits (e.passes r f))) (index : Nat) :
    e.Follows r f (e.allOf r index ts) (Tree.allHold (e.passes r f) ts)
      (Tree.visitsAll (e.passes r f) ts) := by
  induction ts generalizing index with
  | nil => exact .verdict true
  | cons t rest ih =>
    obtain ⟨ht, hrest⟩ := List.forall_mem_cons.mp h
    exact (ht.noting rfl false).andThen (ih hrest _)

theorem anyOf_follows {f : Findings} {ts : List Tree}
    (h : ∀ t ∈ ts, e.Follows r f (e.tree r t) (t.holds (e.passes r f))
      (t.visits (e.passes r f))) (index : Nat) :
    e.Follows r f (e.anyOf r index ts) (Tree.someHolds (e.passes r f) ts)
      (Tree.visitsAny (e.passes r f) ts) := by
  induction ts generalizing index with
  | nil => exact (Follows.verdict false).noting rfl false
  | cons t rest ih =>
    obtain ⟨ht, hrest⟩ := List.forall_mem_cons.mp h
    exact (ht.noting rfl true).orElse (ih hrest _)

theorem groups_follow {f : Findings} {ts : List Tree}
    (h : ∀ t ∈ ts, e.Follows r f (e.tree r t) (t.holds (e.passes r f))
      (t.visits (e.passes r f))) :
    e.Follows r f (if ts.isEmpty then .pass else e.anyOf r 0 ts)
      (ts.isEmpty || Tree.someHolds (e.passes r f) ts) (Tree.visitsAny (e.passes r f) ts) := by
  cases ts with
  | nil => exact .verdict true
  | cons t rest => exact anyOf_follows h 0

theorem tree_follows (f : Findings) (t : Tree) :
    e.Follows r f (e.tree r t) (t.holds (e.passes r f)) (t.visits (e.passes r f)) := by
  induction t with
  | node rules all any ruleset hall hany =>
    rw [Tree.holds, Bool.and_assoc]
    exact (rules_follow f rules).andThen ((allOf_follows hall 0).andThen (groups_follow hany))

-- ---------------------------------------------------------------------------
-- Evaluations
-- ---------------------------------------------------------------------------

def visited (e : Engine) (r : Request) (c : Cache) (t : Tree) : List Rule :=
  t.visits (e.passes r (c.view (e.findings r)))

theorem evaluate_matched (t : Tree) :
    (e.evaluate (some t) r s).matched = t.holds (e.passes r (s.cache.view (e.findings r))) :=
  (tree_follows _ t s rfl).1

theorem evaluate_state (t : Tree) :
    (e.evaluate (some t) r s).state = (e.visit r (e.visited r s.cache t) s).1 :=
  (tree_follows _ t s rfl).2.1

theorem evaluate_effects (t : Tree) :
    (e.evaluate (some t) r s).effects.filter Effect.ofRule =
      (e.visit r (e.visited r s.cache t) s).2 := by
  simp only [evaluate, List.filter_append, (tree_follows _ t s rfl).2.2]
  exact List.append_nil _

theorem evaluate_filterMap {p : Effect → Option β} (hp : ∀ x, x.ofRule = false → p x = none)
    (t : Tree) :
    (e.evaluate (some t) r s).effects.filterMap p =
      (e.visit r (e.visited r s.cache t) s).2.filterMap p := by
  rw [← Effect.filterMap_filter_of hp, evaluate_effects]

-- ---------------------------------------------------------------------------
-- A visitor whose bucket is known already
-- ---------------------------------------------------------------------------

def visitor : Request :=
  { Request.empty with bid := some "4d", connectionAddr := some "192.0.2.1" }

def visitorState : State := ⟨⟨some (some 30), none, none⟩, false⟩

def locator : Engine := { initial with geo := some fun _ => some ⟨"US", "CA", "SF"⟩ }

def visitorTree : Tree :=
  .node [⟨"bucket", .null, some (.bucket [⟨0, 40⟩])⟩, ⟨"weather", .null, none⟩]
    [.node [⟨"geoip", .null, some (.geoip ["US."])⟩] [] [] none]
    [.node [⟨"host", .null, some (.host ["a.example"])⟩] [] [] none, .empty] none

-- ---------------------------------------------------------------------------
-- Coherent caches
-- ---------------------------------------------------------------------------

/-- Neither the cache nor stopping early shows in the verdict, and the cache stays
coherent. -/
theorem evaluate_transparent (h : s.cache.Coherent (e.findings r)) (t : Tree) :
    (e.evaluate (some t) r s).matched = t.holds (e.passes r (e.findings r)) ∧
      (e.evaluate (some t) r s).state.cache.Coherent (e.findings r) := by
  have hview : s.cache.view (e.findings r) = e.findings r := Cache.coherent_iff_view.mp h
  constructor
  · rw [evaluate_matched, hview]
  · rw [Cache.coherent_iff_view, evaluate_state, visit_view, hview]

theorem evaluate_transparent_visitor :
    visitorState.cache.Coherent (locator.findings visitor) ∧
      (locator.evaluate (some visitorTree) visitor visitorState).matched = true ∧
      (locator.evaluate (some visitorTree) visitor visitorState).state.cache.Coherent
        (locator.findings visitor) := by
  have h : visitorState.cache.Coherent (locator.findings visitor) :=
    ⟨.inr rfl, .inl rfl, .inl rfl⟩
  obtain ⟨hmatched, hcoherent⟩ := evaluate_transparent h visitorTree
  exact ⟨h, hmatched.trans rfl, hcoherent⟩

/-- The rules that the verdict by the findings of the request hangs on, in order. -/
def trace (e : Engine) (r : Request) (t : Tree) : List Rule :=
  t.visits (e.passes r (e.findings r))

/-- All that an evaluation does is read off the rules that it visits. -/
structure Leaves (e : Engine) (r : Request) (s : State) (trace : List Rule) (o : Outcome) :
    Prop where
  state : o.state = (e.visit r trace s).1
  /-- Apart from the debug events about nodes. -/
  effects : o.effects.filter Effect.ofRule = (e.visit r trace s).2
  warnings : o.effects.filterMap Effect.warning? = trace.filterMap (e.complaint? r)
  ruleCalls : o.effects.filterMap Effect.ruleCall? = trace.filterMap e.called?
  lookups : o.effects.filterMap Effect.lookup? =
    if e.asked trace .geo && !s.cache.has .geo then (e.address r).toList else []
  /-- Each look-up is a call, if there is a service. -/
  geoCalls : o.effects.filterMap Effect.geoCall? =
    if e.geo.isSome then o.effects.filterMap Effect.lookup? else []
  /-- Without a service the slot is filled all the same, by no call. -/
  detections : o.effects.filterMap Effect.deviceCall? =
    if e.asked trace .device && !s.cache.has .device && e.devices.isSome then
      r.userAgent.toList
    else []
  emitBid : o.state.emitBid = (s.emitBid || e.asked trace .bucket)
  cache : o.state.cache = s.cache.or ((e.findings r).slots (e.asked trace))

theorem evaluate_filterMap_slot {p : Effect → Option β} {slot : Slot}
    (hp : ∀ x : Effect, x.slot? ≠ some slot → p x = none) (t : Tree) :
    (e.evaluate (some t) r s).effects.filterMap p =
      if e.asked (e.visited r s.cache t) slot && !s.cache.has slot then
        (e.inquiry r slot).filterMap p
      else [] := by
  rw [evaluate_filterMap (Effect.eq_none_of_tree hp), visit_filterMap_slot hp]

theorem evaluate_leaves_visited (t : Tree) :
    e.Leaves r s (e.visited r s.cache t) (e.evaluate (some t) r s) where
  state := evaluate_state t
  effects := evaluate_effects t
  warnings := by
    rw [evaluate_filterMap fun x hx => Effect.warning?_eq_none (.inr hx), visit_warnings]
  ruleCalls := by
    rw [evaluate_filterMap fun x hx => Effect.ruleCall?_eq_none (.inr hx), visit_ruleCalls]
  lookups := by
    rw [evaluate_filterMap_slot fun x => Effect.lookup?_eq_none, lookups_inquiry]
  geoCalls := by
    rw [evaluate_filterMap_slot fun x => Effect.geoCall?_eq_none, geoCalls_inquiry,
      evaluate_filterMap_slot fun x => Effect.lookup?_eq_none, lookups_inquiry]
    split <;> split <;> rfl
  detections := by
    rw [evaluate_filterMap_slot fun x => Effect.deviceCall?_eq_none, deviceCalls_inquiry]
    cases e.devices.isSome <;> simp
  emitBid := by rw [evaluate_state, visit_state, State.learn]
  cache := by rw [evaluate_state, visit_state, State.learn]

/-- No rule is visited twice, and the effects are those of the trace. -/
theorem evaluate_leaves_trace (h : s.cache.Coherent (e.findings r)) (t : Tree) :
    (e.trace r t).Sublist t.occurrences ∧ e.Leaves r s (e.trace r t) (e.evaluate (some t) r s) := by
  have hvisited : e.visited r s.cache t = e.trace r t := by
    rw [visited, Cache.coherent_iff_view.mp h, trace]
  refine ⟨Tree.visits_sublist t, ?_⟩
  rw [← hvisited]
  exact evaluate_leaves_visited t

theorem evaluate_leaves_trace_visitor :
    visitorState.cache.Coherent (locator.findings visitor) ∧
      (locator.trace visitor visitorTree).Sublist visitorTree.occurrences ∧
      (locator.evaluate (some visitorTree) visitor visitorState).effects.filterMap
        Effect.warning? = [.missingEvaluator "weather"] ∧
      (locator.evaluate (some visitorTree) visitor visitorState).effects.filterMap
        Effect.geoCall? = ["192.0.2.1"] := by
  have h : visitorState.cache.Coherent (locator.findings visitor) :=
    ⟨.inr rfl, .inl rfl, .inl rfl⟩
  obtain ⟨hsub, hleaves⟩ := evaluate_leaves_trace h visitorTree
  refine ⟨h, hsub, hleaves.warnings.trans rfl, ?_⟩
  rw [hleaves.geoCalls, hleaves.lookups]
  rfl

end Targeting.Engine
