import Targeting.Proofs.Reading

/-!
# What visiting rules does

A list of rules that are decided one after the other, whatever their verdicts
(`Engine.visit`). All that the visits do can be read off the list: the slots that are
filled (`visit_state`), the effects of filling them (`visit_filter_slot`), the warnings
and the calls of registered rules.
-/

namespace Targeting

-- ---------------------------------------------------------------------------
-- Kinds of effects
-- ---------------------------------------------------------------------------

def Event.ofTree : Event → Bool
  | .ruleFailed _ | .allFailed _ | .anyMatched _ | .noneMatched | .finished _ _ => true
  | .bucketComputed _ _ | .noAddress | .geoResolved _ _ | .geoNotFound _ => false

namespace Effect

def ofRule : Effect → Bool
  | .traced event => !event.ofTree
  | _ => true

def slot? : Effect → Option Slot
  | .traced (.bucketComputed _ _) => some .bucket
  | .traced .noAddress | .traced (.geoResolved _ _) | .traced (.geoNotFound _) => some .geo
  | .geoCalled _ => some .geo
  | .deviceCalled _ => some .device
  | _ => none

/-- A kind of effects that misses none of a larger kind loses nothing in it. -/
theorem filterMap_filter_of {p : Effect → Option β} {q : Effect → Bool}
    (h : ∀ x, q x = false → p x = none) (effects : List Effect) :
    (effects.filter q).filterMap p = effects.filterMap p := by
  rw [List.filterMap_filter]
  congr
  funext x
  cases hq : q x
  · exact (h x hq).symm
  · rfl

/-- Kinds of effects that only fill the slot. -/
theorem filterMap_filter_slot {p : Effect → Option β} {slot : Slot}
    (hp : ∀ x : Effect, x.slot? ≠ some slot → p x = none) (effects : List Effect) :
    (effects.filter (·.slot? = some slot)).filterMap p = effects.filterMap p :=
  filterMap_filter_of (fun x hx => hp x (of_decide_eq_false hx)) effects

theorem ofRule_of_slot {x : Effect} (h : x.slot?.isSome) : x.ofRule = true := by
  cases x with
  | traced event => cases event <;> first | rfl | cases h
  | _ => rfl

theorem eq_none_of_tree {p : Effect → Option β} {slot : Slot}
    (hp : ∀ x : Effect, x.slot? ≠ some slot → p x = none) (x : Effect) (hx : x.ofRule = false) :
    p x = none := by
  refine hp x fun hslot => ?_
  rw [ofRule_of_slot (by rw [hslot]; rfl)] at hx
  cases hx

def ruleCall? : Effect → Option String
  | .ruleCalled name => some name
  | _ => none

/-- The address that was looked up, with or without a service. -/
def lookup? : Effect → Option String
  | .traced (.geoResolved address _) | .traced (.geoNotFound address) => some address
  | _ => none

def geoCall? : Effect → Option String
  | .geoCalled address => some address
  | _ => none

def deviceCall? : Effect → Option String
  | .deviceCalled agent => some agent
  | _ => none

theorem lookup?_eq_none {x : Effect} (h : x.slot? ≠ some .geo) : x.lookup? = none := by
  cases x with
  | traced event => cases event <;> first | rfl | exact absurd rfl h
  | _ => rfl

theorem geoCall?_eq_none {x : Effect} (h : x.slot? ≠ some .geo) : x.geoCall? = none := by
  cases x <;> first | rfl | exact absurd rfl h

theorem deviceCall?_eq_none {x : Effect} (h : x.slot? ≠ some .device) : x.deviceCall? = none := by
  cases x <;> first | rfl | exact absurd rfl h

theorem warning?_eq_none {x : Effect} (h : x.slot?.isSome ∨ x.ofRule = false) :
    x.warning? = none := by
  cases x <;> first | rfl | simp [slot?, ofRule] at h

theorem ruleCall?_eq_none {x : Effect} (h : x.slot?.isSome ∨ x.ofRule = false) :
    x.ruleCall? = none := by
  cases x <;> first | rfl | simp [slot?, ofRule] at h

end Effect

namespace Engine

variable {e : Engine} {r : Request} {s : State}

-- ---------------------------------------------------------------------------
-- Inquiries
-- ---------------------------------------------------------------------------

def outcomeEvent (e : Engine) (address : String) : Event :=
  match e.locate address with
  | some location => .geoResolved address location.written
  | none => .geoNotFound address

theorem outcomeEvent_slot (address : String) :
    Effect.slot? (.traced (e.outcomeEvent address)) = some .geo := by
  unfold outcomeEvent
  split <;> rfl

theorem outcomeEvent_lookup (address : String) :
    Effect.lookup? (.traced (e.outcomeEvent address)) = some address := by
  unfold outcomeEvent
  split <;> rfl

/-- At most one address is looked up, by a call if there is a service. -/
theorem inquiry_geo :
    e.inquiry r .geo = match e.address r with
      | none => [.traced .noAddress]
      | some address =>
        (if e.geo.isSome then [.geoCalled address] else []) ++
          [.traced (e.outcomeEvent address)] := by
  simp only [inquiry, resolveGeo, outcomeEvent]
  cases ha : e.address r with
  | none => rfl
  | some address => cases hl : e.locate address <;> simp only [hl]

theorem inquiry_slot {slot : Slot} (h : x ∈ e.inquiry r slot) : x.slot? = some slot := by
  cases slot with
  | bucket =>
    rw [List.mem_singleton.mp h]
    rfl
  | geo =>
    rw [inquiry_geo] at h
    cases ha : e.address r with
    | none =>
      rw [ha] at h
      rw [List.mem_singleton.mp h]
      rfl
    | some address =>
      rw [ha] at h
      rcases List.mem_append.mp h with h | h
      · split at h
        · rw [List.mem_singleton.mp h]
          rfl
        · cases h
      · rw [List.mem_singleton.mp h]
        exact outcomeEvent_slot address
  | device =>
    simp only [inquiry, detect] at h
    cases ha : r.userAgent <;> cases hd : e.devices <;> simp_all [Effect.slot?]

theorem lookups_inquiry :
    (e.inquiry r .geo).filterMap Effect.lookup? = (e.address r).toList := by
  rw [inquiry_geo]
  cases e.address r with
  | none => rfl
  | some address =>
    have hcall : Effect.lookup? (.geoCalled address) = none := rfl
    cases e.geo.isSome <;> simp [outcomeEvent_lookup, hcall]

theorem geoCalls_inquiry :
    (e.inquiry r .geo).filterMap Effect.geoCall? =
      if e.geo.isSome then (e.address r).toList else [] := by
  rw [inquiry_geo]
  cases e.address r <;> cases e.geo.isSome <;> simp [Effect.geoCall?]

theorem deviceCalls_inquiry :
    (e.inquiry r .device).filterMap Effect.deviceCall? =
      if e.devices.isSome then r.userAgent.toList else [] := by
  simp only [inquiry, detect]
  cases r.userAgent <;> cases e.devices <;> simp [Effect.deviceCall?]

theorem inquiry_eq_nil {slot : Slot} (h : (e.findings r).has slot = false) :
    e.inquiry r slot = [] := by
  cases slot with
  | bucket => cases h
  | geo => cases h
  | device =>
    have ha : r.userAgent = none := by simpa [Findings.has, findings] using h
    simp [inquiry, ha]

-- ---------------------------------------------------------------------------
-- Visits
-- ---------------------------------------------------------------------------

/-- Visits the rules one after the other, whatever their verdicts. -/
def visit (e : Engine) (r : Request) : List Rule → State → State × List Effect
  | [], s => (s, [])
  | rule :: rest, s =>
    let (final, effects) := e.visit r rest (s.learn (e.findings r) (Slot.only (e.slot? rule)))
    (final, e.effects r s.cache rule ++ effects)

def asked (e : Engine) (rules : List Rule) (slot : Slot) : Bool :=
  rules.any fun rule => Slot.only (e.slot? rule) slot

theorem asked_cons (rule : Rule) (rest : List Rule) :
    e.asked (rule :: rest) = fun slot => Slot.only (e.slot? rule) slot || e.asked rest slot :=
  rfl

theorem visit_append (first second : List Rule) :
    e.visit r (first ++ second) s =
      ((e.visit r second (e.visit r first s).1).1,
        (e.visit r first s).2 ++ (e.visit r second (e.visit r first s).1).2) := by
  induction first generalizing s with
  | nil => rfl
  | cons rule rest ih => simp only [List.cons_append, visit, ih, List.append_assoc]

theorem visit_state (rules : List Rule) :
    (e.visit r rules s).1 = s.learn (e.findings r) (e.asked rules) := by
  induction rules generalizing s with
  | nil => exact (s.learn_none _).symm
  | cons rule rest ih => simp only [visit, ih, State.learn_learn, asked_cons]

theorem visit_view (rules : List Rule) :
    (e.visit r rules s).1.cache.view (e.findings r) = s.cache.view (e.findings r) := by
  rw [visit_state, State.learn_view]

theorem inquiries_filter (c : Cache) (slot? : Option Slot) (slot : Slot) :
    (e.inquiries r c slot?).filter (·.slot? = some slot) =
      if Slot.only slot? slot && !c.has slot then e.inquiry r slot else [] := by
  cases slot? with
  | none => simp [inquiries]
  | some other =>
    by_cases h : other = slot
    · subst h
      have hself : (e.inquiry r other).filter (·.slot? = some other) = e.inquiry r other :=
        List.filter_eq_self.mpr fun x hx => by simp [inquiry_slot hx]
      cases hc : c.has other <;> simp [inquiries, hc, hself, Slot.only]
    · have hnone : (e.inquiry r other).filter (·.slot? = some slot) = [] :=
        List.filter_eq_nil_iff.mpr fun x hx => by simp [inquiry_slot hx, h]
      cases hc : c.has other <;> simp [inquiries, hc, hnone, Slot.only, h]

theorem effects_filter_slot (c : Cache) (rule : Rule) (slot : Slot) :
    (e.effects r c rule).filter (·.slot? = some slot) =
      if Slot.only (e.slot? rule) slot && !c.has slot then e.inquiry r slot else [] := by
  have hcalled : ((e.called? rule).map Effect.ruleCalled).toList.filter (·.slot? = some slot) =
      [] := by
    cases e.called? rule <;> rfl
  have hwarned : ((e.complaint? r rule).map Effect.warned).toList.filter
      (·.slot? = some slot) = [] := by
    cases e.complaint? r rule <;> rfl
  simp only [effects, List.filter_append, hcalled, hwarned, inquiries_filter, List.nil_append,
    List.append_nil]

/-- A slot is filled by the first visit that asks for it, and by no other. -/
theorem visit_filter_slot (rules : List Rule) (slot : Slot) :
    (e.visit r rules s).2.filter (·.slot? = some slot) =
      if e.asked rules slot && !s.cache.has slot then e.inquiry r slot else [] := by
  induction rules generalizing s with
  | nil => rfl
  | cons rule rest ih =>
    simp only [visit, List.filter_append, ih, effects_filter_slot, asked_cons, State.has_learn]
    by_cases hf : (e.findings r).has slot = true
    · by_cases hc : s.cache.has slot <;> by_cases ha : Slot.only (e.slot? rule) slot <;>
        simp [hf, hc, ha]
    · -- asked for in vain: the slot stays empty, but nothing was done either
      have hnil : e.inquiry r slot = [] := inquiry_eq_nil (by simpa using hf)
      simp [hnil]

theorem inquiries_filterMap_slot {p : Effect → Option β} {slot : Slot}
    (hp : ∀ x : Effect, x.slot? ≠ some slot → p x = none) (c : Cache) (slot? : Option Slot) :
    (e.inquiries r c slot?).filterMap p =
      if Slot.only slot? slot && !c.has slot then (e.inquiry r slot).filterMap p else [] := by
  rw [← Effect.filterMap_filter_slot hp, inquiries_filter]
  split <;> rfl

theorem visit_filterMap_slot {p : Effect → Option β} {slot : Slot}
    (hp : ∀ x : Effect, x.slot? ≠ some slot → p x = none) (rules : List Rule) :
    (e.visit r rules s).2.filterMap p =
      if e.asked rules slot && !s.cache.has slot then (e.inquiry r slot).filterMap p else [] := by
  rw [← Effect.filterMap_filter_slot hp, visit_filter_slot]
  split <;> rfl

theorem inquiries_slot {c : Cache} {slot? : Option Slot} (h : x ∈ e.inquiries r c slot?) :
    x.slot?.isSome := by
  cases slot? with
  | none => cases h
  | some slot =>
    simp only [inquiries] at h
    split at h
    · cases h
    · rw [inquiry_slot h]
      rfl

theorem inquiries_filterMap {p : Effect → Option β} (hp : ∀ x, x.slot?.isSome → p x = none)
    (c : Cache) (slot? : Option Slot) : (e.inquiries r c slot?).filterMap p = [] :=
  List.filterMap_eq_nil_iff.mpr fun x hx => hp x (inquiries_slot hx)

/-- One warning for each visited rule that passes without being decided, in order. -/
theorem visit_warnings (rules : List Rule) :
    (e.visit r rules s).2.filterMap Effect.warning? = rules.filterMap (e.complaint? r) := by
  induction rules generalizing s with
  | nil => rfl
  | cons rule rest ih =>
    simp only [visit, effects, List.filterMap_append, ih,
      inquiries_filterMap fun x hx => Effect.warning?_eq_none (.inl hx)]
    cases e.called? rule <;> cases hc : e.complaint? r rule <;> simp [Effect.warning?, hc]

theorem visit_ruleCalls (rules : List Rule) :
    (e.visit r rules s).2.filterMap Effect.ruleCall? = rules.filterMap e.called? := by
  induction rules generalizing s with
  | nil => rfl
  | cons rule rest ih =>
    simp only [visit, effects, List.filterMap_append, ih,
      inquiries_filterMap fun x hx => Effect.ruleCall?_eq_none (.inl hx)]
    cases hc : e.called? rule <;> cases e.complaint? r rule <;> simp [Effect.ruleCall?, hc]

end Engine

end Targeting
