import Targeting.Proofs.Evaluation

/-!
# Evaluating a second time

The first evaluation fills every slot that its visits ask for and that can be filled. So the
second, from the state that the first leaves, goes by the same findings, visits the same rules
and finds nothing left to fill (`visit_again`): whatever the first cache held, it decides the
same and leaves the state as it is.
-/

namespace Targeting.Engine

variable {e : Engine} {r : Request} {s : State}

-- ---------------------------------------------------------------------------
-- Visits
-- ---------------------------------------------------------------------------

/-- The calls and the warnings of a rule do not go by the cache. -/
theorem effects_decided (c c' : Cache) (rule : Rule) :
    (e.effects r c rule).filter (·.slot?.isNone) =
      (e.effects r c' rule).filter (·.slot?.isNone) := by
  have hfills : ∀ c : Cache, (e.inquiries r c (e.slot? rule)).filter (·.slot?.isNone) = [] := by
    intro c
    refine List.filter_eq_nil_iff.mpr fun x hx => ?_
    simpa using Option.isSome_iff_ne_none.mp (inquiries_slot hx)
  simp only [effects, List.filter_append, hfills]

theorem visit_decided (s s' : State) (rules : List Rule) :
    (e.visit r rules s).2.filter (·.slot?.isNone) =
      (e.visit r rules s').2.filter (·.slot?.isNone) := by
  induction rules generalizing s s' with
  | nil => rfl
  | cons rule rest ih =>
    simp only [visit, List.filter_append, effects_decided s.cache s'.cache rule]
    rw [ih]

/-- A slot that the visits ask for is filled after them, if it can be. -/
theorem visit_again_filter_slot (rules : List Rule) (slot : Slot) :
    (e.visit r rules (e.visit r rules s).1).2.filter (·.slot? = some slot) = [] := by
  rw [visit_filter_slot, visit_state, State.has_learn]
  cases hfound : (e.findings r).has slot with
  | false => rw [inquiry_eq_nil hfound, ite_self]
  | true => cases e.asked rules slot <;> simp

theorem visit_again_state (rules : List Rule) :
    (e.visit r rules (e.visit r rules s).1).1 = (e.visit r rules s).1 := by
  simp only [visit_state, State.learn_learn, Bool.or_self]

/-- Visited again, the rules change nothing and only repeat what they did but for filling
slots. -/
theorem visit_again (rules : List Rule) :
    e.visit r rules (e.visit r rules s).1 =
      ((e.visit r rules s).1, (e.visit r rules s).2.filter (·.slot?.isNone)) := by
  refine Prod.ext (visit_again_state rules) ?_
  rw [visit_decided s (e.visit r rules s).1]
  refine (List.filter_eq_self.mpr fun x hx => ?_).symm
  rw [Option.isNone_iff_eq_none, Option.eq_none_iff_forall_ne_some]
  intro slot hslot
  exact List.filter_eq_nil_iff.mp (visit_again_filter_slot rules slot) x hx (decide_eq_true hslot)

-- ---------------------------------------------------------------------------
-- Evaluations
-- ---------------------------------------------------------------------------

/-- From the state that an evaluation of the same leaves. -/
def evaluateAgain (e : Engine) (tree : Option Tree) (r : Request) : Step := fun s =>
  e.evaluate tree r (e.evaluate tree r s).state

theorem visited_again (t : Tree) :
    e.visited r (e.evaluate (some t) r s).state.cache t = e.visited r s.cache t := by
  rw [visited, visited, evaluate_state, visit_view]

/-- What is done about rules, but for filling slots. -/
def repeated (effects : List Effect) : List Effect :=
  (effects.filter Effect.ofRule).filter (·.slot?.isNone)

theorem repeated_filterMap {p : Effect → Option β}
    (hp : ∀ x : Effect, x.slot?.isSome ∨ x.ofRule = false → p x = none) (effects : List Effect) :
    (repeated effects).filterMap p = effects.filterMap p := by
  rw [repeated, Effect.filterMap_filter_of fun x hx => hp x (.inl (by simpa using hx)),
    Effect.filterMap_filter_of fun x hx => hp x (.inr hx)]

theorem repeated_filterMap_slot {p : Effect → Option β} {slot : Slot}
    (hp : ∀ x : Effect, x.slot? ≠ some slot → p x = none) (effects : List Effect) :
    (repeated effects).filterMap p = [] := by
  refine List.filterMap_eq_nil_iff.mpr fun x hx => hp x ?_
  have hnone : x.slot? = none := by simpa using (List.mem_filter.mp hx).2
  rw [hnone]
  exact nofun

theorem evaluateAgain_effects (tree : Option Tree) :
    (e.evaluateAgain tree r s).effects.filter Effect.ofRule =
      repeated (e.evaluate tree r s).effects := by
  cases tree with
  | none => rfl
  | some t =>
    rw [evaluateAgain, evaluate_effects, visited_again, evaluate_state, visit_again, repeated,
      evaluate_effects]

theorem evaluateAgain_filterMap {p : Effect → Option β} (hp : ∀ x, x.ofRule = false → p x = none)
    (tree : Option Tree) :
    (e.evaluateAgain tree r s).effects.filterMap p =
      (repeated (e.evaluate tree r s).effects).filterMap p := by
  rw [← Effect.filterMap_filter_of hp, evaluateAgain_effects]

/-- From whatever state, evaluating a second time decides the same, changes nothing, asks no
service, and gives the same warnings and calls the same registered rules in the same order: it
does about the rules what the first evaluation did, but for filling slots. -/
theorem evaluate_again (e : Engine) (tree : Option Tree) (r : Request) (s : State) :
    (e.evaluateAgain tree r s).matched = (e.evaluate tree r s).matched ∧
      (e.evaluateAgain tree r s).state = (e.evaluate tree r s).state ∧
      (e.evaluateAgain tree r s).effects.filter Effect.ofRule =
        repeated (e.evaluate tree r s).effects ∧
      (e.evaluateAgain tree r s).effects.filterMap Effect.lookup? = [] ∧
      (e.evaluateAgain tree r s).effects.filterMap Effect.geoCall? = [] ∧
      (e.evaluateAgain tree r s).effects.filterMap Effect.deviceCall? = [] ∧
      (e.evaluateAgain tree r s).effects.filterMap Effect.warning? =
        (e.evaluate tree r s).effects.filterMap Effect.warning? ∧
      (e.evaluateAgain tree r s).effects.filterMap Effect.ruleCall? =
        (e.evaluate tree r s).effects.filterMap Effect.ruleCall? := by
  have hslot : ∀ {p : Effect → Option String} {slot : Slot},
      (∀ x : Effect, x.slot? ≠ some slot → p x = none) →
        (e.evaluateAgain tree r s).effects.filterMap p = [] := by
    intro p slot hp
    rw [evaluateAgain_filterMap (Effect.eq_none_of_tree hp), repeated_filterMap_slot hp]
  refine ⟨?_, ?_, evaluateAgain_effects tree, hslot fun x => Effect.lookup?_eq_none,
    hslot fun x => Effect.geoCall?_eq_none, hslot fun x => Effect.deviceCall?_eq_none, ?_, ?_⟩
  · cases tree with
    | none => rfl
    | some t => rw [evaluateAgain, evaluate_matched, evaluate_state, visit_view, evaluate_matched]
  · cases tree with
    | none => rfl
    | some t => rw [evaluateAgain, evaluate_state, visited_again, evaluate_state, visit_again]
  · rw [evaluateAgain_filterMap fun x hx => Effect.warning?_eq_none (.inr hx),
      repeated_filterMap fun x => Effect.warning?_eq_none]
  · rw [evaluateAgain_filterMap fun x hx => Effect.ruleCall?_eq_none (.inr hx),
      repeated_filterMap fun x => Effect.ruleCall?_eq_none]

end Targeting.Engine
