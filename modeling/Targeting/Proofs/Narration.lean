import Mathlib.Data.List.Forall2
import Targeting.Proofs.CacheHistory
import Targeting.Proofs.Quiet

/-!
# What the debug events tell

Each node that is visited ends what it tells, after its rules and its visited children, with
at most one event about itself (`Tree.closing`), and this is a failure if the node fails and
at no other time. The failures of subtrees below a node that holds are told before, so the
last event of all tells the verdict (`Engine.Told.last`). Filling a slot is told once for as
long as the cache lasts (`Use.runAll_noted`).
-/

namespace Targeting

-- ---------------------------------------------------------------------------
-- Events
-- ---------------------------------------------------------------------------

namespace Event

def isFailure : Event → Bool
  | .ruleFailed _ | .allFailed _ | .noneMatched => true
  | _ => false

def isCompletion : Event → Bool
  | .finished _ _ => true
  | _ => false

end Event

namespace Effect

def isFailure : Effect → Bool
  | .traced event => event.isFailure
  | _ => false

def isCompletion : Effect → Bool
  | .traced event => event.isCompletion
  | _ => false

/-- The event that tells that the slot was filled. -/
def noted? (slot : Slot) : Effect → Option Event
  | .traced event => if slot? (.traced event) = some slot then some event else none
  | _ => none

theorem noted?_eq_none {slot : Slot} {x : Effect} (h : x.slot? ≠ some slot) :
    x.noted? slot = none := by
  cases x <;> first | rfl | exact if_neg h

theorem not_failure_of_ofRule {x : Effect} (h : x.ofRule = true) : x.isFailure = false := by
  cases x with
  | traced event => cases event <;> first | rfl | cases h
  | _ => rfl

theorem not_completion_of_ofRule {x : Effect} (h : x.ofRule = true) :
    x.isCompletion = false := by
  cases x with
  | traced event => cases event <;> first | rfl | cases h
  | _ => rfl

end Effect

-- ---------------------------------------------------------------------------
-- What settles the verdict of a node
-- ---------------------------------------------------------------------------

namespace Tree

/-- Up to the first that satisfies `p`, with it. -/
def throughFirst (p : Tree → Bool) : List Tree → List Tree
  | [] => []
  | t :: rest => t :: if p t then [] else throughFirst p rest

/-- The children that the verdict hangs on, in order. -/
def visitedChildren (passes : Rule → Bool) : Tree → List Tree
  | .node rules all any _ =>
    if rules.all passes then
      throughFirst (!·.holds passes) all ++
        if allHold passes all then throughFirst (·.holds passes) any else []
    else []

/-- The event that closes a group of alternatives. An empty group is not looked at. -/
def closingAny (passes : Rule → Bool) (ts : List Tree) : Option Event :=
  match ts.findIdx? (·.holds passes) with
  | some i => some (.anyMatched i)
  | none => if ts.isEmpty then none else some .noneMatched

/-- The event of a node about itself: the first rule or child that settles its verdict. -/
def closing (passes : Rule → Bool) : Tree → Option Event
  | .node rules all any _ =>
    ((rules.find? (!passes ·)).map fun rule => .ruleFailed rule.key).or <|
      ((all.findIdx? (!·.holds passes)).map .allFailed).or (closingAny passes any)

variable {passes : Rule → Bool}

theorem throughFirst_subset (p : Tree → Bool) (ts : List Tree) :
    ∀ t ∈ throughFirst p ts, t ∈ ts := by
  induction ts with
  | nil => exact fun _ ht => ht
  | cons t rest ih =>
    intro u hu
    rw [throughFirst] at hu
    rcases List.mem_cons.mp hu with rfl | hu
    · exact List.mem_cons_self
    · split at hu
      · cases hu
      · exact List.mem_cons_of_mem _ (ih u hu)

theorem mem_of_visitedChildren {t : Tree} (h : t ∈ visitedChildren passes u) :
    t ∈ u.all ∨ t ∈ u.any := by
  cases u with
  | node rules all any ruleset =>
    rw [visitedChildren] at h
    split at h
    · rcases List.mem_append.mp h with h | h
      · exact .inl (throughFirst_subset _ _ t h)
      · split at h
        · exact .inr (throughFirst_subset _ _ t h)
        · cases h
    · cases h

theorem all_eq_isNone (rules : List Rule) :
    rules.all passes = (rules.find? (!passes ·)).isNone := by
  rw [Bool.eq_iff_iff]
  simp

theorem allHold_eq_isNone (ts : List Tree) :
    allHold passes ts = (ts.findIdx? (!·.holds passes)).isNone := by
  simp [allHold_eq]

theorem closing_of_fails {t : Tree} (h : t.holds passes = false) :
    ∃ event, t.closing passes = some event ∧ event.isFailure = true := by
  cases t with
  | node rules all any ruleset =>
    rw [closing]
    cases hrules : rules.find? (!passes ·) with
    | some rule => exact ⟨_, rfl, rfl⟩
    | none =>
      cases hall : all.findIdx? (!·.holds passes) with
      | some i => exact ⟨_, rfl, rfl⟩
      | none =>
        rw [holds, all_eq_isNone, hrules, allHold_eq_isNone, hall, someHolds_eq] at h
        obtain ⟨hne, hnone⟩ := Bool.or_eq_false_iff.mp h
        have hany : any.findIdx? (·.holds passes) = none := by
          rw [List.findIdx?_eq_none_iff]
          exact fun t ht => by simpa using List.any_eq_false.mp hnone t ht
        exact ⟨.noneMatched, by simp [closingAny, hany, hne], rfl⟩

theorem closing_of_holds {t : Tree} (h : t.holds passes = true) :
    t.closing passes = (t.any.findIdx? (·.holds passes)).map .anyMatched := by
  cases t with
  | node rules all any ruleset =>
    obtain ⟨hpass, hhold, hchoice⟩ := holds_node.mp h
    have hrules : rules.find? (!passes ·) = none := by simpa using hpass
    have hall : all.findIdx? (!·.holds passes) = none := by simpa using hhold
    simp only [closing, hrules, hall, Tree.any, Option.map_none, Option.none_or, closingAny]
    cases hany : any.findIdx? (·.holds passes) with
    | some i => rfl
    | none =>
      rw [List.findIdx?_eq_none_iff] at hany
      obtain rfl | ⟨t, ht, hold⟩ := hchoice
      · rfl
      · rw [hany t ht] at hold
        cases hold

theorem closing_not_completion {t : Tree} (h : t.closing passes = some event) :
    event.isCompletion = false := by
  by_cases hold : t.holds passes = true
  · rw [closing_of_holds hold] at h
    obtain ⟨i, -, rfl⟩ := Option.map_eq_some_iff.mp h
    rfl
  · obtain ⟨failure, hfailure, hkind⟩ := closing_of_fails (Bool.eq_false_iff.mpr hold)
    cases hfailure.symm.trans h
    cases event <;> first | rfl | cases hkind

theorem visitedChildren_hold {t : Tree} (h : t.holds passes = true) (hany : t.any = []) :
    ∀ u ∈ t.visitedChildren passes, u.holds passes = true := by
  intro u hu
  cases t with
  | node rules all any ruleset =>
    rcases mem_of_visitedChildren hu with hu | hu
    · exact (holds_node.mp h).2.1 u hu
    · rw [hany] at hu
      cases hu

end Tree

-- ---------------------------------------------------------------------------
-- What a node tells
-- ---------------------------------------------------------------------------

namespace Step

variable (step first second : Step) (s : State)

theorem noting_effects (b : Bool) (event : Event) :
    (step.noting b event s).effects =
      (step s).effects ++ if (step s).matched = b then [.traced event] else [] := by
  simp only [noting]
  split <;> simp

theorem noting_matched (b : Bool) (event : Event) :
    (step.noting b event s).matched = (step s).matched := by
  simp only [noting]
  split <;> rfl

theorem noting_state (b : Bool) (event : Event) :
    (step.noting b event s).state = (step s).state := by
  simp only [noting]
  split <;> rfl

theorem andThen_effects :
    (first.andThen second s).effects =
      (first s).effects ++ if (first s).matched then (second (first s).state).effects else [] := by
  simp only [andThen, also]
  split <;> simp

theorem orElse_effects :
    (first.orElse second s).effects =
      (first s).effects ++ if (first s).matched then [] else (second (first s).state).effects := by
  simp only [orElse, also]
  split <;> simp

end Step

namespace Engine

variable {e : Engine} {r : Request} {f : Findings}

/-- Outcomes of a tree from states that go by the findings: effects of its rules, the
outcomes of the children that are visited, and then the event that closes the node. -/
inductive Told (e : Engine) (r : Request) (f : Findings) : Tree → Outcome → Prop
  | node {t : Tree} {s : State} {spoken : List Effect} {outcomes : List Outcome} :
    s.cache.view (e.findings r) = f → (∀ x ∈ spoken, x.ofRule = true) →
      List.Forall₂ (Told e r f) (t.visitedChildren (e.passes r f)) outcomes →
      (e.tree r t s).effects = spoken ++ outcomes.flatMap (·.effects) ++
        ((t.closing (e.passes r f)).map Effect.traced).toList →
      Told e r f t (e.tree r t s)

theorem Follows.view {step : Step} {v : Bool} {rules : List Rule} {s : State}
    (h : e.Follows r f step v rules) (hs : s.cache.view (e.findings r) = f) :
    (step s).state.cache.view (e.findings r) = f := by
  rw [(h s hs).2.1, visit_view, hs]

theorem rules_told (rules : List Rule) {s : State} (hs : s.cache.view (e.findings r) = f) :
    ∃ spoken : List Effect, (∀ x ∈ spoken, x.ofRule = true) ∧
      (e.rules r rules s).effects = spoken ++
        ((rules.find? (!e.passes r f ·)).map fun rule =>
          .traced (.ruleFailed rule.key)).toList := by
  induction rules generalizing s with
  | nil => exact ⟨[], by simp, rfl⟩
  | cons rule rest ih =>
    have hfollows := rule_follows (e := e) (r := r) f rule
    have hmatched : (e.rule r rule s).matched = e.passes r f rule := (hfollows s hs).1
    have heffects : (e.rule r rule s).effects = e.effects r s.cache rule := by rw [rule_eq]
    rw [Engine.rules, Step.andThen_effects, Step.noting_effects, Step.noting_matched,
      Step.noting_state, hmatched, heffects]
    cases hpass : e.passes r f rule with
    | false =>
      exact ⟨e.effects r s.cache rule, fun x hx => effects_ofRule hx, by simp [hpass]⟩
    | true =>
      obtain ⟨spoken, hspoken, hrest⟩ := ih (hfollows.view hs)
      refine ⟨e.effects r s.cache rule ++ spoken, ?_, by simp [hpass, hrest]⟩
      intro x hx
      exact (List.mem_append.mp hx).elim effects_ofRule (hspoken x)

/-- All are looked at up to the first that fails. -/
theorem allOf_told {ts : List Tree}
    (h : ∀ t ∈ ts, ∀ s : State, s.cache.view (e.findings r) = f → e.Told r f t (e.tree r t s))
    {s : State} (hs : s.cache.view (e.findings r) = f) (index : Nat) :
    ∃ outcomes : List Outcome,
      List.Forall₂ (e.Told r f) (Tree.throughFirst (!·.holds (e.passes r f)) ts) outcomes ∧
        (e.allOf r index ts s).effects = outcomes.flatMap (·.effects) ++
          ((ts.findIdx? (!·.holds (e.passes r f))).map fun i =>
            .traced (.allFailed (index + i))).toList := by
  induction ts generalizing index s with
  | nil => exact ⟨[], .nil, rfl⟩
  | cons t rest ih =>
    obtain ⟨ht, hrest⟩ := List.forall_mem_cons.mp h
    have hfollows := tree_follows (e := e) (r := r) f t
    have hmatched : (e.tree r t s).matched = t.holds (e.passes r f) := (hfollows s hs).1
    rw [allOf, Step.andThen_effects, Step.noting_effects, Step.noting_matched,
      Step.noting_state, hmatched, Tree.throughFirst, List.findIdx?_cons]
    cases hold : t.holds (e.passes r f) with
    | false => exact ⟨[_], .cons (ht s hs) .nil, by simp⟩
    | true =>
      obtain ⟨outcomes, houtcomes, heffects⟩ := ih hrest (hfollows.view hs) (index + 1)
      refine ⟨_ :: outcomes, .cons (ht s hs) houtcomes, ?_⟩
      simp [heffects, Function.comp_def, Nat.add_assoc, Nat.add_comm 1]

theorem anyOf_told {ts : List Tree}
    (h : ∀ t ∈ ts, ∀ s : State, s.cache.view (e.findings r) = f → e.Told r f t (e.tree r t s))
    {s : State} (hs : s.cache.view (e.findings r) = f) (index : Nat) :
    ∃ outcomes : List Outcome,
      List.Forall₂ (e.Told r f) (Tree.throughFirst (·.holds (e.passes r f)) ts) outcomes ∧
        (e.anyOf r index ts s).effects = outcomes.flatMap (·.effects) ++
          [.traced <| match ts.findIdx? (·.holds (e.passes r f)) with
            | some i => .anyMatched (index + i)
            | none => .noneMatched] := by
  induction ts generalizing index s with
  | nil => exact ⟨[], .nil, rfl⟩
  | cons t rest ih =>
    obtain ⟨ht, hrest⟩ := List.forall_mem_cons.mp h
    have hfollows := tree_follows (e := e) (r := r) f t
    have hmatched : (e.tree r t s).matched = t.holds (e.passes r f) := (hfollows s hs).1
    rw [anyOf, Step.orElse_effects, Step.noting_effects, Step.noting_matched,
      Step.noting_state, hmatched, Tree.throughFirst, List.findIdx?_cons]
    cases hold : t.holds (e.passes r f) with
    | true => exact ⟨[_], .cons (ht s hs) .nil, by simp⟩
    | false =>
      obtain ⟨outcomes, houtcomes, heffects⟩ := ih hrest (hfollows.view hs) (index + 1)
      refine ⟨_ :: outcomes, .cons (ht s hs) houtcomes, ?_⟩
      cases hfirst : rest.findIdx? (·.holds (e.passes r f)) <;>
        simp [heffects, hfirst, Nat.add_assoc, Nat.add_comm 1]

theorem group_told {ts : List Tree}
    (h : ∀ t ∈ ts, ∀ s : State, s.cache.view (e.findings r) = f → e.Told r f t (e.tree r t s))
    {s : State} (hs : s.cache.view (e.findings r) = f) :
    ∃ outcomes : List Outcome,
      List.Forall₂ (e.Told r f) (Tree.throughFirst (·.holds (e.passes r f)) ts) outcomes ∧
        ((if ts.isEmpty then .pass else e.anyOf r 0 ts : Step) s).effects =
          outcomes.flatMap (·.effects) ++
            ((Tree.closingAny (e.passes r f) ts).map .traced).toList := by
  cases ts with
  | nil => exact ⟨[], .nil, rfl⟩
  | cons t rest =>
    obtain ⟨outcomes, houtcomes, heffects⟩ := anyOf_told h hs 0
    refine ⟨outcomes, houtcomes, heffects.trans ?_⟩
    rw [Tree.closingAny]
    cases (t :: rest).findIdx? (·.holds (e.passes r f)) <;> simp

/-- What comes after the part that settles the verdict is not visited. -/
theorem tree_told (t : Tree) {s : State} (hs : s.cache.view (e.findings r) = f) :
    e.Told r f t (e.tree r t s) := by
  induction t generalizing s with
  | node rules all any ruleset hall hany =>
    have hrulesFollow := rules_follow (e := e) (r := r) f rules
    have hallFollow : e.Follows r f (e.allOf r 0 all) _ _ :=
      allOf_follows (fun t _ => tree_follows f t) 0
    have hsr := hrulesFollow.view hs
    have hsa := hallFollow.view hsr
    obtain ⟨spoken, hspoken, hrules⟩ := rules_told rules hs
    obtain ⟨parts, hparts, hallOf⟩ := allOf_told (fun t ht s => hall t ht) hsr 0
    obtain ⟨choice, hchoice, hgroup⟩ := group_told (fun t ht s => hany t ht) hsa
    have heffects : (e.tree r (.node rules all any ruleset) s).effects =
        (e.rules r rules s).effects ++
          if rules.all (e.passes r f) then
            (e.allOf r 0 all (e.rules r rules s).state).effects ++
              if Tree.allHold (e.passes r f) all then
                choice.flatMap (·.effects) ++
                  ((Tree.closingAny (e.passes r f) any).map .traced).toList
              else []
          else [] := by
      rw [Engine.tree, Step.andThen_effects, Step.andThen_effects, (hrulesFollow s hs).1,
        (hallFollow _ hsr).1, hgroup]
    rw [hrules, hallOf, Tree.all_eq_isNone, Tree.allHold_eq_isNone] at heffects
    cases hrule : rules.find? (!e.passes r f ·) with
    | some rule =>
      refine .node hs hspoken (?_ : List.Forall₂ _ _ []) (heffects.trans ?_)
      · rw [Tree.visitedChildren, Tree.all_eq_isNone, hrule]
        exact .nil
      · simp [Tree.closing, hrule]
    | none =>
      cases hchild : all.findIdx? (!·.holds (e.passes r f)) with
      | some i =>
        refine .node hs hspoken (?_ : List.Forall₂ _ _ parts) (heffects.trans ?_)
        · rw [Tree.visitedChildren, Tree.all_eq_isNone, hrule, Tree.allHold_eq_isNone, hchild]
          simpa using hparts
        · simp [Tree.closing, hrule, hchild]
      | none =>
        refine .node hs hspoken (?_ : List.Forall₂ _ _ (parts ++ choice)) (heffects.trans ?_)
        · rw [Tree.visitedChildren, Tree.all_eq_isNone, hrule, Tree.allHold_eq_isNone, hchild]
          exact List.rel_append hparts hchoice
        · simp [Tree.closing, hrule, hchild]

-- ---------------------------------------------------------------------------
-- What the events amount to
-- ---------------------------------------------------------------------------

theorem exists_told {ts : List Tree} {outcomes : List Outcome}
    (h : List.Forall₂ (e.Told r f) ts outcomes) : ∀ o ∈ outcomes, ∃ t ∈ ts, e.Told r f t o := by
  induction h with
  | nil => simp
  | @cons t o rest others htold _ ih =>
    refine List.forall_mem_cons.mpr ⟨⟨t, List.mem_cons_self, htold⟩, fun o' ho' => ?_⟩
    obtain ⟨u, hu, htold'⟩ := ih o' ho'
    exact ⟨u, List.mem_cons_of_mem _ hu, htold'⟩

/-- The last effect of those kept, if any, is no failure. -/
def Calm (keep : Effect → Bool) (effects : List Effect) : Prop :=
  ∀ x, (effects.filter keep).getLast? = some x → x.isFailure = false

namespace Calm

variable {keep : Effect → Bool} {effects more : List Effect}

theorem of_forall (h : ∀ x ∈ effects, x.isFailure = false) : Calm keep effects := fun x hx =>
  h x (List.mem_filter.mp (List.mem_of_getLast? hx)).1

theorem append (h : Calm keep effects) (hmore : Calm keep more) :
    Calm keep (effects ++ more) := by
  intro x hx
  rw [List.filter_append, List.getLast?_append, Option.or_eq_some_iff] at hx
  exact hx.elim (hmore x) fun hx => h x hx.2

theorem flatMap {outcomes : List Outcome} (h : ∀ o ∈ outcomes, Calm keep o.effects) :
    Calm keep (outcomes.flatMap (·.effects)) := by
  induction outcomes with
  | nil => exact of_forall (by simp)
  | cons o rest ih =>
    obtain ⟨ho, hrest⟩ := List.forall_mem_cons.mp h
    exact ho.append (ih hrest)

end Calm

namespace Told

variable {t : Tree} {o : Outcome}

theorem matched (h : e.Told r f t o) : o.matched = t.holds (e.passes r f) := by
  cases h with
  | node hs => exact (tree_follows f t _ hs).1

/-- A failure of the node itself, and only one. -/
theorem failure (h : e.Told r f t o) (hfails : o.matched = false) :
    ∃ event, t.closing (e.passes r f) = some event ∧ event.isFailure = true :=
  Tree.closing_of_fails (h.matched ▸ hfails)

theorem success (h : e.Told r f t o) (hholds : o.matched = true) :
    t.closing (e.passes r f) = (t.any.findIdx? (·.holds (e.passes r f))).map .anyMatched :=
  Tree.closing_of_holds (h.matched ▸ hholds)

/-- The alternatives of a node that holds are none, or there is a first that holds. -/
theorem choice (h : e.Told r f t o) (hholds : o.matched = true) :
    t.any = [] ∨ ∃ i, t.any.findIdx? (·.holds (e.passes r f)) = some i := by
  have hhold := h.matched.symm.trans hholds
  cases t with
  | node rules all any ruleset =>
    refine (Tree.holds_node.mp hhold).2.2.imp id fun ⟨u, hu, hold⟩ => ?_
    exact ⟨_, List.findIdx?_eq_some_of_exists ⟨u, hu, hold⟩⟩

theorem not_completion (h : e.Told r f t o) : ∀ x ∈ o.effects, x.isCompletion = false := by
  induction t generalizing o with
  | node rules all any ruleset hall hany =>
    cases h with
    | node _ hspoken houtcomes heffects =>
      intro x hx
      simp only [heffects, List.mem_append, List.mem_flatMap] at hx
      obtain (hx | ⟨part, hpart, hx⟩) | hx := hx
      · exact Effect.not_completion_of_ofRule (hspoken x hx)
      · obtain ⟨u, hu, htold⟩ := exists_told houtcomes part hpart
        rcases Tree.mem_of_visitedChildren hu with hu | hu
        · exact hall u hu htold x hx
        · exact hany u hu htold x hx
      · obtain ⟨event, hevent, rfl⟩ := Option.map_eq_some_iff.mp (Option.mem_toList.mp hx)
        exact Tree.closing_not_completion hevent

/-- Below a node that holds with no alternatives, all that is visited holds; with alternatives
the event of the node comes last. -/
theorem calm (h : e.Told r f t o) (hholds : o.matched = true) (keep : Effect → Bool)
    (hkeep : ∀ event, keep (.traced event) = true) : Calm keep o.effects := by
  induction t generalizing o with
  | node rules all any ruleset hall hany =>
    have hclosing := h.success hholds
    have hchoice := h.choice hholds
    have hhold := h.matched.symm.trans hholds
    cases h with
    | @node _ _ spoken outcomes _ hspoken houtcomes heffects =>
      have hcalm : Calm keep spoken :=
        .of_forall fun x hx => Effect.not_failure_of_ofRule (hspoken x hx)
      rw [heffects, hclosing]
      cases hfirst : any.findIdx? (·.holds (e.passes r f)) with
      | some i =>
        intro x hx
        simp [Tree.any, hfirst, hkeep] at hx
        rw [← hx]
        rfl
      | none =>
        have hnone : any = [] := hchoice.resolve_right (by simp [Tree.any, hfirst])
        have hparts : ∀ part ∈ outcomes, Calm keep part.effects := by
          intro part hpart
          obtain ⟨u, hu, htold⟩ := exists_told houtcomes part hpart
          have hmatched := htold.matched.trans (Tree.visitedChildren_hold hhold hnone u hu)
          rcases Tree.mem_of_visitedChildren hu with hu | hu
          · exact hall u hu htold hmatched
          · exact hany u hu htold hmatched
        simpa [Tree.any, hfirst] using hcalm.append (.flatMap hparts)

/-- The last event tells whether the tree holds, whatever is told besides the events. -/
theorem last (h : e.Told r f t o) (keep : Effect → Bool)
    (hkeep : ∀ event, keep (.traced event) = true) :
    o.matched = false ↔
      ∃ x, (o.effects.filter keep).getLast? = some x ∧ x.isFailure = true := by
  constructor
  · intro hfails
    obtain ⟨event, hclosing, hfailure⟩ := h.failure hfails
    refine ⟨.traced event, ?_, hfailure⟩
    cases h with
    | node _ _ _ heffects => simp [heffects, hclosing, hkeep]
  · rintro ⟨x, hx, hfailure⟩
    refine Bool.eq_false_iff.mpr fun hholds => ?_
    rw [h.calm hholds keep hkeep x hx] at hfailure
    cases hfailure

end Told

end Engine

-- ---------------------------------------------------------------------------
-- Caches that are handed on
-- ---------------------------------------------------------------------------

/-- What a cache is handed to. The flag belongs to the request. -/
inductive Use where
  | evaluate (engine : Engine) (tree : Option Tree) (request : Request) (emitBid : Bool)
  | test (engine : Engine) (condition : Condition) (request : Request) (emitBid : Bool)

namespace Use

def engine : Use → Engine
  | .evaluate engine _ _ _ | .test engine _ _ _ => engine

def request : Use → Request
  | .evaluate _ _ request _ | .test _ _ request _ => request

def run (c : Cache) : Use → Outcome
  | .evaluate engine tree request emitBid => engine.evaluate tree request ⟨c, emitBid⟩
  | .test engine condition request emitBid => engine.condition request condition ⟨c, emitBid⟩

def runAll (c : Cache) : List Use → List Effect
  | [] => []
  | use :: rest => (use.run c).effects ++ runAll (use.run c).state.cache rest

/-- The slot is filled if it is asked for, and this is told if it was empty. -/
theorem run_noted (use : Use) (c : Cache) (slot : Slot) :
    ∃ asked : Bool,
      (use.run c).state.cache.has slot =
        (c.has slot || asked && (use.engine.findings use.request).has slot) ∧
      (use.run c).effects.filterMap (Effect.noted? slot) =
        if asked && !c.has slot then
          (use.engine.inquiry use.request slot).filterMap (Effect.noted? slot)
        else [] := by
  cases use with
  | evaluate e tree r emitBid =>
    cases tree with
    | none => exact ⟨false, by simp [run, Engine.evaluate, Step.pass, Step.verdict], rfl⟩
    | some t =>
      refine ⟨e.asked (e.visited r c t) slot, ?_,
        Engine.evaluate_filterMap_slot (fun x hx => Effect.noted?_eq_none hx) t⟩
      rw [run, (Engine.evaluate_leaves_visited t).cache, Cache.has_or, Findings.has_slots]
      rfl
  | test e condition r emitBid =>
    refine ⟨Slot.only condition.slot? slot, ?_, ?_⟩
    · rw [run, Engine.condition_eq, State.has_learn]
      rfl
    · rw [run, Engine.condition_eq]
      exact Engine.inquiries_filterMap_slot (fun x hx => Effect.noted?_eq_none hx) _ _

theorem inquiry_noted (e : Engine) (r : Request) (slot : Slot) :
    ((e.inquiry r slot).filterMap (Effect.noted? slot)).length ≤ 1 := by
  cases slot with
  | bucket => exact Nat.le_refl 1
  | geo =>
    rw [Engine.inquiry_geo]
    cases e.address r with
    | none => exact Nat.le_refl 1
    | some address =>
      cases e.geo.isSome <;>
        simp [List.filterMap_cons, Effect.noted?, Engine.outcomeEvent_slot]
  | device =>
    simp only [Engine.inquiry, Engine.detect]
    cases r.userAgent <;> cases e.devices <;> simp [List.filterMap_cons, Effect.noted?]

theorem runAll_noted (uses : List Use) (c : Cache) (slot : Slot) :
    ((runAll c uses).filterMap (Effect.noted? slot)).length ≤ if c.has slot then 0 else 1 := by
  induction uses generalizing c with
  | nil => exact Nat.zero_le _
  | cons use rest ih =>
    obtain ⟨asked, hhas, heffects⟩ := use.run_noted c slot
    have hrest := ih (use.run c).state.cache
    rw [runAll, List.filterMap_append, List.length_append, heffects]
    rw [hhas] at hrest
    cases hc : c.has slot with
    | true => simpa [hc] using hrest
    | false =>
      cases hf : (use.engine.findings use.request).has slot with
      | true =>
        cases asked with
        | true =>
          simp only [hc, hf, Bool.and_self, Bool.or_true, if_true, Nat.le_zero] at hrest
          simpa [hrest] using inquiry_noted use.engine use.request slot
        | false => simpa [hc] using hrest
      | false =>
        -- asked for in vain: the slot stays empty, but nothing was done either
        simpa [hc, hf, Engine.inquiry_eq_nil hf] using hrest

end Use

-- ---------------------------------------------------------------------------
-- Evaluations
-- ---------------------------------------------------------------------------

namespace Engine

/-- An evaluation ends with its one completion. Before it, each node that is visited closes
with a failure if it fails, and otherwise with the first alternative that holds if it has any;
so what comes right before the completion tells the verdict. The bucket is told once for each
cache, and so is what becomes of the address. -/
theorem events_explain (e : Engine) (r : Request) (s : State) (t : Tree) (keep : Effect → Bool)
    (hkeep : ∀ event, keep (.traced event) = true) :
    (∃ o : Outcome, e.Told r (s.cache.view (e.findings r)) t o ∧
      e.evaluate (some t) r s = ⟨o.matched, o.state,
        o.effects ++ [.traced (.finished o.matched o.state.emitBid)]⟩ ∧
      (∀ x ∈ o.effects, x.isCompletion = false) ∧
      (o.matched = false ↔
        ∃ x, (o.effects.filter keep).getLast? = some x ∧ x.isFailure = true)) ∧
    (∀ f u o, e.Told r f u o →
      (o.matched = false →
        ∃ event, u.closing (e.passes r f) = some event ∧ event.isFailure = true) ∧
      (o.matched = true →
        u.closing (e.passes r f) = (u.any.findIdx? (·.holds (e.passes r f))).map .anyMatched ∧
          (u.any = [] ∨ ∃ i, u.any.findIdx? (·.holds (e.passes r f)) = some i))) ∧
    ∀ (uses : List Use) (c : Cache),
      ((Use.runAll c uses).filterMap (Effect.noted? .bucket)).length ≤ 1 ∧
        ((Use.runAll c uses).filterMap (Effect.noted? .geo)).length ≤ 1 := by
  refine ⟨?_, ?_, ?_⟩
  · have htold : e.Told r (s.cache.view (e.findings r)) t (e.tree r t s) := tree_told t rfl
    exact ⟨e.tree r t s, htold, rfl, htold.not_completion, htold.last keep hkeep⟩
  · intro f u o htold
    exact ⟨htold.failure, fun hholds => ⟨htold.success hholds, htold.choice hholds⟩⟩
  · intro uses c
    have hone (slot : Slot) :
        ((Use.runAll c uses).filterMap (Effect.noted? slot)).length ≤ 1 :=
      Nat.le_trans (Use.runAll_noted uses c slot) (by split <;> omega)
    exact ⟨hone .bucket, hone .geo⟩

def abroad : Tree :=
  .node [⟨"bucket", .null, some (.bucket [⟨0, 40⟩])⟩] []
    [.node [⟨"host", .null, some (.host ["a.example"])⟩] [] [] none] none

theorem events_explain_abroad :
    (∀ event, (!Effect.shown (.traced event)) = true) ∧
      ∃ o : Outcome, (locator.evaluate (some abroad) visitor visitorState).matched = o.matched ∧
        locator.Told visitor (visitorState.cache.view (locator.findings visitor)) abroad o ∧
        o.matched = false ∧
        (∃ x, (o.effects.filter (!·.shown)).getLast? = some x ∧ x.isFailure = true) ∧
        ∃ event, abroad.closing (locator.passes visitor
          (visitorState.cache.view (locator.findings visitor))) = some event ∧
            event.isFailure = true := by
  have hkeep : ∀ event, (!Effect.shown (.traced event)) = true := fun _ => rfl
  obtain ⟨⟨o, htold, heval, -, hlast⟩, hnodes, -⟩ :=
    events_explain locator visitor visitorState abroad (!·.shown) hkeep
  have hsame : (locator.evaluate (some abroad) visitor visitorState).matched = o.matched := by
    rw [heval]
  have hmatched : o.matched = false := hsame.symm.trans (by decide)
  exact ⟨hkeep, o, hsame, htold, hmatched, hlast.mp hmatched, (hnodes _ _ _ htold).1 hmatched⟩

end Engine

end Targeting
