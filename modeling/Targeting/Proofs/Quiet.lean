import Targeting.Engine
import Targeting.Proofs.Verdict

/-!
# Evaluations without their debug events

A debug event says where in a tree a verdict was settled; the verdict, the state, the
warnings and the calls do not. Without the events (`Step.quiet`) an evaluation is its rules,
put together by `andThen` and `orElse` (`tree_quiet`), which do not depend on how they are
grouped. So trees can be compared rule by rule (`tree_quiet_congr`).
-/

namespace Targeting

/-- Warnings and calls are, debug events are not. -/
def Effect.shown : Effect → Bool
  | .traced _ => false
  | _ => true

def Outcome.quiet (o : Outcome) : Outcome := ⟨o.matched, o.state, o.effects.filter Effect.shown⟩

-- ---------------------------------------------------------------------------
-- Steps put together
-- ---------------------------------------------------------------------------

namespace Step

variable (p q step : Step)

theorem pass_andThen : pass.andThen step = step := rfl

theorem andThen_pass : step.andThen pass = step := by
  funext s
  rcases h : step s with ⟨matched, state, effects⟩
  cases matched <;> simp [andThen, pass, verdict, also, h]

theorem andThen_assoc : (p.andThen q).andThen step = p.andThen (q.andThen step) := by
  funext s
  cases hp : (p s).matched with
  | false => simp [andThen, hp]
  | true => cases hq : (q (p s).state).matched <;> simp [andThen, also, hp, hq]

theorem orElse_fail : step.orElse fail = step := by
  funext s
  rcases h : step s with ⟨matched, state, effects⟩
  cases matched <;> simp [orElse, fail, verdict, also, h]

theorem orElse_assoc : (p.orElse q).orElse step = p.orElse (q.orElse step) := by
  funext s
  cases hp : (p s).matched with
  | true => simp [orElse, hp]
  | false => cases hq : (q (p s).state).matched <;> simp [orElse, also, hp, hq]

/-- One after the other, up to the first that does not match. -/
def allOf : List Step → Step := List.foldr andThen pass

def anyOf : List Step → Step := List.foldr orElse fail

theorem allOf_cons (first : Step) (rest : List Step) :
    allOf (first :: rest) = first.andThen (allOf rest) := rfl

theorem anyOf_cons (first : Step) (rest : List Step) :
    anyOf (first :: rest) = first.orElse (anyOf rest) := rfl

theorem allOf_append (ps qs : List Step) : allOf (ps ++ qs) = (allOf ps).andThen (allOf qs) := by
  induction ps with
  | nil => rfl
  | cons p rest ih => rw [List.cons_append, allOf_cons, allOf_cons, ih, andThen_assoc]

theorem anyOf_append (ps qs : List Step) : anyOf (ps ++ qs) = (anyOf ps).orElse (anyOf qs) := by
  induction ps with
  | nil => rfl
  | cons p rest ih => rw [List.cons_append, anyOf_cons, anyOf_cons, ih, orElse_assoc]

def quiet (step : Step) : Step := fun s => (step s).quiet

theorem quiet_noting (matched : Bool) (event : Event) :
    (step.noting matched event).quiet = step.quiet := by
  funext s
  simp only [quiet, noting]
  split
  · simp [Outcome.quiet, Effect.shown]
  · rfl

theorem quiet_andThen : (p.andThen q).quiet = p.quiet.andThen q.quiet := by
  funext s
  cases h : (p s).matched <;> simp [quiet, andThen, also, Outcome.quiet, h]

theorem quiet_orElse : (p.orElse q).quiet = p.quiet.orElse q.quiet := by
  funext s
  cases h : (p s).matched <;> simp [quiet, orElse, also, Outcome.quiet, h]

end Step

-- ---------------------------------------------------------------------------
-- Trees
-- ---------------------------------------------------------------------------

namespace Engine

variable {e e' : Engine} {r r' : Request}

theorem rules_quiet (rules : List Rule) :
    (e.rules r rules).quiet = Step.allOf (rules.map fun rule => (e.rule r rule).quiet) := by
  induction rules with
  | nil => rfl
  | cons rule rest ih =>
    rw [Engine.rules, Step.quiet_andThen, Step.quiet_noting, ih]
    rfl

theorem allOf_quiet (index : Nat) (ts : List Tree) :
    (e.allOf r index ts).quiet = Step.allOf (ts.map fun t => (e.tree r t).quiet) := by
  induction ts generalizing index with
  | nil => rfl
  | cons t rest ih =>
    rw [allOf, Step.quiet_andThen, Step.quiet_noting, ih]
    rfl

theorem anyOf_quiet (index : Nat) (ts : List Tree) :
    (e.anyOf r index ts).quiet = Step.anyOf (ts.map fun t => (e.tree r t).quiet) := by
  induction ts generalizing index with
  | nil => exact Step.quiet_noting ..
  | cons t rest ih =>
    rw [anyOf, Step.quiet_orElse, Step.quiet_noting, ih]
    rfl

/-- A node is its rules, then the trees in `all`, then one of those in `any`. -/
theorem tree_quiet (rules : List Rule) (all any : List Tree) (ruleset : Option Json) :
    (e.tree r (.node rules all any ruleset)).quiet =
      (Step.allOf (rules.map fun rule => (e.rule r rule).quiet)).andThen
        ((Step.allOf (all.map fun t => (e.tree r t).quiet)).andThen
          (if any.isEmpty then .pass else Step.anyOf (any.map fun t => (e.tree r t).quiet))) := by
  have hany : (if any.isEmpty then Step.pass else e.anyOf r 0 any).quiet =
      if any.isEmpty then .pass else Step.anyOf (any.map fun t => (e.tree r t).quiet) := by
    split
    · rfl
    · exact anyOf_quiet 0 any
  rw [tree, Step.quiet_andThen, Step.quiet_andThen, rules_quiet, allOf_quiet, hany]

theorem evaluate_quiet (t : Tree) : (e.evaluate (some t) r).quiet = (e.tree r t).quiet := by
  funext s
  simp [Step.quiet, evaluate, Outcome.quiet, Effect.shown]

theorem evaluate_quiet_of_tree {t u : Tree} (h : (e.tree r t).quiet = (e'.tree r' u).quiet)
    (s : State) : (e.evaluate (some t) r s).quiet = (e'.evaluate (some u) r' s).quiet := by
  have hquiet : (e.evaluate (some t) r).quiet = (e'.evaluate (some u) r').quiet := by
    rw [evaluate_quiet, evaluate_quiet, h]
  exact congrFun hquiet s

/-- Where every rule does the same, the tree does. -/
theorem tree_quiet_congr {t : Tree}
    (h : ∀ rule ∈ t.occurrences, (e.rule r rule).quiet = (e'.rule r' rule).quiet) :
    (e.tree r t).quiet = (e'.tree r' t).quiet := by
  induction t with
  | node rules all any ruleset hall hany =>
    simp only [Tree.occurrences, List.mem_append, Tree.mem_occurrencesIn] at h
    have hrules := List.map_congr_left fun rule hrule => h rule (.inl hrule)
    have halls := List.map_congr_left fun t ht =>
      hall t ht fun rule hrule => h rule (.inr (.inl ⟨t, ht, hrule⟩))
    have hanys := List.map_congr_left fun t ht =>
      hany t ht fun rule hrule => h rule (.inr (.inr ⟨t, ht, hrule⟩))
    rw [tree_quiet, tree_quiet, hrules, halls, hanys]

end Engine

end Targeting
