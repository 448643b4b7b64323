import Mathlib.Logic.Relation
import Targeting.Proofs.Evaluation
import Targeting.Proofs.Quiet

/-!
# Putting the groups of a tree differently

A node asks for its rules, then for `all`, then for one of `any`. So rules may as well be
trees in `all`, a tree in a group that is nothing but such a group may be taken apart, and
a choice of one is no choice (`Tree.Regrouped`). No evaluation shows the difference, from
whatever cache it starts (`evaluate_regrouped`). A tree in `any` that asks for nothing is no
empty choice: it holds.
-/

namespace Targeting

namespace Tree

def ofRule (rule : Rule) : Tree := .node [rule] [] [] none

/-- The second tree is the first with one node, at any depth, put differently. -/
inductive Regrouped : Tree → Tree → Prop
  /-- All rules become trees of their own. -/
  | rules (rules : List Rule) (all any : List Tree) (ruleset : Option Json) :
    Regrouped (.node rules all any ruleset) (.node [] (rules.map ofRule ++ all) any ruleset)
  /-- A tree in `all` that has no rules and no choice is taken apart. -/
  | splicedAll (rules : List Rule) (before inner after any : List Tree)
      (innerRuleset ruleset : Option Json) :
    Regrouped (.node rules (before ++ .node [] inner [] innerRuleset :: after) any ruleset)
      (.node rules (before ++ inner ++ after) any ruleset)
  /-- The only tree in `any` becomes the last in `all`. -/
  | onlyChoice (rules : List Rule) (all : List Tree) (only : Tree) (ruleset : Option Json) :
    Regrouped (.node rules all [only] ruleset) (.node rules (all ++ [only]) [] ruleset)
  /-- A tree in `any` that is nothing but a choice is taken apart. -/
  | splicedAny (rules : List Rule) (all before inner after : List Tree)
      (innerRuleset ruleset : Option Json) (h : inner ≠ []) :
    Regrouped (.node rules all (before ++ .node [] [] inner innerRuleset :: after) ruleset)
      (.node rules all (before ++ inner ++ after) ruleset)
  | inAll (rules : List Rule) (before after any : List Tree) (ruleset : Option Json) {t u : Tree}
      (h : Regrouped t u) :
    Regrouped (.node rules (before ++ t :: after) any ruleset)
      (.node rules (before ++ u :: after) any ruleset)
  | inAny (rules : List Rule) (all before after : List Tree) (ruleset : Option Json) {t u : Tree}
      (h : Regrouped t u) :
    Regrouped (.node rules all (before ++ t :: after) ruleset)
      (.node rules all (before ++ u :: after) ruleset)

end Tree

namespace Engine

variable {e : Engine} {r : Request}

theorem tree_ofRule (rule : Rule) :
    (e.tree r (Tree.ofRule rule)).quiet = (e.rule r rule).quiet := by
  rw [Tree.ofRule, tree_quiet]
  show ((e.rule r rule).quiet.andThen .pass).andThen (Step.pass.andThen .pass) = _
  simp only [Step.andThen_pass]

/-- A tree with nothing but `all`. -/
theorem tree_all (ts : List Tree) (ruleset : Option Json) :
    (e.tree r (.node [] ts [] ruleset)).quiet =
      Step.allOf (ts.map fun t => (e.tree r t).quiet) := by
  rw [tree_quiet]
  show Step.pass.andThen ((Step.allOf _).andThen .pass) = _
  rw [Step.pass_andThen, Step.andThen_pass]

/-- A tree with nothing but a choice. -/
theorem tree_any {ts : List Tree} (h : ts ≠ []) (ruleset : Option Json) :
    (e.tree r (.node [] [] ts ruleset)).quiet =
      Step.anyOf (ts.map fun t => (e.tree r t).quiet) := by
  rw [tree_quiet, if_neg (by simpa using h)]
  rfl

/-- One rewrite, at any depth, changes nothing but debug events. -/
theorem tree_regrouped {t u : Tree} (h : t.Regrouped u) :
    (e.tree r t).quiet = (e.tree r u).quiet := by
  induction h with
  | rules rules all any ruleset =>
    have hrules : (rules.map Tree.ofRule).map (fun t => (e.tree r t).quiet) =
        rules.map fun rule => (e.rule r rule).quiet := by
      simp only [List.map_map, Function.comp_def, tree_ofRule]
    rw [tree_quiet, tree_quiet, List.map_append, Step.allOf_append, hrules, Step.andThen_assoc]
    rfl
  | splicedAll rules before inner after any innerRuleset ruleset =>
    have hall : Step.allOf ((before ++ .node [] inner [] innerRuleset :: after).map
          fun t => (e.tree r t).quiet) =
        Step.allOf ((before ++ inner ++ after).map fun t => (e.tree r t).quiet) := by
      simp only [List.map_append, List.map_cons, Step.allOf_append, Step.allOf_cons, tree_all,
        Step.andThen_assoc]
    rw [tree_quiet, tree_quiet, hall]
  | onlyChoice rules all only ruleset =>
    have hall : Step.allOf ((all ++ [only]).map fun t => (e.tree r t).quiet) =
        (Step.allOf (all.map fun t => (e.tree r t).quiet)).andThen (e.tree r only).quiet := by
      rw [List.map_append, Step.allOf_append, List.map_singleton, Step.allOf_cons]
      exact congrArg _ (Step.andThen_pass _)
    have hany : Step.anyOf ([only].map fun t => (e.tree r t).quiet) = (e.tree r only).quiet :=
      Step.orElse_fail _
    rw [tree_quiet, tree_quiet, hall, hany, if_neg (by simp), if_pos List.isEmpty_nil,
      Step.andThen_pass]
  | splicedAny rules all before inner after innerRuleset ruleset hinner =>
    have hany : Step.anyOf ((before ++ .node [] [] inner innerRuleset :: after).map
          fun t => (e.tree r t).quiet) =
        Step.anyOf ((before ++ inner ++ after).map fun t => (e.tree r t).quiet) := by
      simp only [List.map_append, List.map_cons, Step.anyOf_append, Step.anyOf_cons,
        tree_any hinner, Step.orElse_assoc]
    -- neither choice is empty, so that both are made
    rw [tree_quiet, tree_quiet, hany, if_neg (by simp), if_neg (by simp [hinner])]
  | inAll rules before after any ruleset _ ih =>
    simp only [tree_quiet, List.map_append, List.map_cons, ih]
  | inAny rules all before after ruleset _ ih =>
    rw [tree_quiet, tree_quiet, if_neg (by simp), if_neg (by simp)]
    simp only [List.map_append, List.map_cons, ih]

/-- However often and at whatever depth a tree is regrouped, it has the same verdict, leaves
the same state, and gives the same warnings and makes the same calls in the same order. An
empty tree in `any` is not to be taken apart: with it the choice is made. -/
theorem evaluate_regrouped (e : Engine) (r : Request) (s : State) :
    (∀ t u : Tree, Relation.EqvGen Tree.Regrouped t u →
      (e.evaluate (some t) r s).quiet = (e.evaluate (some u) r s).quiet) ∧
      ∀ (before after : List Tree) (innerRuleset ruleset : Option Json),
        (e.evaluate (some (.node [] [] (before ++ .node [] [] [] innerRuleset :: after) ruleset))
          r s).matched = true := by
  constructor
  · intro t u h
    have htree : (e.tree r t).quiet = (e.tree r u).quiet := by
      induction h with
      | rel t u h => exact tree_regrouped h
      | refl t => rfl
      | symm t u _ ih => exact ih.symm
      | trans t u v _ _ ihtu ihuv => exact ihtu.trans ihuv
    exact evaluate_quiet_of_tree htree s
  · intro before after innerRuleset ruleset
    rw [evaluate_matched]
    have hempty : (Tree.node [] [] [] innerRuleset).holds
        (e.passes r (s.cache.view (e.findings r))) = true := rfl
    exact Tree.holds_node.mpr ⟨nofun, nofun, .inr ⟨_, by simp, hempty⟩⟩

def elsewhere : Tree := .ofRule ⟨"host", .null, some (.host ["a.example"])⟩

theorem evaluate_regrouped_visitor :
    Relation.EqvGen Tree.Regrouped
        (.node [⟨"weather", .null, none⟩] [] [.node [] [] [elsewhere, visitorTree] none] none)
        (.node [] [.ofRule ⟨"weather", .null, none⟩] [elsewhere, visitorTree] none) ∧
      (locator.evaluate (some (.node [⟨"weather", .null, none⟩] []
          [.node [] [] [elsewhere, visitorTree] none] none)) visitor visitorState).quiet =
        (locator.evaluate (some (.node [] [.ofRule ⟨"weather", .null, none⟩]
          [elsewhere, visitorTree] none)) visitor visitorState).quiet ∧
      (locator.evaluate (some (.node [] [] [elsewhere, .empty] none)) visitor .fresh).matched =
        true ∧
      (locator.evaluate (some (.node [] [] [elsewhere] none)) visitor .fresh).matched = false := by
  have hregrouped : Relation.EqvGen Tree.Regrouped
      (.node [⟨"weather", .null, none⟩] [] [.node [] [] [elsewhere, visitorTree] none] none)
      (.node [] [.ofRule ⟨"weather", .null, none⟩] [elsewhere, visitorTree] none) :=
    .trans _ _ _ (.rel _ _ (.rules [_] [] _ none))
      (.rel _ _ (.splicedAny [] _ [] [elsewhere, visitorTree] [] none none (by simp)))
  refine ⟨hregrouped, ?_, ?_, rfl⟩
  · exact (evaluate_regrouped locator visitor visitorState).1 _ _ hregrouped
  · exact (evaluate_regrouped locator visitor .fresh).2 [elsewhere] [] none none

end Engine

end Targeting
