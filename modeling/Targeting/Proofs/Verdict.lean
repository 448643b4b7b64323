import Targeting.Tree

/-!
# Verdicts of trees

What a tree decides when the verdicts of its rules are given, with every part of it
looked at (`Tree.holds`), and which of its rules are looked at if one stops as soon as
the verdict is settled (`Tree.visits`). No cache and no engine: the two are the
reference that evaluations are compared with.
-/

namespace Targeting.Tree

section
variable {motive : Tree → Prop}

mutual
@[elab_as_elim, induction_eliminator]
theorem induction
    (node : ∀ rules all any ruleset, (∀ t ∈ all, motive t) → (∀ t ∈ any, motive t) →
      motive (.node rules all any ruleset)) : (t : Tree) → motive t
  | .node rules all any ruleset =>
    node rules all any ruleset (inductionIn node all) (inductionIn node any)
theorem inductionIn
    (node : ∀ rules all any ruleset, (∀ t ∈ all, motive t) → (∀ t ∈ any, motive t) →
      motive (.node rules all any ruleset)) : (ts : List Tree) → ∀ t ∈ ts, motive t
  | [] => fun _ ht => nomatch ht
  | t :: rest => List.forall_mem_cons.mpr ⟨induction node t, inductionIn node rest⟩
end

end

-- ---------------------------------------------------------------------------
-- Verdicts
-- ---------------------------------------------------------------------------

mutual
/-- All rules pass, all of `all` hold, and one of `any` holds unless there is none. -/
def holds (passes : Rule → Bool) : Tree → Bool
  | .node rules all any _ =>
    rules.all passes && allHold passes all && (any.isEmpty || someHolds passes any)
def allHold (passes : Rule → Bool) : List Tree → Bool
  | [] => true
  | t :: rest => t.holds passes && allHold passes rest
def someHolds (passes : Rule → Bool) : List Tree → Bool
  | [] => false
  | t :: rest => t.holds passes || someHolds passes rest
end

theorem allHold_eq (passes : Rule → Bool) (ts : List Tree) :
    allHold passes ts = ts.all (holds passes) := by
  induction ts with
  | nil => rfl
  | cons t rest ih => rw [allHold, ih, List.all_cons]

theorem someHolds_eq (passes : Rule → Bool) (ts : List Tree) :
    someHolds passes ts = ts.any (holds passes) := by
  induction ts with
  | nil => rfl
  | cons t rest ih => rw [someHolds, ih, List.any_cons]

theorem holds_node {passes : Rule → Bool} {rules : List Rule} {all any : List Tree}
    {ruleset : Option Json} : (node rules all any ruleset).holds passes = true ↔
      (∀ rule ∈ rules, passes rule = true) ∧ (∀ t ∈ all, t.holds passes = true) ∧
        (any = [] ∨ ∃ t ∈ any, t.holds passes = true) := by
  simp [holds, allHold_eq, someHolds_eq, and_assoc]

-- ---------------------------------------------------------------------------
-- Visits
-- ---------------------------------------------------------------------------

/-- Up to the first rule that fails. -/
def visitedRules (passes : Rule → Bool) : List Rule → List Rule
  | [] => []
  | rule :: rest => rule :: if passes rule then visitedRules passes rest else []

mutual
/-- Rules up to the first that fails; if all pass, `all` up to the first that fails; if
all hold, `any` up to the first that holds. -/
def visits (passes : Rule → Bool) : Tree → List Rule
  | .node rules all any _ =>
    visitedRules passes rules ++
      if rules.all passes then
        visitsAll passes all ++ if allHold passes all then visitsAny passes any else []
      else []
def visitsAll (passes : Rule → Bool) : List Tree → List Rule
  | [] => []
  | t :: rest => t.visits passes ++ if t.holds passes then visitsAll passes rest else []
def visitsAny (passes : Rule → Bool) : List Tree → List Rule
  | [] => []
  | t :: rest => t.visits passes ++ if t.holds passes then [] else visitsAny passes rest
end

mutual
/-- Every rule of the tree, at any depth, as often as it occurs and in order. -/
def occurrences : Tree → List Rule
  | .node rules all any _ => rules ++ (occurrencesIn all ++ occurrencesIn any)
def occurrencesIn : List Tree → List Rule
  | [] => []
  | t :: rest => t.occurrences ++ occurrencesIn rest
end

theorem mem_occurrencesIn {rule : Rule} {ts : List Tree} :
    rule ∈ occurrencesIn ts ↔ ∃ t ∈ ts, rule ∈ t.occurrences := by
  induction ts with
  | nil => simp [occurrencesIn]
  | cons t rest ih => simp [occurrencesIn, ih]

/-- A tree that holds still holds when more of its rules pass. -/
theorem holds_mono {passes more : Rule → Bool} {t : Tree}
    (h : ∀ rule ∈ t.occurrences, passes rule = true → more rule = true)
    (ht : t.holds passes = true) : t.holds more = true := by
  induction t with
  | node rules all any ruleset hall hany =>
    simp only [occurrences, List.mem_append, mem_occurrencesIn] at h
    obtain ⟨hrules, hgroups, hchoice⟩ := holds_node.mp ht
    refine holds_node.mpr ⟨?_, ?_, ?_⟩
    · intro rule hrule
      exact h rule (.inl hrule) (hrules rule hrule)
    · intro t hmem
      exact hall t hmem (fun rule hrule => h rule (.inr (.inl ⟨t, hmem, hrule⟩))) (hgroups t hmem)
    · obtain hnone | ⟨t, hmem, hholds⟩ := hchoice
      · exact .inl hnone
      · have hmore : t.holds more = true :=
          hany t hmem (fun rule hrule => h rule (.inr (.inr ⟨t, hmem, hrule⟩))) hholds
        exact .inr ⟨t, hmem, hmore⟩

section
variable {passes : Rule → Bool}

theorem visitedRules_sublist (rules : List Rule) :
    (visitedRules passes rules).Sublist rules := by
  induction rules with
  | nil => exact .slnil
  | cons rule rest ih =>
    rw [visitedRules]
    split
    · exact ih.cons_cons rule
    · exact (List.nil_sublist rest).cons_cons rule

theorem visitsAll_sublist (h : ∀ t ∈ ts, (t.visits passes).Sublist t.occurrences) :
    (visitsAll passes ts).Sublist (occurrencesIn ts) := by
  induction ts with
  | nil => exact .slnil
  | cons t rest ih =>
    obtain ⟨ht, hrest⟩ := List.forall_mem_cons.mp h
    rw [visitsAll, occurrencesIn]
    refine ht.append ?_
    split
    · exact ih hrest
    · exact List.nil_sublist _

theorem visitsAny_sublist (h : ∀ t ∈ ts, (t.visits passes).Sublist t.occurrences) :
    (visitsAny passes ts).Sublist (occurrencesIn ts) := by
  induction ts with
  | nil => exact .slnil
  | cons t rest ih =>
    obtain ⟨ht, hrest⟩ := List.forall_mem_cons.mp h
    rw [visitsAny, occurrencesIn]
    refine ht.append ?_
    split
    · exact List.nil_sublist _
    · exact ih hrest

/-- No occurrence of a rule is visited twice, and none out of order. -/
theorem visits_sublist (t : Tree) : (t.visits passes).Sublist t.occurrences := by
  induction t with
  | node rules all any ruleset hall hany =>
    rw [visits, occurrences]
    refine (visitedRules_sublist rules).append ?_
    split
    · refine (visitsAll_sublist hall).append ?_
      split
      · exact visitsAny_sublist hany
      · exact List.nil_sublist _
    · exact List.nil_sublist _

end

end Targeting.Tree
