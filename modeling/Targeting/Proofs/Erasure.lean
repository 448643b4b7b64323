import Targeting.Proofs.Evaluation

/-!
# Erasing the rules that fail open

A rule that cannot be decided passes. Such rules can be deleted at every depth of a tree
(`Engine.erased`) without a trace in the verdict, in the cache or in what the services are
asked (`evaluate_erased`): a deleted rule passes whatever is found (`passes_of_failsOpen`)
and asks for no slot. A tree in a group may be left with no rule at all; it then holds, as
it did before.
-/

namespace Targeting

-- ---------------------------------------------------------------------------
-- Trees without some of their rules
-- ---------------------------------------------------------------------------

namespace Tree

mutual
/-- Without those rules, at every depth; no group loses a tree. -/
def dropRules (drop : Rule → Bool) : Tree → Tree
  | .node rules all any ruleset =>
    .node (rules.filter (!drop ·)) (dropRulesIn drop all) (dropRulesIn drop any) ruleset
def dropRulesIn (drop : Rule → Bool) : List Tree → List Tree
  | [] => []
  | t :: rest => t.dropRules drop :: dropRulesIn drop rest
end

section
variable {drop passes : Rule → Bool} {ts : List Tree}

theorem dropRulesIn_isEmpty (drop : Rule → Bool) (ts : List Tree) :
    (dropRulesIn drop ts).isEmpty = ts.isEmpty := by
  cases ts <;> rfl

-- Throughout, the rules that are dropped pass.

theorem all_drop (h : ∀ rule, drop rule = true → passes rule = true) (rules : List Rule) :
    (rules.filter (!drop ·)).all passes = rules.all passes := by
  rw [List.all_filter]
  congr
  funext rule
  cases hd : drop rule
  · rfl
  · rw [h rule hd]
    rfl

theorem visitedRules_drop (h : ∀ rule, drop rule = true → passes rule = true)
    (rules : List Rule) :
    visitedRules passes (rules.filter (!drop ·)) = (visitedRules passes rules).filter (!drop ·) := by
  induction rules with
  | nil => rfl
  | cons rule rest ih =>
    cases hd : drop rule with
    | true =>
      rw [List.filter_cons_of_neg (by simp [hd]), visitedRules,
        List.filter_cons_of_neg (by simp [hd]), if_pos (h rule hd), ih]
    | false =>
      rw [List.filter_cons_of_pos (by simp [hd]), visitedRules, visitedRules,
        List.filter_cons_of_pos (by simp [hd]), ih]
      split <;> rfl

theorem allHold_dropRulesIn (h : ∀ t ∈ ts, (t.dropRules drop).holds passes = t.holds passes) :
    allHold passes (dropRulesIn drop ts) = allHold passes ts := by
  induction ts with
  | nil => rfl
  | cons t rest ih =>
    obtain ⟨ht, hrest⟩ := List.forall_mem_cons.mp h
    rw [dropRulesIn, allHold, allHold, ht, ih hrest]

theorem someHolds_dropRulesIn (h : ∀ t ∈ ts, (t.dropRules drop).holds passes = t.holds passes) :
    someHolds passes (dropRulesIn drop ts) = someHolds passes ts := by
  induction ts with
  | nil => rfl
  | cons t rest ih =>
    obtain ⟨ht, hrest⟩ := List.forall_mem_cons.mp h
    rw [dropRulesIn, someHolds, someHolds, ht, ih hrest]

theorem holds_dropRules (h : ∀ rule, drop rule = true → passes rule = true) (t : Tree) :
    (t.dropRules drop).holds passes = t.holds passes := by
  induction t with
  | node rules all any ruleset hall hany =>
    rw [dropRules, holds, holds, all_drop h, allHold_dropRulesIn hall,
      someHolds_dropRulesIn hany, dropRulesIn_isEmpty]

theorem visitsAll_dropRulesIn (h : ∀ rule, drop rule = true → passes rule = true)
    (hts : ∀ t ∈ ts, (t.dropRules drop).visits passes = (t.visits passes).filter (!drop ·)) :
    visitsAll passes (dropRulesIn drop ts) = (visitsAll passes ts).filter (!drop ·) := by
  induction ts with
  | nil => rfl
  | cons t rest ih =>
    obtain ⟨ht, hrest⟩ := List.forall_mem_cons.mp hts
    rw [dropRulesIn, visitsAll, visitsAll, ht, holds_dropRules h, ih hrest, List.filter_append]
    split <;> rfl

theorem visitsAny_dropRulesIn (h : ∀ rule, drop rule = true → passes rule = true)
    (hts : ∀ t ∈ ts, (t.dropRules drop).visits passes = (t.visits passes).filter (!drop ·)) :
    visitsAny passes (dropRulesIn drop ts) = (visitsAny passes ts).filter (!drop ·) := by
  induction ts with
  | nil => rfl
  | cons t rest ih =>
    obtain ⟨ht, hrest⟩ := List.forall_mem_cons.mp hts
    rw [dropRulesIn, visitsAny, visitsAny, ht, holds_dropRules h, ih hrest, List.filter_append]
    split <;> rfl

/-- The other rules are visited as before. -/
theorem visits_dropRules (h : ∀ rule, drop rule = true → passes rule = true) (t : Tree) :
    (t.dropRules drop).visits passes = (t.visits passes).filter (!drop ·) := by
  induction t with
  | node rules all any ruleset hall hany =>
    have hallHold : allHold passes (dropRulesIn drop all) = allHold passes all :=
      allHold_dropRulesIn fun t _ => holds_dropRules h t
    rw [dropRules, visits, visits, visitedRules_drop h, all_drop h, visitsAll_dropRulesIn h hall,
      hallHold, visitsAny_dropRulesIn h hany, List.filter_append]
    split
    · rw [List.filter_append]
      split <;> rfl
    · rfl

end

end Tree

-- ---------------------------------------------------------------------------
-- Rules that fail open
-- ---------------------------------------------------------------------------

namespace Effect

/-- What a service is asked: to look up an address or to detect a user agent. -/
def serviceCall? : Effect → Option (Slot × String)
  | .geoCalled address => some (.geo, address)
  | .deviceCalled agent => some (.device, agent)
  | _ => none

theorem serviceCall?_eq_none {x : Effect} (h : x.ofRule = false) : x.serviceCall? = none := by
  cases x with
  | geoCalled _ | deviceCalled _ => cases h
  | _ => rfl

end Effect

namespace Engine

variable {e : Engine} {r : Request} {s : State}

/-- The key has no meaning, the registered rule answers no Boolean, or the criteria are
compiled on demand and do not compile. -/
def failsOpen (e : Engine) (r : Request) (rule : Rule) : Bool :=
  match e.registry.meaning rule.key with
  | .unknown => true
  | .custom custom =>
    match custom rule.raw r with
    | .bool _ => false
    | _ => true
  | .condition kind =>
    match rule.condition with
    | some _ => false
    | none => !(Condition.compile kind rule.raw).isOk

def erased (e : Engine) (r : Request) (t : Tree) : Tree := t.dropRules (e.failsOpen r)

/-- The rules that fail open are those that are complained about. -/
theorem failsOpen_eq (rule : Rule) : e.failsOpen r rule = (e.complaint? r rule).isSome := by
  unfold failsOpen complaint? reading
  cases e.registry.meaning rule.key with
  | unknown => rfl
  | custom custom => cases hv : custom rule.raw r <;> simp [hv]
  | condition kind =>
    cases rule.condition with
    | some c => rfl
    | none => cases hc : Condition.compile kind rule.raw <;> simp [hc, Except.isOk, Except.toBool]

theorem passes_of_failsOpen (f : Findings) {rule : Rule} (h : e.failsOpen r rule = true) :
    e.passes r f rule = true := by
  rw [failsOpen_eq] at h
  unfold complaint? at h
  unfold passes
  cases hr : e.reading rule with
  | condition c => simp [hr] at h
  | invalid error => rfl
  | unknown => rfl
  | custom custom =>
    simp only [hr] at h ⊢
    cases hv : custom rule.raw r with
    | bool b => simp [hv] at h
    | _ => rfl

theorem slot?_of_failsOpen {rule : Rule} (h : e.failsOpen r rule = true) : e.slot? rule = none := by
  rw [failsOpen_eq] at h
  unfold complaint? at h
  unfold slot? tested?
  cases hr : e.reading rule with
  | condition c => simp [hr] at h
  | _ => rfl

-- ---------------------------------------------------------------------------
-- Visits
-- ---------------------------------------------------------------------------

theorem asked_erased (rules : List Rule) :
    e.asked (rules.filter (!e.failsOpen r ·)) = e.asked rules := by
  funext slot
  rw [asked, asked, List.any_filter]
  congr
  funext rule
  cases h : e.failsOpen r rule
  · rfl
  · rw [slot?_of_failsOpen h, Slot.only_none]
    rfl

theorem effects_of_failsOpen (c : Cache) {rule : Rule} (h : e.failsOpen r rule = true) :
    (e.effects r c rule).filterMap Effect.serviceCall? = [] := by
  rw [effects, slot?_of_failsOpen h]
  cases e.called? rule <;> cases e.complaint? r rule <;> rfl

theorem visit_erased_serviceCalls (rules : List Rule) :
    (e.visit r (rules.filter (!e.failsOpen r ·)) s).2.filterMap Effect.serviceCall? =
      (e.visit r rules s).2.filterMap Effect.serviceCall? := by
  induction rules generalizing s with
  | nil => rfl
  | cons rule rest ih =>
    cases h : e.failsOpen r rule with
    | false =>
      rw [List.filter_cons_of_pos (by simp [h])]
      simp only [visit, List.filterMap_append, ih]
    | true =>
      -- the visit that is left out changes no state, so that the rest goes on from the same
      rw [List.filter_cons_of_neg (by simp [h])]
      simp only [visit, List.filterMap_append, effects_of_failsOpen _ h, slot?_of_failsOpen h,
        Slot.only_none, State.learn_none, List.nil_append, ih]

theorem complaints_erased (rules : List Rule) :
    (rules.filter (!e.failsOpen r ·)).filterMap (e.complaint? r) = [] := by
  refine List.filterMap_eq_nil_iff.mpr fun rule hrule => ?_
  have hdecided := (List.mem_filter.mp hrule).2
  rw [failsOpen_eq] at hdecided
  simpa using hdecided

theorem visited_erased (c : Cache) (t : Tree) :
    e.visited r c (e.erased r t) = (e.visited r c t).filter (!e.failsOpen r ·) :=
  Tree.visits_dropRules (fun _ => passes_of_failsOpen _) t

/-- Without the rules that fail open the tree has the same verdict, leaves the same state
and asks the services the same, and there is nothing to warn of; of the rules visited
before, those that are left are visited, so that the calls are those of their registered
rules. -/
theorem evaluate_erased (e : Engine) (r : Request) (s : State) (t : Tree) :
    (e.evaluate (some (e.erased r t)) r s).matched = (e.evaluate (some t) r s).matched ∧
      (e.evaluate (some (e.erased r t)) r s).state = (e.evaluate (some t) r s).state ∧
      (e.evaluate (some (e.erased r t)) r s).effects.filterMap Effect.serviceCall? =
        (e.evaluate (some t) r s).effects.filterMap Effect.serviceCall? ∧
      (e.evaluate (some (e.erased r t)) r s).effects.filterMap Effect.warning? = [] ∧
      (e.visited r s.cache t).Sublist t.occurrences ∧
      (e.evaluate (some t) r s).effects.filterMap Effect.ruleCall? =
        (e.visited r s.cache t).filterMap e.called? ∧
      (e.evaluate (some (e.erased r t)) r s).effects.filterMap Effect.ruleCall? =
        ((e.visited r s.cache t).filter (!e.failsOpen r ·)).filterMap e.called? := by
  have hleaves := evaluate_leaves_visited (e := e) (r := r) (s := s) (e.erased r t)
  rw [visited_erased] at hleaves
  refine ⟨?_, ?_, ?_, ?_, Tree.visits_sublist t, (evaluate_leaves_visited t).ruleCalls,
    hleaves.ruleCalls⟩
  · rw [evaluate_matched, evaluate_matched, erased]
    exact Tree.holds_dropRules (fun _ => passes_of_failsOpen _) t
  · rw [hleaves.state, evaluate_state, visit_state, visit_state, asked_erased]
  · rw [evaluate_filterMap fun _ => Effect.serviceCall?_eq_none,
      evaluate_filterMap fun _ => Effect.serviceCall?_eq_none, visited_erased,
      visit_erased_serviceCalls]
  · rw [hleaves.warnings, complaints_erased]

end Engine

end Targeting
