import Targeting.Proofs.Compilation
import Targeting.Proofs.Reading
import Targeting.Proofs.Verdict

/-!
# The names that are known when a tree is compiled

Registered names decide which conditions are compiled with the tree. A condition that is
left out is compiled on demand, so that supplying it changes no rule (`rule_completed`)
and with the conditions supplied the same value gives the same tree, whatever was
registered (`Rule.completed_written`).
-/

namespace Targeting

-- ---------------------------------------------------------------------------
-- Changing the rules of a tree
-- ---------------------------------------------------------------------------

namespace Tree

-- The rules at every depth.
mutual
def mapRules (f : Rule → Rule) : Tree → Tree
  | .node rules all any ruleset =>
    .node (rules.map f) (mapRulesIn f all) (mapRulesIn f any) ruleset
def mapRulesIn (f : Rule → Rule) : List Tree → List Tree
  | [] => []
  | t :: rest => t.mapRules f :: mapRulesIn f rest
end

section
variable {f : Rule → Rule}

theorem mapRulesIn_isEmpty (ts : List Tree) : (mapRulesIn f ts).isEmpty = ts.isEmpty := by
  cases ts <;> rfl

theorem mapRules_withRule (rule : Rule) (t : Tree) :
    (withRule rule t).mapRules f = withRule (f rule) (t.mapRules f) := by
  cases t
  rfl

theorem mapRules_withAll (all : List Tree) (t : Tree) :
    (withAll all t).mapRules f = withAll (mapRulesIn f all) (t.mapRules f) := by
  cases t
  rfl

theorem mapRules_withAny (any : List Tree) (t : Tree) :
    (withAny any t).mapRules f = withAny (mapRulesIn f any) (t.mapRules f) := by
  cases t
  rfl

theorem mapRules_withRuleset (ruleset : Json) (t : Tree) :
    (withRuleset ruleset t).mapRules f = withRuleset ruleset (t.mapRules f) := by
  cases t
  rfl

variable {rule : String → Json → Rule}

mutual
theorem mapRules_ofJson : (v : Json) →
    (ofJson rule v).mapRules f = ofJson (fun key raw => f (rule key raw)) v
  | .object members => mapRules_ofMembers members
  | .null | .bool _ | .integer _ | .real _ | .text _ | .array _ => rfl
theorem mapRules_ofMembers : (members : List (String × Json)) →
    (ofMembers rule members).mapRules f = ofMembers (fun key raw => f (rule key raw)) members
  | [] => rfl
  | (key, raw) :: rest => by
    rw [ofMembers, ofMembers]
    split
    · rw [mapRules_withAll, mapRulesIn_ofSubtrees raw, mapRules_ofMembers rest]
    split
    · rw [mapRules_withAny, mapRulesIn_ofSubtrees raw, mapRules_ofMembers rest]
    split
    · rw [mapRules_withRuleset, mapRules_ofMembers rest]
    · rw [mapRules_withRule, mapRules_ofMembers rest]
theorem mapRulesIn_ofSubtrees : (raw : Json) →
    mapRulesIn f (ofSubtrees rule raw) = ofSubtrees (fun key raw => f (rule key raw)) raw
  | .array items => mapRulesIn_ofAll items
  | .null | .bool _ | .integer _ | .real _ | .text _ | .object _ => rfl
theorem mapRulesIn_ofAll : (items : List Json) →
    mapRulesIn f (ofAll rule items) = ofAll (fun key raw => f (rule key raw)) items
  | [] => rfl
  | item :: rest => by
    rw [ofAll, mapRulesIn, mapRules_ofJson item, mapRulesIn_ofAll rest, ofAll]
end

end

end Tree

-- ---------------------------------------------------------------------------
-- Evaluating changed trees
-- ---------------------------------------------------------------------------

namespace Engine

variable {e : Engine} {r : Request} {f : Rule → Rule}

theorem rules_map (hf : ∀ rule, e.rule r (f rule) = e.rule r rule)
    (hk : ∀ rule, (f rule).key = rule.key) (rules : List Rule) :
    e.rules r (rules.map f) = e.rules r rules := by
  induction rules with
  | nil => rfl
  | cons rule rest ih => rw [List.map_cons, Engine.rules, Engine.rules, hf, hk, ih]

theorem allOf_mapRulesIn {ts : List Tree} (h : ∀ t ∈ ts, e.tree r (t.mapRules f) = e.tree r t)
    (index : Nat) : e.allOf r index (Tree.mapRulesIn f ts) = e.allOf r index ts := by
  induction ts generalizing index with
  | nil => rfl
  | cons t rest ih =>
    obtain ⟨ht, hrest⟩ := List.forall_mem_cons.mp h
    rw [Tree.mapRulesIn, allOf, allOf, ht, ih hrest]

theorem anyOf_mapRulesIn {ts : List Tree} (h : ∀ t ∈ ts, e.tree r (t.mapRules f) = e.tree r t)
    (index : Nat) : e.anyOf r index (Tree.mapRulesIn f ts) = e.anyOf r index ts := by
  induction ts generalizing index with
  | nil => rfl
  | cons t rest ih =>
    obtain ⟨ht, hrest⟩ := List.forall_mem_cons.mp h
    rw [Tree.mapRulesIn, anyOf, anyOf, ht, ih hrest]

/-- A change that no rule shows does not show in the tree. -/
theorem tree_mapRules (hf : ∀ rule, e.rule r (f rule) = e.rule r rule)
    (hk : ∀ rule, (f rule).key = rule.key) (t : Tree) : e.tree r (t.mapRules f) = e.tree r t := by
  induction t with
  | node rules all any ruleset hall hany =>
    rw [Tree.mapRules, tree, tree, rules_map hf hk, allOf_mapRulesIn hall,
      anyOf_mapRulesIn hany, Tree.mapRulesIn_isEmpty]

end Engine

-- ---------------------------------------------------------------------------
-- Conditions supplied and forgotten
-- ---------------------------------------------------------------------------

theorem Registry.ofName?_of_meaning {registry : Registry} {key : String} {kind : Condition.Kind}
    (h : registry.meaning key = .condition kind) : Condition.Kind.ofName? key = some kind := by
  unfold meaning at h
  cases hg : Assoc.get? registry key with
  | some rule => simp [hg] at h
  | none => cases hn : Condition.Kind.ofName? key <;> simp_all

namespace Rule

/-- With the condition that would be compiled on demand. -/
def completed (rule : Rule) : Rule :=
  { rule with condition := rule.condition.or (meant rule.key rule.raw) }

def without (keys : String → Bool) (rule : Rule) : Rule :=
  if keys rule.key then { rule with condition := none } else rule

theorem completed_written (registered : List String) (key : String) (raw : Json) :
    (written registered key raw).completed = ⟨key, raw, meant key raw⟩ := by
  by_cases hk : key ∈ registered <;> simp [written, completed, hk]

end Rule

namespace Engine

variable {e : Engine} {r : Request}

theorem reading_completed (rule : Rule) : e.reading rule.completed = e.reading rule := by
  obtain ⟨key, raw, condition⟩ := rule
  simp only [reading, Rule.completed]
  cases hm : e.registry.meaning key with
  | custom custom => rfl
  | unknown => rfl
  | condition kind =>
    have hmeant : Rule.meant key raw = (Condition.compile kind raw).toOption := by
      rw [Rule.meant, Registry.ofName?_of_meaning hm, Option.bind_some]
    cases condition with
    | some c => rfl
    | none => cases hc : Condition.compile kind raw <;> simp [hmeant, hc, Except.toOption]

theorem rule_completed (rule : Rule) : e.rule r rule.completed = e.rule r rule := by
  rw [rule_reading, rule_reading, reading_completed]
  rfl

/-- Evaluated as if every condition had been compiled with the tree. -/
theorem tree_ofJson_written (registered : List String) (v : Json) :
    e.tree r (Tree.ofJson (Rule.written registered) v) =
      e.tree r (Tree.ofJson (fun key raw => ⟨key, raw, Rule.meant key raw⟩) v) := by
  rw [← tree_mapRules rule_completed fun _ => rfl, Tree.mapRules_ofJson]
  simp only [Rule.completed_written]

end Engine

namespace Tree

/-- The names that only one of the lists has. -/
def onlyOne (known others : List String) (key : String) : Bool :=
  known.contains key != others.contains key

theorem without_written (known others : List String) (key : String) (raw : Json) :
    (Rule.written known key raw).without (onlyOne known others) =
      (Rule.written others key raw).without (onlyOne known others) := by
  by_cases hk : key ∈ known <;> by_cases ho : key ∈ others <;>
    simp [Rule.without, Rule.written, onlyOne, hk, ho]

theorem without_ofJson_written (known others : List String) (v : Json) :
    (ofJson (Rule.written known) v).mapRules (Rule.without (onlyOne known others)) =
      (ofJson (Rule.written others) v).mapRules (Rule.without (onlyOne known others)) := by
  rw [mapRules_ofJson, mapRules_ofJson]
  congr
  funext key raw
  exact without_written known others key raw

theorem compile_mono {known more : List String} (h : known ⊆ more) {v : Json} {t : Tree}
    (ht : compile known v = .ok t) : ∃ u, compile more v = .ok u := by
  obtain ⟨haccepts, -⟩ := (compile_ok v).mp ht
  have hmore : accepts (Rule.accepted more) v = true :=
    accepts_mono (fun _ _ => Rule.accepted_mono h) v haccepts
  exact ⟨_, (compile_ok v).mpr ⟨hmore, rfl⟩⟩

/-- Trees of one value differ at most in the conditions under names that are registered for
only one of them, which no evaluation shows; with more names no value is refused that was
not refused before. -/
theorem compile_independent (v : Json) (known others : List String) :
    (∀ t u : Tree, compile known v = .ok t → compile others v = .ok u →
      t.mapRules (Rule.without (onlyOne known others)) =
          u.mapRules (Rule.without (onlyOne known others)) ∧
        ∀ (e : Engine) (r : Request) (s : State),
          e.evaluate (some t) r s = e.evaluate (some u) r s) ∧
      (known ⊆ others → ∀ t, compile known v = .ok t → ∃ u, compile others v = .ok u) := by
  refine ⟨?_, fun h t ht => compile_mono h ht⟩
  intro t u ht hu
  obtain ⟨-, rfl⟩ := (compile_ok v).mp ht
  obtain ⟨-, rfl⟩ := (compile_ok v).mp hu
  refine ⟨without_ofJson_written known others v, fun e r s => ?_⟩
  simp only [Engine.evaluate, Engine.tree_ofJson_written known v,
    Engine.tree_ofJson_written others v]

def hostInGroup : Json :=
  .object [("or", .array [.object [("host", .array [.text "a.example"])]])]

def hostInGroupTree (condition : Option Condition) : Tree :=
  .node [] [] [.node [⟨"host", .array [.text "a.example"], condition⟩] [] [] none] none

theorem compile_independent_host :
    compile [] hostInGroup = .ok (hostInGroupTree (some (.host ["a.example"]))) ∧
      compile ["host"] hostInGroup = .ok (hostInGroupTree none) ∧
      ∀ (e : Engine) (r : Request) (s : State),
        e.evaluate (some (hostInGroupTree (some (.host ["a.example"])))) r s =
          e.evaluate (some (hostInGroupTree none)) r s :=
  ⟨rfl, rfl, ((compile_independent hostInGroup [] ["host"]).1 _ _ rfl rfl).2⟩

end Tree

end Targeting
