import Targeting.Proofs.Evaluation
import Targeting.Proofs.KnownNames
import Targeting.Proofs.Quiet
import Targeting.Registry.Stock

/-!
# Registering a rule

What is registered under a name matters to the rules with that key and to nothing else
(`register_local`): not to compiling criteria without it (`Tree.compile_congr`), nor to
evaluating trees without it. A rule with the key is decided by the registered rule alone,
from the value that it was made from; the condition that it may carry is not looked at
(`rule_custom`).
-/

namespace Targeting

-- ---------------------------------------------------------------------------
-- Compiling
-- ---------------------------------------------------------------------------

namespace Tree

variable {registered others : List String}

theorem ruleCompile_congr {key : String} (h : key ∈ registered ↔ key ∈ others) (raw : Json) :
    Rule.compile registered key raw = Rule.compile others key raw := by
  simp only [Rule.compile, h]

-- Of the registered names only those matter that are keys of rules.
mutual
theorem compile_congr : (v : Json) → (∀ m ∈ ruleMembers v, m.1 ∈ registered ↔ m.1 ∈ others) →
    compile registered v = compile others v
  | .object members, h => compileMembers_congr members h
  | .null, _ | .bool _, _ | .integer _, _ | .real _, _ | .text _, _ | .array _, _ => rfl
theorem compileMembers_congr : (members : List (String × Json)) →
    (∀ m ∈ ruleMembersIn members, m.1 ∈ registered ↔ m.1 ∈ others) →
    compileMembers registered members = compileMembers others members
  | [], _ => rfl
  | (key, raw) :: rest, h => by
    rw [ruleMembersIn, List.forall_mem_append] at h
    obtain ⟨hkey, hrest⟩ := h
    rw [compileMembers, compileMembers, compileMembers_congr rest hrest]
    by_cases hg : key = "and" ∨ key = "or"
    · rw [if_pos hg] at hkey
      rw [compileSubtrees_congr key raw hkey]
      rcases hg with rfl | rfl <;> rfl
    · rw [if_neg hg] at hkey
      obtain ⟨ha, ho⟩ := not_or.mp hg
      simp only [if_neg ha, if_neg ho]
      by_cases hr : key = "ruleset"
      · rw [if_pos hr, if_pos hr]
      · rw [if_neg hr, List.forall_mem_singleton] at hkey
        rw [if_neg hr, if_neg hr, ruleCompile_congr hkey]
theorem compileSubtrees_congr (key : String) : (raw : Json) →
    (∀ m ∈ ruleMembersOfGroup raw, m.1 ∈ registered ↔ m.1 ∈ others) →
    compileSubtrees registered key raw = compileSubtrees others key raw
  | .array items, h => compileAll_congr items h
  | .null, _ | .bool _, _ | .integer _, _ | .real _, _ | .text _, _ | .object _, _ => rfl
theorem compileAll_congr : (items : List Json) →
    (∀ m ∈ ruleMembersOfAll items, m.1 ∈ registered ↔ m.1 ∈ others) →
    compileAll registered items = compileAll others items
  | [], _ => rfl
  | item :: rest, h => by
    rw [ruleMembersOfAll, List.forall_mem_append] at h
    rw [compileAll, compileAll, compile_congr item h.1, compileAll_congr rest h.2]
end

/-- Whatever was registered, a rule holds the value that it was made from. -/
theorem mem_ruleMembers {v : Json} {t : Tree} (h : compile registered v = .ok t) {rule : Rule}
    (hrule : rule ∈ t.occurrences) : (rule.key, rule.raw) ∈ ruleMembers v := by
  obtain ⟨-, rfl⟩ := (compile_ok v).mp h
  obtain ⟨m, hm, rfl⟩ := exists_of_mem_ofJson v hrule
  exact hm

end Tree

-- ---------------------------------------------------------------------------
-- Rules that are registered
-- ---------------------------------------------------------------------------

namespace CustomRule

def passes (custom : CustomRule) (r : Request) (rule : Rule) : Bool :=
  match custom rule.raw r with
  | .bool false => false
  | _ => true

def effects (custom : CustomRule) (r : Request) (rule : Rule) : List Effect :=
  .ruleCalled rule.key ::
    match custom rule.raw r with
    | .bool _ => []
    | value => [.warned (.invalidReturn rule.key value)]

end CustomRule

namespace Effect

/-- A call of the rule registered under the name, or a warning about a rule with that key. -/
def concerns (name : String) : Effect → Bool
  | .ruleCalled called => called = name
  | .warned warning => warning.rule = name
  | _ => false

theorem concerns_of_slot {name : String} {x : Effect} (h : x.slot?.isSome) :
    x.concerns name = false := by
  cases x with
  | ruleCalled _ | warned _ => cases h
  | _ => rfl

end Effect

namespace Engine

variable {e : Engine} {r : Request} {s : State} {subject : Rule}

def register (e : Engine) (name : String) (custom : CustomRule) : Engine :=
  { e with registry := e.registry.register name custom }

/-- All that a registered rule does. -/
theorem rule_custom {custom : CustomRule} (h : e.registry.meaning subject.key = .custom custom) :
    e.rule r subject s = ⟨custom.passes r subject, s, custom.effects r subject⟩ := by
  unfold Engine.rule CustomRule.passes CustomRule.effects
  rw [h]
  cases hv : custom subject.raw r with
  | bool b => cases b <;> simp [hv, Step.also, Step.verdict]
  | _ => simp [hv, Step.also, passWith, Step.pass, Step.verdict]

theorem rule_register_of_ne {name : String} (custom : CustomRule) (h : subject.key ≠ name) :
    (e.register name custom).rule r subject = e.rule r subject := by
  unfold Engine.rule register
  rw [Registry.meaning_register_of_ne e.registry custom h]
  rfl

theorem tree_register {name : String} (custom : CustomRule) {t : Tree}
    (h : ∀ rule ∈ t.occurrences, rule.key ≠ name) :
    ((e.register name custom).tree r t).quiet = (e.tree r t).quiet :=
  tree_quiet_congr fun rule hrule => by rw [rule_register_of_ne custom (h rule hrule)]

-- ---------------------------------------------------------------------------
-- Visits
-- ---------------------------------------------------------------------------

theorem complaint_rule {warning : Warning} (h : e.complaint? r subject = some warning) :
    warning.rule = subject.key := by
  unfold complaint? at h
  cases hr : e.reading subject with
  | condition c => simp [hr] at h
  | custom custom =>
    rw [hr] at h
    cases hv : custom subject.raw r <;> simp [hv] at h <;> simp [← h, Warning.rule]
  | _ =>
    simp only [hr, Option.some.injEq] at h
    simp [← h, Warning.rule]

theorem effects_custom {custom : CustomRule}
    (h : e.registry.meaning subject.key = .custom custom) :
    e.effects r s.cache subject = custom.effects r subject := by
  have hrule := (rule_eq (r := r) (s := s)).symm.trans (rule_custom h)
  exact congrArg Outcome.effects hrule

theorem effects_concerns_self (custom : CustomRule) :
    (custom.effects r subject).filter (Effect.concerns subject.key) =
      custom.effects r subject := by
  refine List.filter_eq_self.mpr fun x hx => ?_
  rw [CustomRule.effects, List.mem_cons] at hx
  rcases hx with rfl | hx
  · simp [Effect.concerns]
  · split at hx
    · cases hx
    · rw [List.mem_singleton.mp hx]
      simp [Effect.concerns, Warning.rule]

theorem effects_concerns_of_ne {name : String} (h : subject.key ≠ name) (c : Cache) :
    (e.effects r c subject).filter (Effect.concerns name) = [] := by
  refine List.filter_eq_nil_iff.mpr fun x hx => ?_
  simp only [effects, List.mem_append, Option.mem_toList, Option.map_eq_some_iff] at hx
  obtain (⟨called, hcalled, rfl⟩ | hslot) | ⟨warning, hwarning, rfl⟩ := hx
  · have hkey : called = subject.key := by
      unfold called? at hcalled
      split at hcalled <;> simp_all
    simp [Effect.concerns, hkey, h]
  · simp [Effect.concerns_of_slot (inquiries_slot hslot)]
  · simp [Effect.concerns, complaint_rule hwarning, h]

/-- Of the visits, those of rules with the key call the registered rule, and no other does. -/
theorem visit_concerns {name : String} {custom : CustomRule}
    (h : e.registry.meaning name = .custom custom) (rules : List Rule) :
    (e.visit r rules s).2.filter (Effect.concerns name) =
      (rules.filter (·.key = name)).flatMap (custom.effects r) := by
  induction rules generalizing s with
  | nil => rfl
  | cons rule rest ih =>
    simp only [visit, List.filter_append, ih]
    by_cases hk : rule.key = name
    · subst hk
      rw [effects_custom h, effects_concerns_self, List.filter_cons_of_pos (by simp),
        List.flatMap_cons]
    · rw [effects_concerns_of_ne hk, List.filter_cons_of_neg (by simpa using hk)]
      rfl

/-- What the evaluation does about rules with the name is what the registered rule does for
each visited rule with that key. -/
theorem evaluate_concerns {name : String} {custom : CustomRule}
    (h : e.registry.meaning name = .custom custom) (t : Tree) :
    (e.evaluate (some t) r s).effects.filter (Effect.concerns name) =
      ((e.visited r s.cache t).filter (·.key = name)).flatMap (custom.effects r) := by
  rw [← visit_concerns h, ← evaluate_effects, List.filter_filter]
  congr
  funext x
  cases x <;> simp [Effect.concerns, Effect.ofRule]

/-- Registering a rule under a name matters to the rules with that key only: criteria
without it compile to the same, trees without it are evaluated the same, and no compiled
tree has a rule whose key is the name of a group. Every rule with the key, whenever it was
compiled and whatever it carries, is then decided by the registered rule from the value
that it was made from, leaves the state as it is, and asks nobody else. -/
theorem register_local (e : Engine) (name : String) (custom : CustomRule) :
    (∀ v : Json, name ∉ Tree.ruleKeys v → (e.register name custom).compile v = e.compile v) ∧
      (∀ t : Tree, (∀ rule ∈ t.occurrences, rule.key ≠ name) → ∀ (r : Request) (s : State),
        ((e.register name custom).evaluate (some t) r s).quiet =
          (e.evaluate (some t) r s).quiet) ∧
      (name ∈ Tree.structural → (∀ v, (e.register name custom).compile v = e.compile v) ∧
        ∀ (registered : List String) (v : Json) (t : Tree),
          Tree.compile registered v = .ok t → ∀ (r : Request) (s : State),
            ((e.register name custom).evaluate (some t) r s).quiet =
              (e.evaluate (some t) r s).quiet) ∧
      (∀ (registered : List String) (v : Json) (t : Tree), Tree.compile registered v = .ok t →
        ∀ rule ∈ t.occurrences, (rule.key, rule.raw) ∈ Tree.ruleMembers v) ∧
      (∀ rule : Rule, rule.key = name → ∀ (r : Request) (s : State),
        (e.register name custom).rule r rule s =
          ⟨custom.passes r rule, s, custom.effects r rule⟩) ∧
      ∀ (t : Tree) (r : Request) (s : State),
        ((e.register name custom).evaluate (some t) r s).effects.filter
            (Effect.concerns name) =
          (((e.register name custom).visited r s.cache t).filter (·.key = name)).flatMap
            (custom.effects r) := by
  have hcompile : ∀ v : Json, name ∉ Tree.ruleKeys v →
      (e.register name custom).compile v = e.compile v := by
    intro v hv
    refine Tree.compile_congr v fun m hm => ?_
    have hne : m.1 ≠ name := fun h => hv (h ▸ List.mem_map_of_mem hm)
    rw [register, Registry.mem_names_register, or_iff_right hne]
  have hevaluate : ∀ t : Tree, (∀ rule ∈ t.occurrences, rule.key ≠ name) →
      ∀ (r : Request) (s : State), ((e.register name custom).evaluate (some t) r s).quiet =
        (e.evaluate (some t) r s).quiet := by
    intro t ht r s
    exact evaluate_quiet_of_tree (tree_register custom ht) s
  have hmeaning : (e.register name custom).registry.meaning name = .custom custom :=
    Registry.meaning_register_self ..
  refine ⟨hcompile, hevaluate, fun hname => ⟨fun v => ?_, ?_⟩,
    fun _ _ _ ht _ hrule => Tree.mem_ruleMembers ht hrule, ?_,
    fun t r s => evaluate_concerns hmeaning t⟩
  · refine hcompile v fun hv => ?_
    obtain ⟨m, hm, rfl⟩ := List.mem_map.mp hv
    exact Tree.not_structural v m hm hname
  · intro registered v t ht
    refine hevaluate t fun rule hrule hkey => ?_
    exact Tree.not_structural v _ (Tree.mem_ruleMembers ht hrule) (hkey ▸ hname)
  · intro rule hkey r s
    exact rule_custom (hkey ▸ hmeaning)

/-- The condition on the bucket is not looked at any more, and the value of the rule is no
Boolean. -/
theorem register_local_bucket :
    "bucket" ∉ Tree.ruleKeys Tree.hostInGroup ∧
      (locator.register "bucket" (StockRule.run .echo)).compile Tree.hostInGroup =
        locator.compile Tree.hostInGroup ∧
      (∀ rule ∈ (Tree.hostInGroupTree none).occurrences, rule.key ≠ "bucket") ∧
      ((locator.register "bucket" (StockRule.run .echo)).evaluate
          (some (Tree.hostInGroupTree none)) visitor visitorState).quiet =
        (locator.evaluate (some (Tree.hostInGroupTree none)) visitor visitorState).quiet ∧
      "or" ∈ Tree.structural ∧
      Tree.compile ["host"] Tree.hostInGroup = .ok (Tree.hostInGroupTree none) ∧
      (∀ rule ∈ (Tree.hostInGroupTree none).occurrences,
        (rule.key, rule.raw) ∈ Tree.ruleMembers Tree.hostInGroup) ∧
      ((locator.register "or" (StockRule.run .echo)).evaluate
          (some (Tree.hostInGroupTree none)) visitor visitorState).quiet =
        (locator.evaluate (some (Tree.hostInGroupTree none)) visitor visitorState).quiet ∧
      (locator.register "bucket" (StockRule.run .echo)).rule visitor
          ⟨"bucket", .null, some (.bucket [⟨90, 95⟩])⟩ .fresh =
        ⟨true, .fresh, [.ruleCalled "bucket", .warned (.invalidReturn "bucket" .null)]⟩ := by
  obtain ⟨hcompile, hevaluate, -, hraw, hrule, -⟩ :=
    register_local locator "bucket" (StockRule.run .echo)
  obtain ⟨-, -, hgroup, -⟩ := register_local locator "or" (StockRule.run .echo)
  have hkeys : "bucket" ∉ Tree.ruleKeys Tree.hostInGroup := by decide
  have hrules : ∀ rule ∈ (Tree.hostInGroupTree none).occurrences, rule.key ≠ "bucket" := by decide
  have hor : "or" ∈ Tree.structural := by decide
  exact ⟨hkeys, hcompile _ hkeys, hrules, hevaluate _ hrules visitor visitorState, hor, rfl,
    hraw ["host"] Tree.hostInGroup _ rfl,
    (hgroup hor).2 ["host"] Tree.hostInGroup _ rfl visitor visitorState,
    hrule _ rfl visitor .fresh⟩

end Engine

end Targeting
