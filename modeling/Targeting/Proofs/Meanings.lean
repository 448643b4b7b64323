import Targeting.Proofs.Decompilation
import Targeting.Proofs.Encoding
import Targeting.Proofs.Evaluation
import Targeting.Proofs.KnownNames
import Targeting.Proofs.LastWrites

/-!
# What keys mean

A key means the last rule that was registered under it, else the kind of condition of that
name (`Registry.Means`). A tree that an engine compiled leaves the conditions out under the
names that are registered in that engine, and only there, so that nothing in it waits to be
compiled when the same engine evaluates it.
-/

namespace Targeting

-- ---------------------------------------------------------------------------
-- Registrations
-- ---------------------------------------------------------------------------

namespace Registry

def ofList (entries : List (String × CustomRule)) : Registry :=
  entries.foldl (fun registry entry => registry.register entry.1 entry.2) empty

/-- What the key means after the registrations. -/
inductive Means (entries : List (String × CustomRule)) (key : String) : Meaning → Prop
  | custom {before after : List (String × CustomRule)} {rule : CustomRule}
      (split : entries = before ++ (key, rule) :: after) (last : key ∉ after.map (·.1)) :
      Means entries key (.custom rule)
  | condition {kind : Condition.Kind} (absent : key ∉ entries.map (·.1))
      (name : kind.name = key) : Means entries key (.condition kind)
  | unknown (absent : key ∉ entries.map (·.1)) (name : ∀ kind, Condition.Kind.name kind ≠ key) :
      Means entries key .unknown

section
variable {entries : List (String × CustomRule)} {key : String}

def registered? (key : String) (entry : String × CustomRule) : Option CustomRule :=
  if entry.1 = key then some entry.2 else none

theorem get?_ofList (entries : List (String × CustomRule)) (key : String) :
    Assoc.get? (ofList entries) key = lastOf (registered? key) entries := by
  have hstep (registry : Registry) (entry : String × CustomRule) :
      Assoc.get? (registry.register entry.1 entry.2) key =
        (registered? key entry).or (Assoc.get? registry key) := by
    rw [get?_register]
    by_cases h : entry.1 = key
    · simp [registered?, h]
    · simp [registered?, h, Ne.symm h]
  exact (found_foldl (fun registry : Registry => Assoc.get? registry key) hstep entries empty).trans
    Option.or_none

theorem registered?_eq_none {entry : String × CustomRule} :
    registered? key entry = none ↔ entry.1 ≠ key := by
  simp [registered?]

theorem get?_ofList_eq_none :
    Assoc.get? (ofList entries) key = none ↔ key ∉ entries.map (·.1) := by
  simp only [get?_ofList, lastOf_eq_none, registered?_eq_none, List.mem_map, not_exists, not_and]

theorem get?_ofList_eq_some {rule : CustomRule} :
    Assoc.get? (ofList entries) key = some rule ↔
      ∃ before after, entries = before ++ (key, rule) :: after ∧ key ∉ after.map (·.1) := by
  simp only [get?_ofList, lastOf_eq_some, registered?_eq_none, List.mem_map, not_exists, not_and]
  constructor
  · rintro ⟨before, ⟨name, custom⟩, after, rfl, hrule, hlast⟩
    obtain ⟨rfl, rfl⟩ : name = key ∧ custom = rule := by simpa [registered?] using hrule
    exact ⟨before, after, rfl, hlast⟩
  · rintro ⟨before, after, rfl, hlast⟩
    exact ⟨before, _, after, rfl, by simp [registered?], hlast⟩

theorem meaning_ofList (entries : List (String × CustomRule)) (key : String) (m : Meaning) :
    (ofList entries).meaning key = m ↔ Means entries key m := by
  rw [meaning]
  cases hget : Assoc.get? (ofList entries) key with
  | some rule =>
    obtain ⟨before, after, hsplit, hlast⟩ := get?_ofList_eq_some.mp hget
    have hmem : key ∈ entries.map (·.1) := by simp [hsplit]
    constructor
    · rintro rfl
      exact .custom hsplit hlast
    · rintro (⟨hother, hotherLast⟩ | ⟨habsent, -⟩ | ⟨habsent, -⟩)
      · have hsame := get?_ofList_eq_some.mpr ⟨_, _, hother, hotherLast⟩
        rw [hget, Option.some.injEq] at hsame
        rw [hsame]
      · exact absurd hmem habsent
      · exact absurd hmem habsent
  | none =>
    have habsent := get?_ofList_eq_none.mp hget
    have hcustom {before after} {rule : CustomRule} :
        entries ≠ before ++ (key, rule) :: after := by
      rintro rfl
      simp at habsent
    cases hname : Condition.Kind.ofName? key with
    | some kind =>
      have hkind := (Condition.Kind.ofName?_eq_some.mp hname).symm
      constructor
      · rintro rfl
        exact .condition habsent hkind
      · rintro (⟨hsplit, -⟩ | ⟨-, hother⟩ | ⟨-, hother⟩)
        · exact absurd hsplit hcustom
        · rw [← hother, Condition.Kind.ofName?_name, Option.some.injEq] at hname
          rw [hname]
        · exact absurd hkind (hother kind)
    | none =>
      have hkind (kind : Condition.Kind) : kind.name ≠ key := by
        rintro rfl
        simp [Condition.Kind.ofName?_name] at hname
      constructor
      · rintro rfl
        exact .unknown habsent hkind
      · rintro (⟨hsplit, -⟩ | ⟨-, hother⟩ | -)
        · exact absurd hsplit hcustom
        · exact absurd hother (hkind _)
        · rfl

theorem mem_names_ofList {name : String} :
    name ∈ (ofList entries).names ↔ ∃ rule, (name, rule) ∈ entries := by
  rw [mem_names, Ne, get?_ofList_eq_none]
  simp

-- ---------------------------------------------------------------------------
-- The order of the names
-- ---------------------------------------------------------------------------

theorem register_sorted {registry : Registry} (h : registry.names.Pairwise (· < ·))
    (name : String) (rule : CustomRule) :
    (registry.register name rule).names.Pairwise (· < ·) := by
  induction registry with
  | nil => exact List.pairwise_singleton _ _
  | cons entry rest ih =>
    obtain ⟨n, r⟩ := entry
    obtain ⟨hfirst, hrest⟩ := List.pairwise_cons.mp h
    rw [register]
    split
    · next hlt =>
      refine List.pairwise_cons.mpr ⟨List.forall_mem_cons.mpr ⟨hlt, fun other hmem => ?_⟩, h⟩
      exact String.lt_trans hlt (hfirst other hmem)
    split
    · next heq => exact heq ▸ h
    · next hge hne =>
      refine List.pairwise_cons.mpr ⟨fun other hmem => ?_, ih hrest⟩
      rcases mem_names_register.mp hmem with rfl | hmem
      · refine Decidable.byContradiction fun hle => hne ?_
        exact String.le_antisymm (String.not_lt.mp hge) (String.not_lt.mp hle)
      · exact hfirst other hmem

theorem ofList_sorted (entries : List (String × CustomRule)) :
    (ofList entries).names.Pairwise (· < ·) :=
  List.foldlRecOn (motive := fun registry : Registry => registry.names.Pairwise (· < ·)) entries _ .nil
    fun _ h entry _ => register_sorted h entry.1 entry.2

end

end Registry

-- ---------------------------------------------------------------------------
-- Compiled trees
-- ---------------------------------------------------------------------------

namespace Tree

-- A value that is accepted has no member that is not.
mutual
theorem accepts_ruleMembers {rule : String → Json → Bool} : (v : Json) →
    accepts rule v = true → ∀ m ∈ ruleMembers v, rule m.1 m.2 = true
  | .object members, h => accepts_ruleMembersIn members h
  | .null, _ | .bool _, _ | .integer _, _ | .real _, _ | .text _, _ | .array _, _ => nofun
theorem accepts_ruleMembersIn {rule : String → Json → Bool} : (members : List (String × Json)) →
    acceptsMembers rule members = true → ∀ m ∈ ruleMembersIn members, rule m.1 m.2 = true
  | [], _ => nofun
  | (key, raw) :: rest, h => by
    rw [acceptsMembers, Bool.and_eq_true] at h
    rw [ruleMembersIn, List.forall_mem_append]
    refine ⟨?_, accepts_ruleMembersIn rest h.2⟩
    by_cases hgroup : key = "and" ∨ key = "or"
    · rw [if_pos hgroup] at h ⊢
      exact accepts_ruleMembersOfGroup raw h.1
    rw [if_neg hgroup] at h ⊢
    by_cases hruleset : key = "ruleset"
    · rw [if_pos hruleset]
      nofun
    · rw [if_neg hruleset] at h ⊢
      exact List.forall_mem_singleton.mpr h.1
theorem accepts_ruleMembersOfGroup {rule : String → Json → Bool} : (raw : Json) →
    acceptsSubtrees rule raw = true → ∀ m ∈ ruleMembersOfGroup raw, rule m.1 m.2 = true
  | .array items, h => accepts_ruleMembersOfAll items h
  | .null, _ | .bool _, _ | .integer _, _ | .real _, _ | .text _, _ | .object _, _ => nofun
theorem accepts_ruleMembersOfAll {rule : String → Json → Bool} : (items : List Json) →
    acceptsAll rule items = true → ∀ m ∈ ruleMembersOfAll items, rule m.1 m.2 = true
  | [], _ => nofun
  | item :: rest, h => by
    rw [acceptsAll, Bool.and_eq_true] at h
    exact List.forall_mem_append.mpr
      ⟨accepts_ruleMembers item h.1, accepts_ruleMembersOfAll rest h.2⟩
end

theorem written_of_compile {registered : List String} {v : Json} {t : Tree}
    (h : compile registered v = .ok t) {rule : Rule} (hrule : rule ∈ t.occurrences) :
    Rule.accepted registered rule.key rule.raw = true ∧
      rule = Rule.written registered rule.key rule.raw := by
  obtain ⟨haccepts, rfl⟩ := (compile_ok v).mp h
  obtain ⟨m, hm, rfl⟩ := exists_of_mem_ofJson v hrule
  exact ⟨accepts_ruleMembers v haccepts m hm, rfl⟩

end Tree

theorem Registry.exists_custom_iff {registry : Registry} {key : String} :
    (∃ custom, registry.meaning key = .custom custom) ↔ key ∈ registry.names := by
  refine ⟨fun ⟨_, h⟩ => mem_names_of_meaning h, fun h => ?_⟩
  obtain ⟨custom, hcustom⟩ := Option.ne_none_iff_exists'.mp (mem_names.mp h)
  exact ⟨custom, by rw [meaning, hcustom]⟩

/-- The condition of the rule is left out exactly if its key means a registered rule. -/
structure Rule.CompiledFor (registry : Registry) (rule : Rule) : Prop where
  leftOut : ∀ kind, Condition.Kind.name kind = rule.key →
    (rule.condition = none ↔ ∃ custom, registry.meaning rule.key = .custom custom)
  /-- Also if there is no condition of that name. -/
  custom : ∀ custom, registry.meaning rule.key = .custom custom → rule.condition = none
  kept : ∀ c, rule.condition = some c →
    registry.meaning rule.key = .condition c.kind ∧ Condition.compile c.kind rule.raw = .ok c

namespace Engine

variable {e : Engine} {t : Tree} {rule : Rule}

/-- The engine made the tree, from a value or from a text. -/
def Compiles (e : Engine) (t : Tree) : Prop :=
  (∃ v, e.compile v = .ok t) ∨ ∃ text, e.compileText text = .ok t

/-- The rule is a condition that is compiled only when its turn comes. -/
def DefersRule (e : Engine) (rule : Rule) : Prop :=
  rule.condition = none ∧ ∃ kind, e.registry.meaning rule.key = .condition kind

theorem Compiles.exists_json (h : e.Compiles t) : ∃ v, e.compile v = .ok t := by
  obtain hv | ⟨text, htext⟩ := h
  · exact hv
  · rw [compileText, Tree.compileText] at htext
    cases hv : Json.ofText text Json.maxDepth with
    | ok v =>
      rw [hv] at htext
      exact ⟨v, htext⟩
    | error fault =>
      rw [hv] at htext
      cases htext

theorem Compiles.compiledFor (h : e.Compiles t) (hrule : rule ∈ t.occurrences) :
    rule.CompiledFor e.registry := by
  obtain ⟨v, hv⟩ := h.exists_json
  obtain ⟨haccepted, hwritten⟩ := Tree.written_of_compile hv hrule
  obtain ⟨hsome, hcompiled⟩ := Tree.written_condition haccepted
  rw [← hwritten] at hsome hcompiled
  constructor
  · intro kind hkind
    have hname := Condition.Kind.ofName?_eq_some.mpr hkind.symm
    rw [← Option.not_isSome_iff_eq_none, hsome, Registry.exists_custom_iff]
    simp [hname]
  · intro custom hcustom
    have hmem := Registry.mem_names_of_meaning hcustom
    rw [← Option.not_isSome_iff_eq_none, hsome]
    exact fun h => h.1 hmem
  · intro c hc
    obtain ⟨hname, hok⟩ := hcompiled c hc
    obtain ⟨habsent, -⟩ := hsome.mp (Option.isSome_of_eq_some hc)
    rw [Registry.mem_names, Ne, Decidable.not_not] at habsent
    refine ⟨?_, hok⟩
    rw [Registry.meaning, habsent, hname]

theorem Compiles.not_defers (h : e.Compiles t) (hrule : rule ∈ t.occurrences) :
    ¬ e.DefersRule rule := by
  rintro ⟨hnone, kind, hkind⟩
  have hname := Condition.Kind.ofName?_eq_some.mp (Registry.ofName?_of_meaning hkind)
  obtain ⟨custom, hcustom⟩ := ((h.compiledFor hrule).leftOut kind hname.symm).mp hnone
  rw [hkind] at hcustom
  cases hcustom

theorem complaint_of_not_defers (h : ¬ e.DefersRule rule) (r : Request) (key error : String) :
    e.complaint? r rule ≠ some (.invalidCriteria key error) := by
  intro hcomplaint
  unfold complaint? reading at hcomplaint
  cases hm : e.registry.meaning rule.key with
  | custom custom =>
    simp only [hm] at hcomplaint
    split at hcomplaint <;> cases hcomplaint
  | unknown =>
    simp only [hm] at hcomplaint
    cases hcomplaint
  | condition kind =>
    obtain ⟨c, hc⟩ := Option.ne_none_iff_exists'.mp fun hnone => h ⟨hnone, kind, hm⟩
    simp only [hm, hc] at hcomplaint
    cases hcomplaint

theorem Compiles.not_warned (h : e.Compiles t) (r : Request) (s : State) (key error : String) :
    .warned (.invalidCriteria key error) ∉ (e.evaluate (some t) r s).effects := by
  intro hmem
  have hwarning : Warning.invalidCriteria key error ∈
      (e.evaluate (some t) r s).effects.filterMap Effect.warning? :=
    List.mem_filterMap.mpr ⟨_, hmem, rfl⟩
  rw [(evaluate_leaves_visited t).warnings, List.mem_filterMap] at hwarning
  obtain ⟨rule, hvisited, hcomplaint⟩ := hwarning
  have hrule : rule ∈ t.occurrences := (Tree.visits_sublist t).mem hvisited
  exact complaint_of_not_defers (h.not_defers hrule) r key error hcomplaint

/-- After any registrations a key means what was last registered under it, else the kind of
condition of that name, and the names are sorted by their bytes. Whatever is registered in an
engine, in a tree that it compiled the conditions are left out exactly under the names that
are, so that no condition is left to be compiled when the engine evaluates the tree, and no
warning says that one cannot be. -/
theorem registrations_settle (entries : List (String × CustomRule)) :
    (∀ key m, (Registry.ofList entries).meaning key = m ↔ Registry.Means entries key m) ∧
      (Registry.ofList entries).names.Pairwise (fun a b => Text.utf8 a < Text.utf8 b) ∧
      (Registry.ofList entries).names.Nodup ∧
      (∀ name, name ∈ (Registry.ofList entries).names ↔ ∃ rule, (name, rule) ∈ entries) ∧
      ∀ (e : Engine) (t : Tree), e.Compiles t →
        (∀ rule ∈ t.occurrences, rule.CompiledFor e.registry ∧ ¬ e.DefersRule rule) ∧
        ∀ (r : Request) (s : State) (key error : String),
          .warned (.invalidCriteria key error) ∉ (e.evaluate (some t) r s).effects := by
  have hsorted := Registry.ofList_sorted entries
  refine ⟨Registry.meaning_ofList entries, hsorted.imp Text.utf8_lt, ?_,
    fun _ => Registry.mem_names_ofList, fun e t hcompiles => ?_⟩
  · refine hsorted.imp ?_
    rintro name _ hlt rfl
    exact String.lt_irrefl name hlt
  · exact ⟨fun rule hrule => ⟨hcompiles.compiledFor hrule, hcompiles.not_defers hrule⟩,
      hcompiles.not_warned⟩

def plans : List (String × CustomRule) :=
  [("plan", fun _ _ => .null), ("host", fun _ _ => .bool true), ("plan", fun _ _ => .bool false)]

def planned : Engine := { initial with registry := .ofList plans }

def plannedTree : Tree :=
  .node [⟨"host", .integer 80, none⟩, ⟨"visitor", .text "new", some (.visitor true)⟩] []
    [.node [⟨"plan", .null, none⟩, ⟨"weather", .null, none⟩] [] [] none] none

theorem registrations_settle_plans :
    planned.registry.names = ["host", "plan"] ∧
      planned.registry.meaning "plan" = .custom (fun _ _ => .bool false) ∧
      planned.compile plannedTree.toJson = .ok plannedTree ∧
      (∀ rule ∈ plannedTree.occurrences, ¬ planned.DefersRule rule) ∧
      (∀ key error, .warned (.invalidCriteria key error) ∉
        (planned.evaluate (some plannedTree) .empty .fresh).effects) := by
  obtain ⟨hmeaning, -, -, -, htrees⟩ := registrations_settle plans
  have hlast : plans = plans.take 2 ++ ("plan", fun _ _ => .bool false) :: [] := rfl
  have hplan : Registry.Means plans "plan" (.custom fun _ _ => .bool false) :=
    .custom hlast List.not_mem_nil
  have hcompile : planned.compile plannedTree.toJson = .ok plannedTree := rfl
  obtain ⟨hrules, hwarnings⟩ := htrees planned plannedTree (.inl ⟨_, hcompile⟩)
  exact ⟨rfl, (hmeaning "plan" _).mpr hplan, hcompile, fun rule hrule => (hrules rule hrule).2,
    hwarnings .empty .fresh⟩

end Engine

end Targeting
