import Mathlib.Data.List.Forall2
import Targeting.Proofs.Reordering

/-!
# Criteria read off a tree

A compiled tree holds at every node what its value holds there, nothing more and in the same
order (`Tree.Mirrors`). The rules keep their order and each group stands for itself, so it does
not matter where the groups are among the members (`Json.Shifted`), and the criteria written
from a compiled tree (`Tree.toJson`) compile to that tree.
-/

namespace Targeting

-- ---------------------------------------------------------------------------
-- What a node keeps
-- ---------------------------------------------------------------------------

def Rule.member (x : Rule) : String × Json := (x.key, x.raw)

namespace Tree

/-- What the rules and the rule set of a node have from its value. -/
structure Keeps (registered : List String) (t : Tree) (v : Json) : Prop where
  /-- The rules are all members but groups and rule set, in order and with their values. -/
  members : t.rules.map Rule.member = v.ownRules
  ruleset : t.ruleset = v.member? "ruleset"
  /-- Conditions stand under the names of kinds that are not registered, and nowhere else. -/
  compiled : ∀ x ∈ t.rules, x.condition.isSome ↔
    x.key ∉ registered ∧ ∃ kind, Condition.Kind.ofName? x.key = some kind
  condition : ∀ x ∈ t.rules, ∀ c, x.condition = some c →
    Condition.Kind.ofName? x.key = some c.kind ∧ Condition.compile c.kind x.raw = .ok c
  distinct : (t.rules.map (·.key)).Nodup
  /-- Every rule is found under its key. -/
  found : ∀ m ∈ v.ownRules, (t.rule? m.1).map Rule.member = some m

/-- The node keeps what its value says, and the groups have one such tree for each item. -/
inductive Mirrors (registered : List String) : Tree → Json → Prop
  | node {t : Tree} {v : Json} (keeps : t.Keeps registered v)
    (all : List.Forall₂ (Mirrors registered) t.all (v.group "and"))
    (any : List.Forall₂ (Mirrors registered) t.any (v.group "or")) : Mirrors registered t v

theorem rule?_eq (t : Tree) (key : String) :
    (t.rule? key).map Rule.member =
      (Assoc.get? (t.rules.map Rule.member) key).map fun raw => (key, raw) := by
  rw [rule?]
  induction t.rules with
  | nil => rfl
  | cons x rest ih =>
    rw [List.map_cons, Rule.member, Assoc.get?_cons]
    by_cases hx : x.key = key
    · simp [hx, Rule.member]
    · simp [hx, Ne.symm hx, ih]

theorem written_member (registered : List String) (key : String) (raw : Json) :
    (Rule.written registered key raw).member = (key, raw) := rfl

section
variable {registered : List String} {key : String} {raw : Json} {v : Json}

/-- An accepted member under the name of a kind has a condition if the name is not registered. -/
theorem written_condition (h : Rule.accepted registered key raw = true) :
    ((Rule.written registered key raw).condition.isSome ↔
      key ∉ registered ∧ ∃ kind, Condition.Kind.ofName? key = some kind) ∧
      ∀ c, (Rule.written registered key raw).condition = some c →
        Condition.Kind.ofName? key = some c.kind ∧ Condition.compile c.kind raw = .ok c := by
  refine ⟨?_, fun c => Rule.condition_of_written⟩
  simp only [Rule.accepted, Bool.or_eq_true, decide_eq_true_eq] at h
  by_cases hregistered : key ∈ registered
  · simp [Rule.written, hregistered]
  replace h := h.resolve_left hregistered
  cases hname : Condition.Kind.ofName? key with
  | none => simp [Rule.written, Rule.meant, hregistered, hname]
  | some kind =>
    rw [hname, Option.all_some] at h
    cases hc : Condition.compile kind raw with
    | error e => simp [hc, Except.isOk, Except.toBool] at h
    | ok c => simp [Rule.written, Rule.meant, hregistered, hname, hc, Except.toOption]

theorem keeps_ofJson (hv : v.Distinct) (h : accepts (Rule.accepted registered) v = true) :
    (ofJson (Rule.written registered) v).Keeps registered v := by
  have hmembers : (ofJson (Rule.written registered) v).rules.map Rule.member = v.ownRules := by
    simp [ofJson_eq, rules, Function.comp_def, written_member]
  have hconditions : ∀ x ∈ (ofJson (Rule.written registered) v).rules,
      ∃ m ∈ v.ownRules, Rule.written registered m.1 m.2 = x := by
    simp [ofJson_eq, rules]
  refine ⟨hmembers, by rw [ofJson_eq, ruleset], ?_, ?_, ?_, ?_⟩
  · intro x hx
    obtain ⟨m, hm, rfl⟩ := hconditions x hx
    exact (written_condition (accepted_of_mem_ownRules h hm)).1
  · intro x hx
    obtain ⟨m, hm, rfl⟩ := hconditions x hx
    exact (written_condition (accepted_of_mem_ownRules h hm)).2
  · have hkeys := hv.ownRules
    rw [← hmembers] at hkeys
    simpa [Assoc.keys, Function.comp_def, Rule.member] using hkeys
  · rintro ⟨key, raw⟩ hm
    rw [rule?_eq, hmembers, Assoc.get?_of_mem hv.ownRules hm, Option.map_some]

theorem mirrors_ofJson (hv : v.Distinct) (h : accepts (Rule.accepted registered) v = true) :
    (ofJson (Rule.written registered) v).Mirrors registered v := by
  -- the groups are lists of values that are accepted, and with distinct names, in their turn
  induction v using Json.group_induction with
  | node v ih =>
    have hgroup : ∀ name, name = "and" ∨ name = "or" →
        List.Forall₂ (Mirrors registered)
          ((v.group name).map (ofJson (Rule.written registered))) (v.group name) := by
      intro name hname
      rw [List.forall₂_map_left_iff, List.forall₂_same]
      exact fun w hw => ih name w hw (hv.group hw) (accepts_of_mem_group h hname hw)
    refine .node (keeps_ofJson hv h) ?_ ?_
    · rw [ofJson_eq]
      exact hgroup "and" (.inl rfl)
    · rw [ofJson_eq]
      exact hgroup "or" (.inr rfl)

end

-- ---------------------------------------------------------------------------
-- Criteria written from a tree
-- ---------------------------------------------------------------------------

def writeGroups (all any : List Json) (ruleset : Option Json) : List (String × Json) :=
  ("and", .array all) :: ("or", .array any) :: (ruleset.map fun raw => ("ruleset", raw)).toList

def writeNode (own : List (String × Json)) (all any : List Json) (ruleset : Option Json) : Json :=
  .object (own ++ writeGroups all any ruleset)

mutual
/-- The criteria that the tree stands for. -/
def toJson : Tree → Json
  | .node rules all any ruleset =>
    writeNode (rules.map Rule.member) (toJsonAll all) (toJsonAll any) ruleset
def toJsonAll : List Tree → List Json
  | [] => []
  | t :: ts => t.toJson :: toJsonAll ts
end

theorem toJsonAll_eq (ts : List Tree) : toJsonAll ts = ts.map toJson := by
  induction ts with
  | nil => rfl
  | cons t ts ih => rw [toJsonAll, ih, List.map_cons]

section
variable {own : List (String × Json)} {all any : List Json} {ruleset : Option Json}

theorem keys_writeGroups : (Assoc.keys (writeGroups all any ruleset)).Sublist structural := by
  cases ruleset with
  | none => exact List.sublist_append_left ["and", "or"] ["ruleset"]
  | some raw => exact .refl structural

theorem ownRules_writeNode (h : ∀ m ∈ own, m.1 ∉ structural) :
    (writeNode own all any ruleset).ownRules = own := by
  have hown : (own.filter fun m => m.1 ∉ structural) = own := by simpa using h
  have hgroups : ((writeGroups all any ruleset).filter fun m => m.1 ∉ structural) = [] := by
    rw [List.filter_eq_nil_iff]
    intro m hm
    simpa using keys_writeGroups.mem (List.mem_map_of_mem hm)
  rw [Json.ownRules, writeNode, Json.members, List.filter_append, hown, hgroups, List.append_nil]

theorem member?_writeNode (h : ∀ m ∈ own, m.1 ∉ structural) {key : String}
    (hkey : key ∈ structural) :
    (writeNode own all any ruleset).member? key =
      Assoc.get? (writeGroups all any ruleset) key := by
  have hown : List.lookup key own = none := by
    rw [List.lookup_eq_none_iff]
    intro m hm
    have hne : key ≠ m.1 := fun heq => h m hm (heq ▸ hkey)
    simpa using hne
  rw [writeNode, Json.member?_object, Assoc.get?, List.lookup_append, hown, Option.none_or,
    Assoc.get?]

theorem ofJson_writeNode {rule : String → Json → Rule} (h : ∀ m ∈ own, m.1 ∉ structural) :
    ofJson rule (writeNode own all any ruleset) =
      .node (own.map fun m => rule m.1 m.2) (all.map (ofJson rule)) (any.map (ofJson rule))
        ruleset := by
  have hall : (writeNode own all any ruleset).group "and" = all := by
    rw [Json.group, member?_writeNode h (by simp [structural])]
    rfl
  have hany : (writeNode own all any ruleset).group "or" = any := by
    rw [Json.group, member?_writeNode h (by simp [structural])]
    rfl
  have hruleset : (writeNode own all any ruleset).member? "ruleset" = ruleset := by
    rw [member?_writeNode h (by simp [structural])]
    cases ruleset <;> rfl
  rw [ofJson_eq, ownRules_writeNode h, hall, hany, hruleset]

theorem accepts_writeNode {accepted : String → Json → Bool}
    (h : ∀ m ∈ own, m.1 ∉ structural ∧ accepted m.1 m.2 = true)
    (hall : ∀ w ∈ all, accepts accepted w = true) (hany : ∀ w ∈ any, accepts accepted w = true) :
    accepts accepted (writeNode own all any ruleset) = true := by
  rw [writeNode, writeGroups, accepts, acceptsMembers_eq]
  simp only [List.all_append, List.all_cons, Bool.and_eq_true, List.all_eq_true]
  refine ⟨?_, ?_, ?_, ?_⟩
  · intro m hm
    rw [acceptsMember_rule (h m hm).1, (h m hm).2]
  · simpa [acceptsMember, acceptsSubtrees, acceptsAll_eq] using hall
  · simpa [acceptsMember, acceptsSubtrees, acceptsAll_eq] using hany
  · cases ruleset <;> simp [acceptsMember]

theorem distinct_writeNode (hkeys : (Assoc.keys own).Nodup)
    (h : ∀ m ∈ own, m.1 ∉ structural ∧ m.2.Distinct) (hall : ∀ w ∈ all, w.Distinct)
    (hany : ∀ w ∈ any, w.Distinct) (hruleset : ∀ raw, ruleset = some raw → raw.Distinct) :
    (writeNode own all any ruleset).Distinct := by
  rw [writeNode, Json.distinct_object]
  constructor
  · have hgroups : (Assoc.keys (writeGroups all any ruleset)).Nodup :=
      .sublist keys_writeGroups (by decide)
    rw [Assoc.keys, List.map_append, List.nodup_append]
    refine ⟨hkeys, hgroups, fun key hkey other hother heq => ?_⟩
    obtain ⟨m, hm, rfl⟩ := List.mem_map.mp hkey
    exact (h m hm).1 (heq ▸ keys_writeGroups.mem hother)
  · simp only [writeGroups, List.forall_mem_append, List.forall_mem_cons, Json.distinct_array]
    refine ⟨fun m hm => (h m hm).2, hall, hany, ?_⟩
    cases ruleset with
    | none => simp
    | some raw => simpa using hruleset raw rfl

end

section
variable {rule : String → Json → Rule} (hrule : ∀ key raw, (rule key raw).member = (key, raw))
include hrule

theorem toJson_ofJson (v : Json) :
    (ofJson rule v).toJson =
      writeNode v.ownRules ((v.group "and").map fun w => (ofJson rule w).toJson)
        ((v.group "or").map fun w => (ofJson rule w).toJson) (v.member? "ruleset") := by
  rw [ofJson_eq, toJson, toJsonAll_eq, toJsonAll_eq]
  simp only [List.map_map, Function.comp_def, hrule, List.map_id']

/-- Nothing of the tree is lost in the criteria written from it. -/
theorem ofJson_toJson (v : Json) : ofJson rule (ofJson rule v).toJson = ofJson rule v := by
  induction v using Json.group_induction with
  | node v ih =>
    have hgroup : ∀ name, ((v.group name).map fun w => (ofJson rule w).toJson).map (ofJson rule) =
        (v.group name).map (ofJson rule) := by
      intro name
      rw [List.map_map]
      exact List.map_congr_left (ih name)
    rw [toJson_ofJson hrule, ofJson_writeNode fun m hm => (Json.mem_ownRules.mp hm).2, hgroup,
      hgroup, ← ofJson_eq]

theorem accepts_toJson {accepted : String → Json → Bool} {v : Json}
    (h : accepts accepted v = true) : accepts accepted (ofJson rule v).toJson = true := by
  induction v using Json.group_induction with
  | node v ih =>
    have hgroup : ∀ name, name = "and" ∨ name = "or" →
        ∀ u ∈ (v.group name).map fun w => (ofJson rule w).toJson, accepts accepted u = true := by
      intro name hname
      rw [List.forall_mem_map]
      exact fun w hw => ih name w hw (accepts_of_mem_group h hname hw)
    rw [toJson_ofJson hrule]
    exact accepts_writeNode
      (fun m hm => ⟨(Json.mem_ownRules.mp hm).2, accepted_of_mem_ownRules h hm⟩)
      (hgroup "and" (.inl rfl)) (hgroup "or" (.inr rfl))

theorem distinct_toJson {v : Json} (hv : v.Distinct) : (ofJson rule v).toJson.Distinct := by
  induction v using Json.group_induction with
  | node v ih =>
    have hgroup : ∀ name, ∀ u ∈ (v.group name).map fun w => (ofJson rule w).toJson,
        u.Distinct := by
      intro name
      rw [List.forall_mem_map]
      exact fun w hw => ih name w hw (hv.group hw)
    rw [toJson_ofJson hrule]
    refine distinct_writeNode hv.ownRules (fun m hm => ?_) (hgroup "and") (hgroup "or")
      fun raw hraw => hv.member (Json.mem_members_of_member? hraw)
    obtain ⟨hmem, hkey⟩ := Json.mem_ownRules.mp hm
    exact ⟨hkey, hv.member hmem⟩

end

-- ---------------------------------------------------------------------------
-- Groups at another place
-- ---------------------------------------------------------------------------

end Tree

/-- The same criteria, with the groups and rule sets of nodes at another place among the
members, at any depth; the rules of a node stay in order. -/
inductive Json.Shifted : Json → Json → Prop
  | refl (v : Json) : Shifted v v
  | trans {u v w : Json} (huv : Shifted u v) (hvw : Shifted v w) : Shifted u w
  | members {members others : List (String × Json)} (h : members.Perm others)
    (hrules : (object members).ownRules = (object others).ownRules) :
    Shifted (.object members) (.object others)
  | item {key : String} (hkey : key = "and" ∨ key = "or")
    (before after : List (String × Json)) (left right : List Json) {v w : Json}
    (h : Shifted v w) :
    Shifted (.object (before ++ (key, .array (left ++ v :: right)) :: after))
      (.object (before ++ (key, .array (left ++ w :: right)) :: after))

theorem Json.Shifted.reordered {v w : Json} (h : v.Shifted w) : v.Reordered w := by
  induction h with
  | refl v => exact .refl v
  | trans _ _ ihuv ihvw => exact ihuv.trans ihvw
  | members hperm _ => exact .members hperm
  | item hkey before after left right _ ih => exact .item hkey before after left right ih

namespace Tree

section
variable {rule : String → Json → Rule}

theorem ofMembers_replace {key : String} (hkey : key = "and" ∨ key = "or") {raw other : Json}
    (h : ofSubtrees rule raw = ofSubtrees rule other) (before after : List (String × Json)) :
    ofMembers rule (before ++ (key, raw) :: after) =
      ofMembers rule (before ++ (key, other) :: after) := by
  induction before with
  | nil =>
    simp only [List.nil_append, ofMembers, h]
    rcases hkey with rfl | rfl <;> rfl
  | cons m rest ih =>
    rw [List.cons_append, List.cons_append, ofMembers, ih, ofMembers]

theorem ofJson_shifted {v w : Json} (h : v.Shifted w) (hv : v.Distinct) :
    ofJson rule v = ofJson rule w := by
  -- names that occur once are found wherever they stand, so `Distinct` is carried along
  induction h with
  | refl v => rfl
  | trans huv _ ihuv ihvw => exact (ihuv hv).trans (ihvw (huv.reordered.distinct hv))
  | @members members others hperm hrules =>
    have hlookup : ∀ name, (Json.object members).member? name =
        (Json.object others).member? name :=
      Assoc.get?_perm hperm hv.keys
    rw [ofJson_eq, ofJson_eq, hrules, Json.group, Json.group, Json.group, Json.group, hlookup,
      hlookup, hlookup]
  | item hkey before after left right h ih =>
    refine ofMembers_replace hkey ?_ before after
    simp only [ofSubtrees, ofAll_eq, List.map_append, List.map_cons]
    rw [ih]
    have hitems := hv.member (List.mem_append_right before List.mem_cons_self)
    exact Json.distinct_array.mp hitems _ (List.mem_append_right left List.mem_cons_self)

end

-- ---------------------------------------------------------------------------
-- Compilation
-- ---------------------------------------------------------------------------

/-- Compilation loses, repeats and reorders nothing. At every node the tree holds what the
value holds; the place of groups and rule sets does not matter; and the criteria written from
the tree are well formed and compile to the tree again. -/
theorem compile_lossless {registered : List String} {v : Json} {t : Tree} (hv : v.Distinct)
    (h : compile registered v = .ok t) :
    t.Mirrors registered v ∧ (∀ w, v.Shifted w → compile registered w = .ok t) ∧
      t.toJson.Distinct ∧ compile registered t.toJson = .ok t := by
  obtain ⟨haccepts, rfl⟩ := (compile_ok v).mp h
  have hmember := written_member registered
  refine ⟨mirrors_ofJson hv haccepts, fun w hw => ?_, distinct_toJson hmember hv, ?_⟩
  · have hsame := (alike_of_reordered hw.reordered hv).accepts (Rule.accepted registered)
    exact (compile_ok w).mpr ⟨hsame ▸ haccepts, ofJson_shifted hw hv⟩
  · exact (compile_ok _).mpr
      ⟨accepts_toJson hmember haccepts, (ofJson_toJson hmember v).symm⟩

def choiceFirst : Json :=
  .object [("or", .array [.object [("host", .array [.text "a.example"])], .null]),
    ("bucket", .array [.array [.integer 0, .integer 40]]), ("ruleset", .text "eu"),
    ("campaign", .integer 7)]

def choiceLast : Json :=
  .object [("bucket", .array [.array [.integer 0, .integer 40]]), ("campaign", .integer 7),
    ("ruleset", .text "eu"),
    ("or", .array [.object [("host", .array [.text "a.example"])], .null])]

def choiceTree : Tree :=
  .node [⟨"bucket", .array [.array [.integer 0, .integer 40]], some (.bucket [⟨0, 40⟩])⟩,
      ⟨"campaign", .integer 7, none⟩] []
    [.node [⟨"host", .array [.text "a.example"], none⟩] [] [] none, .empty] (some (.text "eu"))

theorem compile_lossless_choice :
    choiceFirst.Distinct ∧ compile ["host"] choiceFirst = .ok choiceTree ∧
      choiceFirst.Shifted choiceLast ∧ choiceTree.Mirrors ["host"] choiceFirst ∧
      compile ["host"] choiceLast = .ok choiceTree ∧ choiceTree.toJson.Distinct ∧
      compile ["host"] choiceTree.toJson = .ok choiceTree := by
  have hdistinct : choiceFirst.Distinct := by
    simp [choiceFirst, Json.Distinct, Json.DistinctItems, Json.DistinctMembers, Assoc.keys]
  have hshifted : choiceFirst.Shifted choiceLast := by
    have hmoved : ∀ o b r c : String × Json, [o, b, r, c].Perm [b, c, r, o] := by
      intro o b r c
      have hlast : ([o] ++ [b, r, c]).Perm ([b, r, c] ++ [o]) := List.perm_append_comm
      exact hlast.trans (.cons b (.swap c r [o]))
    exact .members (hmoved ..) rfl
  have hcompiles : compile ["host"] choiceFirst = .ok choiceTree := rfl
  obtain ⟨hmirrors, hlast, hdistinct', hagain⟩ := compile_lossless hdistinct hcompiles
  exact ⟨hdistinct, hcompiles, hshifted, hmirrors, hlast _ hshifted, hdistinct', hagain⟩

end Tree

end Targeting
