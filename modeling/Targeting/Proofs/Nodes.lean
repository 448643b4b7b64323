import Targeting.Proofs.Compilation

/-!
# Nodes of criteria

What a node has: rules of its own, and groups of further nodes (`Json.ownRules`, `Json.group`).
The tree of a node is put together from the two in any order of the members
(`Tree.ofJson_eq`), and what holds of a node because it holds of the nodes in its groups
holds of every value (`Json.group_induction`).
-/

namespace Targeting

-- ---------------------------------------------------------------------------
-- Members and groups
-- ---------------------------------------------------------------------------

namespace Json

def members : Json → List (String × Json)
  | .object members => members
  | _ => []

def items : Json → List Json
  | .array items => items
  | _ => []

def group (v : Json) (name : String) : List Json := (v.member? name).elim [] items

/-- The members of the node itself that are rules. -/
def ownRules (v : Json) : List (String × Json) := v.members.filter fun m => m.1 ∉ Tree.structural

section
variable {v w : Json} {name : String}

theorem member?_object (members : List (String × Json)) (name : String) :
    (object members).member? name = Assoc.get? members name := rfl

theorem mem_members_of_member? {raw : Json} (h : v.member? name = some raw) :
    (name, raw) ∈ v.members := by
  cases v with
  | object members => exact Assoc.mem_of_get? h
  | _ => cases h

theorem group_cons (key : String) (raw : Json) (rest : List (String × Json)) (name : String) :
    (object ((key, raw) :: rest)).group name =
      if name = key then raw.items else (object rest).group name := by
  rw [group, member?_object, Assoc.get?_cons]
  split <;> rfl

/-- Only a list has trees in it. -/
theorem exists_of_mem_group (h : w ∈ v.group name) :
    ∃ items, (name, array items) ∈ v.members ∧ w ∈ items := by
  cases hraw : v.member? name with
  | none => simp [group, hraw] at h
  | some raw =>
    rw [group, hraw] at h
    cases raw with
    | array items => exact ⟨items, mem_members_of_member? hraw, h⟩
    | _ => cases h

theorem mem_ownRules {m : String × Json} :
    m ∈ v.ownRules ↔ m ∈ v.members ∧ m.1 ∉ Tree.structural := by
  simp [ownRules]

theorem sizeOf_lt_of_mem_group (h : w ∈ v.group name) : sizeOf w < sizeOf v := by
  obtain ⟨items, hmember, hw⟩ := exists_of_mem_group h
  cases v with
  | object members =>
    have hitem := List.sizeOf_lt_of_mem hw
    have hgroup : sizeOf (name, array items) < sizeOf members := List.sizeOf_lt_of_mem hmember
    simp only [Prod.mk.sizeOf_spec, array.sizeOf_spec] at hgroup
    simp only [object.sizeOf_spec]
    omega
  | _ => cases hmember

/-- Induction on the trees in the groups of a node. -/
theorem group_induction {motive : Json → Prop}
    (node : ∀ v, (∀ name, ∀ w ∈ v.group name, motive w) → motive v) (v : Json) : motive v :=
  node v fun _ w _ => group_induction node w
termination_by sizeOf v
decreasing_by exact sizeOf_lt_of_mem_group ‹_›

end

theorem distinctItems_iff {items : List Json} :
    DistinctItems items ↔ ∀ v ∈ items, v.Distinct := by
  induction items with
  | nil => simp [DistinctItems]
  | cons v rest ih => simp [DistinctItems, ih]

theorem distinctMembers_iff {members : List (String × Json)} :
    DistinctMembers members ↔ ∀ m ∈ members, m.2.Distinct := by
  induction members with
  | nil => simp [DistinctMembers]
  | cons m rest ih => simp [DistinctMembers, ih]

theorem distinct_object {members : List (String × Json)} :
    (object members).Distinct ↔
      (Assoc.keys members).Nodup ∧ ∀ m ∈ members, m.2.Distinct := by
  rw [Distinct, distinctMembers_iff]

theorem distinct_array {items : List Json} : (array items).Distinct ↔ ∀ v ∈ items, v.Distinct := by
  rw [Distinct, distinctItems_iff]

section
variable {v w : Json} {name : String}

theorem Distinct.keys (h : v.Distinct) : (Assoc.keys v.members).Nodup := by
  cases v with
  | object members => exact (distinct_object.mp h).1
  | _ => exact List.nodup_nil

theorem Distinct.ownRules (h : v.Distinct) : (Assoc.keys v.ownRules).Nodup :=
  h.keys.sublist (List.filter_sublist.map Prod.fst)

theorem Distinct.member (h : v.Distinct) {m : String × Json} (hm : m ∈ v.members) :
    m.2.Distinct := by
  cases v with
  | object members => exact (distinct_object.mp h).2 m hm
  | _ => cases hm

theorem Distinct.group (h : v.Distinct) (hw : w ∈ v.group name) : w.Distinct := by
  obtain ⟨items, hmember, hmem⟩ := exists_of_mem_group hw
  exact distinct_array.mp (h.member hmember) w hmem

end

end Json

-- ---------------------------------------------------------------------------
-- Trees of nodes
-- ---------------------------------------------------------------------------

namespace Tree

section
variable {rule : String → Json → Rule} {accepted : String → Json → Bool} {v w : Json}

theorem acceptsAll_eq (items : List Json) :
    acceptsAll accepted items = items.all (accepts accepted) := by
  induction items with
  | nil => rfl
  | cons v rest ih => rw [acceptsAll, ih, List.all_cons]

theorem ofAll_eq (items : List Json) : ofAll rule items = items.map (ofJson rule) := by
  induction items with
  | nil => rfl
  | cons v rest ih => rw [ofAll, ih, List.map_cons]

def acceptsMember (accepted : String → Json → Bool) (key : String) (raw : Json) : Bool :=
  if key = "and" ∨ key = "or" then acceptsSubtrees accepted raw
  else if key = "ruleset" then true
  else accepted key raw

theorem acceptsMembers_eq (members : List (String × Json)) :
    acceptsMembers accepted members = members.all fun m => acceptsMember accepted m.1 m.2 := by
  induction members with
  | nil => rfl
  | cons m rest ih => rw [acceptsMembers, ih, List.all_cons, acceptsMember]

theorem ofSubtrees_eq (raw : Json) : ofSubtrees rule raw = raw.items.map (ofJson rule) := by
  cases raw with
  | array items => exact ofAll_eq items
  | _ => rfl

theorem ofMembers_eq (members : List (String × Json)) :
    ofMembers rule members =
      .node ((Json.object members).ownRules.map fun m => rule m.1 m.2)
        (((Json.object members).group "and").map (ofJson rule))
        (((Json.object members).group "or").map (ofJson rule))
        ((Json.object members).member? "ruleset") := by
  induction members with
  | nil => rfl
  | cons m rest ih =>
    obtain ⟨key, raw⟩ := m
    simp only [Json.ownRules, Json.members, Json.member?_object] at ih ⊢
    rw [ofMembers, ih, Json.group_cons, Json.group_cons, Assoc.get?_cons]
    by_cases ha : key = "and"
    · subst ha
      simp [withAll, ofSubtrees_eq, structural]
    by_cases ho : key = "or"
    · subst ho
      simp [withAny, ofSubtrees_eq, structural]
    by_cases hr : key = "ruleset"
    · subst hr
      simp [withRuleset, structural]
    · simp [withRule, structural, ha, ho, hr, Ne.symm ha, Ne.symm ho, Ne.symm hr]

/-- The rules in the order of their members, the groups and the rule set wherever they stand. -/
theorem ofJson_eq (v : Json) :
    ofJson rule v =
      .node (v.ownRules.map fun m => rule m.1 m.2) ((v.group "and").map (ofJson rule))
        ((v.group "or").map (ofJson rule)) (v.member? "ruleset") := by
  cases v with
  | object members => exact ofMembers_eq members
  | _ => rfl

theorem acceptsMember_of_mem (h : accepts accepted v = true) {m : String × Json}
    (hm : m ∈ v.members) : acceptsMember accepted m.1 m.2 = true := by
  cases v with
  | object members =>
    rw [accepts, acceptsMembers_eq] at h
    exact List.all_eq_true.mp h m hm
  | _ => cases hm

theorem acceptsMember_rule {key : String} (h : key ∉ structural) (raw : Json) :
    acceptsMember accepted key raw = accepted key raw := by
  simp only [structural, List.mem_cons, List.not_mem_nil, or_false, not_or] at h
  simp only [acceptsMember, h, or_self, if_false]

theorem accepted_of_mem_ownRules (h : accepts accepted v = true) {m : String × Json}
    (hm : m ∈ v.ownRules) : accepted m.1 m.2 = true := by
  obtain ⟨hmem, hkey⟩ := Json.mem_ownRules.mp hm
  exact (acceptsMember_rule hkey m.2).symm.trans (acceptsMember_of_mem h hmem)

theorem accepts_of_mem_group (h : accepts accepted v = true) {name : String}
    (hname : name = "and" ∨ name = "or") (hw : w ∈ v.group name) : accepts accepted w = true := by
  obtain ⟨items, hmember, hmem⟩ := Json.exists_of_mem_group hw
  have hplace := acceptsMember_of_mem h hmember
  rw [acceptsMember, if_pos hname, acceptsSubtrees, acceptsAll_eq] at hplace
  exact List.all_eq_true.mp hplace w hmem

end

end Tree

end Targeting
