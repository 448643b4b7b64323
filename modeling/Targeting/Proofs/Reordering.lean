import Targeting.Proofs.Evaluation
import Targeting.Proofs.Nodes

/-!
# Criteria in another order

Criteria say the same in any order of the members of a node and of the trees in a group
(`Json.Reordered`): a node with each name once holds if all of its members do
(`holds_ofMembers`), and a conjunction or a choice does not depend on order. What depends
on it are the rules that are visited, not the verdict, as long as no cache says otherwise.
-/

namespace Targeting

-- ---------------------------------------------------------------------------
-- Reordering
-- ---------------------------------------------------------------------------

namespace Json

/-- The same criteria, with the members of nodes and the trees of groups in another order,
at any depth; what is in a rule stays as it is. -/
inductive Reordered : Json → Json → Prop
  | refl (v : Json) : Reordered v v
  | trans {u v w : Json} (huv : Reordered u v) (hvw : Reordered v w) : Reordered u w
  | members {members others : List (String × Json)} (h : members.Perm others) :
    Reordered (.object members) (.object others)
  | items {key : String} (hkey : key = "and" ∨ key = "or")
    (before after : List (String × Json)) {items others : List Json} (h : items.Perm others) :
    Reordered (.object (before ++ (key, .array items) :: after))
      (.object (before ++ (key, .array others) :: after))
  | item {key : String} (hkey : key = "and" ∨ key = "or")
    (before after : List (String × Json)) (left right : List Json) {v w : Json}
    (h : Reordered v w) :
    Reordered (.object (before ++ (key, .array (left ++ v :: right)) :: after))
      (.object (before ++ (key, .array (left ++ w :: right)) :: after))

theorem distinct_replace {before after : List (String × Json)} {key : String} {raw other : Json}
    (h : (object (before ++ (key, raw) :: after)).Distinct)
    (hraw : raw.Distinct → other.Distinct) :
    (object (before ++ (key, other) :: after)).Distinct := by
  rw [distinct_object] at h ⊢
  obtain ⟨hkeys, hmembers⟩ := h
  refine ⟨by simpa [Assoc.keys] using hkeys, ?_⟩
  simp only [List.forall_mem_append, List.forall_mem_cons] at hmembers ⊢
  exact ⟨hmembers.1, hraw hmembers.2.1, hmembers.2.2⟩

theorem Reordered.distinct {v w : Json} (h : Reordered v w) (hv : v.Distinct) : w.Distinct := by
  induction h with
  | refl v => exact hv
  | trans _ _ ihuv ihvw => exact ihvw (ihuv hv)
  | members hperm =>
    obtain ⟨hkeys, hmembers⟩ := distinct_object.mp hv
    exact distinct_object.mpr ⟨(hperm.map Prod.fst).nodup_iff.mp hkeys,
      fun m hm => hmembers m (hperm.mem_iff.mpr hm)⟩
  | items hkey before after hperm =>
    refine distinct_replace hv fun hitems => ?_
    rw [distinct_array] at hitems ⊢
    exact fun v hmem => hitems v (hperm.mem_iff.mpr hmem)
  | item hkey before after left right _ ih =>
    refine distinct_replace hv fun hitems => ?_
    simp only [distinct_array, List.forall_mem_append, List.forall_mem_cons] at hitems ⊢
    exact ⟨hitems.1, ih hitems.2.1, hitems.2.2⟩

end Json

-- ---------------------------------------------------------------------------
-- Nodes as conjunctions of their members
-- ---------------------------------------------------------------------------

namespace Tree

section
variable {rule : String → Json → Rule} {accepted : String → Json → Bool} {passes : Rule → Bool}

def holdsMember (rule : String → Json → Rule) (passes : Rule → Bool) (key : String)
    (raw : Json) : Bool :=
  if key = "and" then allHold passes (ofSubtrees rule raw)
  else if key = "or" then
    (ofSubtrees rule raw).isEmpty || someHolds passes (ofSubtrees rule raw)
  else if key = "ruleset" then true
  else passes (rule key raw)

theorem ofMembers_all {members : List (String × Json)} (h : "and" ∉ Assoc.keys members) :
    (ofMembers rule members).all = [] := by
  rw [ofMembers_eq, all, Json.group, Json.member?_object, Assoc.get?_eq_none.mpr h]
  rfl

theorem ofMembers_any {members : List (String × Json)} (h : "or" ∉ Assoc.keys members) :
    (ofMembers rule members).any = [] := by
  rw [ofMembers_eq, any, Json.group, Json.member?_object, Assoc.get?_eq_none.mpr h]
  rfl

theorem holds_withAll {t : Tree} (h : t.all = []) (ts : List Tree) :
    (withAll ts t).holds passes = (allHold passes ts && t.holds passes) := by
  obtain ⟨rules, all, any, ruleset⟩ := t
  cases h
  simp [withAll, holds, allHold, Bool.and_left_comm, Bool.and_assoc]

theorem holds_withAny {t : Tree} (h : t.any = []) (ts : List Tree) :
    (withAny ts t).holds passes = ((ts.isEmpty || someHolds passes ts) && t.holds passes) := by
  obtain ⟨rules, all, any, ruleset⟩ := t
  cases h
  simp [withAny, holds, Bool.and_comm]

theorem holds_withRule (x : Rule) (t : Tree) :
    (withRule x t).holds passes = (passes x && t.holds passes) := by
  cases t
  simp [withRule, holds, Bool.and_assoc]

theorem holds_withRuleset (ruleset : Json) (t : Tree) :
    (withRuleset ruleset t).holds passes = t.holds passes := by
  cases t
  rfl

/-- A node with each name once holds if all of its members do. -/
theorem holds_ofMembers {members : List (String × Json)} (h : (Assoc.keys members).Nodup) :
    (ofMembers rule members).holds passes = members.all fun m =>
      holdsMember rule passes m.1 m.2 := by
  induction members with
  | nil => rfl
  | cons m rest ih =>
    obtain ⟨key, raw⟩ := m
    obtain ⟨hkey, hrest⟩ := List.nodup_cons.mp h
    rw [ofMembers, List.all_cons, ← ih hrest, holdsMember]
    split
    · next ha =>
      subst ha
      rw [holds_withAll (ofMembers_all hkey)]
    split
    · next ho =>
      subst ho
      rw [holds_withAny (ofMembers_any hkey)]
    split
    · rw [holds_withRuleset, Bool.true_and]
    · rw [holds_withRule]

/-- Of a group only matters how many of its trees hold: all, some, or none of none. -/
theorem holdsMember_group {key : String} {items others : List Json}
    (hall : (items.all fun v => (ofJson rule v).holds passes) =
      others.all fun v => (ofJson rule v).holds passes)
    (hany : (items.any fun v => (ofJson rule v).holds passes) =
      others.any fun v => (ofJson rule v).holds passes)
    (hempty : items.isEmpty = others.isEmpty) (hkey : key = "and" ∨ key = "or") :
    holdsMember rule passes key (.array items) = holdsMember rule passes key (.array others) := by
  have hgroup : ∀ items : List Json, ofSubtrees rule (.array items) = items.map (ofJson rule) :=
    fun items => by rw [ofSubtrees, ofAll_eq]
  rcases hkey with rfl | rfl
  · simp only [holdsMember, if_true, hgroup, allHold_eq, List.all_map, Function.comp_def, hall]
  · simp only [holdsMember, if_true, hgroup, someHolds_eq, List.any_map, Function.comp_def, hany,
      List.isEmpty_map, hempty]
    rfl

end

/-- Accepted alike and with the same verdicts, whatever the rules decide. -/
structure Alike (v w : Json) : Prop where
  accepts : ∀ accepted, accepts accepted v = accepts accepted w
  holds : ∀ rule passes, (ofJson rule v).holds passes = (ofJson rule w).holds passes

theorem alike_replace {before after : List (String × Json)} {key : String} {raw other : Json}
    (hv : (Json.object (before ++ (key, raw) :: after)).Distinct)
    (haccepts : ∀ accepted, acceptsMember accepted key raw = acceptsMember accepted key other)
    (hholds : ∀ rule passes, holdsMember rule passes key raw = holdsMember rule passes key other) :
    Alike (.object (before ++ (key, raw) :: after))
      (.object (before ++ (key, other) :: after)) := by
  have hkeys := (Json.distinct_object.mp hv).1
  have hkeys' : (Assoc.keys (before ++ (key, other) :: after)).Nodup := by
    simpa [Assoc.keys] using hkeys
  constructor
  · intro accepted
    simp only [Tree.accepts, acceptsMembers_eq, List.all_append, List.all_cons, haccepts]
  · intro rule passes
    simp only [ofJson, holds_ofMembers hkeys, holds_ofMembers hkeys', List.all_append,
      List.all_cons, hholds]

theorem alike_of_reordered {v w : Json} (h : v.Reordered w) (hv : v.Distinct) : Alike v w := by
  induction h with
  | refl v => exact ⟨fun _ => rfl, fun _ _ => rfl⟩
  | trans huv _ ihuv ihvw =>
    have hfirst := ihuv hv
    have hsecond := ihvw (huv.distinct hv)
    exact ⟨fun accepted => (hfirst.accepts accepted).trans (hsecond.accepts accepted),
      fun rule passes => (hfirst.holds rule passes).trans (hsecond.holds rule passes)⟩
  | members hperm =>
    have hkeys := (Json.distinct_object.mp hv).1
    constructor
    · intro accepted
      simp only [Tree.accepts, acceptsMembers_eq]
      exact hperm.all_eq
    · intro rule passes
      simp only [ofJson, holds_ofMembers hkeys,
        holds_ofMembers ((hperm.map Prod.fst).nodup_iff.mp hkeys)]
      exact hperm.all_eq
  | items hkey before after hperm =>
    refine alike_replace hv (fun accepted => ?_) fun rule passes => ?_
    · simp only [acceptsMember, if_pos hkey, acceptsSubtrees, acceptsAll_eq]
      exact hperm.all_eq
    · exact holdsMember_group hperm.all_eq hperm.any_eq hperm.isEmpty_eq hkey
  | item hkey before after left right _ ih =>
    have hitems := (Json.distinct_object.mp hv).2 _ (List.mem_append_right _ List.mem_cons_self)
    have halike := ih (Json.distinct_array.mp hitems _ (List.mem_append_right _ List.mem_cons_self))
    refine alike_replace hv (fun accepted => ?_) fun rule passes => ?_
    · simp only [acceptsMember, if_pos hkey, acceptsSubtrees, acceptsAll_eq, List.all_append,
        List.all_cons, halike.accepts]
    · refine holdsMember_group ?_ ?_ ?_ hkey
      · simp only [List.all_append, List.all_cons, halike.holds]
      · simp only [List.any_append, List.any_cons, halike.holds]
      · cases left <;> rfl

-- ---------------------------------------------------------------------------
-- Verdicts
-- ---------------------------------------------------------------------------

/-- In another order the criteria compile just as well, and no evaluation with a cache that
is coherent with the request tells the two trees apart by its verdict. -/
theorem compile_reordered {v w : Json} (h : v.Reordered w) (hv : v.Distinct)
    (registered : List String) :
    ((∃ t, compile registered v = .ok t) ↔ ∃ u, compile registered w = .ok u) ∧
      ∀ t u : Tree, compile registered v = .ok t → compile registered w = .ok u →
        ∀ (e : Engine) (r : Request) (s s' : State),
          s.cache.Coherent (e.findings r) → s'.cache.Coherent (e.findings r) →
            (e.evaluate (some t) r s).matched = (e.evaluate (some u) r s').matched := by
  have halike := alike_of_reordered h hv
  constructor
  · simp only [compile_ok, exists_and_left, exists_eq, and_true, halike.accepts]
  · intro t u ht hu e r s s' hs hs'
    obtain ⟨-, rfl⟩ := (compile_ok v).mp ht
    obtain ⟨-, rfl⟩ := (compile_ok w).mp hu
    rw [Engine.evaluate_matched, Engine.evaluate_matched, Cache.coherent_iff_view.mp hs,
      Cache.coherent_iff_view.mp hs', halike.holds]

def bucketFirst : Json :=
  .object [("bucket", .array [.array [.integer 0, .integer 40]]),
    ("or", .array [.object [("host", .array [.text "a.example"])], .null])]

def bucketLast : Json :=
  .object [("or", .array [.null, .object [("host", .array [.text "a.example"])]]),
    ("bucket", .array [.array [.integer 0, .integer 40]])]

def bucketTree (any : List Tree) : Tree :=
  .node [⟨"bucket", .array [.array [.integer 0, .integer 40]], some (.bucket [⟨0, 40⟩])⟩] [] any none

def hostTree : Tree :=
  .node [⟨"host", .array [.text "a.example"], some (.host ["a.example"])⟩] [] [] none

theorem compile_reordered_bucket :
    bucketFirst.Reordered bucketLast ∧ bucketFirst.Distinct ∧
      compile [] bucketFirst = .ok (bucketTree [hostTree, .empty]) ∧
      compile [] bucketLast = .ok (bucketTree [.empty, hostTree]) ∧
      Engine.visitorState.cache.Coherent (Engine.locator.findings Engine.visitor) ∧
      State.fresh.cache.Coherent (Engine.locator.findings Engine.visitor) ∧
      (Engine.locator.evaluate (some (bucketTree [hostTree, .empty])) Engine.visitor
          Engine.visitorState).matched =
        (Engine.locator.evaluate (some (bucketTree [.empty, hostTree])) Engine.visitor
          .fresh).matched := by
  have hreordered : bucketFirst.Reordered bucketLast :=
    (Json.Reordered.items (.inr rfl) [_] [] (.swap ..)).trans (.members (.swap ..))
  have hdistinct : bucketFirst.Distinct := by
    simp [bucketFirst, Json.Distinct, Json.DistinctItems, Json.DistinctMembers, Assoc.keys]
  have hknown : Engine.visitorState.cache.Coherent (Engine.locator.findings Engine.visitor) :=
    ⟨.inr rfl, .inl rfl, .inl rfl⟩
  have hfresh := Cache.coherent_empty (Engine.locator.findings Engine.visitor)
  exact ⟨hreordered, hdistinct, rfl, rfl, hknown, hfresh,
    (compile_reordered hreordered hdistinct []).2 _ _ rfl rfl Engine.locator Engine.visitor
      Engine.visitorState .fresh hknown hfresh⟩

end Tree

end Targeting
