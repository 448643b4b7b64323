import Targeting.Proofs.Verdict
import Targeting.Tree.Compile

/-!
# Trees that compile

Which values stand for a tree, when it is known of every member whether it stands for a
rule (`Tree.accepts`), and the tree that such a value stands for (`Tree.ofJson`). A
compilation succeeds for the accepted values and gives their tree (`Tree.compile_ok`);
the registered names matter for the single rules only.
-/

namespace Targeting

theorem bind_ok {x : Except ε α} {f : α → Except ε β} :
    x >>= f = .ok b ↔ ∃ a, x = .ok a ∧ f a = .ok b := by
  cases x <;> simp [bind, Except.bind]

theorem pure_ok : (pure a : Except ε α) = .ok b ↔ a = b := by
  simp [pure, Except.pure]

theorem map_ok {x : Except ε α} {f : α → β} : x.map f = .ok b ↔ ∃ a, x = .ok a ∧ f a = b := by
  cases x <;> simp [Except.map]

section
variable {first : Except ε α} {second : Except ε β} {p q : Bool}

theorem one_ok {g : α → γ} (h : ∀ x, first = .ok x ↔ p = true ∧ x = a) :
    (do return g (← first)) = .ok z ↔ p = true ∧ z = g a := by
  simp only [bind_ok, pure_ok, h]
  constructor
  · rintro ⟨_, ⟨hp, rfl⟩, rfl⟩
    exact ⟨hp, rfl⟩
  · rintro ⟨hp, rfl⟩
    exact ⟨a, ⟨hp, rfl⟩, rfl⟩

/-- Two results put together, when it is known when they succeed and with what. -/
theorem both_ok {g : α → β → γ} (hf : ∀ x, first = .ok x ↔ p = true ∧ x = a)
    (hs : ∀ y, second = .ok y ↔ q = true ∧ y = b) :
    (do let x ← first; return g x (← second)) = .ok z ↔ (p && q) = true ∧ z = g a b := by
  simp only [bind_ok, pure_ok, hf, hs, Bool.and_eq_true]
  constructor
  · rintro ⟨_, ⟨hp, rfl⟩, _, ⟨hq, rfl⟩, rfl⟩
    exact ⟨⟨hp, hq⟩, rfl⟩
  · rintro ⟨⟨hp, hq⟩, rfl⟩
    exact ⟨a, ⟨hp, rfl⟩, b, ⟨hq, rfl⟩, rfl⟩

end

-- ---------------------------------------------------------------------------
-- Rules
-- ---------------------------------------------------------------------------

theorem Condition.compile_kind {kind : Condition.Kind} {raw : Json} {c : Condition}
    (h : compile kind raw = .ok c) : c.kind = kind := by
  cases kind with
  | visitor =>
    cases h
    rfl
  | _ =>
    obtain ⟨_, -, rfl⟩ := map_ok.mp h
    rfl

namespace Rule

def accepted (registered : List String) (key : String) (raw : Json) : Bool :=
  key ∈ registered || (Condition.Kind.ofName? key).all fun kind =>
    (Condition.compile kind raw).isOk

/-- The condition that the value stands for under the key, whatever is registered. -/
def meant (key : String) (raw : Json) : Option Condition :=
  (Condition.Kind.ofName? key).bind fun kind => (Condition.compile kind raw).toOption

def written (registered : List String) (key : String) (raw : Json) : Rule :=
  ⟨key, raw, if key ∈ registered then none else meant key raw⟩

/-- A condition is kept under the name of its kind. -/
theorem condition_of_written {registered : List String} {key : String} {raw : Json}
    {c : Condition} (h : (written registered key raw).condition = some c) :
    Condition.Kind.ofName? key = some c.kind ∧ Condition.compile c.kind raw = .ok c := by
  have hmeant : meant key raw = some c := (Option.ite_none_left_eq_some.mp h).2
  obtain ⟨kind, hname, hcompiled⟩ := Option.bind_eq_some_iff.mp hmeant
  cases hc : Condition.compile kind raw with
  | error error => simp [hc, Except.toOption] at hcompiled
  | ok found =>
    obtain rfl : found = c := by simpa [hc, Except.toOption] using hcompiled
    have hkind := Condition.compile_kind hc
    exact ⟨hkind ▸ hname, hkind ▸ hc⟩

theorem compile_ok {registered : List String} {key : String} {raw : Json} {rule : Rule} :
    compile registered key raw = .ok rule ↔
      accepted registered key raw = true ∧ rule = written registered key raw := by
  unfold compile accepted written meant
  by_cases hk : key ∈ registered
  · simp only [hk, if_true, decide_true, Bool.true_or, true_and, Except.ok.injEq]
    exact eq_comm
  · cases Condition.Kind.ofName? key with
    | none => simp [hk, eq_comm]
    | some kind =>
      simp only [hk, if_false, Option.bind_some, Option.all_some, decide_false, Bool.false_or]
      cases Condition.compile kind raw with
      | error error => simp [Except.map, Except.isOk, Except.toBool]
      | ok c => simp [Except.map, Except.isOk, Except.toBool, Except.toOption, eq_comm]

theorem accepted_mono {registered more : List String} (h : registered ⊆ more) {key : String}
    {raw : Json} (ha : accepted registered key raw = true) : accepted more key raw = true := by
  simp only [accepted, Bool.or_eq_true, decide_eq_true_eq] at ha ⊢
  exact ha.imp_left fun hk => h hk

end Rule

-- ---------------------------------------------------------------------------
-- Trees
-- ---------------------------------------------------------------------------

namespace Tree

mutual
/-- An object, or `null`, with groups that are lists of such values. -/
def accepts (rule : String → Json → Bool) : Json → Bool
  | .null => true
  | .object members => acceptsMembers rule members
  | _ => false
def acceptsMembers (rule : String → Json → Bool) : List (String × Json) → Bool
  | [] => true
  | (key, raw) :: rest =>
    (if key = "and" ∨ key = "or" then acceptsSubtrees rule raw
    else if key = "ruleset" then true
    else rule key raw) && acceptsMembers rule rest
def acceptsSubtrees (rule : String → Json → Bool) : Json → Bool
  | .null => true
  | .array items => acceptsAll rule items
  | _ => false
def acceptsAll (rule : String → Json → Bool) : List Json → Bool
  | [] => true
  | item :: rest => accepts rule item && acceptsAll rule rest
end

mutual
def ofJson (rule : String → Json → Rule) : Json → Tree
  | .object members => ofMembers rule members
  | _ => empty
def ofMembers (rule : String → Json → Rule) : List (String × Json) → Tree
  | [] => empty
  | (key, raw) :: rest =>
    if key = "and" then withAll (ofSubtrees rule raw) (ofMembers rule rest)
    else if key = "or" then withAny (ofSubtrees rule raw) (ofMembers rule rest)
    else if key = "ruleset" then withRuleset raw (ofMembers rule rest)
    else withRule (rule key raw) (ofMembers rule rest)
def ofSubtrees (rule : String → Json → Rule) : Json → List Tree
  | .array items => ofAll rule items
  | _ => []
def ofAll (rule : String → Json → Rule) : List Json → List Tree
  | [] => []
  | item :: rest => ofJson rule item :: ofAll rule rest
end

/-- Members of a node under these keys are no rules. -/
def structural : List String := ["and", "or", "ruleset"]

mutual
/-- The members that are rules, at every depth. -/
def ruleMembers : Json → List (String × Json)
  | .object members => ruleMembersIn members
  | _ => []
def ruleMembersIn : List (String × Json) → List (String × Json)
  | [] => []
  | (key, raw) :: rest =>
    (if key = "and" ∨ key = "or" then ruleMembersOfGroup raw
    else if key = "ruleset" then []
    else [(key, raw)]) ++ ruleMembersIn rest
def ruleMembersOfGroup : Json → List (String × Json)
  | .array items => ruleMembersOfAll items
  | _ => []
def ruleMembersOfAll : List Json → List (String × Json)
  | [] => []
  | item :: rest => ruleMembers item ++ ruleMembersOfAll rest
end

def ruleKeys (v : Json) : List String := (ruleMembers v).map (·.1)

mutual
theorem not_structural : (v : Json) → ∀ m ∈ ruleMembers v, m.1 ∉ structural
  | .object members => not_structural_inMembers members
  | .null | .bool _ | .integer _ | .real _ | .text _ | .array _ => nofun
theorem not_structural_inMembers : (members : List (String × Json)) →
    ∀ m ∈ ruleMembersIn members, m.1 ∉ structural
  | [] => nofun
  | (key, raw) :: rest => by
    rw [ruleMembersIn, List.forall_mem_append]
    refine ⟨?_, not_structural_inMembers rest⟩
    split
    · exact not_structural_inGroup raw
    split
    · exact nofun
    · simp_all [structural]
theorem not_structural_inGroup : (raw : Json) → ∀ m ∈ ruleMembersOfGroup raw, m.1 ∉ structural
  | .array items => not_structural_inAll items
  | .null | .bool _ | .integer _ | .real _ | .text _ | .object _ => nofun
theorem not_structural_inAll : (items : List Json) →
    ∀ m ∈ ruleMembersOfAll items, m.1 ∉ structural
  | [] => nofun
  | item :: rest =>
    List.forall_mem_append.mpr ⟨not_structural item, not_structural_inAll rest⟩
end

section
variable {rule : String → Json → Rule} {x : Rule} {t : Tree} {ts : List Tree}

theorem mem_withRule {y : Rule} (h : x ∈ (withRule y t).occurrences) :
    x = y ∨ x ∈ t.occurrences := by
  cases t
  simpa [withRule, occurrences, or_assoc] using h

theorem mem_withAll (h : x ∈ (withAll ts t).occurrences) :
    x ∈ occurrencesIn ts ∨ x ∈ t.occurrences := by
  cases t
  simp only [withAll, occurrences, List.mem_append] at h ⊢
  rcases h with hrules | hall | hany
  · exact .inr (.inl hrules)
  · exact .inl hall
  · exact .inr (.inr (.inr hany))

theorem mem_withAny (h : x ∈ (withAny ts t).occurrences) :
    x ∈ occurrencesIn ts ∨ x ∈ t.occurrences := by
  cases t
  simp only [withAny, occurrences, List.mem_append] at h ⊢
  rcases h with hrules | hall | hany
  · exact .inr (.inl hrules)
  · exact .inr (.inr (.inl hall))
  · exact .inl hany

theorem mem_withRuleset {ruleset : Json} (h : x ∈ (withRuleset ruleset t).occurrences) :
    x ∈ t.occurrences := by
  cases t
  exact h

-- Every rule of the tree stands for a member.
mutual
theorem exists_of_mem_ofJson : (v : Json) → x ∈ (ofJson rule v).occurrences →
    ∃ m ∈ ruleMembers v, x = rule m.1 m.2
  | .object members, h => exists_of_mem_ofMembers members h
theorem exists_of_mem_ofMembers : (members : List (String × Json)) →
    x ∈ (ofMembers rule members).occurrences →
      ∃ m ∈ ruleMembersIn members, x = rule m.1 m.2
  | (key, raw) :: rest, h => by
    have hrest : x ∈ (ofMembers rule rest).occurrences →
        ∃ m ∈ ruleMembersIn ((key, raw) :: rest), x = rule m.1 m.2 := by
      intro hx
      obtain ⟨m, hm, hfrom⟩ := exists_of_mem_ofMembers rest hx
      exact ⟨m, List.mem_append_right _ hm, hfrom⟩
    have hgroup : key = "and" ∨ key = "or" → x ∈ occurrencesIn (ofSubtrees rule raw) →
        ∃ m ∈ ruleMembersIn ((key, raw) :: rest), x = rule m.1 m.2 := by
      intro hkey hx
      obtain ⟨m, hm, hfrom⟩ := exists_of_mem_ofSubtrees raw hx
      exact ⟨m, List.mem_append_left _ (by rwa [if_pos hkey]), hfrom⟩
    rw [ofMembers] at h
    by_cases ha : key = "and"
    · rw [if_pos ha] at h
      exact (mem_withAll h).elim (hgroup (.inl ha)) hrest
    by_cases ho : key = "or"
    · rw [if_neg ha, if_pos ho] at h
      exact (mem_withAny h).elim (hgroup (.inr ho)) hrest
    by_cases hr : key = "ruleset"
    · rw [if_neg ha, if_neg ho, if_pos hr] at h
      exact hrest (mem_withRuleset h)
    · rw [if_neg ha, if_neg ho, if_neg hr] at h
      refine (mem_withRule h).elim (fun hx => ⟨(key, raw), ?_, hx⟩) hrest
      simp [ruleMembersIn, ha, ho, hr]
theorem exists_of_mem_ofSubtrees : (raw : Json) → x ∈ occurrencesIn (ofSubtrees rule raw) →
    ∃ m ∈ ruleMembersOfGroup raw, x = rule m.1 m.2
  | .array items, h => exists_of_mem_ofAll items h
theorem exists_of_mem_ofAll : (items : List Json) → x ∈ occurrencesIn (ofAll rule items) →
    ∃ m ∈ ruleMembersOfAll items, x = rule m.1 m.2
  | item :: rest, h => by
    rcases List.mem_append.mp h with hx | hx
    · obtain ⟨m, hm, hfrom⟩ := exists_of_mem_ofJson item hx
      exact ⟨m, List.mem_append_left _ hm, hfrom⟩
    · obtain ⟨m, hm, hfrom⟩ := exists_of_mem_ofAll rest hx
      exact ⟨m, List.mem_append_right _ hm, hfrom⟩
end

end

section
variable {registered : List String}

mutual
theorem compile_ok : (v : Json) → {t : Tree} →
    (compile registered v = .ok t ↔
      accepts (Rule.accepted registered) v = true ∧ t = ofJson (Rule.written registered) v)
  | .null, _ => by simp [compile, accepts, ofJson, eq_comm]
  | .object members, _ => compileMembers_ok members
  | .bool _, _ | .integer _, _ | .real _, _ | .text _, _ | .array _, _ => by
    simp [compile, accepts]
theorem compileMembers_ok : (members : List (String × Json)) → {t : Tree} →
    (compileMembers registered members = .ok t ↔
      acceptsMembers (Rule.accepted registered) members = true ∧
        t = ofMembers (Rule.written registered) members)
  | [], _ => by simp [compileMembers, acceptsMembers, ofMembers, eq_comm]
  | (key, raw) :: rest, t => by
    rw [compileMembers, acceptsMembers, ofMembers]
    by_cases ha : key = "and"
    · rw [if_pos ha, if_pos (.inl ha), if_pos ha]
      exact both_ok (fun _ => compileSubtrees_ok raw) fun _ => compileMembers_ok rest
    by_cases ho : key = "or"
    · rw [if_neg ha, if_pos ho, if_pos (.inr ho), if_neg ha, if_pos ho]
      exact both_ok (fun _ => compileSubtrees_ok raw) fun _ => compileMembers_ok rest
    by_cases hr : key = "ruleset"
    · have hg : ¬(key = "and" ∨ key = "or") := not_or.mpr ⟨ha, ho⟩
      rw [if_neg ha, if_neg ho, if_pos hr, if_neg hg, if_pos hr, if_neg ha, if_neg ho, if_pos hr]
      exact one_ok fun _ => compileMembers_ok rest
    · simp only [ha, ho, hr, or_self, if_false]
      exact both_ok (fun _ => Rule.compile_ok) fun _ => compileMembers_ok rest
theorem compileSubtrees_ok : (raw : Json) → {key : String} → {ts : List Tree} →
    (compileSubtrees registered key raw = .ok ts ↔
      acceptsSubtrees (Rule.accepted registered) raw = true ∧
        ts = ofSubtrees (Rule.written registered) raw)
  | .null, _, _ => by simp [compileSubtrees, acceptsSubtrees, ofSubtrees, eq_comm]
  | .array items, _, _ => compileAll_ok items
  | .bool _, _, _ | .integer _, _, _ | .real _, _, _ | .text _, _, _ | .object _, _, _ => by
    simp [compileSubtrees, acceptsSubtrees]
theorem compileAll_ok : (items : List Json) → {ts : List Tree} →
    (compileAll registered items = .ok ts ↔
      acceptsAll (Rule.accepted registered) items = true ∧
        ts = ofAll (Rule.written registered) items)
  | [], _ => by simp [compileAll, acceptsAll, ofAll, eq_comm]
  | item :: rest, ts => by
    exact both_ok (fun _ => compile_ok item) fun _ => compileAll_ok rest
end

end

section
variable {p q : String → Json → Bool}

mutual
theorem accepts_mono (h : ∀ key raw, p key raw = true → q key raw = true) :
    (v : Json) → accepts p v = true → accepts q v = true
  | .null, _ => rfl
  | .object members, hv => acceptsMembers_mono h members hv
theorem acceptsMembers_mono (h : ∀ key raw, p key raw = true → q key raw = true) :
    (members : List (String × Json)) → acceptsMembers p members = true →
      acceptsMembers q members = true
  | [], _ => rfl
  | (key, raw) :: rest, hv => by
    simp only [acceptsMembers, Bool.and_eq_true] at hv ⊢
    obtain ⟨hmember, hrest⟩ := hv
    refine ⟨?_, acceptsMembers_mono h rest hrest⟩
    by_cases hg : key = "and" ∨ key = "or"
    · rw [if_pos hg] at hmember ⊢
      exact acceptsSubtrees_mono h raw hmember
    rw [if_neg hg] at hmember ⊢
    by_cases hr : key = "ruleset"
    · rw [if_pos hr]
    · rw [if_neg hr] at hmember ⊢
      exact h key raw hmember
theorem acceptsSubtrees_mono (h : ∀ key raw, p key raw = true → q key raw = true) :
    (raw : Json) → acceptsSubtrees p raw = true → acceptsSubtrees q raw = true
  | .null, _ => rfl
  | .array items, hv => acceptsAll_mono h items hv
theorem acceptsAll_mono (h : ∀ key raw, p key raw = true → q key raw = true) :
    (items : List Json) → acceptsAll p items = true → acceptsAll q items = true
  | [], _ => rfl
  | item :: rest, hv => by
    simp only [acceptsAll, Bool.and_eq_true] at hv ⊢
    exact ⟨accepts_mono h item hv.1, acceptsAll_mono h rest hv.2⟩
end

end

end Tree

end Targeting
