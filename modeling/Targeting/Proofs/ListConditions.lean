import Targeting.Proofs.Regrouping

/-!
# Lists as choices

A condition that is a list asks for one of its entries (`IsList.holds_iff`), once it has any.
So a list put together from two is the choice between the two (`condition_append`), though the
choice looks twice at what the list looks at once: the second look finds the slot filled. Only
the entries that occur matter, not their order or number. A list without entries asks for
nothing, so that a choice with it is none.
-/

namespace Targeting

-- ---------------------------------------------------------------------------
-- Conditions that are lists
-- ---------------------------------------------------------------------------

namespace Condition

/-- The kinds of condition that are lists, by what makes a condition of a list. -/
inductive IsList : {α : Type} → (List α → Condition) → Prop
  | host : IsList host
  | path : IsList path
  | bucket : IsList bucket
  | cookie : IsList cookie
  | agent : IsList agent
  | geoip : IsList geoip
  | device : IsList device

/-- A tree that asks for nothing but the condition. -/
def alone (c : Condition) (raw : Json) : Tree := .ofRule ⟨c.kind.name, raw, some c⟩

namespace IsList

variable {α : Type} {make : List α → Condition} {xs ys : List α}

theorem kind_eq (h : IsList make) (xs ys : List α) : (make xs).kind = (make ys).kind := by
  cases h <;> rfl

theorem slot?_eq (h : IsList make) (hx : xs ≠ []) (hy : ys ≠ []) :
    (make xs).slot? = (make ys).slot? := by
  obtain ⟨x, xs, rfl⟩ := List.exists_cons_of_ne_nil hx
  obtain ⟨y, ys, rfl⟩ := List.exists_cons_of_ne_nil hy
  cases h <;> rfl

end IsList

end Condition

theorem option_any_any (o : Option β) (xs : List α) (p : α → β → Bool) :
    (o.any fun b => xs.any fun a => p a b) = xs.any fun a => o.any (p a) := by
  cases o <;> simp

namespace Engine

variable {e : Engine} {r : Request} {s : State} {α : Type} {make : List α → Condition}
  {xs ys : List α}

-- ---------------------------------------------------------------------------
-- Verdicts
-- ---------------------------------------------------------------------------

/-- Whether an entry fits does not go by the list that it is in. -/
theorem exists_fits (h : Condition.IsList make) (e : Engine) (r : Request) (f : Findings) :
    ∃ fits : α → Bool, ∀ xs, e.holds r f (make xs) = (xs.isEmpty || xs.any fits) := by
  cases h with
  | host =>
    have hcontains : ∀ xs : List String, xs.contains = fun host => xs.any (host == ·) :=
      fun xs => funext fun host => List.contains_eq_any_beq
    exact ⟨_, fun xs => by rw [holds, hcontains, option_any_any]⟩
  | path | bucket | agent | geoip => exact ⟨_, fun xs => by rw [holds, option_any_any]⟩
  | cookie => exact ⟨_, fun xs => rfl⟩
  | device =>
    refine ⟨fun c => r.userAgent.isSome && f.device.any c.fits, fun xs => ?_⟩
    rw [holds, option_any_any]
    cases r.userAgent.isSome <;> simp

theorem holds_append (h : Condition.IsList make) (f : Findings) (hx : xs ≠ []) (hy : ys ≠ []) :
    e.holds r f (make (xs ++ ys)) = (e.holds r f (make xs) || e.holds r f (make ys)) := by
  obtain ⟨fits, hfits⟩ := exists_fits h e r f
  have hempty : ∀ {zs : List α}, zs ≠ [] → zs.isEmpty = false := List.isEmpty_eq_false_iff.mpr
  rw [hfits, hfits, hfits, hempty hx, hempty hy, hempty (List.append_ne_nil_of_left_ne_nil hx ys),
    List.any_append]
  rfl

/-- Only the entries that occur matter. -/
theorem holds_congr (h : Condition.IsList make) (f : Findings) (hmem : ∀ x, x ∈ xs ↔ x ∈ ys) :
    e.holds r f (make xs) = e.holds r f (make ys) := by
  obtain ⟨fits, hfits⟩ := exists_fits h e r f
  have hany : xs.any fits = ys.any fits := by
    rw [Bool.eq_iff_iff, List.any_eq_true, List.any_eq_true]
    simp only [hmem]
  have hempty : xs.isEmpty = ys.isEmpty := by
    rw [Bool.eq_iff_iff, List.isEmpty_iff, List.isEmpty_iff, List.eq_nil_iff_forall_not_mem,
      List.eq_nil_iff_forall_not_mem]
    simp only [hmem]
  rw [hfits, hfits, hany, hempty]

theorem holds_nil (h : Condition.IsList make) (f : Findings) :
    e.holds r f (make []) = true := by
  obtain ⟨fits, hfits⟩ := exists_fits h e r f
  exact hfits []

/-- A request without data has nothing that an entry could fit. -/
theorem holds_empty (h : Condition.IsList make) (hx : xs ≠ []) :
    e.holds .empty (e.findings .empty) (make xs) = false := by
  obtain ⟨x, xs, rfl⟩ := List.exists_cons_of_ne_nil hx
  cases h with
  | cookie => simp [holds, Request.cookie, Request.empty, filled]
  | _ => rfl

-- ---------------------------------------------------------------------------
-- Steps
-- ---------------------------------------------------------------------------

/-- What has been asked for is not asked for again. -/
theorem inquiries_learn (slot? : Option Slot) :
    e.inquiries r (s.learn (e.findings r) (Slot.only slot?)).cache slot? = [] := by
  cases slot? with
  | none => rfl
  | some slot =>
    rw [inquiries, State.has_learn]
    cases hfound : (e.findings r).has slot with
    | false => rw [inquiry_eq_nil hfound, ite_self]
    | true => simp [Slot.only]

/-- Of two conditions that ask for the same slot, the second finds it filled. -/
theorem condition_orElse {c d : Condition} (hslot : c.slot? = d.slot?) :
    ((e.condition r c).orElse (e.condition r d)) s =
      ⟨e.holds r (s.cache.view (e.findings r)) c || e.holds r (s.cache.view (e.findings r)) d,
        s.learn (e.findings r) (Slot.only c.slot?), e.inquiries r s.cache c.slot?⟩ := by
  simp only [Step.orElse, Step.also, condition_eq]
  cases hc : e.holds r (s.cache.view (e.findings r)) c with
  | true => rfl
  | false =>
    simp only [← hslot, State.learn_view, State.learn_learn, inquiries_learn, Bool.or_self,
      Bool.false_or, Bool.false_eq_true, if_false, List.append_nil]

theorem condition_append (h : Condition.IsList make) (hx : xs ≠ []) (hy : ys ≠ []) :
    e.condition r (make (xs ++ ys)) = (e.condition r (make xs)).orElse (e.condition r (make ys)) := by
  have happend : xs ++ ys ≠ [] := List.append_ne_nil_of_left_ne_nil hx ys
  funext s
  rw [condition_orElse (h.slot?_eq hx hy), condition_eq, holds_append h _ hx hy,
    h.slot?_eq happend hx]

theorem condition_congr (h : Condition.IsList make) (hx : xs ≠ []) (hmem : ∀ x, x ∈ xs ↔ x ∈ ys) :
    e.condition r (make xs) = e.condition r (make ys) := by
  have hy : ys ≠ [] := by
    obtain ⟨x, hx⟩ := List.exists_mem_of_ne_nil xs hx
    exact List.ne_nil_of_mem ((hmem x).mp hx)
  funext s
  rw [condition_eq, condition_eq, holds_congr h _ hmem, h.slot?_eq hx hy]

-- ---------------------------------------------------------------------------
-- Trees
-- ---------------------------------------------------------------------------

theorem reading_alone {c : Condition} (hname : c.kind.name ∉ e.registry.names) (raw : Json) :
    e.reading ⟨c.kind.name, raw, some c⟩ = .condition c := by
  rw [Registry.mem_names, Ne, Decidable.not_not] at hname
  rw [reading, Registry.meaning, hname, Condition.Kind.ofName?_name]

theorem rule_alone {c : Condition} (hname : c.kind.name ∉ e.registry.names) (raw : Json) :
    e.rule r ⟨c.kind.name, raw, some c⟩ = e.condition r c := by
  rw [rule_reading, reading_alone hname]

theorem holds_alone {c : Condition} (hname : c.kind.name ∉ e.registry.names) (raw : Json)
    (f : Findings) : (c.alone raw).holds (e.passes r f) = e.holds r f c := by
  simp [Condition.alone, Tree.ofRule, Tree.holds, Tree.allHold, passes, reading_alone hname]

theorem tree_alone {c : Condition} (hname : c.kind.name ∉ e.registry.names) (raw : Json) :
    (e.tree r (c.alone raw)).quiet = (e.condition r c).quiet := by
  rw [Condition.alone, tree_ofRule, rule_alone hname]

/-- Conditions of one kind that do the same make trees that do the same. -/
theorem tree_alone_congr {c d : Condition} (hname : c.kind.name ∉ e.registry.names)
    (hkind : c.kind = d.kind) (h : e.condition r c = e.condition r d) (raw raw' : Json) :
    e.tree r (c.alone raw) = e.tree r (d.alone raw') := by
  have hrule : e.rule r ⟨c.kind.name, raw, some c⟩ = e.rule r ⟨d.kind.name, raw', some d⟩ := by
    rw [rule_alone hname, rule_alone (hkind ▸ hname), h]
  simp only [Condition.alone, Tree.ofRule, Engine.tree, Engine.rules]
  rw [hrule, hkind]

/-- The choice between two conditions of which one holds. -/
theorem evaluate_choice {c d : Condition} (hc : c.kind.name ∉ e.registry.names)
    (hd : d.kind.name ∉ e.registry.names) (raw raw' : Json) :
    (e.evaluate (some (.node [] [] [c.alone raw, d.alone raw'] none)) r s).matched =
      (e.holds r (s.cache.view (e.findings r)) c ||
        e.holds r (s.cache.view (e.findings r)) d) := by
  rw [evaluate_matched]
  simp [Tree.holds, Tree.allHold, Tree.someHolds, holds_alone hc, holds_alone hd]

/-- A list put together from two, neither of them empty, is the choice between the two; the
order of the entries of a list does not matter, nor how often they occur. A choice with an
empty list always holds, whereas for the rest alone there is always a request that fails. -/
theorem evaluate_list (h : Condition.IsList make)
    (hname : (make []).kind.name ∉ e.registry.names) :
    (∀ xs ys : List α, xs ≠ [] → ys ≠ [] → ∀ (raw rawx rawy : Json) (r : Request) (s : State),
      (e.evaluate (some ((make (xs ++ ys)).alone raw)) r s).quiet =
        (e.evaluate (some (.node [] [] [(make xs).alone rawx, (make ys).alone rawy] none))
          r s).quiet) ∧
      (∀ xs ys : List α, xs ≠ [] → (∀ x, x ∈ xs ↔ x ∈ ys) →
        ∀ (raw raw' : Json) (r : Request) (s : State),
          e.evaluate (some ((make xs).alone raw)) r s =
            e.evaluate (some ((make ys).alone raw')) r s) ∧
      ∀ ys : List α, ys ≠ [] → ∀ raw raw' : Json,
        (∀ (r : Request) (s : State),
          (e.evaluate (some (.node [] [] [(make []).alone raw, (make ys).alone raw'] none))
            r s).matched = true ∧
          (e.evaluate (some (.node [] [] [(make ys).alone raw', (make []).alone raw] none))
            r s).matched = true) ∧
        (e.evaluate (some ((make ([] ++ ys)).alone raw')) .empty .fresh).matched = false := by
  have hnames : ∀ xs, (make xs).kind.name ∉ e.registry.names := by
    intro xs
    rwa [h.kind_eq xs []]
  refine ⟨?_, ?_, ?_⟩
  · intro xs ys hx hy raw rawx rawy r s
    have hchoice : (e.tree r (.node [] [] [(make xs).alone rawx, (make ys).alone rawy] none)).quiet =
        (e.condition r (make xs)).quiet.orElse (e.condition r (make ys)).quiet := by
      rw [tree_any (List.cons_ne_nil _ _), ← tree_alone (hnames xs), ← tree_alone (hnames ys)]
      exact congrArg _ (Step.orElse_fail _)
    refine evaluate_quiet_of_tree ?_ s
    rw [tree_alone (hnames _), condition_append h hx hy, Step.quiet_orElse, hchoice]
  · intro xs ys hx hmem raw raw' r s
    have htree := tree_alone_congr (hnames xs) (h.kind_eq xs ys)
      (condition_congr (e := e) (r := r) h hx hmem) raw raw'
    rw [evaluate, evaluate, htree]
  · intro ys hy raw raw'
    refine ⟨fun r s => ⟨?_, ?_⟩, ?_⟩
    · rw [evaluate_choice (hnames []) (hnames ys), holds_nil h, Bool.true_or]
    · rw [evaluate_choice (hnames ys) (hnames []), holds_nil h, Bool.or_true]
    · rw [evaluate_matched, holds_alone (hnames _), List.nil_append]
      exact holds_empty h hy

/-- The visitor is in the second country of the list. -/
theorem evaluate_list_countries :
    Condition.IsList .geoip ∧ (Condition.geoip []).kind.name ∉ locator.registry.names ∧
      ["FR."] ≠ [] ∧ ["US."] ≠ [] ∧
      (locator.evaluate (some ((Condition.geoip ["FR.", "US."]).alone .null)) visitor .fresh).quiet =
        (locator.evaluate (some (.node [] []
          [(Condition.geoip ["FR."]).alone .null, (Condition.geoip ["US."]).alone .null] none))
          visitor .fresh).quiet ∧
      (locator.evaluate (some ((Condition.geoip ["FR.", "US."]).alone .null)) visitor
        .fresh).matched = true ∧
      (∀ x, x ∈ ["FR.", "US."] ↔ x ∈ ["US.", "FR.", "US."]) ∧
      locator.evaluate (some ((Condition.geoip ["FR.", "US."]).alone .null)) visitor .fresh =
        locator.evaluate (some ((Condition.geoip ["US.", "FR.", "US."]).alone .null)) visitor
          .fresh ∧
      (locator.evaluate (some ((Condition.geoip ["US."]).alone .null)) .empty .fresh).matched =
        false := by
  have hname : (Condition.geoip []).kind.name ∉ locator.registry.names := by decide
  obtain ⟨hsplit, hmembers, hempty⟩ := evaluate_list .geoip hname
  have hmem : ∀ x, x ∈ ["FR.", "US."] ↔ x ∈ ["US.", "FR.", "US."] := by
    grind
  exact ⟨.geoip, hname, by decide, by decide,
    hsplit ["FR."] ["US."] (by decide) (by decide) .null .null .null visitor .fresh, rfl, hmem,
    hmembers _ _ (by decide) hmem .null .null visitor .fresh,
    (hempty ["US."] (by decide) .null .null).2⟩

end Engine

end Targeting
