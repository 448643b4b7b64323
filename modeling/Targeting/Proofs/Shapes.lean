import Targeting.Json.Shape

/-!
# What a shape admits

The values of a shape, as a grammar of JSON values (`Shape.Admits`), and all that is wrong
with a value that is none of them, in the order of the value (`Shape.mismatches`). Decoding
succeeds for the values of the shape and otherwise reports the first mismatch
(`Shape.decode_reports`, `Shape.mismatches_eq_nil`).
-/

namespace Targeting

/-- The run stops at the first of the offences; without any it succeeds. -/
def Reports (run : Except ε α) (offences : List ε) : Prop :=
  match run with
  | .ok _ => offences = []
  | .error e => offences.head? = some e

namespace Reports

variable {run : Except ε α} {offences : List ε}

theorem ok (a : α) : Reports (.ok a : Except ε α) [] := rfl

theorem error (e : ε) (more : List ε) : Reports (.error e : Except ε α) (e :: more) := rfl

theorem ok_iff (h : Reports run offences) : (∃ a, run = .ok a) ↔ offences = [] := by
  cases run with
  | ok a => exact ⟨fun _ => h, fun _ => ⟨a, rfl⟩⟩
  | error e =>
    refine ⟨nofun, fun hnil => ?_⟩
    rw [hnil] at h
    exact nomatch h

theorem error_iff (h : Reports run offences) {e : ε} :
    run = .error e ↔ offences.head? = some e := by
  cases run with
  | ok a =>
    obtain rfl : offences = [] := h
    simp
  | error first =>
    have hfirst : offences.head? = some first := h
    simp [hfirst]

theorem map (h : Reports run offences) (f : α → β) : Reports (run.map f) offences := by
  cases run <;> exact h

theorem mapError (h : Reports run offences) (f : ε → δ) :
    Reports (run.mapError f) (offences.map f) := by
  cases run with
  | ok a =>
    obtain rfl : offences = [] := h
    exact ok a
  | error e =>
    have hfirst : offences.head? = some e := h
    change (offences.map f).head? = some (f e)
    rw [List.head?_map, hfirst, Option.map_some]

theorem bind {next : α → Except ε β} {later : List ε} (h : Reports run offences)
    (hnext : ∀ a, run = .ok a → Reports (next a) later) :
    Reports (run >>= next) (offences ++ later) := by
  cases run with
  | ok a =>
    obtain rfl : offences = [] := h
    exact hnext a rfl
  | error e =>
    have hfirst : offences.head? = some e := h
    simp [Reports, Bind.bind, Except.bind, hfirst]

theorem both {second : Except ε β} {later : List ε} (h : Reports run offences)
    (hsecond : Reports second later) (g : α → β → γ) :
    Reports (do let x ← run; return g x (← second)) (offences ++ later) :=
  bind h fun x _ => map hsecond (g x)

theorem mapM {f : β → Except ε α} {each : β → List ε} :
    (items : List β) → (∀ item ∈ items, Reports (f item) (each item)) →
      Reports (items.mapM f) (items.flatMap each)
  | [], _ => ok []
  | item :: rest, h => by
    rw [List.mapM_cons, List.flatMap_cons]
    exact both (h item List.mem_cons_self)
      (mapM rest fun other hother => h other (List.mem_cons_of_mem _ hother)) List.cons

theorem forM {f : β → Except ε PUnit} {each : β → List ε} :
    (items : List β) → (∀ item ∈ items, Reports (f item) (each item)) →
      Reports (items.forM f) (items.flatMap each)
  | [], _ => ok ()
  | item :: rest, h => by
    rw [List.flatMap_cons]
    exact bind (h item List.mem_cons_self) fun _ _ =>
      forM rest fun other hother => h other (List.mem_cons_of_mem _ hother)

end Reports

-- ---------------------------------------------------------------------------
-- The values of a shape
-- ---------------------------------------------------------------------------

namespace Json

def IsText (v : Json) : Prop := ∃ s, v = .text s

def IsFlag (v : Json) : Prop := ∃ b, v = .bool b

/-- A whole number of 64 bits with a sign; `1.0` is none. -/
def IsWord (v : Json) : Prop :=
  ∃ n, v = .integer n ∧ -0x8000000000000000 ≤ n ∧ n < 0x8000000000000000

def IsNumber (v : Json) : Prop := (∃ n, v = .integer n) ∨ ∃ x, v = .real x

def IsOptional (inner : Json → Prop) (v : Json) : Prop := v = .null ∨ inner v

def IsList (inner : Json → Prop) (v : Json) : Prop :=
  ∃ items, v = .array items ∧ ∀ item ∈ items, inner item

def IsTable (inner : Json → Prop) (v : Json) : Prop :=
  ∃ members, v = .object members ∧ ∀ member ∈ members, inner member.2

structure Field where
  name : String
  required : Bool
  admits : Json → Prop

/-- An object with the required fields, where members of other names may be anything; or a
list of values for the fields in order, where optional fields may be missing at the end. -/
def IsRecord (fields : List Field) : Json → Prop
  | .object members => ∀ field ∈ fields,
    (field.required = true → field.name ∈ Assoc.keys members) ∧
      ∀ v, (field.name, v) ∈ members → field.admits v
  | .array items =>
    items.length ≤ fields.length ∧ (∀ pair ∈ fields.zip items, pair.1.admits pair.2) ∧
      ∀ field ∈ fields.drop items.length, field.required = false
  | _ => False

end Json

mutual
def Shape.Admits : Shape → Json → Prop
  | .text => Json.IsText
  | .flag => Json.IsFlag
  | .integer => Json.IsWord
  | .real => Json.IsNumber
  | .optional inner => Json.IsOptional inner.Admits
  | .table inner => Json.IsTable inner.Admits
  | .record _ layout => Json.IsRecord layout.fields
def Layout.fields : Layout → List Json.Field
  | .nil => []
  | .cons name required shape rest => ⟨name, required, shape.Admits⟩ :: rest.fields
end

mutual
def Shape.Distinct : Shape → Prop
  | .optional inner | .table inner => inner.Distinct
  | .record _ layout => layout.names.Nodup ∧ layout.Distinct
  | _ => True
def Layout.Distinct : Layout → Prop
  | .nil => True
  | .cons _ _ shape rest => shape.Distinct ∧ rest.Distinct
end

-- ---------------------------------------------------------------------------
-- What is wrong with a value
-- ---------------------------------------------------------------------------

def Layout.missing : Layout → List String → List Mismatch
  | .nil, _ => []
  | .cons name required _ rest, present =>
    if required = true ∧ name ∉ present then .missing name :: rest.missing present
    else rest.missing present

mutual
/-- Every mismatch, in the order of the value. What an object lacks comes last. -/
def Shape.mismatches : Shape → Json → List Mismatch
  | .text, .text _ => []
  | .flag, .bool _ => []
  | .integer, .integer n =>
    if Decimal.fitsWord n then [] else [.range (.integer n) Shape.integer.wanted]
  | .real, .integer _ => []
  | .real, .real _ => []
  | .optional _, .null => []
  | .optional inner, v => inner.mismatches v
  | .table inner, .object members => members.flatMap fun member => inner.mismatches member.2
  | .record _ layout, .object members =>
    members.flatMap (fun member => layout.mismatchesAt member.1 member.2) ++
      layout.missing (Assoc.keys members)
  | .record title layout, .array items =>
    layout.mismatchesAlong items 0 (Layout.wanted title layout.size) items.length
  | shape, v => [.kind v shape.wanted]
def Layout.mismatchesAt : Layout → String → Json → List Mismatch
  | .nil, _, _ => []
  | .cons name _ shape rest, key, v =>
    if name = key then shape.mismatches v else rest.mismatchesAt key v
def Layout.mismatchesAlong : Layout → List Json → Nat → String → Nat → List Mismatch
  | .nil, [], _, _, _ => []
  | .nil, _ :: _, _, _, total => [.length total "fewer elements in array"]
  | .cons _ required _ rest, [], place, wanted, total =>
    if required then [.length place wanted] else rest.mismatchesAlong [] (place + 1) wanted total
  | .cons _ _ shape rest, v :: items, place, wanted, total =>
    shape.mismatches v ++ rest.mismatchesAlong items (place + 1) wanted total
end

theorem Layout.missing_eq_nil {present : List String} : (layout : Layout) →
    (layout.missing present = [] ↔
      ∀ field ∈ layout.fields, field.required = true → field.name ∈ present)
  | .nil => by simp [missing, fields]
  | .cons name required shape rest => by
    rw [missing, fields, List.forall_mem_cons, ← rest.missing_eq_nil]
    split <;> grind

theorem Layout.mismatchesAt_of_not_mem {key : String} {v : Json} : (layout : Layout) →
    key ∉ layout.names → layout.mismatchesAt key v = []
  | .nil, _ => rfl
  | .cons _ _ _ rest, h => by
    rw [names, List.mem_cons, not_or] at h
    rw [mismatchesAt, if_neg (Ne.symm h.1), rest.mismatchesAt_of_not_mem h.2]

-- The values without mismatches are those of the shape.
mutual
theorem Shape.mismatches_eq_nil : (shape : Shape) → shape.Distinct → (v : Json) →
    (shape.mismatches v = [] ↔ shape.Admits v)
  | .text, _, v => by cases v <;> simp [Shape.mismatches, Shape.Admits, Json.IsText]
  | .flag, _, v => by cases v <;> simp [Shape.mismatches, Shape.Admits, Json.IsFlag]
  | .integer, _, v => by
    cases v <;> simp [Shape.mismatches, Shape.Admits, Json.IsWord, Decimal.fitsWord]
  | .real, _, v => by cases v <;> simp [Shape.mismatches, Shape.Admits, Json.IsNumber]
  | .optional inner, h, v => by
    have ih := inner.mismatches_eq_nil h v
    cases v <;> simp_all [Shape.mismatches, Shape.Admits, Json.IsOptional]
  | .table inner, h, v => by
    cases v <;> simp [Shape.mismatches, Shape.Admits, Json.IsTable, inner.mismatches_eq_nil h]
  | .record title layout, h, v => by
    cases v with
    | object members =>
      simp only [Shape.mismatches, Shape.Admits, Json.IsRecord, List.append_eq_nil_iff,
        List.flatMap_eq_nil_iff, layout.missing_eq_nil, layout.mismatchesAt_eq_nil h.1 h.2]
      constructor
      · rintro ⟨hadmits, hrequired⟩ field hfield
        exact ⟨hrequired field hfield, fun v hv => hadmits _ hv field hfield rfl⟩
      · intro hfields
        exact ⟨fun member hmember field hfield hname =>
            (hfields field hfield).2 _ (by rwa [hname]),
          fun field hfield => (hfields field hfield).1⟩
    | array items => exact layout.mismatchesAlong_eq_nil h.2 items ..
    | _ => simp [Shape.mismatches, Shape.Admits, Json.IsRecord]
theorem Layout.mismatchesAt_eq_nil : (layout : Layout) → layout.names.Nodup → layout.Distinct →
    (key : String) → (v : Json) → (layout.mismatchesAt key v = [] ↔
      ∀ field ∈ layout.fields, field.name = key → field.admits v)
  | .nil, _, _, _, _ => by simp [Layout.mismatchesAt, Layout.fields]
  | .cons name required shape rest, hnames, h, key, v => by
    obtain ⟨hname, hnames⟩ := List.nodup_cons.mp hnames
    rw [Layout.mismatchesAt, Layout.fields, List.forall_mem_cons,
      ← rest.mismatchesAt_eq_nil hnames h.2]
    by_cases hk : name = key
    · subst hk
      simp [shape.mismatches_eq_nil h.1, rest.mismatchesAt_of_not_mem hname]
    · simp [hk]
theorem Layout.mismatchesAlong_eq_nil : (layout : Layout) → layout.Distinct →
    (items : List Json) → (place : Nat) → (wanted : String) → (total : Nat) →
    (layout.mismatchesAlong items place wanted total = [] ↔
      items.length ≤ layout.fields.length ∧
        (∀ pair ∈ layout.fields.zip items, pair.1.admits pair.2) ∧
          ∀ field ∈ layout.fields.drop items.length, field.required = false)
  | .nil, _, [], _, _, _ => by simp [Layout.mismatchesAlong, Layout.fields]
  | .nil, _, _ :: _, _, _, _ => by simp [Layout.mismatchesAlong, Layout.fields]
  | .cons _ required _ rest, h, [], place, wanted, total => by
    have ih := rest.mismatchesAlong_eq_nil h.2 [] (place + 1) wanted total
    cases required <;> simp_all [Layout.mismatchesAlong, Layout.fields]
  | .cons _ _ shape rest, h, v :: items, place, wanted, total => by
    simp [Layout.mismatchesAlong, Layout.fields, shape.mismatches_eq_nil h.1,
      rest.mismatchesAlong_eq_nil h.2, and_assoc, and_left_comm]
end

-- ---------------------------------------------------------------------------
-- Decoding
-- ---------------------------------------------------------------------------

mutual
theorem Shape.decode_reports : (shape : Shape) → shape.Distinct → (v : Json) →
    Reports (shape.decode v) (shape.mismatches v)
  | .text, _, v => by
    cases v with
    | text s => exact .ok s
    | _ => exact .error ..
  | .flag, _, v => by
    cases v with
    | bool b => exact .ok b
    | _ => exact .error ..
  | .integer, _, v => by
    cases v with
    | integer n =>
      rw [Shape.decode, Shape.mismatches]
      split
      · exact .ok n
      · exact .error ..
    | _ => exact .error ..
  | .real, _, v => by
    cases v with
    | integer _ | real _ => exact .ok _
    | _ => exact .error ..
  | .optional inner, h, v => by
    cases v with
    | null => exact .ok none
    | _ => exact (inner.decode_reports h _).map some
  | .table inner, h, v => by
    cases v with
    | object members =>
      exact .mapM members fun member _ => (inner.decode_reports h member.2).map _
    | _ => exact .error ..
  | .record title layout, h, v => by
    cases v with
    | object members =>
      have hcheck := Reports.forM members fun member _ =>
        layout.check_reports h.2 member.1 member.2
      refine .bind hcheck fun _ hok => layout.collect_reports h.1 h.2 members ?_
      exact List.flatMap_eq_nil_iff.mp (hcheck.ok_iff.mp ⟨_, hok⟩)
    | array items => exact layout.align_reports h.2 items ..
    | _ => exact .error ..
theorem Layout.check_reports : (layout : Layout) → layout.Distinct → (key : String) →
    (v : Json) → Reports (layout.check key v) (layout.mismatchesAt key v)
  | .nil, _, _, _ => .ok ()
  | .cons name _ shape rest, h, key, v => by
    rw [Layout.check, Layout.mismatchesAt]
    split
    · exact (shape.decode_reports h.1 v).map _
    · exact rest.check_reports h.2 key v
/-- Of members without mismatches, only fields can be missing. -/
theorem Layout.collect_reports : (layout : Layout) → layout.names.Nodup → layout.Distinct →
    (members : List (String × Json)) →
    (∀ member ∈ members, layout.mismatchesAt member.1 member.2 = []) →
    Reports (layout.collect members) (layout.missing (Assoc.keys members))
  | .nil, _, _, _, _ => .ok ()
  | .cons name required shape rest, hnames, h, members, hmembers => by
    obtain ⟨hname, hnames⟩ := List.nodup_cons.mp hnames
    have hrest : ∀ member ∈ members, rest.mismatchesAt member.1 member.2 = [] := by
      intro member hmember
      by_cases hk : name = member.1
      · exact rest.mismatchesAt_of_not_mem (hk ▸ hname)
      · simpa [Layout.mismatchesAt, hk] using hmembers member hmember
    have ih := rest.collect_reports hnames h.2 members hrest
    cases hv : Assoc.get? members name with
    | none =>
      have hmissing : name ∉ Assoc.keys members := Assoc.get?_eq_none.mp hv
      cases required with
      | true =>
        rw [Layout.collect, hv, Layout.missing, if_pos ⟨rfl, hmissing⟩]
        exact .error ..
      | false =>
        rw [Layout.collect, hv, Layout.missing, if_neg (by simp)]
        exact ih.map _
    | some v =>
      have hmember := Assoc.mem_of_get? hv
      have hpresent : name ∈ Assoc.keys members := List.mem_map_of_mem hmember
      have hdecode : Reports (shape.decode v) [] := by
        have hnil := hmembers _ hmember
        rw [Layout.mismatchesAt, if_pos rfl] at hnil
        exact hnil ▸ shape.decode_reports h.1 v
      rw [Layout.missing, if_neg fun hm => hm.2 hpresent]
      cases required with
      | true | false =>
        rw [Layout.collect, hv]
        exact hdecode.both ih _
theorem Layout.align_reports : (layout : Layout) → layout.Distinct → (items : List Json) →
    (place : Nat) → (wanted : String) → (total : Nat) →
    Reports (layout.align items place wanted total)
      (layout.mismatchesAlong items place wanted total)
  | .nil, _, [], _, _, _ => .ok ()
  | .nil, _, _ :: _, _, _, _ => .error ..
  | .cons _ true _ _, _, [], _, _, _ => .error ..
  | .cons _ false _ rest, h, [], place, wanted, total =>
    (rest.align_reports h.2 [] (place + 1) wanted total).map _
  | .cons _ true shape rest, h, v :: items, place, wanted, total =>
    (shape.decode_reports h.1 v).both (rest.align_reports h.2 items (place + 1) wanted total) _
  | .cons _ false shape rest, h, v :: items, place, wanted, total =>
    (shape.decode_reports h.1 v).both (rest.align_reports h.2 items (place + 1) wanted total) _
end

end Targeting
