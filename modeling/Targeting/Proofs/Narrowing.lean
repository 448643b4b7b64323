import Mathlib.Data.List.Forall2
import Targeting.Proofs.SingleConditions

/-!
# Narrower device criteria

A criterion with more constraints fits fewer devices (`Device.Criterion.fits_of_narrows`), once
no version is below zero: any range of versions rules out some, but the range that is missing
rules out those below zero. A name without a class that has names, and a range without a
browser, are not looked at (`Device.Criterion.Alike`); in JSON a class that is unknown and an
empty text are the same as no field at all (`Device.Criterion.Trimmed`).
-/

namespace Targeting

namespace Device

-- ---------------------------------------------------------------------------
-- Versions
-- ---------------------------------------------------------------------------

section
open Float.Model (UnpackedFloat)

theorem le_iff_unpack {x y : Float} :
    x ≤ y ↔ UnpackedFloat.le x.toModel.unpack y.toModel.unpack = true := decide_eq_true_iff

theorem lt_iff_unpack {x y : Float} :
    x < y ↔ UnpackedFloat.lt x.toModel.unpack y.toModel.unpack = true := decide_eq_true_iff

theorem zero_unpack : (0.0 : Float).toModel.unpack = .zero .positive := rfl

theorem infinity_unpack : Versions.infinity.toModel.unpack = .infinity .positive := rfl

theorem zero_le_of_not_lt {x : Float} (hnumber : x.isNaN = false) (h : ¬ x < 0.0) : 0.0 ≤ x := by
  rw [lt_iff_unpack, zero_unpack] at h
  rw [le_iff_unpack, zero_unpack]
  change x.toModel.unpack.isNaN = false at hnumber
  cases hx : x.toModel.unpack with
  | notANumber =>
    rw [hx] at hnumber
    cases hnumber
  | zero => rfl
  | infinity sign | finite sign =>
    rw [hx] at h
    cases sign with
    | positive => rfl
    | negative => exact absurd rfl h

theorem le_infinity {x : Float} (hnumber : x.isNaN = false) : x ≤ Versions.infinity := by
  rw [le_iff_unpack, infinity_unpack]
  change x.toModel.unpack.isNaN = false at hnumber
  cases hx : x.toModel.unpack with
  | notANumber =>
    rw [hx] at hnumber
    cases hnumber
  | zero | finite => rfl
  | infinity sign => cases sign <;> rfl

end

theorem Versions.any_contains {version : Float} (hnumber : version.isNaN = false)
    (h : ¬ version < 0.0) : Versions.any.contains version = true := by
  simp only [contains, Bool.and_eq_true, decide_eq_true_eq]
  exact ⟨zero_le_of_not_lt hnumber h, le_infinity hnumber⟩

/-- A zero bound, be it negative, does not bind. -/
theorem Versions.binding_zero {bound : Float} (h : (bound == 0.0) = true) :
    binding (some bound) = binding none := by
  rw [binding, Option.filter_some, bne, h]
  rfl

/-- No version of a browser that is detected is below zero. -/
def Profile.NoNegative (p : Profile) : Prop :=
  ∀ browser version, p.version browser = some version → ¬ version < 0.0

-- ---------------------------------------------------------------------------
-- Criteria
-- ---------------------------------------------------------------------------

namespace Criterion

/-- Every constraint of the wide criterion is one of the narrow one. -/
structure Narrows (narrow wide : Criterion) : Prop where
  kind : wide.kind = none ∨ wide.kind = narrow.kind
  name : wide.name = none ∨ wide.name = narrow.name
  browser : wide.browser = none ∨ wide.browser = narrow.browser
  versions : wide.versions = none ∨ wide.versions = narrow.versions

/-- The two differ at most in what is not looked at. -/
inductive Alike : Criterion → Criterion → Prop
  /-- A name without a class, or of desktops, which have none. -/
  | name {kind : Option Class} (h : kind = none ∨ kind = some .desktop)
    (name name' browser : Option String) (versions : Option Versions) :
    Alike ⟨kind, name, browser, versions⟩ ⟨kind, name', browser, versions⟩
  /-- A range of versions without a browser. -/
  | versions (kind : Option Class) (name : Option String) (versions versions' : Option Versions) :
    Alike ⟨kind, name, none, versions⟩ ⟨kind, name, none, versions'⟩

variable {narrow wide c d : Criterion} {p : Profile}

theorem classMatches_of_narrows (h : narrow.Narrows wide) (hmatch : narrow.classMatches p = true) :
    wide.classMatches p = true := by
  obtain ⟨kind, name, _, _⟩ := wide
  rcases h.kind with hkind | hkind
  · obtain rfl : kind = none := hkind
    rfl
  · obtain rfl : kind = narrow.kind := hkind
    rcases h.name with hname | hname
    · obtain rfl : name = none := hname
      -- a device of the name asked for has a name
      unfold classMatches at hmatch ⊢
      cases hk : narrow.kind with
      | none => rfl
      | some kind =>
        rw [hk] at hmatch
        cases kind <;> cases hn : narrow.name <;> simp_all
    · obtain rfl : name = narrow.name := hname
      exact hmatch

theorem browserMatches_of_narrows (h : narrow.Narrows wide) (hp : p.NoNegative)
    (hmatch : narrow.browserMatches p = true) : wide.browserMatches p = true := by
  obtain ⟨_, _, browser, versions⟩ := wide
  rcases h.browser with hbrowser | hbrowser
  · obtain rfl : browser = none := hbrowser
    rfl
  obtain rfl : browser = narrow.browser := hbrowser
  rcases h.versions with hversions | hversions
  · obtain rfl : versions = none := hversions
    unfold browserMatches at hmatch ⊢
    cases hb : narrow.browser with
    | none => rfl
    | some browser =>
      cases hv : p.version browser with
      | none => simp only [hb, hv, Bool.false_eq_true] at hmatch
      | some version =>
        simp only [hb, hv, Bool.and_eq_true, Bool.not_eq_true'] at hmatch ⊢
        obtain ⟨⟨hzero, hnumber⟩, -⟩ := hmatch
        exact ⟨⟨hzero, hnumber⟩, Versions.any_contains hnumber (hp browser version hv)⟩
  · obtain rfl : versions = narrow.versions := hversions
    exact hmatch

theorem fits_of_narrows (h : narrow.Narrows wide) (hp : p.NoNegative)
    (hfits : narrow.fits p = true) : wide.fits p = true := by
  rw [fits, Bool.and_eq_true] at hfits ⊢
  exact ⟨classMatches_of_narrows h hfits.1, browserMatches_of_narrows h hp hfits.2⟩

theorem Alike.fits_eq (h : c.Alike d) (p : Profile) : c.fits p = d.fits p := by
  cases h with
  | name h name name' browser versions => rcases h with rfl | rfl <;> rfl
  | versions => rfl

/-- Absent, zero and no number: a browser is not detected by such a version. -/
theorem fits_of_no_version {browser : String} (hbrowser : c.browser = some browser)
    (h : ∀ version, p.version browser = some version →
      (version == 0.0) = true ∨ version.isNaN = true) : c.fits p = false := by
  have hmatch : c.browserMatches p = false := by
    simp only [browserMatches, hbrowser]
    cases hv : p.version browser with
    | none => rfl
    | some version => rcases h version hv with hzero | hnan <;> simp_all [bne]
  rw [fits, hmatch, Bool.and_false]

-- ---------------------------------------------------------------------------
-- Criteria in JSON
-- ---------------------------------------------------------------------------

/-- A field with this value asks for nothing. -/
inductive Idle : String → Json → Prop
  | device {name : String} (h : Class.ofName? name = none) : Idle "device" (.text name)
  | type : Idle "type" (.text "")
  | browser : Idle "browser" (.text "")

/-- The second value is the first one without a field that asks for nothing. In a list a field
that is not at the end is left out by a `null`. -/
inductive Trimmed : Json → Json → Prop
  | member {name : String} {v : Json} (h : Idle name v) {before after : List (String × Json)}
    (hbefore : name ∉ Assoc.keys before) (hafter : name ∉ Assoc.keys after) :
    Trimmed (.object (before ++ (name, v) :: after)) (.object (before ++ after))
  | item {name : String} {v : Json} (h : Idle name v) {before after : List Json}
    (hplace : Criterion.layout.names[before.length]? = some name) :
    Trimmed (.array (before ++ v :: after)) (.array (before ++ .null :: after))
  | last {name : String} {v : Json} (h : Idle name v) {before : List Json}
    (hplace : Criterion.layout.names[before.length]? = some name) :
    Trimmed (.array (before ++ [v])) (.array before)

-- ---------------------------------------------------------------------------
-- What is read of them
-- ---------------------------------------------------------------------------

def field {α : Type} (decode : Json → Except Mismatch α) : Option Json → Except Mismatch (Option α)
  | none => .ok none
  | some v => (decode v).map some

def classOf (v : Option Json) : Except Mismatch (Option Class) :=
  (field (Shape.optional .text).decode v).map fun text => text.join.bind Class.ofName?

def nameOf (v : Option Json) : Except Mismatch (Option String) :=
  (field (Shape.optional .text).decode v).map fun text => filled text.join

def versionsOf (v : Option Json) : Except Mismatch (Option Versions) :=
  (field (Shape.optional Versions.shape).decode v).map fun versions =>
    versions.join.map Versions.ofContent

def ofFields (device type browser version : Option Json) : Except Mismatch Criterion := do
  let kind ← classOf device
  let name ← nameOf type
  let browser ← nameOf browser
  let versions ← versionsOf version
  return ⟨kind, name, browser, versions⟩

theorem classOf_unknown {name : String} (h : Class.ofName? name = none) {v : Option Json}
    (hv : v = none ∨ v = some .null) : classOf (some (.text name)) = classOf v := by
  have hmissing : classOf (some (.text name)) = classOf none := by
    simp [classOf, field, Shape.decode, Except.map, h]
  rcases hv with rfl | rfl
  · exact hmissing
  · exact hmissing

theorem nameOf_empty {v : Option Json} (hv : v = none ∨ v = some .null) :
    nameOf (some (.text "")) = nameOf v := by
  rcases hv with rfl | rfl <;> rfl

theorem collect_cons (name : String) (shape : Shape) (rest : Layout)
    (members : List (String × Json)) :
    Layout.collect (.cons name false shape rest) members = (do
      let x ← field shape.decode (Assoc.get? members name)
      return (x, ← rest.collect members)) := by
  rw [Layout.collect]
  cases Assoc.get? members name with
  | none => rfl
  | some v =>
    simp only [field]
    cases shape.decode v <;> rfl

theorem align_cons (name : String) (shape : Shape) (rest : Layout) (items : List Json)
    (place : Nat) (wanted : String) (total : Nat) :
    Layout.align (.cons name false shape rest) items place wanted total = (do
      let x ← field shape.decode items[0]?
      return (x, ← rest.align items.tail (place + 1) wanted total)) := by
  cases items with
  | nil =>
    rw [Layout.align]
    rfl
  | cons v items =>
    rw [Layout.align]
    simp only [field, List.getElem?_cons_zero, List.tail_cons]
    cases shape.decode v <;> rfl

theorem collect_layout (members : List (String × Json)) :
    (layout.collect members).map ofContent =
      ofFields (Assoc.get? members "device") (Assoc.get? members "type")
        (Assoc.get? members "browser") (Assoc.get? members "version") := by
  simp only [layout, collect_cons, ofFields, classOf, nameOf, versionsOf]
  rcases field (Shape.optional .text).decode (Assoc.get? members "device") with _ | kind
  · rfl
  rcases field (Shape.optional .text).decode (Assoc.get? members "type") with _ | name
  · rfl
  rcases field (Shape.optional .text).decode (Assoc.get? members "browser") with _ | browser
  · rfl
  rcases field (Shape.optional Versions.shape).decode (Assoc.get? members "version") with
    _ | versions
  · rfl
  · rfl

theorem decode_object (members : List (String × Json)) :
    (shape.decode (.object members)).map ofContent = (do
      members.forM fun member => layout.check member.1 member.2
      ofFields (Assoc.get? members "device") (Assoc.get? members "type")
        (Assoc.get? members "browser") (Assoc.get? members "version")) := by
  rw [← collect_layout]
  change Except.map ofContent (do
    members.forM fun member => layout.check member.1 member.2
    layout.collect members) = _
  rcases members.forM fun member => layout.check member.1 member.2 with _ | _ <;> rfl

def listed (items : List Json) (name : String) : Option Json := items[layout.names.idxOf name]?

theorem decode_array (items : List Json) :
    (shape.decode (.array items)).map ofContent = (do
      let c ← ofFields (listed items "device") (listed items "type") (listed items "browser")
        (listed items "version")
      if 4 < items.length then .error (.length items.length "fewer elements in array")
      else return c) := by
  have hend : ∀ wanted total, Layout.align .nil items.tail.tail.tail.tail 4 wanted total =
      if 4 < items.length then .error (.length total "fewer elements in array") else .ok () := by
    intro wanted total
    rcases items with _ | ⟨_, _ | ⟨_, _ | ⟨_, _ | ⟨_, _ | ⟨_, _⟩⟩⟩⟩⟩
    · rfl
    · rfl
    · rfl
    · rfl
    · rfl
    · rw [if_pos (by simp)]
      rfl
  have hplaces : layout.names.idxOf "device" = 0 ∧ layout.names.idxOf "type" = 1 ∧
      layout.names.idxOf "browser" = 2 ∧ layout.names.idxOf "version" = 3 := by decide
  change Except.map ofContent
    (layout.align items 0 (Layout.wanted "RawDeviceCriterion" layout.size) items.length) = _
  simp only [listed, hplaces]
  simp only [layout, align_cons, ofFields, classOf, nameOf, versionsOf, List.getElem?_tail, hend]
  rcases field (Shape.optional .text).decode items[0]? with _ | kind
  · rfl
  rcases field (Shape.optional .text).decode items[1]? with _ | name
  · rfl
  rcases field (Shape.optional .text).decode items[2]? with _ | browser
  · rfl
  rcases field (Shape.optional Versions.shape).decode items[3]? with _ | versions
  · rfl
  by_cases h : 4 < items.length
  · simp only [if_pos h]
    rfl
  · simp only [if_neg h]
    rfl

theorem listed_self {name : String} {place : Nat} (hplace : layout.names[place]? = some name)
    (items : List Json) : listed items name = items[place]? := by
  have hnodup : layout.names.Nodup := by decide
  obtain ⟨hlt, rfl⟩ := List.getElem?_eq_some_iff.mp hplace
  rw [listed, hnodup.idxOf_getElem]

theorem listed_of_ne {name other : String} {place : Nat}
    (hplace : layout.names[place]? = some name) (hother : other ≠ name) {items items' : List Json}
    (h : ∀ i, i ≠ place → items[i]? = items'[i]?) : listed items other = listed items' other := by
  refine h _ fun heq => hother ?_
  obtain ⟨hlt, rfl⟩ := List.getElem?_eq_some_iff.mp hplace
  subst heq
  exact (List.getElem_idxOf hlt).symm

theorem Idle.check {name : String} {v : Json} (h : Idle name v) : layout.check name v = .ok () := by
  cases h <;> rfl

/-- Leaving a member out changes the look-up of its name only. -/
theorem get?_member {name : String} {before : List (String × Json)}
    (hbefore : name ∉ Assoc.keys before) (v : Json) (after : List (String × Json))
    (other : String) :
    Assoc.get? (before ++ (name, v) :: after) other =
      if other = name then some v else Assoc.get? (before ++ after) other := by
  have happend : ∀ rest : List (String × Json), Assoc.get? (before ++ rest) other =
      (Assoc.get? before other).or (Assoc.get? rest other) := fun rest => List.lookup_append
  rw [happend, happend, Assoc.get?_cons]
  by_cases h : other = name
  · rw [if_pos h, if_pos h, Assoc.get?_eq_none.mpr (h ▸ hbefore), Option.none_or]
  · rw [if_neg h, if_neg h]

/-- What asks for nothing is read like a missing field or a `null`. -/
theorem ofFields_idle {name : String} {v : Json} (h : Idle name v)
    (fields others : String → Option Json) (hname : fields name = some v)
    (hnone : others name = none ∨ others name = some .null)
    (hother : ∀ other, other ≠ name → fields other = others other) :
    ofFields (fields "device") (fields "type") (fields "browser") (fields "version") =
      ofFields (others "device") (others "type") (others "browser") (others "version") := by
  cases h with
  | device h =>
    rw [ofFields, hname, classOf_unknown h hnone, hother "type" (by decide),
      hother "browser" (by decide), hother "version" (by decide)]
    rfl
  | type =>
    rw [ofFields, hname, nameOf_empty hnone, hother "device" (by decide),
      hother "browser" (by decide), hother "version" (by decide)]
    rfl
  | browser =>
    rw [ofFields, hname, nameOf_empty hnone, hother "device" (by decide),
      hother "type" (by decide), hother "version" (by decide)]
    rfl

theorem Trimmed.decode_eq {v w : Json} (h : Trimmed v w) :
    (shape.decode v).map ofContent = (shape.decode w).map ofContent := by
  cases h with
  | @member name v h before after hbefore hafter =>
    have hcheck :
        (before ++ (name, v) :: after).forM (fun member => layout.check member.1 member.2) =
          (before ++ after).forM fun member => layout.check member.1 member.2 := by
      simp only [List.forM_eq_forM, List.forM_append, List.forM_cons, h.check]
      rfl
    have hnone : Assoc.get? (before ++ after) name = none := by
      rw [Assoc.get?_eq_none, Assoc.keys, List.map_append, List.mem_append]
      exact not_or.mpr ⟨hbefore, hafter⟩
    have hget := get?_member hbefore v after
    rw [decode_object, decode_object, hcheck,
      ofFields_idle h (Assoc.get? (before ++ (name, v) :: after)) (Assoc.get? (before ++ after))
        ?_ (.inl hnone) ?_]
    · rw [hget, if_pos rfl]
    · intro other hother
      rw [hget, if_neg hother]
  | @item name v h before after hplace =>
    have hlength : (before ++ v :: after).length = (before ++ .null :: after).length := by
      rw [List.length_append, List.length_append, List.length_cons, List.length_cons]
    have hrest : ∀ i, i ≠ before.length →
        (before ++ v :: after)[i]? = (before ++ .null :: after)[i]? := by
      grind
    rw [decode_array, decode_array, hlength,
      ofFields_idle h (listed (before ++ v :: after)) (listed (before ++ .null :: after))
        ?_ (.inr ?_) fun other hother => listed_of_ne hplace hother hrest]
    · simp [listed_self hplace]
    · simp [listed_self hplace]
  | @last name v h before hplace =>
    have hrest : ∀ i, i ≠ before.length → (before ++ [v])[i]? = before[i]? := by
      grind
    have hlt : before.length < 4 := (List.getElem?_eq_some_iff.mp hplace).1
    have hshort : ¬ 4 < before.length := by omega
    have hshort' : ¬ 4 < (before ++ [v]).length := by
      rw [List.length_append, List.length_singleton]
      omega
    simp only [decode_array, if_neg hshort, if_neg hshort']
    rw [ofFields_idle h (listed (before ++ [v])) (listed before) ?_ (.inl ?_)
      fun other hother => listed_of_ne hplace hother hrest]
    · simp [listed_self hplace]
    · simp [listed_self hplace]

theorem Trimmed.record_eq {v w : Json} (h : Trimmed v w) :
    Condition.record .device shape ofContent v = Condition.record .device shape ofContent w := by
  have hmap : ∀ x : Except Mismatch shape.Content,
      (x.mapError (CompileError.badRecord .device)).map ofContent =
        (x.map ofContent).mapError (CompileError.badRecord .device) := by
    intro x
    cases x <;> rfl
  rw [Condition.record, Condition.record, hmap, hmap, h.decode_eq]

/-- In whatever list of criteria the field is left out. -/
theorem Trimmed.compile_eq {v w : Json} (h : Trimmed v w) (before after : List Json) :
    Condition.compile .device (.array (before ++ v :: after)) =
      Condition.compile .device (.array (before ++ w :: after)) := by
  have hrecords : Condition.records .device shape ofContent (.array (before ++ v :: after)) =
      Condition.records .device shape ofContent (.array (before ++ w :: after)) := by
    change List.mapM _ _ = List.mapM _ _
    simp only [List.mapM_append, List.mapM_cons, h.record_eq]
  rw [Condition.compile, hrecords]
  rfl

end Criterion

end Device

namespace Engine

variable {e : Engine} {r : Request} {s : State}

open Device (Criterion)

-- ---------------------------------------------------------------------------
-- Evaluations
-- ---------------------------------------------------------------------------

/-- The profile that the device condition goes by. -/
theorem condition_device {agent : String} (hagent : r.userAgent = some agent)
    {criteria : List Criterion} (hne : criteria ≠ []) :
    (e.condition r (.device criteria) s).matched =
      criteria.any (·.fits (e.findDevice agent s).1) := by
  obtain ⟨first, rest, rfl⟩ := List.exists_cons_of_ne_nil hne
  simp only [condition, hagent]
  rfl

theorem condition_device_congr {c d : Criterion} (h : ∀ p, c.fits p = d.fits p)
    (before after : List Criterion) :
    e.condition r (.device (before ++ c :: after)) =
      e.condition r (.device (before ++ d :: after)) := by
  have hany : ∀ p : Device.Profile,
      (before ++ c :: after).any (·.fits p) = (before ++ d :: after).any (·.fits p) := by
    intro p
    rw [List.any_append, List.any_append, List.any_cons, List.any_cons, h p]
  funext s
  rw [condition_eq, condition_eq]
  simp only [holds, hany]
  cases before <;> rfl

theorem any_fits_of_narrows {narrow wide : List Criterion} {p : Device.Profile}
    (h : List.Forall₂ Criterion.Narrows narrow wide) (hp : p.NoNegative)
    (hfits : narrow.any (·.fits p) = true) : wide.any (·.fits p) = true := by
  induction h with
  | nil => exact hfits
  | cons hc _ ih =>
    rw [List.any_cons, Bool.or_eq_true] at hfits ⊢
    exact hfits.imp (Criterion.fits_of_narrows hc hp) ih

end Engine

theorem Tree.compile_member {registered : List String} (kind : Condition.Kind) (raw : Json)
    (hname : kind.name ∉ registered) :
    Tree.compile registered (.object [(kind.name, raw)]) =
      (Condition.compile kind raw).map fun c => c.alone raw := by
  cases hc : Condition.compile kind raw with
  | ok c => exact compile_single kind hname hc
  | error error =>
    obtain ⟨hand, hor, hset⟩ :
        kind.name ≠ "and" ∧ kind.name ≠ "or" ∧ kind.name ≠ "ruleset" := by
      simpa [structural] using kind.name_not_structural
    have hrule : Rule.compile registered kind.name raw = .error error := by
      rw [Rule.compile, if_neg hname, Condition.Kind.ofName?_name]
      exact congrArg (Except.map _) hc
    rw [compile, compileMembers, if_neg hand, if_neg hor, if_neg hset, hrule]
    rfl

namespace Engine

variable {e : Engine} {r : Request}

/-- Trees of one condition that is the same in both, though its value is written
differently. -/
theorem evaluate_member (kind : Condition.Kind) {raw raw' : Json}
    (hname : kind.name ∉ e.registry.names)
    (hcompile : Condition.compile kind raw = Condition.compile kind raw') :
    (e.compile (.object [(kind.name, raw)])).map (fun t => e.evaluate (some t) r) =
      (e.compile (.object [(kind.name, raw')])).map fun t => e.evaluate (some t) r := by
  rw [compile, compile, Tree.compile_member kind raw hname, Tree.compile_member kind raw' hname,
    hcompile]
  cases hc : Condition.compile kind raw' with
  | error error => rfl
  | ok c =>
    have hkind : c.kind.name ∉ e.registry.names := Condition.compile_kind hc ▸ hname
    have htree : e.tree r (c.alone raw) = e.tree r (c.alone raw') :=
      tree_alone_congr hkind rfl rfl raw raw'
    simp only [Except.map, evaluate, htree]

open Device (Criterion)

/-- Of versions none of which is below zero, more constraints admit fewer devices. A name
without a class of devices that have names, and a range of versions without a browser, change
nothing; nor does, in JSON, a field with an unknown class or an empty text. A version that is
absent, zero or no number is in no range, and a bound of zero is none. -/
theorem device_narrowed :
    (∀ (e : Engine) (r : Request) (s : State) (agent : String) (narrow wide : List Criterion),
      r.userAgent = some agent → (e.findDevice agent s).1.NoNegative → narrow ≠ [] →
      List.Forall₂ Criterion.Narrows narrow wide →
      (e.condition r (.device narrow) s).matched = true →
        (e.condition r (.device wide) s).matched = true) ∧
    (∀ c d : Criterion, c.Alike d →
      ∀ (e : Engine) (r : Request) (before after : List Criterion),
        e.condition r (.device (before ++ c :: after)) =
          e.condition r (.device (before ++ d :: after))) ∧
    (∀ v w : Json, Criterion.Trimmed v w → ∀ before after : List Json,
      Condition.compile .device (.array (before ++ v :: after)) =
          Condition.compile .device (.array (before ++ w :: after)) ∧
        ∀ (e : Engine) (r : Request), "device" ∉ e.registry.names →
          (e.compile (.object [("device", .array (before ++ v :: after))])).map
              (fun t => e.evaluate (some t) r) =
            (e.compile (.object [("device", .array (before ++ w :: after))])).map
              fun t => e.evaluate (some t) r) ∧
    (∀ (c : Criterion) (p : Device.Profile) (browser : String), c.browser = some browser →
      (∀ version, p.version browser = some version →
        (version == 0.0) = true ∨ version.isNaN = true) → c.fits p = false) ∧
    ∀ bound : Float, (bound == 0.0) = true → ∀ other : Option Float,
      Device.Versions.contains ⟨some bound, other⟩ = Device.Versions.contains ⟨none, other⟩ ∧
        Device.Versions.contains ⟨other, some bound⟩ =
          Device.Versions.contains ⟨other, none⟩ := by
  refine ⟨?_, ?_, ?_, ?_, ?_⟩
  · intro e r s agent narrow wide hagent hp hne hnarrows hmatched
    have hwide : wide ≠ [] := by
      rintro rfl
      cases hnarrows
      exact hne rfl
    rw [condition_device hagent hne] at hmatched
    rw [condition_device hagent hwide]
    exact any_fits_of_narrows hnarrows hp hmatched
  · intro c d h e r before after
    exact condition_device_congr h.fits_eq before after
  · intro v w h before after
    have hcompile := h.compile_eq before after
    exact ⟨hcompile, fun e r hname => evaluate_member .device hname hcompile⟩
  · intro c p browser hbrowser h
    exact Criterion.fits_of_no_version hbrowser h
  · intro bound hzero other
    have hbinding := Device.Versions.binding_zero hzero
    constructor
    · funext version
      simp only [Device.Versions.contains, hbinding]
    · funext version
      simp only [Device.Versions.contains, hbinding]

def phoneDetector : Engine :=
  { initial with
    devices := some fun _ =>
      ⟨some "iPhone", some "iPhone", none,
        fun name => if name = "Safari" then some 12.0 else none⟩ }

def surfer : Request := { Request.empty with headers := [("User-Agent", "Browser/1.0")] }

def safari (low : Option Float) : Criterion :=
  ⟨some .phone, none, some "Safari", some ⟨low, none⟩⟩

theorem device_narrowed_phone :
    surfer.userAgent = some "Browser/1.0" ∧
      (phoneDetector.findDevice "Browser/1.0" .fresh).1.NoNegative ∧ [safari (some 9.0)] ≠ [] ∧
      List.Forall₂ Criterion.Narrows [safari (some 9.0)] [⟨none, none, some "Safari", none⟩] ∧
      (phoneDetector.condition surfer (.device [safari (some 9.0)]) .fresh).matched = true ∧
      (phoneDetector.condition surfer (.device [⟨none, none, some "Safari", none⟩])
        .fresh).matched = true ∧
      Criterion.Alike ⟨none, some "iPad", none, none⟩ ⟨none, none, none, none⟩ ∧
      phoneDetector.condition surfer (.device [⟨none, some "iPad", none, none⟩]) =
        phoneDetector.condition surfer (.device [⟨none, none, none, none⟩]) ∧
      Criterion.Trimmed (.object [("device", .text "watch"), ("type", .null)])
        (.object [("type", .null)]) ∧
      Condition.compile .device
          (.array [.object [("device", .text "watch"), ("type", .null)]]) =
        Condition.compile .device (.array [.object [("type", .null)]]) ∧
      "device" ∉ phoneDetector.registry.names ∧
      (phoneDetector.compile (.object [("device",
          .array [.object [("device", .text "watch"), ("type", .null)]])])).map
          (fun t => phoneDetector.evaluate (some t) surfer) =
        (phoneDetector.compile (.object [("device", .array [.object [("type", .null)]])])).map
          (fun t => phoneDetector.evaluate (some t) surfer) ∧
      ((0.0 : Float) == 0.0) = true ∧
      (safari none).fits
        ⟨some "iPhone", some "iPhone", none, fun _ => some 0.0⟩ = false ∧
      ((-0.0 : Float) == 0.0) = true ∧
      Device.Versions.contains ⟨some (-0.0), none⟩ = Device.Versions.contains ⟨none, none⟩ := by
  obtain ⟨hnarrows, halike, htrimmed, hversion, hbound⟩ := device_narrowed
  have hagent : surfer.userAgent = some "Browser/1.0" := by decide
  have hnonneg : (phoneDetector.findDevice "Browser/1.0" .fresh).1.NoNegative := by
    intro browser version hv
    change (if browser = "Safari" then some (12.0 : Float) else none) = some version at hv
    split at hv
    · cases hv
      decide
    · cases hv
  have hwide : List.Forall₂ Criterion.Narrows [safari (some 9.0)]
      [⟨none, none, some "Safari", none⟩] :=
    .cons ⟨.inl rfl, .inl rfl, .inr rfl, .inl rfl⟩ .nil
  have hmatched :
      (phoneDetector.condition surfer (.device [safari (some 9.0)]) .fresh).matched = true := by
    decide
  have hname : Criterion.Alike ⟨none, some "iPad", none, none⟩ ⟨none, none, none, none⟩ :=
    .name (.inl rfl) ..
  have hwatch : Criterion.Trimmed (.object [("device", .text "watch"), ("type", .null)])
      (.object [("type", .null)]) :=
    @Criterion.Trimmed.member _ _ (.device (by decide)) [] _ (by decide) (by decide)
  have hdevice : "device" ∉ phoneDetector.registry.names := by decide
  have hzero : ((0.0 : Float) == 0.0) = true := by decide
  have hnegative : ((-0.0 : Float) == 0.0) = true := by decide
  refine ⟨hagent, hnonneg, by decide, hwide, hmatched,
    hnarrows _ _ _ _ _ _ hagent hnonneg (by decide) hwide hmatched, hname,
    halike _ _ hname phoneDetector surfer [] [], hwatch, (htrimmed _ _ hwatch [] []).1, hdevice,
    (htrimmed _ _ hwatch [] []).2 phoneDetector surfer hdevice, hzero, ?_, hnegative,
    (hbound _ hnegative none).1⟩
  refine hversion _ _ "Safari" rfl fun version hv => ?_
  cases hv
  exact .inl hzero

end Engine

end Targeting
