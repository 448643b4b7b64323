import Targeting.Proofs.Compilation
import Targeting.Proofs.Shapes

/-!
# The grammar of trees

Which values stand for a condition of a kind (`Condition.Kind.Admits`) and for a tree
(`Tree.IsTree`), and all that is wrong with a value, in the order in which it is found
(`Tree.offences`). Compiling succeeds for the values of the grammar and otherwise reports
the first offence (`Tree.compile_exact`).
-/

namespace Targeting

def Json.IsPattern (v : Json) : Prop :=
  ∃ source pattern, v = .text source ∧ Pattern.compile source = .ok pattern

-- ---------------------------------------------------------------------------
-- Conditions
-- ---------------------------------------------------------------------------

namespace Condition

open Json (IsText IsWord IsNumber IsOptional IsList IsRecord IsPattern)

/-- The values that stand for a condition of the kind. -/
def Kind.Admits : Kind → Json → Prop
  | .host | .geoip => IsList IsText
  | .path | .agent => IsList IsPattern
  | .bucket => IsList <| IsRecord [⟨"min", true, IsWord⟩, ⟨"max", true, IsWord⟩]
  | .cookie => IsList <| IsRecord [⟨"name", true, IsText⟩, ⟨"value", true, IsText⟩]
  | .device => IsList <| IsRecord [
    ⟨"device", false, IsOptional IsText⟩,
    ⟨"type", false, IsOptional IsText⟩,
    ⟨"browser", false, IsOptional IsText⟩,
    ⟨"version", false, IsOptional <| IsRecord [
      ⟨"from", false, IsOptional IsNumber⟩,
      ⟨"to", false, IsOptional IsNumber⟩]⟩]
  | .visitor => fun _ => True

def listOffences (kind : Kind) (each : Json → List CompileError) : Json → List CompileError
  | .array items => items.flatMap each
  | found => [.notList kind found]

def textOffences (kind : Kind) : Json → List CompileError
  | .text _ => []
  | found => [.notText kind found]

/-- A text that is no pattern; what is no text is no offence here. -/
def sourceOffences (kind : Kind) : Json → List CompileError
  | .text source =>
    match Pattern.compile source with
    | .ok _ => []
    | .error refusal => [.badPattern kind source refusal]
  | _ => []

/-- Items that are no texts come before all texts that are no patterns. -/
def patternOffences (kind : Kind) (raw : Json) : List CompileError :=
  listOffences kind (textOffences kind) raw ++
    match raw with
    | .array items => items.flatMap (sourceOffences kind)
    | _ => []

def recordOffences (kind : Kind) (shape : Shape) (item : Json) : List CompileError :=
  (shape.mismatches item).map (.badRecord kind)

def offences (kind : Kind) (raw : Json) : List CompileError :=
  match kind with
  | .host | .geoip => listOffences kind (textOffences kind) raw
  | .path | .agent => patternOffences kind raw
  | .bucket => listOffences kind (recordOffences kind Bucket.Range.shape) raw
  | .cookie => listOffences kind (recordOffences kind Cookie.shape) raw
  | .device => listOffences kind (recordOffences kind Device.Criterion.shape) raw
  | .visitor => []

section
variable {kind : Kind} {each : Json → List CompileError}

theorem list_reports {f : Json → Except CompileError α} (h : ∀ item, Reports (f item) (each item))
    (raw : Json) : Reports (do (← entries kind raw).mapM f) (listOffences kind each raw) := by
  cases raw with
  | array items => exact .mapM items fun item _ => h item
  | _ => exact .error ..

theorem listOffences_eq_nil {p : Json → Prop} (h : ∀ item, each item = [] ↔ p item) (raw : Json) :
    listOffences kind each raw = [] ↔ IsList p raw := by
  cases raw <;> simp [listOffences, IsList, h]

theorem text_reports (item : Json) : Reports (text kind item) (textOffences kind item) := by
  cases item with
  | text s => exact .ok s
  | _ => exact .error ..

theorem textOffences_eq_nil (item : Json) : textOffences kind item = [] ↔ IsText item := by
  cases item <;> simp [textOffences, IsText]

theorem texts_reports (raw : Json) :
    Reports (texts kind raw) (listOffences kind (textOffences kind) raw) :=
  list_reports text_reports raw

theorem mapM_text_ok {items : List Json} {sources : List String}
    (h : items.mapM (text kind) = .ok sources) : items = sources.map .text := by
  induction items generalizing sources with
  | nil =>
    cases h
    rfl
  | cons item rest ih =>
    rw [List.mapM_cons] at h
    obtain ⟨source, hitem, hmore⟩ := bind_ok.mp h
    obtain ⟨more, hrest, hcons⟩ := bind_ok.mp hmore
    cases hcons
    cases item <;> cases hitem
    rw [List.map_cons, ← ih hrest]

theorem texts_ok : {raw : Json} → {sources : List String} → texts kind raw = .ok sources →
    raw = .array (sources.map .text)
  | .array _, _, h => congrArg Json.array (mapM_text_ok h)

theorem source_reports (source : String) :
    Reports (pattern kind source) (sourceOffences kind (.text source)) := by
  rw [pattern, sourceOffences]
  cases Pattern.compile source with
  | ok p => exact .ok p
  | error refusal => exact .error ..

theorem patterns_reports (raw : Json) : Reports (patterns kind raw) (patternOffences kind raw) := by
  refine .bind (texts_reports raw) fun sources hok => ?_
  obtain rfl := texts_ok hok
  simpa only [List.flatMap_map] using
    Reports.mapM sources fun source _ => source_reports source

theorem sourceOffences_eq_nil (kind : Kind) (item : Json) :
    textOffences kind item = [] ∧ sourceOffences kind item = [] ↔ IsPattern item := by
  cases item with
  | text source =>
    cases h : Pattern.compile source <;> simp [textOffences, sourceOffences, IsPattern, h]
  | _ => simp [textOffences, IsPattern]

theorem patternOffences_eq_nil (raw : Json) :
    patternOffences kind raw = [] ↔ IsList IsPattern raw := by
  cases raw with
  | array items =>
    simp [patternOffences, listOffences, IsList, ← sourceOffences_eq_nil kind, forall_and]
  | _ => simp [patternOffences, listOffences, IsList]

theorem record_reports {shape : Shape} (h : shape.Distinct) (ofContent : shape.Content → α)
    (item : Json) : Reports (record kind shape ofContent item) (recordOffences kind shape item) :=
  ((shape.decode_reports h item).mapError _).map _

theorem recordOffences_eq_nil {shape : Shape} (h : shape.Distinct) (item : Json) :
    recordOffences kind shape item = [] ↔ shape.Admits item := by
  rw [recordOffences, List.map_eq_nil_iff, shape.mismatches_eq_nil h]

theorem range_distinct : Bucket.Range.shape.Distinct :=
  ⟨by decide, trivial, trivial, trivial⟩

theorem cookie_distinct : Cookie.shape.Distinct :=
  ⟨by decide, trivial, trivial, trivial⟩

theorem criterion_distinct : Device.Criterion.shape.Distinct :=
  ⟨by decide, trivial, trivial, trivial, ⟨by decide, trivial, trivial, trivial⟩, trivial⟩

end

theorem compile_reports (kind : Kind) (raw : Json) :
    Reports (compile kind raw) (offences kind raw) := by
  cases kind with
  | host | geoip => exact (texts_reports raw).map _
  | path | agent => exact (patterns_reports raw).map _
  | bucket => exact (list_reports (record_reports range_distinct _) raw).map _
  | cookie => exact (list_reports (record_reports cookie_distinct _) raw).map _
  | device => exact (list_reports (record_reports criterion_distinct _) raw).map _
  | visitor => exact .ok _

-- The text in front is no pattern, but that is not looked at yet.
example : compile .path (.array [.text "(", .integer 1]) = .error (.notText .path (.integer 1)) :=
  rfl

theorem offences_eq_nil (kind : Kind) (raw : Json) : offences kind raw = [] ↔ kind.Admits raw := by
  cases kind with
  | host | geoip => exact listOffences_eq_nil textOffences_eq_nil raw
  | path | agent => exact patternOffences_eq_nil raw
  | bucket => exact listOffences_eq_nil (recordOffences_eq_nil range_distinct) raw
  | cookie => exact listOffences_eq_nil (recordOffences_eq_nil cookie_distinct) raw
  | device => exact listOffences_eq_nil (recordOffences_eq_nil criterion_distinct) raw
  | visitor => exact iff_of_true rfl trivial

end Condition

-- ---------------------------------------------------------------------------
-- Rules
-- ---------------------------------------------------------------------------

namespace Rule

variable {registered : List String} {key : String} {raw : Json}

/-- Nothing is wrong with a rule under a registered or an unknown name. -/
def offences (registered : List String) (key : String) (raw : Json) : List CompileError :=
  if key ∈ registered then []
  else
    match Condition.Kind.ofName? key with
    | none => []
    | some kind => Condition.offences kind raw

theorem compile_reports : Reports (compile registered key raw) (offences registered key raw) := by
  unfold compile offences
  split
  · exact .ok _
  · cases Condition.Kind.ofName? key with
    | none => exact .ok _
    | some kind => exact (Condition.compile_reports kind raw).map _

theorem offences_eq_nil : offences registered key raw = [] ↔
    ∀ kind : Condition.Kind, key = kind.name → key ∉ registered → kind.Admits raw := by
  simp only [← Condition.Kind.ofName?_eq_some]
  unfold offences
  by_cases hk : key ∈ registered
  · simp [hk]
  · cases Condition.Kind.ofName? key with
    | none => simp [hk]
    | some kind => simp [hk, Condition.offences_eq_nil]

end Rule

-- ---------------------------------------------------------------------------
-- Trees
-- ---------------------------------------------------------------------------

namespace Tree

mutual
/-- The values that stand for a tree. Members that are neither groups nor rules of a kind
may be anything, and so may those under a registered name. -/
inductive IsTree (registered : List String) : Json → Prop where
  | null : IsTree registered .null
  | node {members : List (String × Json)}
      (groups : ∀ key raw, (key, raw) ∈ members → key = "and" ∨ key = "or" →
        IsGroup registered raw)
      (rules : ∀ (kind : Condition.Kind) (raw : Json), (kind.name, raw) ∈ members →
        kind.name ∉ registered → kind.Admits raw) :
      IsTree registered (.object members)
inductive IsGroup (registered : List String) : Json → Prop where
  | null : IsGroup registered .null
  | list {items : List Json} (trees : ∀ item ∈ items, IsTree registered item) :
      IsGroup registered (.array items)
end

def IsMember (registered : List String) (key : String) (raw : Json) : Prop :=
  (key = "and" ∨ key = "or" → IsGroup registered raw) ∧
    ∀ kind : Condition.Kind, key = kind.name → key ∉ registered → kind.Admits raw

section
variable (registered : List String)

mutual
/-- All that is wrong with a tree, in the order in which it is found. -/
def offences : Json → List CompileError
  | .null => []
  | .object members => offencesInMembers members
  | found => [.notTree found]
def offencesInMembers : List (String × Json) → List CompileError
  | [] => []
  | (key, raw) :: rest =>
    (if key = "and" ∨ key = "or" then offencesInGroup key raw
    else if key = "ruleset" then []
    else Rule.offences registered key raw) ++ offencesInMembers rest
def offencesInGroup (key : String) : Json → List CompileError
  | .null => []
  | .array items => offencesInAll items
  | found => [.notSubtrees key found]
def offencesInAll : List Json → List CompileError
  | [] => []
  | item :: rest => offences item ++ offencesInAll rest
end

end

section
variable {registered : List String}

mutual
theorem compile_reports : (v : Json) → Reports (compile registered v) (offences registered v)
  | .null => .ok _
  | .object members => compileMembers_reports members
  | .bool _ | .integer _ | .real _ | .text _ | .array _ => .error ..
theorem compileMembers_reports : (members : List (String × Json)) →
    Reports (compileMembers registered members) (offencesInMembers registered members)
  | [] => .ok _
  | (key, raw) :: rest => by
    rw [compileMembers, offencesInMembers]
    by_cases ha : key = "and"
    · rw [if_pos ha, if_pos (.inl ha)]
      exact (compileSubtrees_reports key raw).both (compileMembers_reports rest) _
    by_cases ho : key = "or"
    · rw [if_neg ha, if_pos ho, if_pos (.inr ho)]
      exact (compileSubtrees_reports key raw).both (compileMembers_reports rest) _
    rw [if_neg ha, if_neg ho, if_neg (not_or.mpr ⟨ha, ho⟩)]
    by_cases hr : key = "ruleset"
    · rw [if_pos hr, if_pos hr]
      exact (compileMembers_reports rest).map _
    · rw [if_neg hr, if_neg hr]
      exact Rule.compile_reports.both (compileMembers_reports rest) _
theorem compileSubtrees_reports (key : String) : (raw : Json) →
    Reports (compileSubtrees registered key raw) (offencesInGroup registered key raw)
  | .null => .ok _
  | .array items => compileAll_reports items
  | .bool _ | .integer _ | .real _ | .text _ | .object _ => .error ..
theorem compileAll_reports : (items : List Json) →
    Reports (compileAll registered items) (offencesInAll registered items)
  | [] => .ok _
  | item :: rest => (compile_reports item).both (compileAll_reports rest) _
end

theorem isTree_object {members : List (String × Json)} :
    IsTree registered (.object members) ↔
      ∀ member ∈ members, IsMember registered member.1 member.2 := by
  constructor
  · rintro (_ | ⟨groups, rules⟩) ⟨key, raw⟩ hmember
    refine ⟨groups key raw hmember, fun kind hname => ?_⟩
    cases hname
    exact rules kind raw hmember
  · intro h
    exact .node (fun key raw hmember => (h _ hmember).1)
      fun kind raw hmember => (h _ hmember).2 kind rfl

theorem isGroup_array {items : List Json} :
    IsGroup registered (.array items) ↔ ∀ item ∈ items, IsTree registered item :=
  ⟨fun | .list trees => trees, .list⟩

theorem isMember_group {key : String} {raw : Json} (h : key = "and" ∨ key = "or") :
    IsMember registered key raw ↔ IsGroup registered raw := by
  refine ⟨fun hm => hm.1 h, fun hg => ⟨fun _ => hg, fun kind hname => ?_⟩⟩
  subst hname
  exact absurd h (by cases kind <;> decide)

theorem isMember_ruleset {raw : Json} : IsMember registered "ruleset" raw :=
  ⟨fun h => absurd h (by decide), fun kind hname => absurd hname (by cases kind <;> decide)⟩

theorem isMember_rule {key : String} {raw : Json} (h : ¬(key = "and" ∨ key = "or")) :
    IsMember registered key raw ↔ Rule.offences registered key raw = [] := by
  rw [Rule.offences_eq_nil]
  exact and_iff_right fun hg => absurd hg h

mutual
theorem offences_eq_nil : (v : Json) → (offences registered v = [] ↔ IsTree registered v)
  | .null => iff_of_true rfl .null
  | .object members => (offencesInMembers_eq_nil members).trans isTree_object.symm
  | .bool _ | .integer _ | .real _ | .text _ | .array _ => iff_of_false nofun nofun
theorem offencesInMembers_eq_nil : (members : List (String × Json)) →
    (offencesInMembers registered members = [] ↔
      ∀ member ∈ members, IsMember registered member.1 member.2)
  | [] => by simp [offencesInMembers]
  | (key, raw) :: rest => by
    rw [offencesInMembers, List.append_eq_nil_iff, List.forall_mem_cons,
      offencesInMembers_eq_nil rest]
    refine and_congr_left' ?_
    by_cases hg : key = "and" ∨ key = "or"
    · rw [if_pos hg, isMember_group hg]
      exact offencesInGroup_eq_nil key raw
    by_cases hr : key = "ruleset"
    · rw [if_neg hg, if_pos hr, hr]
      exact iff_of_true rfl isMember_ruleset
    · rw [if_neg hg, if_neg hr, isMember_rule hg]
theorem offencesInGroup_eq_nil (key : String) : (raw : Json) →
    (offencesInGroup registered key raw = [] ↔ IsGroup registered raw)
  | .null => iff_of_true rfl .null
  | .array items => (offencesInAll_eq_nil items).trans isGroup_array.symm
  | .bool _ | .integer _ | .real _ | .text _ | .object _ => iff_of_false nofun nofun
theorem offencesInAll_eq_nil : (items : List Json) →
    (offencesInAll registered items = [] ↔ ∀ item ∈ items, IsTree registered item)
  | [] => by simp [offencesInAll]
  | item :: rest => by
    rw [offencesInAll, List.append_eq_nil_iff, List.forall_mem_cons, offences_eq_nil item,
      offencesInAll_eq_nil rest]
end

end

/-- Compiling succeeds for the values of the grammar; otherwise it reports the first
offence. -/
theorem compile_exact (registered : List String) (v : Json) :
    ((∃ t, compile registered v = .ok t) ↔ IsTree registered v) ∧
      ∀ error, compile registered v = .error error ↔
        (offences registered v).head? = some error :=
  have hreports := compile_reports v
  ⟨hreports.ok_iff.trans (offences_eq_nil v), fun _ => hreports.error_iff⟩

end Tree

end Targeting
