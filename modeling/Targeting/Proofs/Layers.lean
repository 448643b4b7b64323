import Mathlib.Data.List.Forall2
import Targeting.Settings.Load

/-!
# Settings in layers

A setting has a place in the item that the layers are laid into (`Field.path`). An item that
is put at one place is found there again, and what is at another place stays (`Item.look_putAt`).
So a layer sets the fields that it has a value for and leaves the others (`Layer.Sets`), the
nested ones included, and after all the layers each field has the value of the last one that
sets it (`ofLayers_eq`).
-/

namespace Targeting.Settings

-- ---------------------------------------------------------------------------
-- Fields
-- ---------------------------------------------------------------------------

inductive Field where
  | visitorCookie | overrideParam | forwardedHeader | logLevel | jsonLogs
  deriving DecidableEq

namespace Field

def Value : Field → Type
  | .jsonLogs => Bool
  | _ => String

def key : Field → String
  | .visitorCookie => "visitor_cookie"
  | .overrideParam => "override_ip_param"
  | .forwardedHeader => "forwarded_for_header"
  | .logLevel => "observability.log_level"
  | .jsonLogs => "observability.json_logs"

def path : Field → List String
  | .visitorCookie => ["visitor_cookie"]
  | .overrideParam => ["override_ip_param"]
  | .forwardedHeader => ["forwarded_for_header"]
  | .logLevel => ["observability", "log_level"]
  | .jsonLogs => ["observability", "json_logs"]

def decode : (n : Field) → Item → Except Fault n.Value
  | .visitorCookie => textOf "visitor_cookie"
  | .overrideParam => textOf "override_ip_param"
  | .forwardedHeader => textOf "forwarded_for_header"
  | .logLevel => textOf "observability.log_level"
  | .jsonLogs => flagOf "observability.json_logs"

theorem ofKey_key (n : Field) : Hop.ofKey n.key = n.path.map .name := by cases n <;> rfl

/-- No setting is on the way to another one. -/
theorem path_isPrefix {n k : Field} : n.path <+: k.path ↔ n = k := by
  cases n <;> cases k <;> decide

theorem path_inj {n k : Field} (h : n.path = k.path) : n = k :=
  path_isPrefix.mp (h ▸ List.prefix_rfl)

theorem key_inj {n k : Field} (h : n.key = k.key) : n = k := by
  cases n <;> cases k <;> first | rfl | exact absurd h (by decide)

theorem not_isPrefix_env (n : Field) : ¬ ["env"] <+: n.path ∧ ¬ n.path <+: ["env"] := by
  cases n <;> decide

theorem key_eq {n : Field} {name : String} (h : n.path = [name]) : n.key = name := by
  cases n <;> cases h <;> rfl

theorem path_ne_observability (n : Field) : n.path ≠ ["observability"] := by cases n <;> decide

theorem not_decode_table (n : Field) (v : n.Value) (origin : Option String)
    (entries : List (String × Item)) : n.decode (.table origin entries) ≠ .ok v := by
  cases n <;> exact nofun

theorem path_eq_or (n : Field) :
    (∃ name, n.path = ["observability", name]) ∨
      (¬ n.path <+: ["observability"] ∧ ¬ ["observability"] <+: n.path) := by
  cases n with
  | logLevel | jsonLogs => exact .inl ⟨_, rfl⟩
  | _ => exact .inr (by decide)

end Field

/-- What a source has for some of the settings. -/
abbrev Choice := (n : Field) → Option n.Value

/-- Values of the first win. -/
def Choice.or (c d : Choice) : Choice := fun n => (c n).or (d n)

def Choice.none : Choice := fun _ => .none

def value (s : Settings) : (n : Field) → n.Value
  | .visitorCookie => s.visitorCookie
  | .overrideParam => s.overrideParam
  | .forwardedHeader => s.forwardedHeader
  | .logLevel => s.logLevel
  | .jsonLogs => s.jsonLogs

-- ---------------------------------------------------------------------------
-- Places
-- ---------------------------------------------------------------------------

namespace Item

def look : List String → Item → Option Item
  | [], item => some item
  | name :: path, item => (item.asTable.2.get? name).bind (look path)

theorem look_singleton (name : String) (item : Item) :
    look [name] item = item.asTable.2.get? name := by
  rw [look]
  cases item.asTable.2.get? name <;> rfl

/-- What is laid over anything else replaces it. -/
def Replaces (item : Item) : Prop := ∀ old, item.laidOn old = item

theorem replaces_of_decode {n : Field} {item : Item} {v : n.Value} (h : n.decode item = .ok v) :
    item.Replaces := by
  cases item with
  | table origin entries => exact absurd h (n.not_decode_table v origin entries)
  | _ => exact fun _ => rfl

theorem asTable_putAt (name : String) (path : List Hop) (item old : Item) :
    (putAt (.name name :: path) item old).asTable =
      (old.asTable.1, old.asTable.2.put name (putAt path item (entry old.asTable.2 name))) :=
  rfl

theorem look_nothing {path : List String} (h : path ≠ []) (origin : Option String) :
    look path (.nothing origin) = none := by
  cases path with
  | nil => exact absurd rfl h
  | cons name path => rfl

theorem look_entry {path : List String} (h : path ≠ []) (known : Assoc Item) (name : String) :
    look path (entry known name) = (known.get? name).bind (look path) := by
  rw [entry]
  cases known.get? name with
  | none => exact look_nothing h none
  | some item => rfl

theorem look_putAt {item : Item} (h : item.Replaces) (path : List String) (old : Item) :
    look path (putAt (path.map .name) item old) = some item := by
  induction path generalizing old with
  | nil => rw [List.map_nil, putAt, h, look]
  | cons name path ih =>
    rw [List.map_cons, look, asTable_putAt, Assoc.get?_put, if_pos rfl]
    exact ih _

theorem look_putAt_other {place path : List String} (hplace : ¬ place <+: path)
    (hpath : ¬ path <+: place) (item old : Item) :
    look path (putAt (place.map .name) item old) = look path old := by
  induction place generalizing path old with
  | nil => exact absurd (List.nil_prefix) hplace
  | cons first place ih =>
    cases path with
    | nil => exact absurd List.nil_prefix hpath
    | cons name path =>
      rw [List.map_cons, look, asTable_putAt, Assoc.get?_put, look]
      by_cases hname : name = first
      · subst hname
        rw [List.prefix_cons_inj] at hplace hpath
        rw [if_pos rfl, Option.bind_some, ih hplace hpath, look_entry]
        rintro rfl
        exact hpath List.nil_prefix
      · rw [if_neg hname]

/-- An empty table replaces what is no table, and leaves a table as it is. -/
theorem look_putAt_empty {path : List String} (h : path ≠ []) (name : String)
    (origin : Option String) (root : Item) :
    look (name :: path) (putAt [.name name] (.table origin []) root) =
      look (name :: path) root := by
  cases path with
  | nil => exact absurd rfl h
  | cons key path =>
    rw [look, asTable_putAt, Assoc.get?_put, if_pos rfl]
    exact look_entry h root.asTable.2 name

/-- A table goes in entry by entry, after an empty one. -/
theorem putAt_table (name : String) (origin : Option String) (entries : List (String × Item))
    (root : Item) :
    putAt [.name name] (.table origin entries) root =
      entries.foldl (fun root (key, item) => putAt [.name name, .name key] item root)
        (putAt [.name name] (.table origin []) root) := by
  have hfold (known : Assoc Item) (inner : Option String) (table : Assoc Item) :
      entries.foldl (fun root (key, item) => putAt [.name name, .name key] item root)
          (.table root.asTable.1 (known.put name (.table inner table))) =
        .table root.asTable.1 (known.put name (.table inner (layAll entries table))) := by
    induction entries generalizing table with
    | nil => rfl
    | cons first rest ih =>
      obtain ⟨key, item⟩ := first
      rw [List.foldl_cons, layAll, ← ih]
      simp only [putAt, asTable, entry, Assoc.get?_put, Option.getD_some, Assoc.put_put, if_true]
  simp only [putAt, laidOn, layAll]
  exact (hfold _ _ _).symm

end Item

-- ---------------------------------------------------------------------------
-- Changes
-- ---------------------------------------------------------------------------

open Item (look putAt)

/-- The item, if any, is one of the value, if any. -/
def Field.Reads (n : Field) : Option Item → Option n.Value → Prop :=
  Option.Rel fun item v => n.decode item = .ok v

/-- The nested settings are in a table, if they are anywhere. -/
def Shaped (root : Item) : Prop :=
  ∀ item, look ["observability"] root = some item → ∃ origin inner, item = .table origin inner

theorem shaped_putAt_nested (name : String) (item root : Item) :
    Shaped (putAt [.name "observability", .name name] item root) := by
  intro found h
  rw [look, Item.asTable_putAt, Assoc.get?_put, if_pos rfl, Option.bind_some, look] at h
  cases h
  exact ⟨_, _, rfl⟩

theorem shaped_putAt_empty (origin : Option String) (root : Item) :
    Shaped (putAt [.name "observability"] (.table origin []) root) := by
  intro found h
  rw [look, Item.asTable_putAt, Assoc.get?_put, if_pos rfl, Option.bind_some, look] at h
  cases h
  exact ⟨_, _, rfl⟩

theorem Shaped.putAt_other {root : Item} (h : Shaped root) {place : List String}
    (hplace : ¬ place <+: ["observability"] ∧ ¬ ["observability"] <+: place) (item : Item) :
    Shaped (putAt (place.map .name) item root) := by
  rwa [Shaped, Item.look_putAt_other hplace.1 hplace.2]

/-- A change to the item with all settings that sets some of them to what the choice has, and
leaves the others. -/
structure Lays (choice : Choice) (sets : Field → Prop) (change : Item → Item) : Prop where
  shaped : ∀ {root}, Shaped root → Shaped (change root)
  set : ∀ root {n}, sets n → ∃ item v, look n.path (change root) = some item ∧
    choice n = some v ∧ n.decode item = .ok v
  kept : ∀ root {n}, ¬ sets n → look n.path (change root) = look n.path root

namespace Lays

variable {choice : Choice} {sets also : Field → Prop} {change next : Item → Item}

theorem congr (h : Lays choice sets change) (hsets : ∀ n, sets n ↔ also n) :
    Lays choice also change := by
  rwa [funext fun n => propext (hsets n)] at h

theorem isSome (h : Lays choice sets change) {n : Field} (hn : sets n) : (choice n).isSome := by
  obtain ⟨item, v, -, hchoice, -⟩ := h.set (.nothing none) hn
  simp [hchoice]

theorem id : Lays choice (fun _ => False) fun root => root where
  shaped h := h
  set _ _ h := h.elim
  kept _ _ _ := rfl

theorem andThen (h : Lays choice sets change) (hnext : Lays choice also next) :
    Lays choice (fun n => sets n ∨ also n) fun root => next (change root) where
  shaped hroot := hnext.shaped (h.shaped hroot)
  set root n hsets := by
    by_cases halso : also n
    · exact hnext.set _ halso
    · rw [hnext.kept _ halso]
      exact h.set root (hsets.resolve_right halso)
  kept root n hsets := by
    obtain ⟨hfirst, hsecond⟩ := not_or.mp hsets
    rw [hnext.kept _ hsecond, h.kept _ hfirst]

theorem foldl {β : Type} {step : Item → β → Item} {sets : β → Field → Prop} {entries : List β}
    (h : ∀ b ∈ entries, Lays choice (sets b) fun root => step root b) :
    Lays choice (fun n => ∃ b ∈ entries, sets b n) fun root => entries.foldl step root := by
  induction entries with
  | nil => exact id.congr (by simp)
  | cons b rest ih =>
    obtain ⟨hb, hrest⟩ := List.forall_mem_cons.mp h
    exact (hb.andThen (ih hrest)).congr (by simp)

theorem field {n : Field} {item : Item} {v : n.Value} (hchoice : choice n = some v)
    (hitem : n.decode item = .ok v) :
    Lays choice (n = ·) (putAt (n.path.map .name) item) where
  shaped {root} hroot := by
    rcases n.path_eq_or with ⟨name, hpath⟩ | hpath
    · rw [hpath]
      exact shaped_putAt_nested name item root
    · exact hroot.putAt_other hpath item
  set root := by
    rintro _ rfl
    exact ⟨item, v, Item.look_putAt (Item.replaces_of_decode hitem) _ _, hchoice, hitem⟩
  kept root _ hk := Item.look_putAt_other (mt Field.path_isPrefix.mp hk)
    (mt Field.path_isPrefix.mp (Ne.symm hk)) item root

/-- An item that is at no place of a setting. -/
theorem other {place : List String} (hplace : ∀ n : Field, ¬ place <+: n.path ∧ ¬ n.path <+: place)
    (hshape : ¬ place <+: ["observability"] ∧ ¬ ["observability"] <+: place) (item : Item) :
    Lays choice (fun _ => False) (putAt (place.map .name) item) where
  shaped hroot := hroot.putAt_other hshape item
  set _ _ h := h.elim
  kept root n _ := Item.look_putAt_other (hplace n).1 (hplace n).2 item root

theorem emptyTable (origin : Option String) :
    Lays choice (fun _ => False) (putAt [.name "observability"] (.table origin [])) where
  shaped {root} _ := shaped_putAt_empty origin root
  set _ _ h := h.elim
  kept root n _ := by
    rcases n.path_eq_or with ⟨name, hpath⟩ | ⟨hpath, hplace⟩
    · rw [hpath, Item.look_putAt_empty (List.cons_ne_nil _ _)]
    · exact Item.look_putAt_other hplace hpath _ root

theorem table {entries : List (String × Item)}
    (h : ∀ entry ∈ entries, ∃ n : Field, n.path = ["observability", entry.1] ∧
      ∃ v, choice n = some v ∧ n.decode entry.2 = .ok v) (origin : Option String) :
    Lays choice (fun n => ∃ entry ∈ entries, n.path = ["observability", entry.1])
      (putAt [.name "observability"] (.table origin entries)) := by
  rw [funext (Item.putAt_table "observability" origin entries)]
  have hentries : ∀ entry ∈ entries, Lays choice (fun n => n.path = ["observability", entry.1])
      fun root => putAt [.name "observability", .name entry.1] entry.2 root := by
    intro entry hentry
    obtain ⟨n, hpath, v, hchoice, hitem⟩ := h entry hentry
    have hfield := field hchoice hitem
    rw [hpath] at hfield
    refine hfield.congr fun k => ?_
    rw [← hpath, eq_comm]
    exact ⟨congrArg Field.path, Field.path_inj⟩
  exact ((emptyTable origin).andThen (foldl hentries)).congr (by simp)

end Lays

-- ---------------------------------------------------------------------------
-- Layers
-- ---------------------------------------------------------------------------

/-- The layer sets each field to the value that the choice has for it, if any. -/
def Layer.Sets (layer : Layer) (choice : Choice) : Prop :=
  Lays choice (fun n => (choice n).isSome) fun root => addLayer root layer

structure Holds (root : Item) (choice : Choice) : Prop where
  shaped : Shaped root
  reads : ∀ n : Field, n.Reads (look n.path root) (choice n)

theorem Layer.sets_nil : Layer.Sets [] .none := Lays.id.congr (by simp [Choice.none])

theorem Holds.empty : Holds (.table none []) .none where
  shaped _ h := by cases h
  reads n := by cases n <;> exact .none

theorem Holds.addLayer {root : Item} {choice old : Choice} {layer : Layer} (h : Holds root old)
    (hlayer : layer.Sets choice) : Holds (addLayer root layer) (choice.or old) where
  shaped := hlayer.shaped h.shaped
  reads n := by
    rw [Choice.or]
    cases hn : choice n with
    | some v =>
      obtain ⟨item, _, hlook, hv, hitem⟩ := hlayer.set (n := n) root (by simp [hn])
      rw [hlook, ← hn, hv]
      exact .some hitem
    | none =>
      rw [Option.none_or, hlayer.kept root (by simp [hn])]
      exact h.reads n

theorem Field.Reads.eq_none {n : Field} {value : Option n.Value} (h : n.Reads none value) :
    value = none := by
  cases h
  rfl

theorem setting_of_reads {n : Field} {item : Option Item} {value : Option n.Value}
    (h : n.Reads item value) (key : String) (default : n.Value) :
    setting (fun _ => n.decode) key item default = .ok (value.getD default) := by
  cases h with
  | some h => exact h
  | none => rfl

namespace Holds

variable {root : Item} {choice : Choice}

theorem setting_eq {n : Field} (h : Holds root choice) {name : String} (hpath : n.path = [name])
    (default : n.Value) :
    setting (fun _ => n.decode) name (root.asTable.2.get? name) default =
      .ok ((choice n).getD default) := by
  have hreads := h.reads n
  rw [hpath, Item.look_singleton] at hreads
  exact setting_of_reads hreads name default

theorem loggingOf_eq (h : Holds root choice) :
    setting loggingOf "observability" (root.asTable.2.get? "observability")
        (initial.logLevel, initial.jsonLogs) =
      .ok ((choice .logLevel).getD initial.logLevel, (choice .jsonLogs).getD initial.jsonLogs) := by
  have hlevel : Field.logLevel.Reads
      ((root.asTable.2.get? "observability").bind (look ["log_level"])) _ := h.reads .logLevel
  have hjson : Field.jsonLogs.Reads
      ((root.asTable.2.get? "observability").bind (look ["json_logs"])) _ := h.reads .jsonLogs
  have hshape := h.shaped
  rw [Shaped, Item.look_singleton] at hshape
  cases hlogging : root.asTable.2.get? "observability" with
  | none =>
    rw [hlogging] at hlevel hjson
    rw [hlevel.eq_none, hjson.eq_none]
    rfl
  | some item =>
    obtain ⟨origin, inner, rfl⟩ := hshape item hlogging
    rw [hlogging, Option.bind_some, Item.look_singleton] at hlevel hjson
    have hlevel : setting textOf ("observability" ++ ".log_level") _ initial.logLevel = _ :=
      setting_of_reads hlevel "observability.log_level" initial.logLevel
    have hjson : setting flagOf ("observability" ++ ".json_logs") _ initial.jsonLogs = _ :=
      setting_of_reads hjson "observability.json_logs" initial.jsonLogs
    simp only [Item.asTable] at hlevel hjson
    change loggingOf "observability" (.table origin inner) = _
    simp only [loggingOf, hlevel, hjson]
    rfl

theorem ofTable_eq (h : Holds root choice) :
    ofTable root.asTable.2 = .ok
      ⟨(choice .visitorCookie).getD initial.visitorCookie,
        (choice .overrideParam).getD initial.overrideParam,
        (choice .forwardedHeader).getD initial.forwardedHeader,
        (choice .logLevel).getD initial.logLevel, (choice .jsonLogs).getD initial.jsonLogs⟩ := by
  have hcookie : setting textOf "visitor_cookie" _ initial.visitorCookie = _ :=
    h.setting_eq (n := .visitorCookie) rfl initial.visitorCookie
  have hparam : setting textOf "override_ip_param" _ initial.overrideParam = _ :=
    h.setting_eq (n := .overrideParam) rfl initial.overrideParam
  have hheader : setting textOf "forwarded_for_header" _ initial.forwardedHeader = _ :=
    h.setting_eq (n := .forwardedHeader) rfl initial.forwardedHeader
  simp only [ofTable, hcookie, hparam, hheader, h.loggingOf_eq]
  rfl

end Holds

-- ---------------------------------------------------------------------------
-- Tables of files
-- ---------------------------------------------------------------------------

def Field.Has (n : Field) (choice : Choice) (v : Toml) : Prop :=
  ∃ value, choice n = some value ∧ ∀ origin, n.decode (.ofToml origin v) = .ok value

inductive Leads : List (String × Toml) → List String → Prop
  | here {entries name v} : (name, v) ∈ entries → Leads entries [name]
  | into {entries name inner path} :
    (name, .table inner) ∈ entries → Leads inner path → Leads entries (name :: path)

/-- The entries of a file are the settings of the choice, those on logging in a table. -/
structure Writes (entries : List (String × Toml)) (choice : Choice) : Prop where
  known : ∀ entry ∈ entries, (∃ n : Field, n.path = [entry.1] ∧ n.Has choice entry.2) ∨
    ∃ inner, entry = ("observability", .table inner) ∧
      ∀ below ∈ inner, ∃ n : Field, n.path = ["observability", below.1] ∧ n.Has choice below.2
  complete : ∀ n : Field, (choice n).isSome → Leads entries n.path

theorem ofEntries_eq_map (origin : String) (entries : List (String × Toml)) :
    Item.ofEntries origin entries = entries.map fun (name, v) => (name, .ofToml origin v) := by
  induction entries with
  | nil => rfl
  | cons entry rest ih => rw [Item.ofEntries, ih, List.map_cons]

def Reaches (entry : String × Toml) (n : Field) : Prop :=
  n.path = [entry.1] ∨
    ∃ inner, entry.2 = .table inner ∧ ∃ below ∈ inner, n.path = [entry.1, below.1]

theorem Leads.exists_reaches {entries : List (String × Toml)} {n : Field}
    (h : Leads entries n.path) : ∃ entry ∈ entries, Reaches entry n := by
  generalize hpath : n.path = path at h
  cases h with
  | here hentry => exact ⟨_, hentry, .inl hpath⟩
  | into hentry hinner =>
    cases hinner with
    | here hbelow => exact ⟨_, hentry, .inr ⟨_, rfl, _, hbelow, hpath⟩⟩
    | into _ hdeep =>
      -- no setting is in a table of the table
      cases hdeep <;> cases n <;> cases hpath

namespace Writes

variable {entries : List (String × Toml)} {choice : Choice}

theorem lays (h : Writes entries choice) (origin : String) {entry : String × Toml}
    (hentry : entry ∈ entries) :
    Lays choice (Reaches entry) fun root =>
      putAt (Hop.ofKey entry.1) (.ofToml origin entry.2) root := by
  rcases h.known entry hentry with ⟨n, hpath, value, hchoice, hv⟩ | ⟨inner, rfl, hinner⟩
  · have hnot : ∀ inner, entry.2 ≠ .table inner := by
      intro inner htable
      rw [htable] at hv
      exact n.not_decode_table value origin _ (hv origin)
    have hlays := Lays.field hchoice (hv origin)
    rw [← n.ofKey_key, Field.key_eq hpath] at hlays
    refine hlays.congr fun k => ⟨?_, ?_⟩
    · rintro rfl
      exact .inl hpath
    · rintro (hk | ⟨inner, hinner, -⟩)
      · exact Field.path_inj (hpath.trans hk.symm)
      · exact absurd hinner (hnot inner)
  · have hentries : ∀ entry ∈ Item.ofEntries origin inner, ∃ n : Field,
        n.path = ["observability", entry.1] ∧
          ∃ v, choice n = some v ∧ n.decode entry.2 = .ok v := by
      rw [ofEntries_eq_map, List.forall_mem_map]
      intro below hbelow
      obtain ⟨n, hpath, value, hchoice, hvalue⟩ := hinner below hbelow
      exact ⟨n, hpath, value, hchoice, hvalue origin⟩
    have hkey : Hop.ofKey "observability" = [.name "observability"] := rfl
    simp only [hkey, Item.ofToml]
    refine (Lays.table hentries origin).congr fun k => ?_
    rw [ofEntries_eq_map]
    simp only [List.mem_map, exists_exists_and_eq_and, Reaches, k.path_ne_observability, false_or,
      Toml.table.injEq, exists_eq_left']

theorem sets (h : Writes entries choice) (origin : String) :
    Layer.Sets (Item.ofEntries origin entries) choice := by
  have hlays := Lays.foldl fun entry (hentry : entry ∈ entries) => h.lays origin hentry
  rw [ofEntries_eq_map]
  simp only [Layer.Sets, addLayer, List.foldl_map]
  refine hlays.congr fun n => ⟨hlays.isSome, fun hsome => ?_⟩
  exact (h.complete n hsome).exists_reaches

end Writes

-- ---------------------------------------------------------------------------
-- Variables
-- ---------------------------------------------------------------------------

/-- The variables are the settings of the choice, and the name of the environment. -/
structure Variables.Write (environment : Assoc String) (choice : Choice) : Prop where
  known : ∀ entry ∈ environment, ∀ key, key? entry.1 = some key →
    key = "env" ∨ ∃ (n : Field) (v : n.Value), n.key = key ∧ choice n = some v ∧
      n.decode (.leaf (some origin) (leaf entry.2)) = .ok v
  complete : ∀ n : Field, (choice n).isSome →
    ∃ name value, (name, value) ∈ environment ∧ key? name = some n.key

namespace Variables

theorem mem_entries {environment : List (String × String)} {key : String} {item : Item}
    (h : (key, item) ∈ entries environment) :
    ∃ name value, (name, value) ∈ environment ∧ key? name = some key ∧
      item = .leaf (some origin) (leaf value) := by
  obtain ⟨⟨name, value⟩, hmem, hentry⟩ := List.mem_filterMap.mp (Assoc.mem_of_ofList h)
  obtain ⟨key', hkey, heq⟩ := Option.map_eq_some_iff.mp hentry
  cases heq
  exact ⟨name, value, hmem, hkey, rfl⟩

theorem mem_keys_entries {environment : List (String × String)} {name value key : String}
    (hmem : (name, value) ∈ environment) (hkey : key? name = some key) :
    ∃ item, (key, item) ∈ entries environment := by
  have hentry : (key, Item.leaf (some origin) (leaf value)) ∈ environment.filterMap
      fun entry => (key? entry.1).map fun key => (key, .leaf origin (leaf entry.2)) :=
    List.mem_filterMap.mpr ⟨(name, value), hmem, by simp [hkey]⟩
  obtain ⟨⟨_, item⟩, hitem, rfl⟩ := List.mem_map.mp (Assoc.mem_keys_ofList hentry)
  exact ⟨item, hitem⟩

theorem Write.sets {environment : Assoc String} {choice : Choice} (h : Write environment choice) :
    Layer.Sets (entries environment) choice := by
  have hlays : ∀ entry ∈ entries environment, Lays choice (fun n => n.key = entry.1) fun root =>
      putAt (Hop.ofKey entry.1) entry.2 root := by
    rintro ⟨key, item⟩ hentry
    obtain ⟨name, value, hmem, hkey, rfl⟩ := mem_entries hentry
    rcases h.known (name, value) hmem key hkey with rfl | ⟨n, v, rfl, hchoice, hitem⟩
    · have henv : Hop.ofKey "env" = ["env"].map .name := rfl
      have hother := fun n : Field => n.not_isPrefix_env
      simp only [henv]
      exact (Lays.other hother (by decide) _).congr fun n => by cases n <;> decide
    · have hfield := Lays.field hchoice hitem
      rw [← n.ofKey_key] at hfield
      refine hfield.congr fun k => ⟨fun hk => hk ▸ rfl, fun hk => ?_⟩
      exact Field.key_inj hk.symm
  refine (Lays.foldl hlays).congr fun n => ⟨?_, fun hsome => ?_⟩
  · exact (Lays.foldl hlays).isSome
  · obtain ⟨name, value, hmem, hkey⟩ := h.complete n hsome
    obtain ⟨item, hitem⟩ := mem_keys_entries hmem hkey
    exact ⟨_, hitem, rfl⟩

end Variables

-- ---------------------------------------------------------------------------
-- All layers
-- ---------------------------------------------------------------------------

def Choice.last (choices : List Choice) : Choice :=
  choices.foldl (fun old choice => Choice.or choice old) .none

theorem Holds.addLayers {root : Item} {old : Choice} (h : Holds root old) {layers : List Layer}
    {choices : List Choice} (hlayers : List.Forall₂ Layer.Sets layers choices) :
    Holds (layers.foldl Settings.addLayer root)
      (choices.foldl (fun old choice => Choice.or choice old) old) := by
  induction hlayers generalizing root old with
  | nil => exact h
  | cons hlayer _ ih => exact ih (h.addLayer hlayer)

/-- Each field has the value of the last layer that sets it. -/
theorem ofLayers_eq {layers : List Layer} {choices : List Choice}
    (h : List.Forall₂ Layer.Sets layers choices) :
    ∃ settings, ofLayers layers = .ok settings ∧
      ∀ n, settings.value n = (Choice.last choices n).getD (initial.value n) := by
  refine ⟨_, (Holds.empty.addLayers h).ofTable_eq, fun n => ?_⟩
  cases n <;> rfl

end Targeting.Settings
