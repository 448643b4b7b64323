import Mathlib
import Targeting.Proofs.Layers

/-!
# Loading settings

The files of a directory are looked for under their names and, if they are not there, with one
more ending. If there are no others, looking for them gives a layer with the settings of one
of the two, or none (`readFirst_sets`), and what is loaded has each setting from the highest
layer that sets it.
-/

namespace Targeting

-- ---------------------------------------------------------------------------
-- Names of files
-- ---------------------------------------------------------------------------

theorem Text.splitFrom_eq_singleton {separator : Char} {text : List Char} (h : separator ∉ text)
    (piece : List Char) : splitFrom separator piece text = [.ofList (piece.reverse ++ text)] := by
  induction text generalizing piece with
  | nil => rw [splitFrom, List.append_nil]
  | cons c rest ih =>
    rw [List.mem_cons, not_or] at h
    obtain ⟨hc, hrest⟩ := h
    rw [splitFrom, if_neg (Ne.symm hc), ih hrest]
    simp

theorem Text.splitFrom_append (separator : Char) {last : List Char} (h : separator ∉ last)
    (piece text : List Char) : ∃ pieces start,
      splitFrom separator piece (text ++ last) = pieces ++ [.ofList (start ++ last)] := by
  induction text generalizing piece with
  | nil => exact ⟨[], piece.reverse, splitFrom_eq_singleton h piece⟩
  | cons c rest ih =>
    rw [List.cons_append, splitFrom]
    split
    · obtain ⟨pieces, start, heq⟩ := ih []
      exact ⟨_ :: pieces, start, congrArg (_ :: ·) heq⟩
    · exact ih (c :: piece)

theorem Text.splitFrom_append_separator {separator : Char} {last : List Char} (h : separator ∉ last)
    (piece text : List Char) : ∃ pieces,
      splitFrom separator piece (text ++ separator :: last) = pieces ++ [.ofList last] := by
  induction text generalizing piece with
  | nil =>
    refine ⟨[.ofList piece.reverse], ?_⟩
    rw [List.nil_append, splitFrom, if_pos rfl, splitFrom_eq_singleton h]
    rfl
  | cons c rest ih =>
    rw [List.cons_append, splitFrom]
    split
    · obtain ⟨pieces, heq⟩ := ih []
      exact ⟨_ :: pieces, congrArg (_ :: ·) heq⟩
    · exact ih (c :: piece)

namespace Path

/-- The last part has the ending, and is more than the ending. -/
def IsToml (path : String) : Prop :=
  ∃ start c, path.toList = start ++ c :: ".toml".toList ∧ c ≠ '/'

theorem toList_join (directory file : String) :
    ∃ before, (join directory file).toList = before ++ file.toList := by
  rw [join]
  split
  · exact ⟨[], rfl⟩
  · split
    · exact ⟨directory.toList, by simp⟩
    · exact ⟨directory.toList ++ ['/'], by simp⟩

theorem IsToml.join {file : String} (h : IsToml file) (directory : String) :
    IsToml (join directory file) := by
  obtain ⟨start, c, hfile, hc⟩ := h
  obtain ⟨before, hjoin⟩ := toList_join directory file
  exact ⟨before ++ start, c, by rw [hjoin, hfile, List.append_assoc], hc⟩

theorem IsToml.append {path : String} (h : IsToml path) : IsToml (path ++ ".toml") := by
  obtain ⟨start, c, hpath, -⟩ := h
  exact ⟨start ++ c :: ".tom".toList, 'l', by simp [hpath], by decide⟩

theorem isToml_append {name : String} (hne : name ≠ "") (hslash : name.toList.getLast? ≠ some '/') :
    IsToml (name ++ ".toml") := by
  have hlist : name.toList ≠ [] := fun h => hne (String.toList_eq_nil_iff.mp h)
  refine ⟨name.toList.dropLast, name.toList.getLast hlist, ?_, fun h => hslash ?_⟩
  · rw [String.toList_append, List.append_cons, List.dropLast_concat_getLast]
  · rw [List.getLast?_eq_some_getLast hlist, h]

theorem last_parts {path last : String} {pieces : List String}
    (h : Text.split '/' path = pieces ++ [last]) (hlast : last ≠ "" ∧ last ≠ ".") :
    (parts path).getLastD "" = last := by
  rw [parts, h, List.filter_append, List.filter_singleton, decide_eq_true hlast, cond_true,
    List.getLastD_concat]

theorem IsToml.last {path : String} (h : IsToml path) :
    ∃ start c, (parts path).getLastD "" = .ofList (start ++ c :: ".toml".toList) := by
  obtain ⟨start, c, hpath, hc⟩ := h
  have hnone : '/' ∉ c :: ".toml".toList := by simp [hc.symm]
  obtain ⟨pieces, begun, hsplit⟩ := Text.splitFrom_append '/' hnone [] start
  refine ⟨begun, c, last_parts (by rw [Text.split, hpath, hsplit]) ?_⟩
  constructor <;> intro h <;> simpa using congrArg (·.toList.length) h

/-- Behind a slash there is only the ending, in whatever directory. -/
theorem last_of_slash {name : String} (h : name.toList.getLast? = some '/') (directory : String) :
    (parts (join directory (name ++ ".toml"))).getLastD "" = ".toml" := by
  obtain ⟨start, hname⟩ := List.getLast?_eq_some_iff.mp h
  obtain ⟨before, hjoin⟩ := toList_join directory (name ++ ".toml")
  have hchars : (join directory (name ++ ".toml")).toList =
      (before ++ start) ++ '/' :: ".toml".toList := by
    simp [hjoin, hname]
  have hnone : '/' ∉ ".toml".toList := by decide
  obtain ⟨pieces, hsplit⟩ := Text.splitFrom_append_separator hnone [] (before ++ start)
  have hparts : Text.split '/' (join directory (name ++ ".toml")) = pieces ++ [".toml"] := by
    rw [Text.split, hchars, hsplit, String.ofList_toList]
  exact last_parts hparts (by decide)

end Path

namespace Settings

open Targeting.Path (IsToml)

theorem Layer.ofFile_eq {path : String} (h : IsToml path) (bytes : List Nat) :
    ∃ origin, ofFile path bytes = ofToml origin (Text.ofBytesLossy (dropMark bytes)) := by
  obtain ⟨start, c, hlast⟩ := h.last
  have hending : (String.ofList (start ++ c :: ".toml".toList)) ≠ ".toml" := by
    intro h
    simpa using congrArg (·.toList.length) h
  have hjson : (String.ofList (start ++ c :: ".toml".toList)).endsWith ".json" = false := by
    rw [String.endsWith_eq_endsWith_toSlice, String.Slice.endsWith_string_eq_false_iff,
      String.copy_toSlice, String.toList_ofList]
    intro hsuffix
    have hsame := List.IsSuffix.getLast hsuffix (by decide)
    simp at hsame
  refine ⟨String.intercalate "/" (Path.parts path), ?_⟩
  simp only [ofFile, hlast, hending, hjson]
  rfl

-- ---------------------------------------------------------------------------
-- Files
-- ---------------------------------------------------------------------------

abbrev Files := String → Except FileFault (List Nat)

namespace Files

variable {files : Files} {first second path : String} {choice also : Choice}

/-- The file has the settings of the choice, and a file that is not there has none. -/
def Says (files : Files) (path : String) (choice : Choice) : Prop :=
  match files path with
  | .ok bytes => ∃ entries,
    Toml.ofText? (Text.ofBytesLossy (dropMark bytes)) = some entries ∧ Writes entries choice
  | .error _ => choice = .none

/-- Every path that leads to a file leads to one of the two, and has their ending. -/
def Only (files : Files) (first second : String) : Prop :=
  ∀ path bytes, files path = .ok bytes → (∃ name, path = name ++ ".toml") ∧
    (files first = .ok bytes ∨ files second = .ok bytes)

theorem Only.symm (h : files.Only first second) : files.Only second first :=
  fun path bytes hpath => (h path bytes hpath).imp_right Or.symm

theorem Says.ofFile (h : files.Says path choice) {bytes : List Nat} (hpath : files path = .ok bytes)
    {place : String} (hplace : IsToml place) :
    ∃ layer, Layer.ofFile place bytes = .ok layer ∧ layer.Sets choice := by
  rw [Says, hpath] at h
  obtain ⟨entries, htext, hwrites⟩ := h
  obtain ⟨origin, heq⟩ := Layer.ofFile_eq hplace bytes
  exact ⟨_, by rw [heq, Layer.ofToml, htext], hwrites.sets origin⟩

theorem Says.eq_none (h : files.Says path choice) {fault : FileFault}
    (hpath : files path = .error fault) : choice = .none := by
  rwa [Says, hpath] at h

section
variable {m : Type → Type} [Monad m] [LawfulMonad m]

def reader (files : Files) : FileReader m := fun path => pure (files path)

theorem readFirst_cons (path : String) (rest : List String) :
    readFirst (m := m) files.reader (path :: rest) = match files path with
      | .ok bytes => pure (Layer.ofFile path bytes)
      | .error (.other _) => pure (.ok [])
      | .error _ => readFirst files.reader rest := by
  rw [readFirst]
  exact pure_bind (files path) _

variable (m) in
/-- Looking for the file gives the layer. -/
def Finds (files : Files) (path : String) (layer : Layer) : Prop :=
  readFirst (m := m) files.reader (places path) = pure (.ok layer)

/-- A file that is looked for is the first that is there, if any. -/
theorem readFirst_eq (paths : List String) :
    readFirst (m := m) files.reader paths = pure (.ok []) ∨
      ∃ path ∈ paths, ∃ bytes, files path = .ok bytes ∧
        readFirst (m := m) files.reader paths = pure (Layer.ofFile path bytes) := by
  induction paths with
  | nil => exact .inl rfl
  | cons path rest ih =>
    rw [readFirst_cons]
    cases hpath : files path with
    | ok bytes => exact .inr ⟨path, List.mem_cons_self, bytes, hpath, rfl⟩
    | error fault =>
      have hrest : readFirst (m := m) files.reader rest = pure (.ok []) ∨
          ∃ place ∈ path :: rest, ∃ bytes, files place = .ok bytes ∧
            readFirst (m := m) files.reader rest = pure (Layer.ofFile place bytes) :=
        ih.imp_right fun ⟨place, hplace, h⟩ => ⟨place, List.mem_cons_of_mem path hplace, h⟩
      cases fault with
      | other message => exact .inl rfl
      | _ => exact hrest

/-- If the file is not there, a path with one more ending may lead to the other one. -/
theorem readFirst_sets (honly : files.Only path second) (hpath : IsToml path)
    (hself : files.Says path choice) (hother : files.Says second also) :
    ∃ layer found, files.Finds m path layer ∧ Layer.Sets layer found ∧
      (found = choice ∨ choice = .none ∧ found = also) := by
  cases hfile : files path with
  | ok bytes =>
    obtain ⟨layer, heq, hsets⟩ := hself.ofFile hfile hpath
    refine ⟨layer, choice, ?_, hsets, .inl rfl⟩
    rw [Finds, places, readFirst_cons, hfile, ← heq]
  | error fault =>
    have hnone := hself.eq_none hfile
    have hfirst : readFirst (m := m) files.reader (places path) = _ ∨ _ := readFirst_eq _
    rcases hfirst with heq | ⟨place, hplace, bytes, hbytes, heq⟩
    · exact ⟨[], .none, heq, Layer.sets_nil, .inl hnone.symm⟩
    · obtain ⟨⟨name, hname⟩, hsame | hsame⟩ := honly place bytes hbytes
      · cases hsame.symm.trans hfile
      · obtain rfl | rfl | rfl :
            place = path ∨ place = path ++ ".toml" ∨ place = path ++ ".json" := by
          simpa [places] using hplace
        · cases hbytes.symm.trans hfile
        · obtain ⟨layer, hlayer, hsets⟩ := hother.ofFile hsame hpath.append
          exact ⟨layer, also, by rw [Finds, heq, hlayer], hsets, .inr ⟨hnone, rfl⟩⟩
        · have hend := congrArg (·.toList.getLast?) hname
          simp at hend

theorem readAll_eq (directory : String) (names : List String) {layers : List Layer}
    (h : List.Forall₂ (fun name => files.Finds m (Path.join directory name)) names layers) :
    readAll (m := m) files.reader directory names = pure (.ok layers) := by
  induction h with
  | nil => rfl
  | cons hlayer _ ih =>
    rw [Finds] at hlayer
    simp [readAll, hlayer, ih, Except.map]

end

end Files

-- ---------------------------------------------------------------------------
-- Loading
-- ---------------------------------------------------------------------------

structure Names (environment : Assoc String) (name : String) : Prop where
  chosen : (environment.get? "SPLITTER_ENV").getD "development" = name
  nonempty : name ≠ ""
  noSlash : name.toList.getLast? ≠ some '/'

/-- The directory has two files at most, with these settings. -/
structure Files.Hold (files : Files) (directory name : String) (first second : Choice) : Prop where
  first : files.Says (Path.join directory "default.toml") first
  second : files.Says (Path.join directory (name ++ ".toml")) second
  only : files.Only (Path.join directory "default.toml") (Path.join directory (name ++ ".toml"))

section
variable {m : Type → Type} [Monad m] [LawfulMonad m] {files : Files} {environment : Assoc String}
  {directory name : String}

theorem Files.Hold.layers {first second : Choice} (h : files.Hold directory name first second)
    (hname : Names environment name) :
    ∃ layers choices,
      List.Forall₂ (fun name => files.Finds m (Path.join directory name)) (fileNames environment)
        layers ∧
      List.Forall₂ Layer.Sets layers choices ∧
      ∀ n, Choice.last choices n = (second n).or (first n) := by
  have hdefault : IsToml (Path.join directory "default.toml") :=
    Path.IsToml.join ⟨"defaul".toList, 't', rfl, by decide⟩ directory
  have hnamed : IsToml (Path.join directory (name ++ ".toml")) :=
    (Path.isToml_append hname.nonempty hname.noSlash).join directory
  obtain ⟨layer, found, hread, hsets, hfound⟩ :=
    Files.readFirst_sets (m := m) h.only hdefault h.first h.second
  obtain ⟨layer', found', hread', hsets', hfound'⟩ :=
    Files.readFirst_sets (m := m) h.only.symm hnamed h.second h.first
  refine ⟨[layer, layer'], [found, found'], ?_, .cons hsets (.cons hsets' .nil), fun n => ?_⟩
  · rw [fileNames, hname.chosen]
    exact .cons hread (.cons hread' .nil)
  · -- a file that is found in place of one that is not there is the other one
    rcases hfound with rfl | ⟨rfl, rfl⟩ <;> rcases hfound' with rfl | ⟨rfl, rfl⟩ <;>
      simp [Choice.last, Choice.or, Choice.none]

theorem load_of_layers {layers : List Layer} {choices : List Choice} {overrides : Choice}
    (hread : List.Forall₂ (fun name => files.Finds m (Path.join directory name))
      (fileNames environment) layers)
    (hlayers : List.Forall₂ Layer.Sets layers choices)
    (hoverrides : Variables.Write environment overrides) :
    ∃ settings : Settings,
      load (files.reader (m := m)) environment directory = pure (.ok settings) ∧
        ∀ n, settings.value n =
          ((overrides n).or (Choice.last choices n)).getD (initial.value n) := by
  obtain ⟨settings, hsettings, hvalue⟩ :=
    ofLayers_eq (List.rel_append hlayers (.cons hoverrides.sets .nil))
  refine ⟨settings, ?_, fun n => (hvalue n).trans ?_⟩
  · rw [load, Files.readAll_eq directory _ hread, pure_bind]
    exact congrArg pure hsettings
  · rw [Choice.last, List.foldl_append]
    rfl

/-- Each setting has the value of the highest layer that sets it: the variables, the file of the
environment, the default file. -/
theorem load_layered {first second overrides : Choice} (hname : Names environment name)
    (hfiles : files.Hold directory name first second)
    (hoverrides : Variables.Write environment overrides) :
    ∃ settings : Settings,
      load (files.reader (m := m)) environment directory = pure (.ok settings) ∧
        ∀ n, settings.value n =
          ((overrides n).or ((second n).or (first n))).getD (initial.value n) := by
  obtain ⟨layers, choices, hread, hsets, hlast⟩ := hfiles.layers (m := m) hname
  obtain ⟨settings, hload, hvalue⟩ := load_of_layers hread hsets hoverrides
  exact ⟨settings, hload, fun n => by rw [hvalue, hlast]⟩

/-- A file whose name is nothing but the ending sets nothing, although it is there. -/
theorem load_of_slash {layer : Layer} {first overrides : Choice} {bytes : List Nat}
    (hname : (environment.get? "SPLITTER_ENV").getD "development" = name)
    (hslash : name.toList.getLast? = some '/')
    (hthere : files (Path.join directory (name ++ ".toml")) = .ok bytes)
    (hdefault : files.Finds m (Path.join directory "default.toml") layer)
    (hsets : layer.Sets first) (hoverrides : Variables.Write environment overrides) :
    ∃ settings : Settings,
      load (files.reader (m := m)) environment directory = pure (.ok settings) ∧
        ∀ n, settings.value n = ((overrides n).or (first n)).getD (initial.value n) := by
  have hread : files.Finds m (Path.join directory (name ++ ".toml")) [] := by
    rw [Files.Finds, places, Files.readFirst_cons, hthere]
    simp only [Layer.ofFile, Path.last_of_slash hslash, if_true]
  have hlayers : List.Forall₂ (fun name => files.Finds m (Path.join directory name))
      (fileNames environment) [layer, []] := by
    rw [fileNames, hname]
    exact .cons hdefault (.cons hread .nil)
  obtain ⟨settings, hload, hvalue⟩ :=
    load_of_layers hlayers (.cons hsets (.cons Layer.sets_nil .nil)) hoverrides
  refine ⟨settings, hload, fun n => (hvalue n).trans ?_⟩
  simp [Choice.last, Choice.or, Choice.none]

end

def asciiBytes (text : String) : List Nat := text.toList.map Char.toNat

def stagingFiles : Files := fun path =>
  if path = "config/default.toml" then .ok (asciiBytes "visitor_cookie = \"visit_id\"\n")
  else if path = "config/staging.toml" then
    .ok (asciiBytes "visitor_cookie = \"v\"\n[observability]\nlog_level = \"debug\"\n")
  else .error .missing

def Choice.cookie (s : String) : Choice
  | .visitorCookie => some s
  | _ => .none

def debugging : Choice
  | .visitorCookie => some "v"
  | .logLevel => some "debug"
  | _ => none

def jsonLogging : Choice
  | .jsonLogs => some true
  | _ => none

def stagingVariables : Assoc String :=
  [("SPLITTER_ENV", "staging"), ("SPLITTER_OBSERVABILITY__JSON_LOGS", "yes"), ("PATH", "/bin")]

theorem cookie_writes (s : String) : Writes [("visitor_cookie", .text s)] (.cookie s) where
  known := List.forall_mem_singleton.mpr (.inl ⟨.visitorCookie, rfl, s, rfl, fun _ => rfl⟩)
  complete n hn := by
    cases n with
    | visitorCookie => exact .here List.mem_cons_self
    | _ => cases hn

theorem stagingFiles_default : stagingFiles.Says "config/default.toml" (.cookie "visit_id") :=
  ⟨[("visitor_cookie", .text "visit_id")], by cbv, cookie_writes "visit_id"⟩

theorem stagingFiles_staging : stagingFiles.Says "config/staging.toml" debugging := by
  refine ⟨[("visitor_cookie", .text "v"), ("observability", .table [("log_level", .text "debug")])],
    by cbv, ?_, fun n hn => ?_⟩
  · refine List.forall_mem_cons.mpr ⟨.inl ⟨.visitorCookie, rfl, "v", rfl, fun _ => rfl⟩,
      List.forall_mem_singleton.mpr (.inr ⟨_, rfl, ?_⟩)⟩
    exact List.forall_mem_singleton.mpr ⟨.logLevel, rfl, "debug", rfl, fun _ => rfl⟩
  · cases n with
    | visitorCookie => exact .here List.mem_cons_self
    | logLevel =>
      exact .into (List.mem_cons_of_mem _ List.mem_cons_self) (.here List.mem_cons_self)
    | _ => cases hn

theorem stagingFiles_only : stagingFiles.Only "config/default.toml" "config/staging.toml" := by
  intro path bytes h
  rw [stagingFiles] at h
  split at h
  · next hpath => exact ⟨⟨"config/default", hpath⟩, .inl h⟩
  · split at h
    · next hpath => exact ⟨⟨"config/staging", hpath⟩, .inr h⟩
    · cases h

theorem stagingVariables_write : Variables.Write stagingVariables jsonLogging := by
  have henv : Variables.key? "SPLITTER_ENV" = some "env" := by decide
  have hjson : Variables.key? "SPLITTER_OBSERVABILITY__JSON_LOGS" =
    some "observability.json_logs" := by decide
  have hpath : Variables.key? "PATH" = none := by decide
  refine ⟨?_, fun n hn => ?_⟩
  · refine List.forall_mem_cons.mpr ⟨fun key hkey => ?_,
      List.forall_mem_cons.mpr ⟨fun key hkey => ?_,
        List.forall_mem_singleton.mpr fun key hkey => ?_⟩⟩
    · exact .inl (Option.some.inj (hkey.symm.trans henv))
    · cases hkey.symm.trans hjson
      exact .inr ⟨.jsonLogs, true, rfl, rfl, by rfl⟩
    · cases hkey.symm.trans hpath
  · cases n with
    | jsonLogs => exact ⟨_, _, List.mem_cons_of_mem _ List.mem_cons_self, hjson⟩
    | _ => cases hn

theorem stagingFiles_hold :
    stagingFiles.Hold "config" "staging" (.cookie "visit_id") debugging := by
  have hdefault : Path.join "config" "default.toml" = "config/default.toml" := by decide
  have hstaging : Path.join "config" ("staging" ++ ".toml") = "config/staging.toml" := by decide
  constructor
  · rw [hdefault]
    exact stagingFiles_default
  · rw [hstaging]
    exact stagingFiles_staging
  · rw [hdefault, hstaging]
    exact stagingFiles_only

theorem load_layered_staging :
    Names stagingVariables "staging" ∧
      stagingFiles.Hold "config" "staging" (.cookie "visit_id") debugging ∧
      Variables.Write stagingVariables jsonLogging ∧
      load (stagingFiles.reader (m := Id)) stagingVariables "config" =
        pure (.ok ⟨"v", "splitterIP", "x-forwarded-for", "debug", true⟩) := by
  have hname : Names stagingVariables "staging" := ⟨by decide, by decide, by decide⟩
  obtain ⟨⟨cookie, param, header, level, json⟩, hload, hvalue⟩ :=
    load_layered (m := Id) hname stagingFiles_hold stagingVariables_write
  have hcookie : cookie = "v" := hvalue .visitorCookie
  have hparam : param = "splitterIP" := hvalue .overrideParam
  have hheader : header = "x-forwarded-for" := hvalue .forwardedHeader
  have hlevel : level = "debug" := hvalue .logLevel
  have hjson : json = true := hvalue .jsonLogs
  rw [hcookie, hparam, hheader, hlevel, hjson] at hload
  exact ⟨hname, stagingFiles_hold, stagingVariables_write, hload⟩

def Files.one (place : String) (bytes : List Nat) : Files := fun path =>
  if path = place then .ok bytes else .error .missing

section
variable {place : String} {bytes : List Nat}

theorem Files.one_self : Files.one place bytes place = .ok bytes := if_pos rfl

theorem Files.one_of_ne {path : String} (h : path ≠ place) :
    Files.one place bytes path = .error .missing := if_neg h

theorem Files.one_only {name : String} (first : String) (h : place = name ++ ".toml") :
    (Files.one place bytes).Only first place := by
  intro path found hpath
  by_cases hplace : path = place
  · exact ⟨⟨name, hplace.trans h⟩, .inr (hplace ▸ hpath)⟩
  · cases (Files.one_of_ne hplace).symm.trans hpath

theorem Files.one_hold {directory name : String} {choice : Choice}
    {entries : List (String × Toml)} (start : String)
    (hplace : Path.join directory (name ++ ".toml") = place)
    (hending : place = start ++ ".toml") (hother : Path.join directory "default.toml" ≠ place)
    (htext : Toml.ofText? (Text.ofBytesLossy (dropMark bytes)) = some entries)
    (hwrites : Writes entries choice) :
    (Files.one place bytes).Hold directory name .none choice := by
  constructor
  · rw [Files.Says, Files.one_of_ne hother]
  · rw [hplace, Files.Says, Files.one_self]
    exact ⟨entries, htext, hwrites⟩
  · rw [hplace]
    exact Files.one_only _ hending

end

/-- The name of the file is nothing but the ending. -/
def hiddenFiles : Files :=
  .one "config/x/.toml" (asciiBytes "visitor_cookie = \"visit_id\"\n")

def hiddenVariables : Assoc String := [("SPLITTER_ENV", "x/")]

theorem hiddenVariables_write : Variables.Write hiddenVariables .none := by
  have henv : Variables.key? "SPLITTER_ENV" = some "env" := by decide
  refine ⟨List.forall_mem_singleton.mpr fun key hkey => .inl ?_, fun n hn => nomatch hn⟩
  exact Option.some.inj (hkey.symm.trans henv)

theorem hiddenFiles_hold : hiddenFiles.Hold "config" "x/" .none (.cookie "visit_id") :=
  Files.one_hold "config/x/" (by decide) (by decide) (by decide) (by cbv) (cookie_writes "visit_id")

/-- A file whose name is nothing but the ending is there, and is not read. -/
theorem load_hidden :
    (hiddenVariables.get? "SPLITTER_ENV").getD "development" = "x/" ∧ "x/" ≠ "" ∧
      hiddenFiles.Hold "config" "x/" .none (.cookie "visit_id") ∧
      Variables.Write hiddenVariables .none ∧
      ∃ settings : Settings,
        load (hiddenFiles.reader (m := Id)) hiddenVariables "config" = pure (.ok settings) ∧
          settings.value .visitorCookie ≠
            ((Choice.none .visitorCookie).or ((Choice.cookie "visit_id" .visitorCookie).or
              (Choice.none .visitorCookie))).getD (initial.value .visitorCookie) := by
  have hdefault : Path.join "config" "default.toml" = "config/default.toml" := by decide
  have hread : hiddenFiles.Finds Id (Path.join "config" "default.toml") [] := by
    rw [hdefault, Files.Finds]
    simp only [places, Files.readFirst_cons, hiddenFiles, Files.one_of_ne, String.reduceAppend,
      ne_eq, String.reduceEq, not_false_eq_true]
    rfl
  have hname : (hiddenVariables.get? "SPLITTER_ENV").getD "development" = "x/" := by decide
  have hthere : hiddenFiles (Path.join "config" ("x/" ++ ".toml")) = .ok _ := Files.one_self
  obtain ⟨settings, hload, hvalue⟩ :=
    load_of_slash hname (by decide) hthere hread Layer.sets_nil hiddenVariables_write
  have hcookie : settings.value .visitorCookie = "bid" := hvalue .visitorCookie
  refine ⟨hname, by decide, hiddenFiles_hold, hiddenVariables_write, settings, hload, ?_⟩
  rw [hcookie]
  exact (by decide : "bid" ≠ "visit_id")

end Settings

end Targeting
