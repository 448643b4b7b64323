import Targeting.Command.Run
import Targeting.Proofs.Compilation
import Targeting.Proofs.Encoding
import Targeting.Proofs.Loading

/-!
# The files that are read

A run is followed with a reader that notes every path it reads (`Files.noting`): what a
computation gives and what it has read then is one statement (`Asks`), and goes along with
the steps of the computation. The settings are the same as without notes. Each other file
is a part (`Part`) that says something or fails in one of three ways.
-/

namespace Targeting

open Settings (Files)

section
variable {α β ε ε' : Type}

theorem bind_error {x : Except ε α} {f : α → Except ε β} {e : ε} :
    x >>= f = .error e ↔ x = .error e ∨ ∃ a, x = .ok a ∧ f a = .error e := by
  cases x <;> simp [bind, Except.bind]

theorem mapError_ok {x : Except ε α} {f : ε → ε'} {a : α} :
    x.mapError f = .ok a ↔ x = .ok a := by
  cases x <;> simp [Except.mapError]

theorem mapError_error {x : Except ε α} {f : ε → ε'} {e : ε'} :
    x.mapError f = .error e ↔ ∃ fault, x = .error fault ∧ f fault = e := by
  cases x <;> simp [Except.mapError]

end

-- ---------------------------------------------------------------------------
-- Reading with notes
-- ---------------------------------------------------------------------------

/-- Reads from the files, and notes each path that is read. -/
def Settings.Files.noting (files : Files) : FileReader (StateM (List String)) := fun path => do
  modify (· ++ [path])
  return files path

/-- The computation gives the value, and has then read these paths, in order. -/
def Asks {α : Type} (x : StateM (List String) α) (value : α) (paths : List String) : Prop :=
  ∀ noted, x.run noted = pure (value, noted ++ paths)

section
variable {α β ε : Type} {files : Files} {paths more : List String}

theorem asks_pure (value : α) : Asks (pure value) value [] := fun noted => by
  rw [List.append_nil]
  rfl

theorem asks_noting (files : Files) (path : String) : Asks (files.noting path) (files path) [path] :=
  fun _ => rfl

theorem Asks.bind {x : StateM (List String) α} {f : α → StateM (List String) β} {a : α} {b : β}
    (h : Asks x a paths) (hf : Asks (f a) b more) : Asks (x >>= f) b (paths ++ more) := by
  intro noted
  rw [StateT.run_bind, h noted, pure_bind, hf, List.append_assoc]

theorem Asks.map {x : StateM (List String) α} {a : α} (h : Asks x a paths) (f : α → β) :
    Asks (f <$> x) (f a) paths := by
  intro noted
  rw [StateT.run_map, h noted, map_pure]

theorem Asks.bind_ok {x : ExceptT ε (StateM (List String)) α}
    {f : α → ExceptT ε (StateM (List String)) β} {a : α} {b : Except ε β}
    (h : Asks x.run (.ok a) paths) (hf : Asks (f a).run b more) :
    Asks (x >>= f).run b (paths ++ more) := by
  rw [ExceptT.run_bind]
  exact h.bind hf

theorem Asks.bind_error {x : ExceptT ε (StateM (List String)) α}
    {f : α → ExceptT ε (StateM (List String)) β} {fault : ε}
    (h : Asks x.run (.error fault) paths) : Asks (x >>= f).run (.error fault) paths := by
  rw [ExceptT.run_bind, ← List.append_nil paths]
  exact h.bind (asks_pure _)

end

-- ---------------------------------------------------------------------------
-- Settings
-- ---------------------------------------------------------------------------

namespace Settings

/-- Where the files of the settings are looked for. -/
def sought (environment : Assoc String) (directory : String) : List String :=
  (fileNames environment).flatMap fun name => places (Path.join directory name)

variable {environment : Assoc String}

theorem asks_readFirst (files : Files) (paths : List String) :
    ∃ asked,
      Asks (readFirst files.noting paths) (readFirst (m := Id) files.reader paths).run asked ∧
        asked.Sublist paths := by
  induction paths with
  | nil => exact ⟨[], asks_pure _, .slnil⟩
  | cons path rest ih =>
    obtain ⟨asked, hasks, hsublist⟩ := ih
    have hnoting := asks_noting files path
    have hone : [path].Sublist (path :: rest) := (List.nil_sublist rest).cons_cons path
    rw [readFirst, Files.readFirst_cons]
    cases hpath : files path with
    | ok bytes =>
      rw [hpath] at hnoting
      exact ⟨[path], hnoting.bind (asks_pure _), hone⟩
    | error fault =>
      rw [hpath] at hnoting
      cases fault with
      | other message => exact ⟨[path], hnoting.bind (asks_pure _), hone⟩
      | _ => exact ⟨path :: asked, hnoting.bind hasks, hsublist.cons_cons path⟩

theorem asks_readAll (files : Files) (directory : String) (names : List String) :
    ∃ asked, Asks (readAll files.noting directory names)
        (readAll (m := Id) files.reader directory names).run asked ∧
      asked.Sublist (names.flatMap fun name => places (Path.join directory name)) := by
  induction names with
  | nil => exact ⟨[], asks_pure _, .slnil⟩
  | cons name rest ih =>
    obtain ⟨first, hfirst, hsublist⟩ := asks_readFirst files (places (Path.join directory name))
    obtain ⟨asked, hasks, hrest⟩ := ih
    rw [readAll, readAll, List.flatMap_cons, Id.run_bind]
    cases hfound : (readFirst (m := Id) files.reader (places (Path.join directory name))).run with
    | error fault =>
      rw [hfound] at hfirst
      exact ⟨first ++ [], hfirst.bind (asks_pure _), hsublist.append (List.nil_sublist _)⟩
    | ok layer =>
      rw [hfound] at hfirst
      exact ⟨first ++ asked, hfirst.bind (hasks.map _), hsublist.append hrest⟩

/-- The settings are those that the files have, whether notes are taken or not, and of the
files none but those of the settings are read. -/
theorem asks_load (files : Files) (environment : Assoc String) (directory : String) :
    ∃ asked, Asks (load files.noting environment directory)
        (load (m := Id) files.reader environment directory).run asked ∧
      asked.Sublist (sought environment directory) := by
  obtain ⟨asked, hasks, hsublist⟩ := asks_readAll files directory (fileNames environment)
  refine ⟨asked, ?_, hsublist⟩
  rw [← List.append_nil asked]
  exact hasks.bind (asks_pure _)

end Settings

-- ---------------------------------------------------------------------------
-- Parts
-- ---------------------------------------------------------------------------

namespace Command

namespace Part

def Value : Part → Type
  | .geo => Geo.Table
  | .criteria => Tree
  | .request => Request

/-- No rules are registered. -/
def ofText : (part : Part) → String → Except (List String) part.Value
  | .geo, text => (Geo.Table.ofText text).mapError fun fault => [fault.message text]
  | .criteria, text =>
    (Tree.compileText [] text).mapError fun error => error.message :: error.source?.toList
  | .request, text => (Request.ofText text).mapError fun fault => [fault.message text]

variable {part : Part} {files : Files} {path : String}

/-- The file is a text in UTF-8 that stands for the value. -/
def Says (part : Part) (files : Files) (path : String) (value : part.Value) : Prop :=
  ∃ text, files path = .ok (Text.utf8 text) ∧ part.ofText text = .ok value

inductive Fails (part : Part) (files : Files) (path : String) : Failure → Prop
  | unreadable {fault : FileFault} (file : files path = .error fault) :
    Fails part files path (.unreadable part path fault.message)
  | notText {bytes : List Nat} (file : files path = .ok bytes)
      (notText : ∀ text, bytes ≠ Text.utf8 text) :
    Fails part files path (.unreadable part path "stream did not contain valid UTF-8")
  | invalid {text : String} {reasons : List String} (file : files path = .ok (Text.utf8 text))
      (reason : part.ofText text = .error reasons) :
    Fails part files path (.invalid part path reasons)

def text (part : Part) (files : Files) (path : String) : Except Failure String :=
  match files path with
  | .error fault => .error (.unreadable part path fault.message)
  | .ok bytes =>
    match Text.ofBytes? bytes with
    | some text => .ok text
    | none => .error (.unreadable part path "stream did not contain valid UTF-8")

def read (part : Part) (files : Files) (path : String) : Except Failure part.Value := do
  let text ← part.text files path
  (part.ofText text).mapError (.invalid part path)

theorem text_ok {text : String} :
    part.text files path = .ok text ↔ files path = .ok (Text.utf8 text) := by
  rw [Part.text]
  cases hpath : files path with
  | error fault => simp
  | ok bytes =>
    rw [Except.ok.injEq, ← Text.ofBytes?_eq_some]
    cases htext : Text.ofBytes? bytes <;> simp [htext]

theorem text_error {failure : Failure} (h : part.text files path = .error failure) :
    part.Fails files path failure := by
  rw [Part.text] at h
  cases hpath : files path with
  | error fault =>
    rw [hpath] at h
    cases h
    exact .unreadable hpath
  | ok bytes =>
    rw [hpath] at h
    cases htext : Text.ofBytes? bytes with
    | some text => simp [htext] at h
    | none =>
      simp only [htext] at h
      cases h
      refine .notText hpath fun text hbytes => ?_
      rw [Text.ofBytes?_eq_some.mpr hbytes] at htext
      cases htext

theorem read_ok {value : part.Value} :
    part.read files path = .ok value ↔ part.Says files path value := by
  simp only [Part.read, bind_ok, text_ok, mapError_ok, Says]

theorem fails_of_read {failure : Failure} (h : part.read files path = .error failure) :
    part.Fails files path failure := by
  obtain htext | ⟨text, htext, hvalue⟩ := bind_error.mp h
  · exact text_error htext
  · obtain ⟨reasons, hreasons, rfl⟩ := mapError_error.mp hvalue
    exact .invalid (text_ok.mp htext) hreasons

theorem Fails.no_value {failure : Failure} (h : part.Fails files path failure)
    (value : part.Value) : ¬ part.Says files path value := by
  rintro ⟨text, hfile, hvalue⟩
  cases h with
  | unreadable hfault => simp [hfile] at hfault
  | notText hbytes hnot =>
    rw [hfile, Except.ok.injEq] at hbytes
    exact hnot text hbytes.symm
  | @invalid other _ hother hreasons =>
    have htext : part.text files path = .ok text := text_ok.mpr hfile
    have hsame : text = other := Except.ok.inj (htext.symm.trans (text_ok.mpr hother))
    rw [← hsame, hvalue] at hreasons
    cases hreasons

end Part

-- ---------------------------------------------------------------------------
-- Reading the parts
-- ---------------------------------------------------------------------------

theorem asks_readText (files : Files) (part : Part) (path : String) :
    Asks (readText files.noting part path).run (part.text files path) [path] := by
  have hnoting := asks_noting files path
  show Asks (files.noting path >>= _) _ ([path] ++ [])
  rw [Part.text]
  cases hpath : files path with
  | error fault =>
    rw [hpath] at hnoting
    exact hnoting.bind (asks_pure _)
  | ok bytes =>
    rw [hpath] at hnoting
    refine hnoting.bind ?_
    cases htext : Text.ofBytes? bytes with
    | some text => simpa [htext] using asks_pure _
    | none => simpa [htext] using asks_pure _

theorem asks_part (files : Files) (part : Part) (path : String)
    {next : String → ExceptT Failure (StateM (List String)) part.Value}
    (hnext : ∀ text, (next text).run = pure ((part.ofText text).mapError (.invalid part path))) :
    Asks (readText files.noting part path >>= next).run (part.read files path) [path] := by
  have htext := asks_readText files part path
  rw [Part.read]
  cases hfound : part.text files path with
  | error failure =>
    rw [hfound] at htext
    exact htext.bind_error
  | ok text =>
    rw [hfound] at htext
    have hvalue : Asks (next text).run ((part.ofText text).mapError (.invalid part path)) [] := by
      rw [hnext]
      exact asks_pure _
    exact htext.bind_ok hvalue

theorem asks_readGeo (files : Files) (path : String) :
    Asks (readGeo files.noting path).run (Part.geo.read files path) [path] := by
  refine asks_part files .geo path fun text => ?_
  rw [Part.ofText]
  cases Geo.Table.ofText text <;> rfl

theorem asks_readCriteria (files : Files) (path : String) {engine : Engine}
    (hregistry : engine.registry = .empty) :
    Asks (readCriteria files.noting engine path).run (Part.criteria.read files path) [path] := by
  refine asks_part files .criteria path fun text => ?_
  rw [Part.ofText, Engine.compileText, hregistry, Registry.names, Registry.empty, List.map_nil]
  cases Tree.compileText [] text <;> rfl

theorem asks_readRequest (files : Files) (path : String) :
    Asks (readRequest files.noting path).run (Part.request.read files path) [path] := by
  refine asks_part files .request path fun text => ?_
  rw [Part.ofText]
  cases Request.ofText text <;> rfl

end Command

end Targeting
