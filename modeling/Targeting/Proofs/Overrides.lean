import Targeting.Engine
import Targeting.Proofs.Loading

/-!
# Names from the environment

A variable holds a text, and a setting that is a name takes the text that the value of the
variable is written as (`Variables.converted`). That is the text itself exactly if it is no
other way to write a Boolean or a number (`Variables.Kept`): `007` is the name `7`. Beyond that
a variable does what a file does that has the converted text.
-/

namespace Targeting

-- ---------------------------------------------------------------------------
-- Whole numbers
-- ---------------------------------------------------------------------------

namespace Decimal

theorem digitsValue_eq (digits : List Char) :
    digitsValue digits = Nat.ofDigitChars 10 digits 0 := by
  rw [digitsValue, Nat.ofDigitChars_eq_foldl]
  simp only [Nat.mul_comm]

theorem digits_toDigits (n : Nat) :
    (Nat.toDigits 10 n).isEmpty = false ∧ (Nat.toDigits 10 n).all isDigit = true ∧
      digitsValue (Nat.toDigits 10 n) = n := by
  refine ⟨?_, ?_, ?_⟩
  · simp
  · rw [List.all_eq_true]
    intro c hc
    exact Nat.isDigit_of_mem_toDigits (by decide) (by decide) hc
  · rw [digitsValue_eq, Nat.ofDigitChars_ten_toDigits]

theorem toList_toString (n : Int) :
    (toString n).toList = (if n < 0 then ['-'] else []) ++ Nat.toDigits 10 n.natAbs := by
  cases n with
  | ofNat m => simp [Int.toString_eq_repr, Int.repr]
  | negSucc m => simp [Int.toString_eq_repr, Int.repr, Int.negSucc_lt_zero]

theorem splitSign_of_digits {digits : List Char} (h : digits.all isDigit = true) :
    splitSign digits = (false, digits) := by
  cases digits with
  | nil => rfl
  | cons c rest =>
    have hc : isDigit c = true := List.all_eq_true.mp h c List.mem_cons_self
    rw [splitSign.eq_def]
    split
    · next heq =>
      cases heq
      cases hc
    · next heq =>
      cases heq
      cases hc
    · rfl

theorem splitSign_toString (n : Int) :
    splitSign (toString n).toList = (decide (n < 0), Nat.toDigits 10 n.natAbs) := by
  obtain ⟨-, hdigits, -⟩ := digits_toDigits n.natAbs
  rw [toList_toString]
  by_cases h : n < 0
  · simp [h, splitSign]
  · simp [h, splitSign_of_digits hdigits]

theorem integer?_toString {n : Int} (h : fitsWord n = true) : integer? (toString n) = some n := by
  obtain ⟨hne, hdigits, hvalue⟩ := digits_toDigits n.natAbs
  have hsigned : signed (decide (n < 0)) n.natAbs = n := by
    rw [signed]
    by_cases hn : n < 0
    · rw [if_pos (decide_eq_true hn)]
      omega
    · rw [if_neg (by simpa using hn)]
      omega
  simp only [integer?, splitSign_toString, hne, hdigits, hvalue, hsigned, h]
  rfl

theorem fitsWord_of_integer? {text : String} {n : Int} (h : integer? text = some n) :
    fitsWord n = true := by
  simp only [integer?, Option.ite_none_right_eq_some, Bool.and_eq_true, Option.some.injEq] at h
  obtain ⟨⟨-, hfits⟩, rfl⟩ := h
  exact hfits

end Decimal

namespace Settings

namespace Variables

theorem toLower_eq_self {c : Char} (h : c.toNat < 'A'.toNat) : c.toLower = c := by
  rw [Char.toLower, dif_neg]
  exact fun hupper => absurd hupper.1 (UInt32.not_le.mpr (UInt32.lt_iff_toNat_lt.mpr h))

theorem head_lower {text : String} {c : Char} {rest : List Char} (h : text.toList = c :: rest)
    (hc : c.toNat < 'A'.toNat) : (Unicode.lower text).toList.head? = some c := by
  have hascii : c.toNat < 128 := Nat.lt_trans hc (by decide)
  have hsigma : c ≠ 'Σ' := by
    rintro rfl
    exact absurd hascii (by decide)
  rw [Unicode.lower, String.toList_ofList, h, Unicode.lowerList, if_neg hsigma,
    Unicode.lowerChar, if_pos hascii, toLower_eq_self hc]
  rfl

/-- A text that begins with a sign or a digit is no word, in lower case either. -/
theorem lower_toString (n : Int) :
    Unicode.lower (toString n) ≠ "true" ∧ Unicode.lower (toString n) ≠ "false" := by
  have hhead : ∃ c rest, (toString n).toList = c :: rest ∧ c.toNat < 'A'.toNat := by
    obtain ⟨-, hdigits, -⟩ := Decimal.digits_toDigits n.natAbs
    rw [Decimal.toList_toString]
    by_cases hn : n < 0
    · exact ⟨'-', Nat.toDigits 10 n.natAbs, by simp [hn], by decide⟩
    · obtain ⟨c, rest, heq⟩ := List.exists_cons_of_ne_nil (@Nat.toDigits_ne_nil n.natAbs 10)
      rw [heq] at hdigits
      have hc : Decimal.isDigit c = true := List.all_eq_true.mp hdigits c List.mem_cons_self
      refine ⟨c, rest, by simp [hn, heq], ?_⟩
      simp only [Decimal.isDigit, Bool.and_eq_true, decide_eq_true_eq] at hc
      exact Nat.lt_of_le_of_lt (UInt32.le_iff_toNat_le.mp hc.2) (by decide)
  obtain ⟨c, rest, htext, hc⟩ := hhead
  have hlower := head_lower htext hc
  constructor
  · intro h
    rw [h] at hlower
    cases hlower
    exact absurd hc (by decide)
  · intro h
    rw [h] at hlower
    cases hlower
    exact absurd hc (by decide)

/-- The value of a variable, written as a text. -/
def converted (s : String) : String :=
  match leaf s with
  | .flag b => if b then "true" else "false"
  | .whole n => toString n
  | .real x => Decimal.plain.write x
  | .text t => t

/-- The texts that are values in the way these are written. -/
inductive Kept : String → Prop
  | word {s} : leaf s = .text s → Kept s
  | flag (b : Bool) : Kept (if b then "true" else "false")
  | whole {n : Int} : Decimal.fitsWord n = true → Kept (toString n)
  | real {x : Float} : leaf (Decimal.plain.write x) = .real x → Kept (Decimal.plain.write x)

theorem leaf_toString {n : Int} (h : Decimal.fitsWord n = true) : leaf (toString n) = .whole n := by
  obtain ⟨htrue, hfalse⟩ := lower_toString n
  simp only [leaf, htrue, hfalse, Decimal.integer?_toString h, if_false]

theorem fitsWord_of_leaf {s : String} {n : Int} (h : leaf s = .whole n) :
    Decimal.fitsWord n = true := by
  simp only [leaf] at h
  split at h
  · cases h
  · split at h
    · cases h
    · cases hinteger : Decimal.integer? s with
      | some k =>
        rw [hinteger] at h
        cases h
        exact Decimal.fitsWord_of_integer? hinteger
      | none =>
        rw [hinteger] at h
        cases hfloat : Decimal.float? s <;> rw [hfloat] at h <;> cases h

theorem converted_eq_self {s : String} : converted s = s ↔ Kept s := by
  constructor
  · intro h
    rw [converted] at h
    generalize hleaf : leaf s = value at h
    subst h
    cases value with
    | flag b => exact .flag b
    | whole n => exact .whole (fitsWord_of_leaf hleaf)
    | real x => exact .real hleaf
    | text t => exact .word hleaf
  · intro h
    cases h with
    | word h => rw [converted, h]
    | flag b => cases b <;> rfl
    | whole h => rw [converted, leaf_toString h]
    | real h => rw [converted, h]

end Variables

-- ---------------------------------------------------------------------------
-- Names
-- ---------------------------------------------------------------------------

/-- The settings under which the engine looks for things in a request. -/
inductive RequestName where
  | visitorCookie | overrideParam | forwardedHeader

namespace RequestName

def field : RequestName → Field
  | .visitorCookie => .visitorCookie
  | .overrideParam => .overrideParam
  | .forwardedHeader => .forwardedHeader

def override : RequestName → String
  | .visitorCookie => "SPLITTER_VISITOR_COOKIE"
  | .overrideParam => "SPLITTER_OVERRIDE_IP_PARAM"
  | .forwardedHeader => "SPLITTER_FORWARDED_FOR_HEADER"

def value : (n : RequestName) → String → n.field.Value
  | .visitorCookie, s | .overrideParam, s | .forwardedHeader, s => s

def among (s : Settings) : RequestName → String
  | .visitorCookie => s.visitorCookie
  | .overrideParam => s.overrideParam
  | .forwardedHeader => s.forwardedHeader

theorem key?_override (n : RequestName) : Variables.key? n.override = some n.field.key := by
  cases n <;> decide

theorem override_ne_env (n : RequestName) : n.override ≠ "SPLITTER_ENV" := by cases n <;> decide

theorem decode_leaf (n : RequestName) (origin : Option String) (s : String) :
    n.field.decode (.leaf origin (Variables.leaf s)) = .ok (n.value (Variables.converted s)) := by
  have htext (key : String) :
      textOf key (.leaf origin (Variables.leaf s)) = .ok (Variables.converted s) := by
    rw [Variables.converted]
    cases Variables.leaf s <;> rfl
  cases n <;> exact htext _

theorem value_among {n : RequestName} {settings : Settings} {s : String}
    (h : settings.value n.field = n.value s) : n.among settings = s := by
  cases n <;> exact h

end RequestName

theorem ext_value {a b : Settings} (h : ∀ n, a.value n = b.value n) : a = b := by
  have hcookie : a.visitorCookie = b.visitorCookie := h .visitorCookie
  have hparam : a.overrideParam = b.overrideParam := h .overrideParam
  have hheader : a.forwardedHeader = b.forwardedHeader := h .forwardedHeader
  have hlevel : a.logLevel = b.logLevel := h .logLevel
  have hjson : a.jsonLogs = b.jsonLogs := h .jsonLogs
  cases a
  cases b
  simp_all

def Choice.with (choice : Choice) (n : RequestName) (s : String) : Choice :=
  Function.update choice n.field (some (n.value s))

theorem Names.cons {environment : Assoc String} {name : String} (h : Names environment name)
    (n : RequestName) (s : String) : Names ((n.override, s) :: environment) name where
  chosen := by rw [Assoc.get?_cons, if_neg n.override_ne_env.symm, h.chosen]
  nonempty := h.nonempty
  noSlash := h.noSlash

theorem Variables.Write.cons {environment : Assoc String} {overrides : Choice}
    (h : Write environment overrides) (n : RequestName) (hfree : overrides n.field = none)
    (s : String) :
    Write ((n.override, s) :: environment) (Choice.with overrides n (converted s)) where
  known := by
    refine List.forall_mem_cons.mpr ⟨fun key hkey => ?_, fun entry hentry key hkey => ?_⟩
    · cases hkey.symm.trans n.key?_override
      exact .inr ⟨n.field, n.value (converted s), rfl, Function.update_self .., n.decode_leaf ..⟩
    · refine (h.known entry hentry key hkey).imp_right fun ⟨k, v, hk, hchoice, hv⟩ => ?_
      have hne : k ≠ n.field := by
        rintro rfl
        rw [hfree] at hchoice
        cases hchoice
      exact ⟨k, v, hk, (Function.update_of_ne hne ..).trans hchoice, hv⟩
  complete k hk := by
    by_cases hkey : k = n.field
    · exact ⟨n.override, s, List.mem_cons_self, hkey ▸ n.key?_override⟩
    · rw [Choice.with, Function.update_of_ne hkey] at hk
      obtain ⟨name, value, hmem, hname⟩ := h.complete k hk
      exact ⟨name, value, List.mem_cons_of_mem _ hmem, hname⟩

/-- A name from a variable is the converted value, as it is from a file that has the converted
value, whatever else there is; and it is the value itself exactly if that is how it is written. -/
theorem load_override {m : Type → Type} [Monad m] [LawfulMonad m] (n : RequestName) (s : String)
    {files files' : Files} {environment : Assoc String} {directory name : String}
    {first second overrides : Choice} (hname : Names environment name)
    (hfiles : files.Hold directory name first second)
    (hfiles' : files'.Hold directory name first (Choice.with second n (Variables.converted s)))
    (hoverrides : Variables.Write environment overrides) (hfree : overrides n.field = none) :
    (∃ settings : Settings,
      load (files.reader (m := m)) ((n.override, s) :: environment) directory =
          pure (.ok settings) ∧
        load (files'.reader (m := m)) environment directory = pure (.ok settings) ∧
        n.among settings = Variables.converted s) ∧
      (Variables.converted s = s ↔ Variables.Kept s) := by
  refine ⟨?_, Variables.converted_eq_self⟩
  obtain ⟨layers, choices, hread, hsets, hlast⟩ := hfiles.layers (m := m) (hname.cons n s)
  obtain ⟨layers', choices', hread', hsets', hlast'⟩ := hfiles'.layers (m := m) hname
  obtain ⟨settings, hload, hvalue⟩ := load_of_layers hread hsets (hoverrides.cons n hfree s)
  obtain ⟨settings', hload', hvalue'⟩ := load_of_layers hread' hsets' hoverrides
  have hsame : settings' = settings := ext_value fun k => by
    rw [hvalue, hvalue', hlast, hlast']
    by_cases hk : k = n.field
    · subst hk
      simp [Choice.with, hfree]
    · simp only [Choice.with, Function.update_of_ne hk]
  refine ⟨settings, hload, hsame ▸ hload', RequestName.value_among ?_⟩
  rw [hvalue]
  simp [Choice.with]

def noFiles : Files := fun _ => .error .missing

theorem noFiles_hold : noFiles.Hold "config" "development" .none .none := ⟨rfl, rfl, nofun⟩

def sevenFiles : Files :=
  .one "config/development.toml" (asciiBytes "visitor_cookie = \"7\"\n")

theorem sevenFiles_hold :
    sevenFiles.Hold "config" "development" .none (Choice.with .none .visitorCookie "7") := by
  have hchoice : Choice.with .none .visitorCookie "7" = .cookie "7" := by
    funext k
    cases k <;> rfl
  rw [hchoice]
  exact Files.one_hold "config/development" (by decide) (by decide) (by decide) (by cbv)
    (cookie_writes "7")

theorem write_nil : Variables.Write [] .none := ⟨nofun, nofun⟩

theorem names_nil : Names [] "development" := ⟨rfl, by decide, by decide⟩

theorem converted_seven : Variables.converted "007" = "7" := by decide

theorem load_override_seven :
    Names [] "development" ∧ noFiles.Hold "config" "development" .none .none ∧
      sevenFiles.Hold "config" "development" .none
        (Choice.with .none .visitorCookie (Variables.converted "007")) ∧
      Variables.Write [] .none ∧ Choice.none RequestName.visitorCookie.field = none ∧
      ∃ settings : Settings,
        load (noFiles.reader (m := Id)) [("SPLITTER_VISITOR_COOKIE", "007")] "config" =
            pure (.ok settings) ∧
          load (sevenFiles.reader (m := Id)) [] "config" = pure (.ok settings) ∧
          settings.visitorCookie = "7" := by
  have hseven : sevenFiles.Hold "config" "development" .none
      (Choice.with .none .visitorCookie (Variables.converted "007")) := by
    rw [converted_seven]
    exact sevenFiles_hold
  obtain ⟨⟨settings, hload, hload', hcookie⟩, -⟩ := load_override (m := Id) .visitorCookie "007"
    names_nil noFiles_hold hseven write_nil rfl
  exact ⟨names_nil, noFiles_hold, hseven, write_nil, rfl, settings, hload, hload',
    hcookie.trans converted_seven⟩

def knownVisitor : Request := { Request.empty with cookies := some [("007", "1")] }

def newVisitors : Tree := .node [⟨"visitor", .null, some (.visitor true)⟩] [] [] none

/-- The zeros before a number are not kept, and who has the cookie is taken for new. -/
theorem load_seven :
    ∃ settings : Settings,
      load (noFiles.reader (m := Id)) [("SPLITTER_VISITOR_COOKIE", "007")] "config" =
          pure (.ok settings) ∧
        settings.visitorCookie ≠ "007" ∧
        (Engine.evaluate { Engine.initial with settings } (some newVisitors) knownVisitor
            .fresh).matched = true ∧
        (Engine.evaluate
            { Engine.initial with settings := { settings with visitorCookie := "007" } }
            (some newVisitors) knownVisitor .fresh).matched = false := by
  obtain ⟨layers, choices, hread, hsets, hlast⟩ :=
    noFiles_hold.layers (m := Id) (names_nil.cons .visitorCookie "007")
  obtain ⟨settings, hload, hvalue⟩ :=
    load_of_layers hread hsets (write_nil.cons .visitorCookie rfl "007")
  have hsettings : settings = { initial with visitorCookie := "7" } := ext_value fun k => by
    rw [hvalue, hlast]
    cases k <;> rfl
  subst hsettings
  exact ⟨_, hload, by decide, by decide, by decide⟩

end Settings

end Targeting
