import Targeting.Proofs.SingleConditions

/-!
# Conditions that complement each other

A visitor condition asks for new visitors if its value is truthy, and for all others if not
(`Json.truthy_eq_false_iff`); a device is a desktop if it is not mobile. So of the two visitor
conditions exactly one holds of a request, and so does exactly one of the two device
conditions, once there is a user agent (`answer_either`).
-/

namespace Targeting

-- ---------------------------------------------------------------------------
-- Truthy values
-- ---------------------------------------------------------------------------

namespace Json

/-- Nothing, `false`, zero, be it negative zero, and the empty text. -/
inductive Falsy : Json → Prop
  | null : Falsy .null
  | no : Falsy (.bool false)
  | integer : Falsy (.integer 0)
  | real {x : Float} (zero : (x == 0.0) = true) : Falsy (.real x)
  | text : Falsy (.text "")

/-- The value is not the float that is no number, which cannot be written in JSON. -/
def NoNaN (v : Json) : Prop := ∀ x : Float, v = .real x → x.isNaN = false

theorem falsy_negative_zero : Falsy (.real (-0.0)) := .real (by decide)

theorem truthy_of_falsy {v : Json} (h : v.Falsy) : v.truthy = false := by
  cases h with
  | null | no | integer | text => rfl
  | real zero => rw [truthy, bne, zero, Bool.not_true, Bool.false_and]

theorem truthy_eq_false_iff {v : Json} (hnan : v.NoNaN) : v.truthy = false ↔ v.Falsy := by
  refine ⟨fun h => ?_, truthy_of_falsy⟩
  cases v with
  | null => exact .null
  | bool b =>
    obtain rfl : b = false := h
    exact .no
  | integer n =>
    obtain rfl : n = 0 := by simpa [truthy] using h
    exact .integer
  | real x =>
    have hnumber : x.isNaN = false := hnan x rfl
    rw [truthy, hnumber, Bool.not_false, Bool.and_true, bne, Bool.not_eq_false'] at h
    exact .real h
  | text s =>
    obtain rfl : s = "" := by simpa [truthy] using h
    exact .text
  | array _ | object _ => cases h

end Json

-- ---------------------------------------------------------------------------
-- Device criteria in JSON
-- ---------------------------------------------------------------------------

namespace Device

def desktop (type : Option (Option String)) : Json :=
  .object (("device", .text "desktop") :: type.toList.map fun t => ("type", t.elim .null .text))

def mobile : Json := .object [("device", .text "mobile")]

theorem compile_desktop (type : Option (Option String)) :
    Condition.compile .device (.array [desktop type]) =
      .ok (.device [⟨some .desktop, filled type.join, none, none⟩]) := by
  cases type with
  | none => rfl
  | some type => cases type <;> rfl

theorem compile_mobile :
    Condition.compile .device (.array [mobile]) =
      .ok (.device [⟨some .mobile, none, none, none⟩]) := rfl

end Device

namespace Engine

variable {e : Engine} {r : Request}

-- ---------------------------------------------------------------------------
-- Visitors
-- ---------------------------------------------------------------------------

theorem isNewVisitor_iff : e.isNewVisitor r = true ↔
    ∀ cookies value, r.cookies = some cookies →
      Assoc.get? cookies e.settings.visitorCookie = some value → value = "" := by
  rw [isNewVisitor, Request.cookie, Option.isNone_iff_eq_none, Option.eq_none_iff_forall_ne_some]
  simp only [Ne, filled_eq_some, Option.bind_eq_some_iff]
  grind

theorem answer_visitor (hname : "visitor" ∉ e.registry.names) (v : Json) :
    e.answer (.object [("visitor", v)]) r = .ok (e.isNewVisitor r = v.truthy) :=
  answer_single .visitor hname rfl

-- ---------------------------------------------------------------------------
-- Devices
-- ---------------------------------------------------------------------------

theorem answer_device (hname : "device" ∉ e.registry.names) {raw : Json} {c : Device.Criterion}
    (hc : Condition.compile .device (.array [raw]) = .ok (.device [c])) :
    e.answer (.object [("device", .array [raw])]) r =
      .ok (r.userAgent.any fun agent => c.fits (e.detect agent).1) := by
  refine (answer_single .device hname hc).trans ?_
  rw [holds, findings]
  cases r.userAgent <;> simp

/-- With a user agent, a device is a desktop or mobile by the name that is detected. -/
theorem answer_devices (hname : "device" ∉ e.registry.names) (type : Option (Option String))
    {agent : String} (hagent : r.userAgent = some agent) :
    e.answer (.object [("device", .array [Device.desktop type])]) r =
        .ok !(filled (e.detect agent).1.mobile).isSome ∧
      e.answer (.object [("device", .array [Device.mobile])]) r =
        .ok (filled (e.detect agent).1.mobile).isSome := by
  rw [answer_device hname (Device.compile_desktop type), answer_device hname Device.compile_mobile,
    hagent]
  simp [Device.Criterion.fits, Device.Criterion.classMatches, Device.Criterion.browserMatches,
    Device.Criterion.detected]

theorem answer_devices_of_no_agent (hname : "device" ∉ e.registry.names)
    (type : Option (Option String)) (hagent : r.userAgent = none) :
    e.answer (.object [("device", .array [Device.desktop type])]) r = .ok false ∧
      e.answer (.object [("device", .array [Device.mobile])]) r = .ok false := by
  rw [answer_device hname (Device.compile_desktop type), answer_device hname Device.compile_mobile,
    hagent]
  exact ⟨rfl, rfl⟩

/-- Of the two conditions, with a value that is truthy and one that is not, one holds of new
visitors and the other of all others; they are new without a cookie under the name in the
settings that is not empty. Of desktops, of whatever type, and mobile devices a request is one,
and not the other, if there is a user agent; it is neither if there is none. -/
theorem answer_either :
    (∀ v : Json, v.NoNaN → (v.truthy = false ↔ v.Falsy)) ∧
    (∀ (e : Engine) (r : Request), "visitor" ∉ e.registry.names →
      ∀ a b : Json, a.truthy = true → b.truthy = false → ∃ isNew : Bool,
        e.answer (.object [("visitor", a)]) r = .ok isNew ∧
        e.answer (.object [("visitor", b)]) r = .ok !isNew ∧
        (isNew = true ↔ ∀ cookies value, r.cookies = some cookies →
          Assoc.get? cookies e.settings.visitorCookie = some value → value = "")) ∧
    ∀ (e : Engine) (r : Request), "device" ∉ e.registry.names →
      ∀ type : Option (Option String),
        (∀ agent, r.userAgent = some agent → ∃ isMobile : Bool,
          e.answer (.object [("device", .array [Device.desktop type])]) r = .ok !isMobile ∧
          e.answer (.object [("device", .array [Device.mobile])]) r = .ok isMobile ∧
          (isMobile = true ↔ ∃ name, (e.detect agent).1.mobile = some name ∧ name ≠ "")) ∧
        (r.userAgent = none →
          e.answer (.object [("device", .array [Device.desktop type])]) r = .ok false ∧
          e.answer (.object [("device", .array [Device.mobile])]) r = .ok false) := by
  refine ⟨fun v => Json.truthy_eq_false_iff, ?_, ?_⟩
  · intro e r hname a b ha hb
    refine ⟨e.isNewVisitor r, ?_, ?_, isNewVisitor_iff⟩
    · rw [answer_visitor hname, ha]
      simp
    · rw [answer_visitor hname, hb]
      simp
  · intro e r hname type
    refine ⟨fun agent hagent => ?_, answer_devices_of_no_agent hname type⟩
    obtain ⟨hdesktop, hmobile⟩ := answer_devices hname type hagent
    refine ⟨_, hdesktop, hmobile, ?_⟩
    simp only [Option.isSome_iff_exists, filled_eq_some]

def namelessDetector : Engine :=
  { initial with devices := some fun _ => { Device.Profile.undetected with mobile := some "" } }

def forgottenVisitor : Request :=
  { Request.empty with
    headers := [("User-Agent", "Browser/1.0")]
    cookies := some [("bid", ""), ("plan", "pro")] }

theorem answer_either_forgotten :
    (Json.real (-0.0)).NoNaN ∧ (Json.real (-0.0)).Falsy ∧ (Json.real (-0.0)).truthy = false ∧
      "visitor" ∉ namelessDetector.registry.names ∧ (Json.array []).truthy = true ∧
      (∃ isNew : Bool,
        namelessDetector.answer (.object [("visitor", .array [])]) forgottenVisitor = .ok isNew ∧
        namelessDetector.answer (.object [("visitor", .real (-0.0))]) forgottenVisitor =
          .ok !isNew ∧ isNew = true) ∧
      "device" ∉ namelessDetector.registry.names ∧
      forgottenVisitor.userAgent = some "Browser/1.0" ∧
      (∃ isMobile : Bool,
        namelessDetector.answer
            (.object [("device", .array [Device.desktop (some (some "tower"))])])
            forgottenVisitor = .ok !isMobile ∧
          namelessDetector.answer (.object [("device", .array [Device.mobile])])
            forgottenVisitor = .ok isMobile ∧ isMobile = false) ∧
      Request.empty.userAgent = none ∧
      namelessDetector.answer (.object [("device", .array [Device.desktop none])]) .empty =
        .ok false := by
  obtain ⟨htruthy, hvisitor, hdevice⟩ := answer_either
  have hnan : (Json.real (-0.0)).NoNaN := by
    rintro x ⟨⟩
    decide
  have hfalsy : (Json.real (-0.0)).truthy = false := (htruthy _ hnan).mpr Json.falsy_negative_zero
  have hagent : forgottenVisitor.userAgent = some "Browser/1.0" := by decide
  obtain ⟨isNew, hnew, hold, hiff⟩ :=
    hvisitor namelessDetector forgottenVisitor (by decide) (.array []) _ rfl hfalsy
  obtain ⟨isMobile, hdesktop, hmobile, hname⟩ :=
    (hdevice namelessDetector forgottenVisitor (by decide) (some (some "tower"))).1 _ hagent
  refine ⟨hnan, Json.falsy_negative_zero, hfalsy, by decide, rfl, ⟨isNew, hnew, hold, ?_⟩,
    by decide, hagent, ⟨isMobile, hdesktop, hmobile, ?_⟩, rfl,
    ((hdevice namelessDetector .empty (by decide) none).2 rfl).1⟩
  · refine hiff.mpr fun cookies value hcookies hvalue => ?_
    cases hcookies
    exact (Option.some.inj hvalue).symm
  · rw [← Bool.not_eq_true, hname]
    rintro ⟨name, hdetected, hne⟩
    exact hne (Option.some.inj hdetected).symm

end Engine

end Targeting
