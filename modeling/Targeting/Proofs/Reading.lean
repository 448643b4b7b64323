import Targeting.Proofs.Findings

/-!
# What a rule comes to

In an engine a rule is a registered rule, a condition, criteria that do not compile or
a key without a meaning (`Engine.reading`). `rule_eq` says all that deciding a rule
does, in terms of the reading alone: its verdict by the findings, the slot it asks for,
and its effects.
-/

namespace Targeting

inductive Reading where
  | custom (rule : CustomRule)
  | condition (c : Condition)
  | invalid (error : CompileError)
  | unknown

namespace Engine

/-- A condition that was not compiled with the tree is compiled on demand. -/
def reading (e : Engine) (rule : Rule) : Reading :=
  match e.registry.meaning rule.key with
  | .custom custom => .custom custom
  | .condition kind =>
    match rule.condition with
    | some c => .condition c
    | none =>
      match Condition.compile kind rule.raw with
      | .ok c => .condition c
      | .error error => .invalid error
  | .unknown => .unknown

/-- A registered rule fails by answering `false`, a condition by not holding; nothing
else fails. -/
def passes (e : Engine) (r : Request) (f : Findings) (rule : Rule) : Bool :=
  match e.reading rule with
  | .custom custom =>
    match custom rule.raw r with
    | .bool false => false
    | _ => true
  | .condition c => e.holds r f c
  | .invalid _ | .unknown => true

def tested? (e : Engine) (rule : Rule) : Option Condition :=
  match e.reading rule with
  | .condition c => some c
  | _ => none

def slot? (e : Engine) (rule : Rule) : Option Slot := (e.tested? rule).bind Condition.slot?

def called? (e : Engine) (rule : Rule) : Option String :=
  match e.reading rule with
  | .custom _ => some rule.key
  | _ => none

def complaint? (e : Engine) (r : Request) (rule : Rule) : Option Warning :=
  match e.reading rule with
  | .custom custom =>
    match custom rule.raw r with
    | .bool _ => none
    | value => some (.invalidReturn rule.key value)
  | .condition _ => none
  | .invalid error => some (.invalidCriteria rule.key error.message)
  | .unknown => some (.missingEvaluator rule.key)

def effects (e : Engine) (r : Request) (c : Cache) (rule : Rule) : List Effect :=
  ((e.called? rule).map .ruleCalled).toList ++ e.inquiries r c (e.slot? rule) ++
    ((e.complaint? r rule).map .warned).toList

section
variable {e : Engine} {r : Request} {s : State} {rule : Rule}

theorem rule_reading :
    e.rule r rule = match e.reading rule with
      | .custom custom =>
        Step.also [.ruleCalled rule.key] <|
          match custom rule.raw r with
          | .bool matched => .verdict matched
          | value => passWith (.invalidReturn rule.key value)
      | .condition c => e.condition r c
      | .invalid error => passWith (.invalidCriteria rule.key error.message)
      | .unknown => passWith (.missingEvaluator rule.key) := by
  unfold Engine.rule reading
  cases e.registry.meaning rule.key with
  | custom custom => rfl
  | unknown => rfl
  | condition kind =>
    cases hc : rule.condition with
    | some c => rfl
    | none => cases hr : Condition.compile kind rule.raw <;> simp only [hr]

/-- All that deciding a rule does. -/
theorem rule_eq :
    e.rule r rule s = ⟨e.passes r (s.cache.view (e.findings r)) rule,
      s.learn (e.findings r) (Slot.only (e.slot? rule)), e.effects r s.cache rule⟩ := by
  rw [rule_reading]
  simp only [passes, slot?, tested?, effects, called?, complaint?]
  cases e.reading rule with
  | condition c => simp [condition_eq]
  | invalid error => simp [passWith, Step.also, Step.pass, Step.verdict, inquiries]
  | unknown => simp [passWith, Step.also, Step.pass, Step.verdict, inquiries]
  | custom custom =>
    cases hv : custom rule.raw r with
    | bool b => cases b <;> simp [hv, Step.also, Step.verdict, inquiries]
    | _ => simp [hv, passWith, Step.also, Step.pass, Step.verdict, inquiries]

end

end Engine

end Targeting
