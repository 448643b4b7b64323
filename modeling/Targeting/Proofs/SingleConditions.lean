import Targeting.Proofs.Compilation
import Targeting.Proofs.ListConditions

/-!
# Trees of one condition

An object with one member, under the name of a kind of condition, is a tree that asks for this
condition only (`Tree.compile_single`). Its verdict is that of the condition by the findings of
the request (`Engine.ask_matched`), unless the name is registered.
-/

namespace Targeting

theorem Condition.Kind.name_not_structural (kind : Kind) : kind.name ∉ Tree.structural := by
  cases kind <;> decide

theorem Tree.compile_single {registered : List String} (kind : Condition.Kind) {raw : Json}
    {c : Condition} (hname : kind.name ∉ registered) (hc : Condition.compile kind raw = .ok c) :
    Tree.compile registered (.object [(kind.name, raw)]) = .ok (c.alone raw) := by
  have hrule : Rule.compile registered kind.name raw = .ok ⟨kind.name, raw, some c⟩ := by
    rw [Rule.compile, if_neg hname, Condition.Kind.ofName?_name]
    exact congrArg (Except.map _) hc
  have hkind : c.kind = kind := Condition.compile_kind hc
  obtain ⟨hand, hor, hset⟩ :
      kind.name ≠ "and" ∧ kind.name ≠ "or" ∧ kind.name ≠ "ruleset" := by
    simpa [structural] using kind.name_not_structural
  rw [compile, compileMembers, if_neg hand, if_neg hor, if_neg hset, hrule, Condition.alone, hkind]
  rfl

namespace Engine

variable {e : Engine} {r : Request} {c : Condition}

/-- Evaluates the tree that asks for the condition only, with nothing known yet. -/
def ask (e : Engine) (r : Request) (c : Condition) (raw : Json) : Outcome :=
  e.evaluate (some (c.alone raw)) r .fresh

/-- Compiles the value and answers the request, with nothing known yet. -/
def answer (e : Engine) (v : Json) (r : Request) : Except CompileError Bool :=
  (e.compile v).map fun t => (e.evaluate (some t) r .fresh).matched

theorem ask_quiet (hname : c.kind.name ∉ e.registry.names) (raw : Json) :
    (e.ask r c raw).quiet = (e.condition r c .fresh).quiet := by
  have hquiet := (evaluate_quiet (c.alone raw)).trans (tree_alone (r := r) hname raw)
  exact congrFun hquiet .fresh

theorem ask_matched (hname : c.kind.name ∉ e.registry.names) (raw : Json) :
    (e.ask r c raw).matched = e.holds r (e.findings r) c := by
  have hmatched := congrArg Outcome.matched (ask_quiet (r := r) hname raw)
  rw [condition_eq] at hmatched
  exact hmatched

theorem ask_emitBid (hname : c.kind.name ∉ e.registry.names) (raw : Json) :
    (e.ask r c raw).state.emitBid = Slot.only c.slot? .bucket := by
  have hstate := congrArg Outcome.state (ask_quiet (r := r) hname raw)
  rw [condition_eq] at hstate
  exact congrArg State.emitBid hstate

/-- The answer to a tree of one condition. -/
theorem answer_single (kind : Condition.Kind) {raw : Json}
    (hname : kind.name ∉ e.registry.names) (hc : Condition.compile kind raw = .ok c) :
    e.answer (.object [(kind.name, raw)]) r = .ok (e.holds r (e.findings r) c) := by
  have hkind : c.kind = kind := Condition.compile_kind hc
  rw [answer, compile, Tree.compile_single kind hname hc, ← ask_matched (hkind ▸ hname) raw]
  rfl

end Engine

end Targeting
