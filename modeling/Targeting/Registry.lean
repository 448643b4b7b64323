import Targeting.Condition
import Targeting.Request

/-!
# Registered rules

A registered rule is a function of the value under its key and of the request. The
registry is sorted by name and holds a name once: the last registration counts. A key
means the rule registered under it, else the kind of condition of that name.
-/

namespace Targeting

/-- Should answer a Boolean. The request comes without its annotations: rules that read whether
to emit the browser id, which is in the state of an evaluation, are left out. -/
abbrev CustomRule := Json → Request → Json

abbrev Registry := List (String × CustomRule)

inductive Meaning where
  | custom (rule : CustomRule)
  | condition (kind : Condition.Kind)
  | unknown

namespace Registry

def empty : Registry := []

def register : Registry → String → CustomRule → Registry
  | [], name, rule => [(name, rule)]
  | (n, r) :: rest, name, rule =>
    if name < n then (name, rule) :: (n, r) :: rest
    else if n = name then (name, rule) :: rest
    else (n, r) :: register rest name rule

def names (registry : Registry) : List String := registry.map (·.1)

def meaning (registry : Registry) (key : String) : Meaning :=
  match Assoc.get? registry key with
  | some rule => .custom rule
  | none =>
    match Condition.Kind.ofName? key with
    | some kind => .condition kind
    | none => .unknown

theorem get?_register (registry : Registry) (name : String) (rule : CustomRule) (key : String) :
    Assoc.get? (registry.register name rule) key =
      if key = name then some rule else Assoc.get? registry key := by
  induction registry with
  | nil => simp [register, Assoc.get?_cons]
  | cons entry rest ih =>
    obtain ⟨n, r⟩ := entry
    rw [register]
    split
    · rw [Assoc.get?_cons]
    split
    · next h =>
      subst h
      by_cases hk : key = n <;> simp [Assoc.get?_cons, hk]
    · next h =>
      rw [Assoc.get?_cons, Assoc.get?_cons, ih]
      by_cases hk : key = n <;> simp [hk, h]

theorem mem_names {registry : Registry} {key : String} :
    key ∈ registry.names ↔ Assoc.get? registry key ≠ none := by
  rw [Ne, Assoc.get?_eq_none, Decidable.not_not]
  rfl

theorem get?_of_meaning {registry : Registry} {key : String} {rule : CustomRule}
    (h : registry.meaning key = .custom rule) : Assoc.get? registry key = some rule := by
  unfold meaning at h
  cases hget : Assoc.get? registry key with
  | some found => simpa [hget] using h
  | none => cases hk : Condition.Kind.ofName? key <;> simp [hget, hk] at h

theorem mem_names_of_meaning {registry : Registry} {key : String} {rule : CustomRule}
    (h : registry.meaning key = .custom rule) : key ∈ registry.names := by
  rw [mem_names, get?_of_meaning h]
  exact Option.some_ne_none rule

theorem mem_names_register {registry : Registry} {name key : String} {rule : CustomRule} :
    key ∈ (registry.register name rule).names ↔ key = name ∨ key ∈ registry.names := by
  rw [mem_names, mem_names, get?_register]
  by_cases h : key = name <;> simp [h]

theorem meaning_register_self (registry : Registry) (name : String) (rule : CustomRule) :
    (registry.register name rule).meaning name = .custom rule := by
  rw [meaning, get?_register, if_pos rfl]

theorem meaning_register_of_ne (registry : Registry) {name key : String} (rule : CustomRule)
    (h : key ≠ name) : (registry.register name rule).meaning key = registry.meaning key := by
  rw [meaning, get?_register, if_neg h, meaning]

def described (registry : Registry) : String :=
  "RuleRegistry \x7b user_rules: [" ++ String.intercalate ", " (registry.names.map Text.quoted) ++
    "] \x7d"

end Registry

end Targeting
