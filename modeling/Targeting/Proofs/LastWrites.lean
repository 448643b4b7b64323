/-!
# The last write counts

What is found after a fold of writes, when one write either gives what is found from then on
or leaves it as it was.
-/

namespace Targeting

section
variable {α β σ : Type} {value? : α → Option β}

/-- What the last of the writes gives that gives anything. -/
def lastOf (value? : α → Option β) (writes : List α) : Option β := writes.reverse.findSome? value?

theorem lastOf_append (before after : List α) :
    lastOf value? (before ++ after) = (lastOf value? after).or (lastOf value? before) := by
  rw [lastOf, List.reverse_append, List.findSome?_append, lastOf, lastOf]

theorem lastOf_cons (write : α) (rest : List α) :
    lastOf value? (write :: rest) = (lastOf value? rest).or (value? write) := by
  have hone : lastOf value? [write] = value? write := List.findSome?_singleton
  rw [← List.singleton_append, lastOf_append, hone]

theorem lastOf_eq_none {writes : List α} :
    lastOf value? writes = none ↔ ∀ write ∈ writes, value? write = none := by
  rw [lastOf, List.findSome?_eq_none_iff]
  simp only [List.mem_reverse]

theorem lastOf_eq_some {writes : List α} {value : β} :
    lastOf value? writes = some value ↔
      ∃ before write after, writes = before ++ write :: after ∧ value? write = some value ∧
        ∀ later ∈ after, value? later = none := by
  rw [lastOf, List.findSome?_eq_some_iff]
  constructor
  · rintro ⟨after, write, before, hsplit, hvalue, hafter⟩
    refine ⟨before.reverse, write, after.reverse, ?_, hvalue, by simpa using hafter⟩
    rw [← List.reverse_reverse writes, hsplit]
    simp
  · rintro ⟨before, write, after, rfl, hvalue, hafter⟩
    exact ⟨after.reverse, write, before.reverse, by simp, hvalue, by simpa using hafter⟩

/-- What one write does to what is found, a sequence of writes does by its last value. -/
theorem found_foldl {step : σ → α → σ} (found : σ → Option β)
    (hstep : ∀ s write, found (step s write) = (value? write).or (found s)) (writes : List α)
    (s : σ) : found (writes.foldl step s) = (lastOf value? writes).or (found s) := by
  induction writes generalizing s with
  | nil => rfl
  | cons write rest ih => rw [List.foldl_cons, ih, hstep, lastOf_cons, Option.or_assoc]

end

end Targeting
