/-!
# Similarity of words

Two characters of two words agree if they are equal and no further apart than half the
longer word. The similarity is the mean of three shares: of the characters of either
word that agree, and of the agreeing ones that stand in the same order.
-/

namespace Targeting.Text

/-- Takes the first place from `place` on, and before `stop`, that holds the character
and is free. -/
def takePlace (c : Char) (start stop : Nat) : Nat → List (Char × Bool) → Option (List (Char × Bool))
  | _, [] => none
  | place, (x, taken) :: rest =>
    if stop ≤ place then none
    else if start ≤ place ∧ x = c ∧ !taken then some ((x, true) :: rest)
    else (takePlace c start stop (place + 1) rest).map ((x, taken) :: ·)

def agreeing (range : Nat) : Nat → List Char → List (Char × Bool) → List Char × List (Char × Bool)
  | _, [], other => ([], other)
  | place, c :: rest, other =>
    match takePlace c (place - range) (place + range + 1) 0 other with
    | some other =>
      let (found, other) := agreeing range (place + 1) rest other
      (c :: found, other)
    | none => agreeing range (place + 1) rest other

def similarity (a b : String) : Float :=
  let range := max a.length b.length / 2 - 1
  let (left, marked) := agreeing range 0 a.toList (b.toList.map fun c => (c, false))
  let right := (marked.filter (·.2)).map (·.1)
  let count := left.length
  let moved := ((left.zip right).filter fun (x, y) => x ≠ y).length / 2
  let share (part whole : Nat) : Float := part.toFloat / whole.toFloat
  if a = "" ∧ b = "" then 1.0
  else if count = 0 then 0.0
  else (share count a.length + share count b.length + share (count - moved) count) / 3.0

end Targeting.Text
