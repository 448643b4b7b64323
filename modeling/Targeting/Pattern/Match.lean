import Targeting.Pattern.Resolve

/-!
# Matching

The places of a text are numbered from its start to its end; a set of places is a
number in binary. A node takes the places where a match may begin to those where it
may end, all at once.
-/

namespace Targeting.Pattern

/-- The binary number whose digits are these, the lowest first. -/
def bits (digits : List Bool) : Nat := digits.foldr (fun b n => 2 * n + b.toNat) 0

/-- Every place with the character before and the one after it. -/
def places : Option Char → List Char → List (Option Char × Option Char)
  | before, [] => [(before, none)]
  | before, c :: rest => (before, some c) :: places (some c) rest

def isWord (unicode : Bool) (c : Option Char) : Bool :=
  c.any fun c => (perlRanges unicode .word).holds c.toNat

def Look.holds : Look → Option Char × Option Char → Bool
  | .start, (before, _) => before.isNone
  | .stop, (_, after) => after.isNone
  | .lineStart crlf, (before, after) =>
    before.isNone || before = some '\n' || crlf && before = some '\r' && after ≠ some '\n'
  | .lineEnd crlf, (before, after) =>
    after.isNone || (after = some '\n' && !(crlf && before = some '\r')) ||
      crlf && after = some '\r'
  | .words unicode kind, (before, after) =>
    let b := isWord unicode before
    let a := isWord unicode after
    match kind with
    | .boundary => b != a
    | .noBoundary => b == a
    | .wordStart => !b && a
    | .wordEnd => b && !a
    | .wordStartHalf => !b
    | .wordEndHalf => !a
    | _ => false

/-- A node on one text: the sets it asks for are known at every place. -/
inductive Move where
  | stay
  /-- One character on, from the places of the set. -/
  | advance (from_ : Nat)
  | only (at_ : Nat)
  | seq (a b : Move)
  | alt (a b : Move)
  | rep (least : Nat) (most : Option Nat) (inner : Move)

def mask (text : List Char) (admits : Char → Bool) : Move := .advance (bits (text.map admits))

mutual
def Node.on (text : List Char) : Node → Move
  | .empty => .stay
  | .literal cs => (cs.map fun c => mask text (· == c)).foldr .seq .stay
  | .set s => mask text fun c => s.holds c.toNat
  | .look l => .only (bits ((places none text).map l.holds))
  | .group inner => inner.on text
  | .sequence parts => sequenceOn text parts
  | .choice branches => choiceOn text branches
  | .rep least most _ inner => .rep least most (inner.on text)
def sequenceOn (text : List Char) : List Node → Move
  | [] => .stay
  | n :: rest => .seq (n.on text) (sequenceOn text rest)
def choiceOn (text : List Char) : List Node → Move
  | [] => .only 0
  | n :: rest => .alt (n.on text) (choiceOn text rest)
end

def iterate (step : Nat → Nat) : Nat → Nat → Nat
  | 0, places => places
  | count + 1, places => iterate step count (step places)

/-- The places reached in at most `count` steps; ends when a step adds none. -/
def spread (step : Nat → Nat) : Nat → Nat → Nat
  | 0, places => places
  | count + 1, places =>
    let next := places ||| step places
    if next = places then places else spread step count next

/-- The places after the move. On a text of `length` characters more than `length + 1`
turns of a repetition reach no other places. -/
def Move.run (length : Nat) : Move → Nat → Nat
  | .stay, places => places
  | .advance mask, places => (places &&& mask) <<< 1
  | .only mask, places => places &&& mask
  | .seq a b, places => b.run length (a.run length places)
  | .alt a b, places => a.run length places ||| b.run length places
  | .rep least most inner, places =>
    let turns := length + 1
    let more := match most with
      | some most => min (most - least) turns
      | none => turns
    spread (inner.run length) more (iterate (inner.run length) (min least turns) places)

def Node.matchesIn (node : Node) (text : List Char) : Bool :=
  (node.on text).run text.length (1 <<< (text.length + 1) - 1) ≠ 0

end Targeting.Pattern
