import Std.Data.HashMap
import Targeting.Pattern.ByteRange
import Targeting.Pattern.Node

/-!
# The size of a pattern

A pattern is searched for by an automaton over bytes, and by one that reads the text
from its end. Neither may take more than `maxSize` bytes. A state takes a fixed size,
a range of bytes that leads on from a state with several of them takes more, and so
does every way on from a fork.

Only the size is reckoned. Sets of characters beyond ASCII share states, as far as a
table of limited size remembers them; so their size hangs on the numbers of the states.
-/

namespace Targeting.Pattern

def maxSize : Nat := 10485760

def stateSize : Nat := 32

def rangeSize : Nat := 8

def forkSize : Nat := 4

/-- How many states there are and what they take beyond their fixed size. -/
structure Tally where
  states : Nat
  more : Nat

def Tally.size (t : Tally) : Nat := t.states * stateSize + t.more

def Tally.add (a b : Tally) : Tally := ⟨a.states + b.states, a.more + b.more⟩

/-- Grows an automaton as long as it is not too large. -/
abbrev Growth := StateT Tally Option

namespace Growth

def grow (more : Tally) : Growth Unit := fun t =>
  let t := t.add more
  if t.size ≤ maxSize then some ((), t) else none

def state (more : Nat) : Growth Nat := do
  let t ← get
  grow ⟨1, more⟩
  return t.states

def ways (count : Nat) : Growth Unit := grow ⟨0, count * forkSize⟩

/-- Leads on from the end of a part, which may be a fork. -/
def link (fork : Bool) : Growth Unit := if fork then ways 1 else pure ()

end Growth

open Growth

-- ---------------------------------------------------------------------------
-- Sets of characters
-- ---------------------------------------------------------------------------

structure Way where
  first : Nat
  last : Nat
  next : Nat
  deriving DecidableEq

/-- One step of the hash of Fowler, Noll and Vo. -/
def mix (hash : UInt64) (n : Nat) : UInt64 := (hash ^^^ n.toUInt64) * 1099511628211

def emptyHash : UInt64 := 14695981039346656037

/-- States by their place in a table; a new one displaces the one before it. -/
abbrev Remembered (α : Type) := Std.HashMap Nat (α × Nat)

def remembered {α : Type} [DecidableEq α] (place : Nat) (key : α) (fresh : Growth Nat) :
    StateT (Remembered α) Growth Nat := do
  match (← get)[place]? with
  | some (known, id) => if known = key then return id
  | none => pure ()
  let id ← fresh
  modify (·.insert place (key, id))
  return id

def waysPlace (ways : List Way) : Nat :=
  let hash := ways.foldl (fun hash w => mix (mix (mix hash w.first) w.last) w.next) emptyHash
  hash.toNat % 10000

def wayPlace (w : Way) : Nat :=
  (mix (mix (mix emptyHash w.next) w.first) w.last).toNat % 1000

/-- A state that is not finished: its ways, the last one first, and the range of the
way on to the state after it. -/
structure Unfinished where
  ways : List Way
  last : Option (Nat × Nat)

def Unfinished.close (u : Unfinished) (next : Nat) : List Way :=
  match u.last with
  | some (first, last) => ⟨first, last, next⟩ :: u.ways
  | none => u.ways

def finished (ways : List Way) : StateT (Remembered (List Way)) Growth Nat :=
  remembered (waysPlace ways) ways (state (ways.length * rangeSize))

/-- The first of the states, each of which leads on to the one after it and the last to
the end. -/
def finishAll (stop : Nat) : List Unfinished → StateT (Remembered (List Way)) Growth Nat
  | [] => pure stop
  | u :: rest => do finished (u.close (← finishAll stop rest)).reverse

def sharedLength : ByteSequence → List Unfinished → Nat
  | range :: more, u :: rest => if u.last = some range then sharedLength more rest + 1 else 0
  | _, _ => 0

/-- Sequences come in order, so what a new one does not share is finished. -/
def addSequence (stop : Nat) (path : List Unfinished) (sequence : ByteSequence) :
    StateT (Remembered (List Way)) Growth (List Unfinished) := do
  let shared := sharedLength sequence path
  match path.drop shared, sequence.drop shared with
  | u :: below, range :: more =>
    let next ← finishAll stop below
    return path.take shared ++ ⟨u.close next, some range⟩ :: more.map fun r => ⟨[], some r⟩
  | _, _ => return path

def forwardSet (sequences : List ByteSequence) : Growth Unit := do
  let stop ← state 0
  let build : StateT (Remembered (List Way)) Growth Nat := do
    finishAll stop (← sequences.foldlM (addSequence stop) [⟨[], none⟩])
  let _ ← build.run ∅

def backwardSequence (stop : Nat) (sequence : ByteSequence) :
    StateT (Remembered Way) Growth Unit := do
  let _ ← sequence.foldlM (fun next (first, last) =>
    remembered (wayPlace ⟨first, last, next⟩) (⟨first, last, next⟩ : Way) (state 0)) stop
  ways 1

def backwardSet (sequences : List ByteSequence) : Growth Unit := do
  let _ ← state 0
  let stop ← state 0
  let build : StateT (Remembered Way) Growth Unit := sequences.forM (backwardSequence stop)
  let _ ← build.run ∅

def setGrowth (backward : Bool) (s : CharSet) : Growth Unit := do
  if s.isAscii then
    let _ ← state 0
    let _ ← state (s.ranges.length * rangeSize)
  else
    let sequences := byteSequences s.ranges
    if backward then backwardSet sequences else forwardSet sequences

-- ---------------------------------------------------------------------------
-- Choices of literals
-- ---------------------------------------------------------------------------

/-- Literals by their first bytes. A literal that ends in a node divides the ways on:
those of earlier literals are closed, those of later ones open. -/
inductive Trie where
  | node (closed : List (List (Nat × Trie))) (ways : List (Nat × Trie))

namespace Trie

def empty : Trie := .node [] []

def hasWays : Trie → Bool
  | .node closed ways => !ways.isEmpty || closed.any (!·.isEmpty)

def replace (byte : Nat) (t : Trie) : List (Nat × Trie) → List (Nat × Trie)
  | [] => [(byte, t)]
  | (b, old) :: rest => if b = byte then (b, t) :: rest else (b, old) :: replace byte t rest

def insert (t : Trie) (bytes : List Nat) : Trie :=
  match bytes, t with
  | [], .node closed ways =>
    if !closed.isEmpty && !(node closed ways).hasWays then .node closed ways
    else .node (closed ++ [ways]) []
  | byte :: rest, .node closed ways =>
    let below := ((ways.find? (·.1 = byte)).map (·.2)).getD empty
    .node closed (replace byte (below.insert rest) ways)

def groupTally : Nat → Tally
  | 0 => ⟨0, 0⟩
  | 1 => ⟨1, 0⟩
  | count => ⟨1, count * rangeSize⟩

mutual
/-- A node forks to the states of its groups and, between these, to the end. -/
def tally : Trie → Tally
  | .node closed ways =>
    let groups := closed.map (·.length) ++ [ways.length]
    let forks := groups.countP (0 < ·) + closed.length
    let own := (groups.map groupTally).foldl Tally.add ⟨1, forks * forkSize⟩
    own.add ((closedTally closed).add (waysTally ways))
def closedTally : List (List (Nat × Trie)) → Tally
  | [] => ⟨0, 0⟩
  | ways :: rest => (waysTally ways).add (closedTally rest)
def waysTally : List (Nat × Trie) → Tally
  | [] => ⟨0, 0⟩
  | (_, t) :: rest => (if t.hasWays then t.tally else ⟨0, 0⟩).add (waysTally rest)
end

end Trie

def literalBytes (backward : Bool) (text : List Char) : List Nat :=
  let bytes := text.flatMap fun c => utf8 c.toNat
  if backward then bytes.reverse else bytes

def Node.literal? : Node → Option (List Char)
  | .literal text => some text
  | _ => none

def literals? (nodes : List Node) : Option (List (List Char)) :=
  if 1 < nodes.length then nodes.mapM Node.literal? else none

-- ---------------------------------------------------------------------------
-- Nodes
-- ---------------------------------------------------------------------------

def chain (part : Growth Bool) : Nat → Growth Bool
  | 0 => do
    let _ ← state 0
    return false
  | 1 => part
  | count + 1 => do
    link (← chain part count)
    part

/-- As many parts after the fork as it says, each of which can be passed over. -/
def optional (part : Growth Bool) : Nat → Bool → Growth Bool
  | 0, fork => return fork
  | count + 1, fork => do
    let _ ← state 0
    let next ← part
    link fork
    ways 2
    optional part count next

def repetition (least : Nat) (most : Option Nat) (moves : Bool) (part : Growth Bool) :
    Growth Bool := do
  match least, most with
  | 0, some 1 =>
    let _ ← state 0
    link (← part)
    let _ ← state 0
    ways 2
    return false
  | 0, none =>
    if moves then
      let _ ← state 0
      link (← part)
      ways 1
      return true
    else
      link (← part)
      let _ ← state 0
      let _ ← state 0
      let _ ← state 0
      ways 4
      return false
  | 1, none =>
    link (← part)
    let _ ← state 0
    ways 1
    return true
  | least, none =>
    link (← chain part (least - 1))
    link (← part)
    let _ ← state 0
    ways 1
    return true
  | least, some most =>
    let first ← chain part least
    if least = most then return first
    else
      let _ ← state 0
      link (← optional part (most - least) first)
      return false

mutual
/-- Whether the end of the part is a fork. -/
def Node.grow (backward : Bool) : Node → Growth Bool
  | .empty | .look _ => do
    let _ ← state 0
    return false
  | .literal text => do
    Growth.grow ⟨(literalBytes backward text).length, 0⟩
    return false
  | .set s => do
    setGrowth backward s
    return false
  | .group inner =>
    if backward then inner.grow backward
    else do
      let _ ← state 0
      link (← inner.grow backward)
      let _ ← state 0
      return false
  | .sequence parts => growParts backward parts
  | .choice branches =>
    match literals? branches with
    | some literals => do
      let _ ← state 0
      let add (t : Trie) (text : List Char) := t.insert (literalBytes backward text)
      Growth.grow (literals.foldl add Trie.empty).tally
      return false
    | none => growBranches backward branches
  | .rep least most _ inner =>
    repetition least most (inner.shortest.any (0 < ·)) (inner.grow backward)
def growParts (backward : Bool) : List Node → Growth Bool
  | [] => return false
  | [n] => n.grow backward
  | n :: rest =>
    if backward then do
      link (← growParts backward rest)
      n.grow backward
    else do
      link (← n.grow backward)
      growParts backward rest
/-- The fork comes after the first two branches. -/
def growBranches (backward : Bool) : List Node → Growth Bool
  | [] => return false
  | [n] => n.grow backward
  | a :: b :: rest => do
    link (← a.grow backward)
    link (← b.grow backward)
    let _ ← state 0
    let _ ← state 0
    ways 2
    growMore backward rest
    return false
def growMore (backward : Bool) : List Node → Growth Unit
  | [] => return ()
  | n :: rest => do
    link (← n.grow backward)
    ways 1
    growMore backward rest
end

/-- The automaton of the whole, which may begin anywhere unless it is bound to the
edge of the text that is read first. -/
def Node.growWhole (backward : Bool) (n : Node) : Growth Unit := do
  let bound := if backward then n.endsWith .stop else n.beginsWith .start
  let _ ← state 0
  if !bound then
    let _ ← state 0
    let _ ← state rangeSize
    ways 2
  let fork ← (Node.group n).grow backward
  let _ ← state 0
  link fork

def Node.fits (n : Node) : Bool :=
  [false, true].all fun backward => ((n.growWhole backward).run ⟨0, 0⟩).isSome

end Targeting.Pattern
