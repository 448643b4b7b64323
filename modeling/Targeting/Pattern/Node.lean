import Targeting.Pattern.CharSet
import Targeting.Pattern.Term

/-!
# What a pattern means

Nodes know no flags. They are built by functions that keep them plain: neighbouring
literals are one, sequences and choices do not hold their like, a choice of characters
is a set, and what all branches of a choice begin with stands before it.
-/

namespace Targeting.Pattern

inductive Look where
  | start | stop
  /-- At the start and after every line end; `crlf` also counts carriage returns. -/
  | lineStart (crlf : Bool)
  | lineEnd (crlf : Bool)
  /-- By whether the characters before and after belong to words. -/
  | words (unicode : Bool) (kind : Assertion)
  deriving DecidableEq

inductive Node where
  | empty
  | literal (text : List Char)
  | set (set : CharSet)
  | look (look : Look)
  /-- A numbered group. -/
  | group (inner : Node)
  | sequence (parts : List Node)
  | choice (branches : List Node)
  | rep (least : Nat) (most : Option Nat) (lazy : Bool) (inner : Node)

namespace Node

-- ---------------------------------------------------------------------------
-- Lengths
-- ---------------------------------------------------------------------------

mutual
def isStill : Node → Bool
  | .empty | .look _ => true
  | .literal _ | .set _ => false
  | .group inner => inner.isStill
  | .sequence parts => allStill parts
  | .choice branches => allStill branches
  | .rep _ most _ inner => most.isSome && inner.isStill
def allStill : List Node → Bool
  | [] => true
  | n :: rest => n.isStill && allStill rest
end

mutual
/-- How many characters the node passes over at least; none if a part admits nothing. -/
def shortest : Node → Option Nat
  | .empty | .look _ => some 0
  | .literal text => some text.length
  | .set s => if s.ranges.isEmpty then none else some 1
  | .group inner => inner.shortest
  | .sequence parts => shortestSum parts
  | .choice branches => shortestOf branches
  | .rep least _ _ inner => inner.shortest.map (least * ·)
def shortestSum : List Node → Option Nat
  | [] => some 0
  | n :: rest => do return (← n.shortest) + (← shortestSum rest)
def shortestOf : List Node → Option Nat
  | [] => none
  | [n] => n.shortest
  | n :: rest => do return min (← n.shortest) (← shortestOf rest)
end

mutual
def asks (kind : Look → Bool) : Node → Bool
  | .empty | .literal _ | .set _ => false
  | .look own => kind own
  | .group inner => inner.asks kind
  | .sequence parts => anyAsks kind parts
  | .choice branches => anyAsks kind branches
  | .rep _ _ _ inner => inner.asks kind
def anyAsks (kind : Look → Bool) : List Node → Bool
  | [] => false
  | n :: rest => n.asks kind || anyAsks kind rest
end

mutual
/-- Whether every match has the condition at its first place. -/
def beginsWith (l : Look) : Node → Bool
  | .empty | .literal _ | .set _ => false
  | .look own => own = l
  | .group inner => inner.beginsWith l
  | .sequence parts => firstBeginsWith l parts
  | .choice branches => allBeginWith l branches
  | .rep least _ _ inner => 0 < least && inner.beginsWith l
def firstBeginsWith (l : Look) : List Node → Bool
  | [] => false
  | n :: rest => n.beginsWith l || n.isStill && firstBeginsWith l rest
def allBeginWith (l : Look) : List Node → Bool
  | [] => true
  | n :: rest => n.beginsWith l && allBeginWith l rest
end

mutual
def endsWith (l : Look) : Node → Bool
  | .empty | .literal _ | .set _ => false
  | .look own => own = l
  | .group inner => inner.endsWith l
  | .sequence parts => lastEndsWith l parts
  | .choice branches => allEndWith l branches
  | .rep least _ _ inner => 0 < least && inner.endsWith l
def lastEndsWith (l : Look) : List Node → Bool
  | [] => false
  | n :: rest => lastEndsWith l rest || allStill rest && n.endsWith l
def allEndWith (l : Look) : List Node → Bool
  | [] => true
  | n :: rest => n.endsWith l && allEndWith l rest
end

mutual
def count : Node → Nat
  | .empty | .literal _ | .set _ | .look _ => 1
  | .group inner | .rep _ _ _ inner => inner.count + 1
  | .sequence parts => countAll parts + 1
  | .choice branches => countAll branches + 1
def countAll : List Node → Nat
  | [] => 0
  | n :: rest => n.count + countAll rest
end

-- ---------------------------------------------------------------------------
-- Building
-- ---------------------------------------------------------------------------

mutual
/-- Whether two nodes are alike; no numbered group is like another. -/
def same : Node → Node → Bool
  | .empty, .empty => true
  | .literal a, .literal b => a == b
  | .set a, .set b => a = b
  | .look a, .look b => a = b
  | .sequence a, .sequence b => allSame a b
  | .choice a, .choice b => allSame a b
  | .rep least most lazy a, .rep least' most' lazy' b =>
    least = least' && most = most' && lazy = lazy' && a.same b
  | _, _ => false
def allSame : List Node → List Node → Bool
  | [], [] => true
  | a :: as, b :: bs => a.same b && allSame as bs
  | _, _ => false
end

def ofSet (s : CharSet) : Node :=
  match s.only? with
  | some c => .literal [c]
  | none => .set s

def parts : Node → List Node
  | .empty => []
  | .sequence parts => parts
  | n => [n]

def joinLiterals : List Node → List Node
  | [] => []
  | .literal a :: rest =>
    match joinLiterals rest with
    | .literal b :: more => .literal (a ++ b) :: more
    | more => .literal a :: more
  | n :: rest => n :: joinLiterals rest

def join (nodes : List Node) : Node :=
  match joinLiterals (nodes.flatMap parts) with
  | [] => .empty
  | [n] => n
  | parts => .sequence parts

def branches : Node → List Node
  | .choice branches => branches
  | n => [n]

def char? : Node → Option Char
  | .literal [c] => some c
  | _ => none

def set? : Node → Option CharSet
  | .set s => some s
  | _ => none

/-- The set that is the choice of the nodes, all of them characters or all of them sets. -/
def setOf? (nodes : List Node) : Option CharSet :=
  ((nodes.mapM char?).map fun cs => .ofRanges (cs.map fun c => (c.toNat, c.toNat))).or
    ((nodes.mapM set?).map (·.foldl .union .empty))

def commonStart : List Node → List Node → List Node
  | a :: as, b :: bs => if a.same b then a :: commonStart as bs else []
  | _, _ => []

def sharedStart : List Node → List Node
  | [] => []
  | [.sequence parts] => parts
  | .sequence parts :: rest => commonStart parts (sharedStart rest)
  | _ => []

def eitherWithin : Nat → List Node → Node
  | fuel, nodes =>
    match nodes.flatMap branches with
    | [] => .set .empty
    | [n] => n
    | all =>
      match setOf? all, sharedStart all, fuel with
      | some s, _, _ => ofSet s
      | none, first :: more, fuel + 1 =>
        let shared := first :: more
        let rests := all.map fun n => join (n.parts.drop shared.length)
        join (shared ++ [eitherWithin fuel rests])
      | _, _, _ => .choice all

def either (nodes : List Node) : Node := eitherWithin (countAll nodes) nodes

/-- The node again and again; one that passes over nothing at most once. -/
def times (least : Nat) (most : Option Nat) (lazy : Bool) (n : Node) : Node :=
  let least := if n.isStill then min least 1 else least
  let most := if n.isStill then some (min (most.getD 1) 1) else most
  if least = 0 ∧ most = some 0 then .empty
  else if least = 1 ∧ most = some 1 then n
  else .rep least most lazy n

end Node

end Targeting.Pattern
