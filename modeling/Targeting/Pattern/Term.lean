import Targeting.Pattern.Error

/-!
# Terms of patterns

A pattern as it is written, each part with its span. What a part means hangs on the
flags in force where it stands.
-/

namespace Targeting.Pattern

inductive Flag where
  | ignoreCase | multiLine | dotAll | swapGreed | unicode | crlf | free
  deriving DecidableEq

structure FlagChange where
  on : List Flag
  off : List Flag

def FlagChange.find? (change : FlagChange) (flag : Flag) : Option Bool :=
  if flag ∈ change.on then some true else if flag ∈ change.off then some false else none

inductive Assertion where
  | lineStart | lineEnd | textStart | textEnd
  | boundary | noBoundary | wordStart | wordEnd | wordStartHalf | wordEndHalf
  deriving DecidableEq

inductive PerlClass where
  | digit | space | word
  deriving DecidableEq

inductive PropertyQuery where
  | name (name : String)
  | value (name value : String)

structure Literal where
  span : Span
  char : Char
  /-- Written as two hexadecimal digits, which is a byte where Unicode is off. -/
  byte : Bool

inductive SetOperator where
  | intersection | difference | symmetricDifference
  deriving DecidableEq

inductive ClassTerm where
  | empty (span : Span)
  | literal (literal : Literal)
  | range (span : Span) (first last : Literal)
  | ascii (span : Span) (negated : Bool) (ranges : List (Nat × Nat))
  | perl (span : Span) (negated : Bool) (kind : PerlClass)
  | property (span : Span) (negated : Bool) (query : PropertyQuery)
  | bracketed (span : Span) (negated : Bool) (inner : ClassTerm)
  | union (span : Span) (items : List ClassTerm)
  | operation (span : Span) (operator : SetOperator) (left right : ClassTerm)

inductive Term where
  | empty (span : Span)
  | flags (span : Span) (change : FlagChange)
  | literal (literal : Literal)
  | dot (span : Span)
  | assertion (span : Span) (kind : Assertion)
  | perl (span : Span) (negated : Bool) (kind : PerlClass)
  | property (span : Span) (negated : Bool) (query : PropertyQuery)
  | bracketed (span : Span) (negated : Bool) (inner : ClassTerm)
  /-- `lazy` asks for the fewest turns. -/
  | repetition (span : Span) (least : Nat) (most : Option Nat) (lazy : Bool) (inner : Term)
  | group (span : Span) (change : Option FlagChange) (inner : Term)
  | alternation (span : Span) (branches : List Term)
  | concat (span : Span) (parts : List Term)

def ClassTerm.span : ClassTerm → Span
  | .empty span | .range span .. | .ascii span .. | .perl span .. | .property span ..
  | .bracketed span .. | .union span _ | .operation span .. => span
  | .literal l => l.span

def Term.span : Term → Span
  | .empty span | .flags span _ | .dot span | .assertion span _ | .perl span ..
  | .property span .. | .bracketed span .. | .repetition span .. | .group span ..
  | .alternation span _ | .concat span _ => span
  | .literal l => l.span

-- ---------------------------------------------------------------------------
-- Nesting
-- ---------------------------------------------------------------------------

mutual
/-- The first part, in reading order, that lies under `room` other nested parts. -/
def ClassTerm.tooDeep? (room : Nat) : ClassTerm → Option Span
  | .bracketed span _ inner =>
    match room with
    | 0 => some span
    | room + 1 => inner.tooDeep? room
  | .union span items =>
    match room with
    | 0 => some span
    | room + 1 => itemsTooDeep? room items
  | .operation span _ left right =>
    match room with
    | 0 => some span
    | room + 1 => (left.tooDeep? room).or (right.tooDeep? room)
  | _ => none
def itemsTooDeep? (room : Nat) : List ClassTerm → Option Span
  | [] => none
  | item :: rest => (item.tooDeep? room).or (itemsTooDeep? room rest)
end

mutual
def Term.tooDeep? (room : Nat) : Term → Option Span
  | .bracketed span _ inner =>
    match room with
    | 0 => some span
    | room + 1 => inner.tooDeep? room
  | .repetition span _ _ _ inner =>
    match room with
    | 0 => some span
    | room + 1 => inner.tooDeep? room
  | .group span _ inner =>
    match room with
    | 0 => some span
    | room + 1 => inner.tooDeep? room
  | .alternation span branches =>
    match room with
    | 0 => some span
    | room + 1 => termsTooDeep? room branches
  | .concat span parts =>
    match room with
    | 0 => some span
    | room + 1 => termsTooDeep? room parts
  | _ => none
def termsTooDeep? (room : Nat) : List Term → Option Span
  | [] => none
  | t :: rest => (t.tooDeep? room).or (termsTooDeep? room rest)
end

end Targeting.Pattern
