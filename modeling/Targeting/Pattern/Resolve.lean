import Targeting.Pattern.Node
import Targeting.Unicode.Query
import Targeting.Unicode.Space

/-!
# Resolving terms

Every part of a term becomes a node under the flags in force where it stands. A part
that could match a broken character is refused.
-/

namespace Targeting.Pattern

structure Flags where
  ignoreCase : Bool
  multiLine : Bool
  dotAll : Bool
  swapGreed : Bool
  unicode : Bool
  crlf : Bool

def Flags.initial : Flags := ⟨false, false, false, false, true, false⟩

def Flags.change (flags : Flags) (change : FlagChange) : Flags :=
  let now (f : Flag) (old : Bool) := (change.find? f).getD old
  ⟨now .ignoreCase flags.ignoreCase, now .multiLine flags.multiLine, now .dotAll flags.dotAll,
    now .swapGreed flags.swapGreed, now .unicode flags.unicode, now .crlf flags.crlf⟩

abbrev Resolved (α : Type) := Except (Cause × Span) α

-- ---------------------------------------------------------------------------
-- Sets
-- ---------------------------------------------------------------------------

def perlRanges (unicode : Bool) : PerlClass → Unicode.Ranges
  | .digit => if unicode then Unicode.digit else [(48, 57)]
  | .space => if unicode then Unicode.space else [(9, 13), (32, 32)]
  | .word => if unicode then Unicode.word else [(48, 57), (65, 90), (95, 95), (97, 122)]

def negate (negated : Bool) (s : CharSet) : CharSet := if negated then .complement s else s

def foldCase (flags : Flags) (s : CharSet) : CharSet :=
  if flags.ignoreCase then .folded flags.unicode s else s

/-- Where Unicode is off a set holds bytes, and all of them must be characters. -/
def checked (flags : Flags) (span : Span) (s : CharSet) : Resolved CharSet :=
  if flags.unicode || s.isAscii then .ok s else .error (.notUtf8, span)

def perlSet (flags : Flags) (span : Span) (negated : Bool) (kind : PerlClass) :
    Resolved CharSet :=
  checked flags span (negate negated (.ofRanges (perlRanges flags.unicode kind)))

def propertySet (flags : Flags) (span : Span) (negated : Bool) (query : PropertyQuery) :
    Resolved CharSet :=
  if !flags.unicode then .error (.unicodeNotAllowed, span)
  else
    let answer := match query with
      | .name name => Unicode.byName name
      | .value name value => Unicode.byValue name value
    match answer with
    | .ok ranges => .ok (negate negated (foldCase flags (.ofRanges ranges)))
    | .error .unknown => .error (.propertyUnknown, span)
    | .error .unknownValue => .error (.propertyValueUnknown, span)

def literalAllowed (flags : Flags) (l : Literal) : Resolved Char :=
  if !flags.unicode && l.byte && 127 < l.char.toNat then .error (.notUtf8, l.span)
  else .ok l.char

/-- A literal inside a class; where Unicode is off it must be a byte. -/
def classLiteral (flags : Flags) (l : Literal) : Resolved Char := do
  let c ← literalAllowed flags l
  if !flags.unicode && 127 < c.toNat then .error (.unicodeNotAllowed, l.span) else .ok c

def operate : SetOperator → CharSet → CharSet → CharSet
  | .intersection => .inter
  | .difference => .diff
  | .symmetricDifference => .symmetricDifference

mutual
def ClassTerm.resolve (flags : Flags) : ClassTerm → Resolved CharSet
  | .empty _ => .ok .empty
  | .literal l => do return .single (← classLiteral flags l)
  | .range _ first last => do
    let first ← classLiteral flags first
    let last ← classLiteral flags last
    return .ofRanges [(first.toNat, last.toNat)]
  | .ascii span negated ranges =>
    checked flags span (negate negated (foldCase flags (.ofRanges ranges)))
  | .perl span negated kind => perlSet flags span negated kind
  | .property span negated query => propertySet flags span negated query
  | .bracketed span negated inner => do
    checked flags span (negate negated (foldCase flags (← inner.resolve flags)))
  | .union _ items => resolveItems flags items
  | .operation _ operator left right => do
    let left ← left.resolve flags
    let right ← right.resolve flags
    return operate operator (foldCase flags left) (foldCase flags right)
def resolveItems (flags : Flags) : List ClassTerm → Resolved CharSet
  | [] => .ok .empty
  | item :: rest => do
    let s ← item.resolve flags
    return .union s (← resolveItems flags rest)
end

-- ---------------------------------------------------------------------------
-- Terms
-- ---------------------------------------------------------------------------

def lineBreaks (flags : Flags) : CharSet :=
  .ofRanges (if flags.crlf then [(10, 10), (13, 13)] else [(10, 10)])

def dotSet (flags : Flags) (span : Span) : Resolved CharSet :=
  if !flags.unicode then .error (.notUtf8, span)
  else if flags.dotAll then .ok .all
  else .ok (.complement (lineBreaks flags))

def lookOf (flags : Flags) : Assertion → Look
  | .lineStart => if flags.multiLine then .lineStart flags.crlf else .start
  | .lineEnd => if flags.multiLine then .lineEnd flags.crlf else .stop
  | .textStart => .start
  | .textEnd => .stop
  | kind => .words flags.unicode kind

mutual
def Term.resolve (flags : Flags) : Term → Resolved (Node × Flags)
  | .empty _ => .ok (.empty, flags)
  | .flags _ change => .ok (.empty, flags.change change)
  | .literal l => do
    let c ← literalAllowed flags l
    return (.ofSet (foldCase flags (.single c)), flags)
  | .dot span => do return (.ofSet (← dotSet flags span), flags)
  | .assertion _ kind => .ok (.look (lookOf flags kind), flags)
  | .perl span negated kind => do return (.ofSet (← perlSet flags span negated kind), flags)
  | .property span negated query => do
    return (.ofSet (← propertySet flags span negated query), flags)
  | .bracketed span negated inner => do
    let s ← inner.resolve flags
    return (.ofSet (← checked flags span (negate negated (foldCase flags s))), flags)
  | .repetition _ least most lazy inner => do
    let (node, flags) ← inner.resolve flags
    return (.times least most (lazy != flags.swapGreed) node, flags)
  | .group _ change inner => do
    let (node, _) ← inner.resolve (change.elim flags flags.change)
    return (if change.isNone then .group node else node, flags)
  | .alternation _ branches => do
    let (nodes, flags) ← resolveAll flags branches
    return (.either nodes, flags)
  | .concat _ parts => do
    let (nodes, flags) ← resolveAll flags parts
    return (.join nodes, flags)
/-- Flags set in a part or a branch stay in force in those after it. -/
def resolveAll (flags : Flags) : List Term → Resolved (List Node × Flags)
  | [] => .ok ([], flags)
  | t :: rest => do
    let (node, flags) ← t.resolve flags
    let (nodes, flags) ← resolveAll flags rest
    return (node :: nodes, flags)
end

end Targeting.Pattern
