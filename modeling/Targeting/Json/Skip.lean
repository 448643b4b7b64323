import Targeting.Json.Reader

/-!
# Passing over a value

A value that nobody asked for is passed over at any depth. Its texts, numbers and
brackets are still checked, though not what its escapes and exponents amount to.
-/

namespace Targeting.Json.Reader

def skipExponent : Reader Unit := do
  skip
  match ← peek with
  | some '+' | some '-' => skip
  | _ => pure ()
  if (← digits).isEmpty then failAhead .badNumber

def skipNumber : Reader Unit := do
  let ds ← digits
  match ds with
  | [] => failAhead .badNumber
  | '0' :: _ :: _ => throw ⟨.badNumber, (← get).offset - ds.length + 2⟩
  | _ =>
    match ← peek with
    | some '.' => do
      skip
      if (← digits).isEmpty then failAhead .badNumber
      match ← peek with
      | some 'e' | some 'E' => skipExponent
      | _ => pure ()
    | some 'e' | some 'E' => skipExponent
    | _ => pure ()

def skipText : Nat → Reader Unit
  | 0 => fail .endInText
  | fuel + 1 => do
    match ← peek with
    | none => fail .endInText
    | some '"' => skip
    | some '\\' => do
      skip
      match ← peek with
      | none => fail .endInText
      | some 'u' => do
        skip
        let _ ← fourHex
        skipText fuel
      | some c => if (shortEscape c).isSome then do skip; skipText fuel else failAhead .badEscape
    | some c => if c < ' ' then fail .controlInText else do skip; skipText fuel

def skipScalar? (fuel : Nat) : Char → Option (Reader Unit)
  | 'n' => some do skip; word "ull".toList
  | 't' => some do skip; word "rue".toList
  | 'f' => some do skip; word "alse".toList
  | '-' => some do skip; skipNumber
  | '"' => some do skip; skipText fuel
  | c => if isDigit c then some skipNumber else none

def skipKey (fuel : Nat) : Reader Unit := do
  match ← peekToken with
  | none => failAhead .endInObject
  | some '"' => do skip; skipText fuel; colon
  | some _ => failAhead .keyNotText

def closing (bracket : Char) : Char := if bracket = '[' then ']' else '\x7d'

/-- Passes over a value inside the open brackets, innermost first, then over what
follows it until they are closed. -/
def skipValue : Nat → Option Bool → List Char → Reader Unit
  | 0, _, _ => failAhead .endInValue
  | _ + 1, some _, [] => pure ()
  | fuel + 1, some comma, bracket :: outer => do
    let enter : Reader Unit := do
      if bracket = '\x7b' then skipKey fuel
      skipValue fuel none (bracket :: outer)
    match ← peekToken with
    | none => failAhead (if bracket = '[' then .endInList else .endInObject)
    | some c =>
      if c = ',' ∧ comma then do skip; enter
      else if c = closing bracket then do skip; skipValue fuel (some true) outer
      else if comma then
        failAhead (if bracket = '[' then .wantListComma else .wantObjectComma)
      else enter
  | fuel + 1, none, open_ => do
    match ← peekToken with
    | none => failAhead .endInValue
    | some c =>
      if c = '[' ∨ c = '\x7b' then do skip; skipValue fuel (some false) (c :: open_)
      else
        match skipScalar? fuel c with
        | some reader => do reader; skipValue fuel (some true) open_
        | none => failAhead .wantValue

end Targeting.Json.Reader
