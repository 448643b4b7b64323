/-!
# Bytes as text

Reads UTF-8. A stretch of bytes that begins a character and does not go on as one is
no character; every such stretch counts once.
-/

namespace Targeting.Text

/-- How many bytes must follow the first one, and the range of the second. -/
def followers? (lead : Nat) : Option (Nat × Nat × Nat) :=
  if lead < 0x80 then some (0, 0, 0)
  else if 0xC2 ≤ lead ∧ lead ≤ 0xDF then some (1, 0x80, 0xBF)
  else if lead = 0xE0 then some (2, 0xA0, 0xBF)
  else if lead = 0xED then some (2, 0x80, 0x9F)
  else if 0xE1 ≤ lead ∧ lead ≤ 0xEF then some (2, 0x80, 0xBF)
  else if lead = 0xF0 then some (3, 0x90, 0xBF)
  else if 0xF1 ≤ lead ∧ lead ≤ 0xF3 then some (3, 0x80, 0xBF)
  else if lead = 0xF4 then some (3, 0x80, 0x8F)
  else none

def leadBits (lead count : Nat) : Nat :=
  match count with
  | 0 => lead
  | 1 => lead % 32
  | 2 => lead % 16
  | _ => lead % 8

/-- The character that is open: its bits, the bytes that are to follow, the range of
the next one. -/
structure OpenChar where
  bits : Nat
  left : Nat
  low : Nat
  high : Nat

def startChar (byte : Nat) : List (Option Char) × Option OpenChar :=
  match followers? byte with
  | none => ([none], none)
  | some (0, _, _) => ([some (Char.ofNat byte)], none)
  | some (count, low, high) => ([], some ⟨leadBits byte count, count, low, high⟩)

def decodeFrom : Option OpenChar → List Nat → List (Option Char)
  | none, [] => []
  | some _, [] => [none]
  | none, byte :: rest =>
    let (done, open_) := startChar byte
    done ++ decodeFrom open_ rest
  | some o, byte :: rest =>
    if o.low ≤ byte ∧ byte ≤ o.high then
      let bits := o.bits * 64 + byte % 64
      if o.left = 1 then some (Char.ofNat bits) :: decodeFrom none rest
      else decodeFrom (some ⟨bits, o.left - 1, 0x80, 0xBF⟩) rest
    else
      let (done, open_) := startChar byte
      none :: done ++ decodeFrom open_ rest

def decode (bytes : List Nat) : List (Option Char) := decodeFrom none bytes

def ofBytes? (bytes : List Nat) : Option String := ((decode bytes).mapM id).map .ofList

/-- The text of the bytes, with a mark in place of what is no character. -/
def ofBytesLossy (bytes : List Nat) : String :=
  .ofList ((decode bytes).map fun c => c.getD '\ufffd')

end Targeting.Text
