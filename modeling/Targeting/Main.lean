import Targeting.Command.Run

/-!
# The program
-/

namespace Targeting.Program

def faultOf : IO.Error → FileFault
  | .noFileOrDirectory .. => .missing
  -- the code comes with either sign
  | .inappropriateType _ code _ => if code = 21 ∨ 0 - code = 21 then .directory else .notDirectory
  | .permissionDenied .. => .other "Permission denied (os error 13)"
  | e => .other (toString e)

def readFile : FileReader IO := fun path => do
  try
    let bytes ← IO.FS.readBinFile path
    return .ok (bytes.toList.map UInt8.toNat)
  catch e => return .error (faultOf e)

/-- The variables of the process: `name=value`, each ended by a zero. -/
def readVariables : IO (Assoc String) := do
  match ← readFile "/proc/self/environ" with
  | .error _ => return []
  | .ok bytes =>
    let entry (text : String) : String × String :=
      let name := text.toList.takeWhile (· ≠ '=')
      (.ofList name, .ofList (text.toList.drop (name.length + 1)))
    return ((Text.split '\x00' (Text.ofBytesLossy bytes)).filter (· ≠ "")).map entry

end Targeting.Program

open Targeting

def main (args : List String) : IO UInt32 := do
  let report ← Command.run Program.readFile (← Program.readVariables) args
  report.messages.forM IO.eprintln
  IO.print report.output
  return report.code.toUInt32
