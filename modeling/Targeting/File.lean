import Targeting.Text.Split

/-!
# Files

A file is read by its path, as its bytes or as what kept it from being read.
-/

namespace Targeting

inductive FileFault where
  | missing
  | directory
  /-- A part of the path before the last one is a file. -/
  | notDirectory
  | other (message : String)

def FileFault.message : FileFault → String
  | .missing => "No such file or directory (os error 2)"
  | .directory => "Is a directory (os error 21)"
  | .notDirectory => "Not a directory (os error 20)"
  | .other message => message

abbrev FileReader (m : Type → Type) := String → m (Except FileFault (List Nat))

namespace Path

def join (directory file : String) : String :=
  if directory = "" ∨ file.toList.head? = some '/' then file
  else if directory.toList.getLast? = some '/' then directory ++ file
  else directory ++ "/" ++ file

/-- The parts of a path, without those that lead nowhere. -/
def parts (path : String) : List String :=
  (Text.split '/' path).filter fun part => part ≠ "" ∧ part ≠ "."

end Path

end Targeting
