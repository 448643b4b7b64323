import Targeting.Text.Similarity

/-!
# Switches of the command line
-/

namespace Targeting.Command

inductive Switch where
  | criteria | request | configDir | geo | help
  deriving DecidableEq

namespace Switch

def all : List Switch := [.criteria, .request, .configDir, .geo, .help]

def name : Switch → String
  | .criteria => "criteria"
  | .request => "request"
  | .configDir => "config-dir"
  | .geo => "geo"
  | .help => "help"

def ofName? (text : String) : Option Switch := all.find? (·.name = text)

def placeholder? : Switch → Option String
  | .criteria => some "<CRITERIA>"
  | .request => some "<REQUEST>"
  | .configDir => some "<CONFIG_DIR>"
  | .geo => some "<GEO>"
  | .help => none

def required : List Switch := [.criteria, .request]

def shown (s : Switch) : String :=
  "--" ++ s.name ++
    match s.placeholder? with
    | some value => " " ++ value
    | none => ""

/-- The most similar switch, if there is one that is similar enough; the last of equals. -/
def similar? (text : String) : Option Switch :=
  let better (best : Option (Switch × Float)) (s : Switch) : Option (Switch × Float) :=
    let x := Text.similarity text s.name
    if x > 0.7 ∧ best.all (fun b => b.2 ≤ x) then some (s, x) else best
  (all.foldl better none).map (·.1)

end Switch

end Targeting.Command
