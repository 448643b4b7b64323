import Targeting.Assoc
import Targeting.Command.Switch

/-!
# Arguments of the command line

An argument is a switch, with a value of its own or before its value, or the value of
the switch before it. A switch and its value are taken up at the next switch or at the
end, so another fault may be found before one of theirs. After `--` no switches follow.
-/

namespace Targeting.Command

structure Arguments where
  criteria : String
  request : String
  configDir : String
  geo : Option String

inductive Refusal where
  | help
  | missing (switches used : List Switch)
  | unexpected (argument : String) (similar : Option Switch) (used : List Switch)
  | noValue (s : Switch)
  | repeated (s : Switch)
  | extraValue (value : String) (s : Switch) (used : List Switch)

namespace Arguments

/-- The switches that were taken up, and one that waits with or without its value. -/
structure Scan where
  given : List (Switch × String)
  waiting : Option (Switch × Option String)
  /-- Only values follow. -/
  closed : Bool

namespace Scan

def start : Scan := ⟨[], none, false⟩

def used (s : Scan) : List Switch := s.given.map (·.1)

def add (s : Scan) (switch : Switch) (value : String) : Except Refusal Scan :=
  if switch ∈ s.used then .error (.repeated switch)
  else if value = "" then .error (.noValue switch)
  else .ok { s with given := s.given ++ [(switch, value)], waiting := none }

def settle (s : Scan) : Except Refusal Scan :=
  match s.waiting with
  | none => .ok s
  | some (switch, none) => .error (.noValue switch)
  | some (switch, some value) => s.add switch value

/-- The switches in use once the waiting one is taken up, be it at fault or not: one
that was given twice is not in use. -/
def usedAtLast (s : Scan) : List Switch :=
  match s.waiting with
  | some (switch, some _) =>
    if switch ∈ s.used then s.used.filter (· ≠ switch) else s.used ++ [switch]
  | _ => s.used

def unknown (s : Scan) (name : String) : Refusal :=
  let similar := Switch.similar? name
  let used := s.usedAtLast
  let hinted := similar.toList.filter fun x => !used.contains x
  .unexpected ("--" ++ name) similar (used ++ hinted)

def long (s : Scan) (name : String) (value : Option String) : Except Refusal Scan :=
  match Switch.ofName? name, value with
  | none, _ => .error (s.unknown name)
  | some .help, some value => .error (.extraValue value .help s.used)
  | some .help, none => do
    let _ ← s.settle
    .error .help
  | some switch, some value => do (← s.settle).add switch value
  | some switch, none => do return { ← s.settle with waiting := some (switch, none) }

def short (s : Scan) (letter : Char) : Except Refusal Scan := do
  if letter = 'h' then
    let _ ← s.settle
    .error .help
  else .error (.unexpected ("-" ++ letter.toString) none [])

def value (s : Scan) (text : String) : Except Refusal Scan :=
  match s.waiting with
  | some (switch, none) => .ok { s with waiting := some (switch, some text) }
  | _ => .error (.unexpected text none [])

def step (s : Scan) (argument : String) : Except Refusal Scan :=
  if s.closed then .error (.unexpected argument none [])
  else
    match argument.toList with
    | ['-', '-'] => .ok { s with closed := true }
    | '-' :: '-' :: rest =>
      let name := rest.takeWhile (· ≠ '=')
      match rest.drop name.length with
      | [] => s.long (.ofList name) none
      | _ :: attached => s.long (.ofList name) (some (.ofList attached))
    | '-' :: letter :: _ => s.short letter
    | _ => s.value argument

end Scan

def configVariable : String := "CONFIG_DIR"

def configDefault : String := "config"

/-- The configuration directory of the environment, if the arguments give none. -/
def withVariable (environment : Assoc String) (s : Scan) : Except Refusal Scan :=
  match environment.get? configVariable with
  | some value => if .configDir ∈ s.used then .ok s else s.add .configDir value
  | none => .ok s

def ofScan (s : Scan) : Except Refusal Arguments :=
  match s.given.lookup .criteria, s.given.lookup .request with
  | some criteria, some request =>
    .ok ⟨criteria, request, (s.given.lookup .configDir).getD configDefault, s.given.lookup .geo⟩
  | _, _ => .error (.missing (Switch.required.filter fun x => !s.used.contains x) s.used)

def parse (arguments : List String) (environment : Assoc String) : Except Refusal Arguments := do
  let s ← arguments.foldlM Scan.step Scan.start
  ofScan (← withVariable environment (← s.settle))

end Arguments

end Targeting.Command
