import Targeting.Assoc
import Targeting.Toml

/-!
# Tables under construction

A table comes into being by its own header, on the way to the header of another one,
or on the way of a dotted key. A header opens a table once; a dotted key does not go into
tables with a header, but through the last of several tables, in which it does not end.
A value is closed to both.
-/

namespace Targeting.Toml

inductive Origin where
  | opened | passed | dotted
  deriving DecidableEq

inductive Draft where
  | value (v : Toml)
  | table (origin : Origin) (entries : List (String × Draft))
  /-- The tables of one name: the last one, and the others from the latest on. -/
  | tables (last : List (String × Draft)) (earlier : List (List (String × Draft)))

namespace Draft

abbrev Entries := Assoc Draft

/-- A change to the table at a path, or to the last of several tables there. -/
def within : List String → (Entries → Option Entries) → Entries → Option Entries
  | [], change, entries => change entries
  | key :: path, change, entries =>
    match entries.get? key with
    | none => do return entries.put key (.table .passed (← within path change []))
    | some (.table origin inner) => do
      return entries.put key (.table origin (← within path change inner))
    | some (.tables last earlier) => do
      return entries.put key (.tables (← within path change last) earlier)
    | some (.value _) => none

def openTable (key : String) (entries : Entries) : Option Entries :=
  match entries.get? key with
  | none => some (entries.put key (.table .opened []))
  | some (.table .passed inner) => some (entries.put key (.table .opened inner))
  | _ => none

def openNext (key : String) (entries : Entries) : Option Entries :=
  match entries.get? key with
  | none => some (entries.put key (.tables [] []))
  | some (.tables last earlier) => some (entries.put key (.tables [] (last :: earlier)))
  | _ => none

/-- Sets a dotted key that has no value yet. -/
def define (v : Toml) : List String → Entries → Option Entries
  | [], _ => none
  | [key], entries =>
    if (entries.get? key).isSome then none else some (entries.put key (.value v))
  | key :: inner :: path, entries =>
    match entries.get? key with
    | none => do return entries.put key (.table .dotted (← define v (inner :: path) []))
    | some (.table origin known) =>
      if origin = .opened then none
      else do return entries.put key (.table origin (← define v (inner :: path) known))
    | some (.tables last earlier) =>
      if path = [] then none
      else do return entries.put key (.tables (← define v (inner :: path) last) earlier)
    | some (.value _) => none

mutual
def finish : Draft → Toml
  | .value v => v
  | .table _ entries => .table (finishEntries entries)
  | .tables last earlier => .array (finishTables earlier ++ [.table (finishEntries last)])
def finishEntries : List (String × Draft) → List (String × Toml)
  | [] => []
  | (key, draft) :: rest => (key, draft.finish) :: finishEntries rest
/-- Turns the order of the tables back to that of the text. -/
def finishTables : List (List (String × Draft)) → List Toml
  | [] => []
  | entries :: rest => finishTables rest ++ [.table (finishEntries entries)]
end

end Draft

end Targeting.Toml
