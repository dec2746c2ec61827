/-!
TOML values and the tables that a document builds up. A table remembers how it came about, because
that decides what may still be added to it: a table with a header is defined once, a table implied
by a longer header may be defined later, a table made by a dotted key grows only by dotted keys, and
a table written in line does not grow.
-/
namespace LoweringAudit.Toml

inductive Origin where
  | header | implied | dotted | inlined
  deriving DecidableEq, Repr

inductive Value where
  | string (s : String)
  | integer (n : Int)
  | float (literal : String)
  | boolean (b : Bool)
  /-- A date, a time of day, or both. -/
  | moment (literal : String)
  /-- An array, and whether headers add tables to it. -/
  | array (grows : Bool) (items : List Value)
  | table (origin : Origin) (entries : List (String × Value))
  deriving Repr

abbrev Entries := List (String × Value)

namespace Entries

/-- Changes what stands under a key, or puts something there; `change` may refuse. -/
def alter? (change : Option Value → Option Value) (key : String) : Entries → Option Entries
  | [] => (change none).map fun v => [(key, v)]
  | (k, v) :: rest =>
    if k = key then (change (some v)).map fun w => (k, w) :: rest
    else (alter? change key rest).map ((k, v) :: ·)

end Entries

/-- Changes the entries of a table that headers reach: of a growing array, its last table. -/
def Value.inside? (change : Entries → Option Entries) : Value → Option Value
  | .table .inlined _ => none
  | .table origin entries => (change entries).map (.table origin)
  | .array true items =>
    match items.getLast? with
    | some (.table origin entries) =>
      (change entries).map fun es => .array true (items.dropLast ++ [.table origin es])
    | _ => none
  | _ => none

namespace Entries

/-- Changes the entries of the table at a path of header keys; tables on the way are implied. -/
def at? (change : Entries → Option Entries) : List String → Entries → Option Entries
  | [], entries => change entries
  | key :: path, entries =>
    alter? (fun
      | none => (at? change path []).map (.table .implied)
      | some v => v.inside? (at? change path)) key entries

/-- Sets a new key, reached by a path of dotted keys, to a value. -/
def assign? (key : String) (value : Value) : List String → Entries → Option Entries
  | [], entries =>
    alter? (fun
      | none => some value
      | some _ => none) key entries
  | step :: path, entries =>
    alter? (fun
      | none => (assign? key value path []).map (.table .dotted)
      | some (.table origin sub) =>
        if origin = .dotted ∨ (origin = .implied ∧ path ≠ []) then
          (assign? key value path sub).map (.table origin)
        else none
      | some (.array true items) =>
        if path = [] then none else Value.inside? (assign? key value path) (.array true items)
      | some _ => none) step entries

/-- Defines the table of a header. -/
def define? (key : String) : Entries → Option Entries :=
  alter? (fun
    | none => some (.table .header [])
    | some (.table .implied entries) => some (.table .header entries)
    | some _ => none) key

/-- Adds a table to the array of a header in double brackets. -/
def append? (key : String) : Entries → Option Entries :=
  alter? (fun
    | none => some (.array true [.table .header []])
    | some (.array true items) => some (.array true (items ++ [.table .header []]))
    | some _ => none) key

end Entries

end LoweringAudit.Toml
