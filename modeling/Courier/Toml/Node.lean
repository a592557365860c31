import Courier.Binary64.Shortest

/-! TOML documents as trees, and the rules by which headers and dotted keys build them. A table may be
opened once; what a header or a dotted key implies on its way may be extended by its own kind. -/

namespace Courier.Toml

inductive Origin where
  /-- Opened by a header of its own, or the root. -/
  | header
  /-- On the way to a header. -/
  | implied
  /-- On the way of a dotted key. -/
  | dotted
  /-- Written between braces; complete. -/
  | inline
deriving Repr, DecidableEq

/-- A value or a table of a document. -/
inductive Node where
  | text (s : String)
  | integer (i : Int)
  | double (x : Binary64)
  | boolean (b : Bool)
  | datetime
  | array (items : List Node)
  | table (origin : Origin) (entries : List (String × Node))
  /-- The tables opened by repeated headers, the newest one first. -/
  | tables (newestFirst : List (List (String × Node)))
deriving Repr, Inhabited

abbrev Entries := List (String × Node)

/-- Replaces the entry of a key, or adds one at the end. -/
def put (key : String) (node : Node) : Entries → Entries
  | [] => [(key, node)]
  | (other, old) :: rest =>
    if other = key then (key, node) :: rest else (other, old) :: put key node rest

/-- Adds an entry under a dotted key. A key may not lead through a value or a table that is closed to
it, and may not end at an entry that is there already. -/
def insertDotted (key : String) (node : Node) : List String → Entries → Option Entries
  | [], entries => if (entries.lookup key).isSome then none else some (put key node entries)
  | step :: path, entries =>
    match entries.lookup step with
    | none => do
      let inner ← insertDotted key node path []
      return put step (.table .dotted inner) entries
    | some (.table .dotted inner) => do
      let inner ← insertDotted key node path inner
      return put step (.table .dotted inner) entries
    | some (.table .implied inner) =>
      -- A table that a header implied may be passed, but not end the path.
      match path with
      | [] => none
      | _ :: _ => do
        let inner ← insertDotted key node path inner
        return put step (.table .implied inner) entries
    | some (.tables (newest :: older)) =>
      match path with
      | [] => none
      | _ :: _ => do
        let newest ← insertDotted key node path newest
        return put step (.tables (newest :: older)) entries
    | some _ => none

/-- Changes the table at a header's path. Tables on the way are implied where they are missing; of
repeated tables the newest one is meant. -/
def atHeader (change : Entries → Option Entries) : List String → Entries → Option Entries
  | [], entries => change entries
  | step :: path, entries =>
    match entries.lookup step with
    | none => do return put step (.table .implied (← atHeader change path [])) entries
    | some (.table .inline _) => none
    | some (.table origin inner) => do
      return put step (.table origin (← atHeader change path inner)) entries
    | some (.tables (newest :: older)) => do
      return put step (.tables ((← atHeader change path newest) :: older)) entries
    | some _ => none

/-- Opens a table by its header; one that was only implied keeps what it has. -/
def openTable (key : String) (fill : Entries → Option Entries) (entries : Entries) :
    Option Entries :=
  match entries.lookup key with
  | none => do return put key (.table .header (← fill [])) entries
  | some (.table .implied inner) => do return put key (.table .header (← fill inner)) entries
  | some _ => none

/-- Opens one more of the repeated tables of a name. -/
def appendTable (key : String) (fill : Entries → Option Entries) (entries : Entries) :
    Option Entries :=
  match entries.lookup key with
  | none => do return put key (.tables [← fill []]) entries
  | some (.tables older) => do return put key (.tables ((← fill []) :: older)) entries
  | some _ => none

end Courier.Toml
