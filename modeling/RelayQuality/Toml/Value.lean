import RelayQuality.Number.Decimal

/-!
# Values and tables of settings files

`Toml.Value` is what a settings file says. While a file is read its tables are `Entries` that remember
how each table came to be, because a table may be defined once only: `Entries.put?` adds a value under a
dotted key, `Entries.define?` adds the table of a header.
-/

namespace RelayQuality.Toml

inductive Value where
  | string (text : String)
  | integer (n : Int)
  | float (number : Decimal)
  | notFinite
  | boolean (b : Bool)
  | dateTime (text : String)
  | array (items : List Value)
  | table (members : List (String × Value))
deriving Inhabited

/-- How a table came to be. -/
inductive Origin where
  /-- It is the file, has a header of its own or is one of an array of tables. -/
  | stated
  /-- It is named in the header of a table within it. -/
  | implied
  /-- It is named in a dotted key. -/
  | dotted
deriving DecidableEq, Repr, Inhabited

/-- What a name stands for while a file is read. -/
inductive Entry where
  | leaf (v : Value)
  | table (origin : Origin) (entries : List (String × Entry))
  | tables (elements : List (List (String × Entry)))
deriving Inhabited

abbrev Entries := List (String × Entry)

namespace Entries

def get? (es : Entries) (name : String) : Option Entry := (es.find? (·.1 == name)).map Prod.snd

/-- Let a name stand for something else, or for something at all. -/
def set (es : Entries) (name : String) (e : Entry) : Entries :=
  if (es.get? name).isSome then es.map fun entry => if entry.1 = name then (name, e) else entry
  else es ++ [(name, e)]

def updateLast? (elements : List Entries) (change : Entries → Option Entries) : Option (List Entries) :=
  match elements.getLast? with
  | some last => (change last).map fun changed => elements.dropLast ++ [changed]
  | none => none

/-- Put a value under a key, behind a path of dotted names. The names on the path may stand for tables
that have no header, or for arrays of tables, which mean their last one. The table of the key itself has
to come from dotted keys, and the key has to be new. -/
def put? (path : List String) (key : String) (v : Value) (es : Entries) : Option Entries :=
  match path with
  | [] => if (es.get? key).isSome then none else some (es ++ [(key, .leaf v)])
  | name :: rest =>
    match es.get? name with
    | none => (put? rest key v []).map fun inner => es.set name (.table .dotted inner)
    | some (.leaf _) => none
    | some (.table origin inner) =>
      if origin = .stated ∨ (rest.isEmpty ∧ origin = .implied) then none
      else (put? rest key v inner).map fun inner => es.set name (.table origin inner)
    | some (.tables elements) =>
      if rest.isEmpty then none
      else (updateLast? elements (put? rest key v)).map fun elements => es.set name (.tables elements)

/-- Define the last name of a path as a table, or as one more of an array of tables, with what `fill`
puts into it. -/
def define? (isElement : Bool) (fill : Entries → Option Entries) : List String → Entries → Option Entries
  | [], _ => none
  | [name], es =>
    match es.get? name, isElement with
    | none, false => (fill []).map fun inner => es.set name (.table .stated inner)
    | some (.table .implied inner), false => (fill inner).map fun inner => es.set name (.table .stated inner)
    | none, true => (fill []).map fun inner => es.set name (.tables [inner])
    | some (.tables elements), true => (fill []).map fun inner => es.set name (.tables (elements ++ [inner]))
    | _, _ => none
  | name :: rest, es =>
    match es.get? name with
    | none => (define? isElement fill rest []).map fun inner => es.set name (.table .implied inner)
    | some (.leaf _) => none
    | some (.table origin inner) =>
      (define? isElement fill rest inner).map fun inner => es.set name (.table origin inner)
    | some (.tables elements) =>
      (updateLast? elements (define? isElement fill rest)).map fun elements => es.set name (.tables elements)

end Entries

mutual

def Entry.value : Entry → Value
  | .leaf v => v
  | .table _ entries => .table (membersOf entries)
  | .tables elements => .array (tablesOf elements)

def membersOf : List (String × Entry) → List (String × Value)
  | [] => []
  | (name, e) :: rest => (name, e.value) :: membersOf rest

def tablesOf : List (List (String × Entry)) → List Value
  | [] => []
  | entries :: rest => .table (membersOf entries) :: tablesOf rest

end

end RelayQuality.Toml
