import RunGate.Toml.Value

/-! A TOML document under construction. Every table remembers how it came about, since that decides
what may still be added to it. -/

namespace RunGate.Toml

/-- How a table came about: in passing, as a step of some path, or by a header of its own; and
whether the path was that of a key. -/
structure Origin where
  inPassing : Bool
  byKey : Bool
deriving DecidableEq

/-- A place in the document: a finished value, a table that may grow, or the tables of repeated
headers, in order. -/
inductive Node
  | value (content : Value)
  | table (origin : Origin) (entries : List (String × Node))
  | tables (items : List (List (String × Node)))

abbrev Entries := List (String × Node)

mutual

/-- The value that a place holds at the end. -/
def Node.finished : Node → Value
  | .value content => content
  | .table _ entries => .table (Node.finishedEntries entries)
  | .tables items => .array (Node.finishedTables items)

def Node.finishedEntries : List (String × Node) → List (String × Value)
  | [] => []
  | (key, node) :: rest => (key, node.finished) :: Node.finishedEntries rest

def Node.finishedTables : List (List (String × Node)) → List Value
  | [] => []
  | entries :: rest => .table (Node.finishedEntries entries) :: Node.finishedTables rest

end

/-- Put a node in the place of the one under a key. -/
def Entries.replace (entries : Entries) (key : String) (node : Node) : Entries :=
  entries.map fun entry => if entry.1 == key then (key, node) else entry

/-- Work at the table that a path leads to. Tables on the way that do not exist are made in passing.
Of repeated headers the last table is meant. The path of a key may not enter a table with a header
of its own, and no path enters a value. -/
def descend (byKey : Bool) (work : Origin → Entries → Option Entries) :
    List String → Origin → Entries → Option Entries
  | [], origin, entries => work origin entries
  | key :: path, _, entries =>
    match entries.lookup key with
    | none => do
      let made ← descend byKey work path ⟨true, byKey⟩ []
      some (entries ++ [(key, .table ⟨true, byKey⟩ made)])
    | some (.table origin inner) => do
      if byKey && !origin.inPassing then none
      let changed ← descend byKey work path origin inner
      some (entries.replace key (.table origin changed))
    | some (.tables items) => do
      let last ← items.getLast?
      let changed ← descend byKey work path ⟨false, false⟩ last
      some (entries.replace key (.tables (items.dropLast ++ [changed])))
    | some (.value _) => none

/-- The origin of the root and of every table with a header. -/
def Origin.ownHeader : Origin := ⟨false, false⟩

/-- Give a key a value. A key with dots adds only to tables made by such keys, and no key is given
twice. -/
def Entries.assign (path : List String) (key : String) (value : Value) (entries : Entries) :
    Option Entries :=
  let byKey := !path.isEmpty
  descend byKey (fun origin inner =>
    if origin.byKey != byKey || (inner.lookup key).isSome then none
    else some (inner ++ [(key, .value value)])) path .ownHeader entries

/-- Open the table of a header. It must be new, or made in passing by another header. -/
def Entries.openTable (path : List String) (key : String) (entries : Entries) : Option Entries :=
  descend false (fun _ inner =>
    match inner.lookup key with
    | none => some (inner ++ [(key, .table .ownHeader [])])
    | some (.table origin content) =>
      if origin.inPassing && !origin.byKey then
        some (inner.replace key (.table .ownHeader content))
      else none
    | some _ => none) path .ownHeader entries

def Entries.addTable (path : List String) (key : String) (entries : Entries) : Option Entries :=
  descend false (fun _ inner =>
    match inner.lookup key with
    | none => some (inner ++ [(key, .tables [[]])])
    | some (.tables items) => some (inner.replace key (.tables (items ++ [[]])))
    | some _ => none) path .ownHeader entries

/-- Give a key a value within the table of the latest header. -/
def Entries.assignUnder (header path : List String) (key : String) (value : Value)
    (entries : Entries) : Option Entries :=
  descend false (fun _ inner => inner.assign path key value) header .ownHeader entries

end RunGate.Toml
