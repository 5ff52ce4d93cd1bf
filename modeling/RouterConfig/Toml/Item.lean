/-
RouterConfig.Toml.Item — the tables of a TOML text, and how its lines fill
them.

A table may be written in several places, but not in any places: what a
header opened is not opened again, and what dotted keys made is extended by
dotted keys of the same table only. So a table knows what made it.
-/

namespace RouterConfig.Toml

/-- What made a table. -/
inductive Origin where
  /-- Braces; such a table is complete. -/
  | braces
  /-- Its own header. -/
  | header
  /-- The header of a table inside it. -/
  | implied
  /-- A dotted key. -/
  | dotted
  deriving DecidableEq, Inhabited, Repr

/-- What stands under a key. -/
inductive Item where
  | string (text : String)
  | integer (n : Int)
  | boolean (b : Bool)
  | decimal
  | dateTime
  | array (items : List Item)
  | table (origin : Origin) (entries : List (String × Item))
  /-- Tables under one header that is repeated. -/
  | tables (tables : List (List (String × Item)))
  deriving Inhabited, Repr

/-- The entries of a table. -/
abbrev Entries := List (String × Item)

namespace Entries

/-- What stands under a key. -/
def get? (entries : Entries) (key : String) : Option Item := entries.lookup key

/-- The entries with another item under a key. -/
def put (entries : Entries) (key : String) (item : Item) : Entries :=
  if entries.any (·.1 == key) then
    entries.map fun entry => if entry.1 == key then (key, item) else entry
  else entries ++ [(key, item)]

/-- Changes the table at the end of a path of keys, given how it was made. A table that is missing
on the way is made as `made` says. Of repeated tables the last counts. A dotted key does not lead
through a table with a header of its own, and nothing leads through braces. -/
def changeAt (made : Origin) (change : Origin → Entries → Option Entries) :
    List String → Origin → Entries → Option Entries
  | [], origin, entries => change origin entries
  | key :: path, _, entries =>
    match get? entries key with
    | none => do
      let inner ← changeAt made change path made []
      return put entries key (.table made inner)
    | some (.table origin inner) =>
      if origin = .braces || (made = .dotted && origin = .header) then none
      else do
        let inner ← changeAt made change path origin inner
        return put entries key (.table origin inner)
    | some (.tables tables) => do
      let last ← tables.getLast?
      let inner ← changeAt made change path .header last
      return put entries key (.tables (tables.dropLast ++ [inner]))
    | some _ => none

/-- The entries with an item under a dotted key that is new. The table it stands in is the table at
hand, or one made by dotted keys. -/
def insert (entries : Entries) (path : List String) (key : String) (item : Item) : Option Entries :=
  let change (origin : Origin) (inner : Entries) : Option Entries :=
    if (get? inner key).isSome || (!path.isEmpty && origin ≠ .dotted) then none
    else some (put inner key item)
  changeAt .dotted change path .header entries

/-- The entries with a table opened by its header. Only a table that another header implied may be
there already. -/
def openTable (entries : Entries) (path : List String) (key : String) : Option Entries :=
  let change (_ : Origin) (inner : Entries) : Option Entries :=
    match get? inner key with
    | none => some (put inner key (.table .header []))
    | some (.table .implied old) => some (put inner key (.table .header old))
    | some _ => none
  changeAt .implied change path .header entries

/-- The entries with one more table under a repeated header. -/
def openNext (entries : Entries) (path : List String) (key : String) : Option Entries :=
  let change (_ : Origin) (inner : Entries) : Option Entries :=
    match get? inner key with
    | none => some (put inner key (.tables [[]]))
    | some (.tables tables) => some (put inner key (.tables (tables ++ [[]])))
    | some _ => none
  changeAt .implied change path .header entries

/-- The entries with an item under a dotted key, seen from the table that was opened last. -/
def insertBelow (entries : Entries) (opened path : List String) (key : String) (item : Item) :
    Option Entries :=
  changeAt .implied (fun _ inner => insert inner path key item) opened .header entries

end Entries

end RouterConfig.Toml
