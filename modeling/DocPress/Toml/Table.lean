import DocPress.Toml.Value

/-!
# Building tables

A document fills its tables bit by bit. A table is made by a header of its own, on the way to
another by a header, or by a key with dots, and from this follows what may still be put into it.

* `Item` — an entry under construction; `Making` — what a table was made by.
* `update` — entries changed at the end of a path.
* `assign` — a value put under a key; `openTable`, `openElement` — the headers of tables and of
  arrays of tables.
* `Item.toValue` — the finished value.
-/

namespace DocPress.Toml

/-- What a table was made by. -/
inductive Making where
  /-- A header of its own. -/
  | header
  /-- A header of another table below it. -/
  | path
  /-- A key with dots. -/
  | dots
  deriving DecidableEq, Repr

/-- An entry under construction. -/
inductive Item where
  /-- A finished value, also an array or a table that is written in one piece. -/
  | value (value : Value)
  | table (making : Making) (entries : List (String × Item))
  /-- An array of tables with headers of their own, the last one first. -/
  | tables (last : List (String × Item)) (earlier : List Item)

/-- The entries of a table under construction. -/
abbrev Entries := List (String × Item)

/-- Entries in which the item under a key is replaced, or added at the end. -/
def replace (key : String) (item : Item) : Entries → Entries
  | [] => [(key, item)]
  | (k, x) :: rest => if k = key then (key, item) :: rest else (k, x) :: replace key item rest

/-- Entries changed by `finish` in the table at the end of a path of keys. Tables that are missing on
the way are made. A path of dots passes through no table that has a header. -/
def update (way : Making) (finish : Making → Entries → Option Entries) :
    List String → Making → Entries → Option Entries
  | [], making, entries => finish making entries
  | key :: rest, _, entries =>
    match entries.lookup key with
    | none => do
      let inner ← update way finish rest way []
      some (replace key (.table way inner) entries)
    | some (.table making inner) =>
      if way = .dots ∧ making = .header then none
      else do
        let inner ← update way finish rest making inner
        some (replace key (.table making inner) entries)
    | some (.tables last earlier) =>
      if way = .dots then none
      else do
        let last ← update way finish rest .header last
        some (replace key (.tables last earlier) entries)
    | some (.value _) => none

/-- Entries with one more, unless the key is there. -/
def addNew (key : String) (item : Item) (entries : Entries) : Option Entries :=
  match entries.lookup key with
  | some _ => none
  | none => some (entries ++ [(key, item)])

/-- Puts a value under a key with dots before it. The table that it ends in must be made by dots if
there are any. -/
def assign (path : List String) (key : String) (value : Value) (making : Making)
    (entries : Entries) : Option Entries :=
  let finish (found : Making) (inner : Entries) : Option Entries :=
    if !path.isEmpty && found != .dots then none else addNew key (.value value) inner
  update .dots finish path making entries

/-- Opens the table of a header. It may have been made on the way to another, but not otherwise. -/
def openTable (key : String) (entries : Entries) : Option Entries :=
  match entries.lookup key with
  | none => some (entries ++ [(key, .table .header [])])
  | some (.table .path inner) => some (replace key (.table .header inner) entries)
  | some _ => none

/-- Opens one more table of an array. -/
def openElement (key : String) (entries : Entries) : Option Entries :=
  match entries.lookup key with
  | none => some (entries ++ [(key, .tables [] [])])
  | some (.tables last earlier) =>
    some (replace key (.tables [] (.table .header last :: earlier)) entries)
  | some _ => none

mutual

/-- The finished value of an item. -/
def Item.toValue : Item → Value
  | .value v => v
  | .table _ entries => .table (toEntries entries)
  | .tables last earlier => .array (toItems earlier [.table (toEntries last)])

/-- The finished values of entries. -/
def toEntries : List (String × Item) → List (String × Value)
  | [] => []
  | (key, x) :: rest => (key, x.toValue) :: toEntries rest

/-- The finished values of items in reverse order, before others. -/
def toItems : List Item → List Value → List Value
  | [], values => values
  | x :: rest, values => toItems rest (x.toValue :: values)

end

end DocPress.Toml
