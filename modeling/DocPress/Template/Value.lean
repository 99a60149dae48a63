import DocPress.Json.Basic
import DocPress.Number.Shortest
import DocPress.Text.Quoted

/-!
# Template values

* `Value` — what templates compute with. Maps have distinct keys in ascending order.
* `Value.ofJson`, `Value.toJson` — values from and as data.
* `Value.printed` — the text that a value prints as; `Value.isTrue` — its truth.
* `deepEqual` — structural equality, in which values of different kinds differ.

Specification: section 10.4, `equal`.
-/

namespace DocPress.Template

/-- A value of the template language. -/
inductive Value where
  /-- A missing variable or attribute. -/
  | undefined
  | none
  | bool (value : Bool)
  | int (value : Int)
  | float (value : Number.Binary64)
  | str (value : String)
  /-- Text that is HTML already and needs no escaping. -/
  | safe (value : String)
  | list (items : List Value)
  | map (entries : List (String × Value))

namespace Value

/-- Entries with one more, which replaces an entry of the same key. -/
def insert (key : String) (value : Value) : List (String × Value) → List (String × Value)
  | [] => [(key, value)]
  | (k, v) :: rest =>
    if key = k then (key, value) :: rest
    else if key < k then (key, value) :: (k, v) :: rest
    else (k, v) :: insert key value rest

mutual

/-- Data as a value. -/
def ofJson : Json → Value
  | .null => .none
  | .bool b => .bool b
  | .int n => .int n
  | .float x => .float x
  | .str s => .str s
  | .arr items => .list (ofItems items)
  | .obj fields => .map (ofFields [] fields)
  | .unreadable => .undefined

/-- Items as values. -/
def ofItems : List Json → List Value
  | [] => []
  | x :: rest => ofJson x :: ofItems rest

/-- Fields as entries after others; the last of several with one name counts. -/
def ofFields (entries : List (String × Value)) : List (String × Json) → List (String × Value)
  | [] => entries
  | (name, x) :: rest => ofFields (insert name (ofJson x) entries) rest

end

mutual

/-- A value as data; a missing value is null. -/
def toJson : Value → Json
  | .undefined => .null
  | .none => .null
  | .bool b => .bool b
  | .int n => .int n
  | .float x => .float x
  | .str s => .str s
  | .safe s => .str s
  | .list items => .arr (toItems items)
  | .map entries => .obj (toFields entries)

/-- Values as items. -/
def toItems : List Value → List Json
  | [] => []
  | x :: rest => x.toJson :: toItems rest

/-- Entries as fields. -/
def toFields : List (String × Value) → List (String × Json)
  | [] => []
  | (key, x) :: rest => (key, x.toJson) :: toFields rest

end

/-! ## Printing -/

/-- The text of a truth value. -/
def boolText (b : Bool) : List Char := if b then "True".toList else "False".toList

mutual

/-- The text of a value inside a list or a map. -/
def nested : Value → List Char
  | .undefined => "undefined".toList
  | .none => "None".toList
  | .bool b => boolText b
  | .int n => (toString n).toList
  | .float x => x.general
  | .str s => Text.quote s.toList
  | .safe s => Text.quote s.toList
  | .list [] => "[]".toList
  | .list (x :: rest) => '[' :: (x.nested ++ nestedItems rest)
  | .map [] => ['\x7b', '\x7d']
  | .map ((key, x) :: rest) =>
    '\x7b' :: (Text.quote key.toList ++ ": ".toList ++ x.nested ++ nestedEntries rest)

/-- The items after the first, and the closing bracket. -/
def nestedItems : List Value → List Char
  | [] => [']']
  | x :: rest => ", ".toList ++ x.nested ++ nestedItems rest

/-- The entries after the first, and the closing brace. -/
def nestedEntries : List (String × Value) → List Char
  | [] => ['\x7d']
  | (key, x) :: rest =>
    ", ".toList ++ Text.quote key.toList ++ ": ".toList ++ x.nested ++ nestedEntries rest

end

/-- The text that a value prints as. -/
def printed : Value → List Char
  | .undefined => []
  | .float x => x.positional
  | .str s => s.toList
  | .safe s => s.toList
  | x => x.nested

/-- The text of a string, if the value is one. -/
def string? : Value → Option String
  | .str s => some s
  | .safe s => some s
  | _ => Option.none

/-! ## Truth and equality -/

/-- Whether a value counts as true: missing, none, false, zero and empty values do not. -/
def isTrue : Value → Bool
  | .undefined => false
  | .none => false
  | .bool b => b
  | .int n => n != 0
  | .float x => !x.isZero
  | .str s => !s.isEmpty
  | .safe s => !s.isEmpty
  | .list items => !items.isEmpty
  | .map entries => !entries.isEmpty

/-- Whether a value is missing. -/
def isUndefined : Value → Bool
  | .undefined => true
  | _ => false

mutual

/-- Structural equality. An integer never equals a number with a fraction. -/
def deepEqual : Value → Value → Bool
  | .undefined, .undefined => true
  | .none, .none => true
  | .bool a, .bool b => a == b
  | .int a, .int b => a == b
  | .float a, .float b => a.equal b
  | .str a, .str b => a == b
  | .str a, .safe b => a == b
  | .safe a, .str b => a == b
  | .safe a, .safe b => a == b
  | .list xs, .list ys => xs.length == ys.length && itemsEqual xs ys
  | .map xs, .map ys => xs.length == ys.length && entriesEqual xs ys
  | _, _ => false

/-- Equality item by item, as far as both lists go. -/
def itemsEqual : List Value → List Value → Bool
  | x :: xs, y :: ys => x.deepEqual y && itemsEqual xs ys
  | _, _ => true

/-- Whether each entry has an equal one of its key among others. A missing value is equal to none. -/
def entriesEqual : List (String × Value) → List (String × Value) → Bool
  | [], _ => true
  | (key, x) :: rest, ys =>
    (match ys.lookup key with
     | some y => !y.isUndefined && x.deepEqual y
     | Option.none => false) && entriesEqual rest ys

end

end Value

end DocPress.Template
