import DocPress.Json.Basic

/-!
# Records in JSON

A record has named fields in a fixed order. It is given as an object, whose unknown fields are
ignored, or as the list of its first fields in order.

* `fieldsOf?` — the given values of a record's fields, in the order of their names.
* `required?`, `fieldOr?` — a field that must be given, and one with a default.
* `string?`, `bool?`, `natural?`, `list?` — values of a type.

Specification: section 10.2, serialization of the data model.
-/

namespace DocPress.Doc

/-- The values of the named fields; each is `none` if it is not given. The whole is `none` if a named
field is repeated, a list is too long, or the value is neither an object nor a list. -/
def fieldsOf? (names : List String) : Json → Option (List (Option Json))
  | .obj fields =>
    if names.all fun name => decide ((fields.filter fun f => f.1 == name).length ≤ 1) then
      some (names.map fun name => fields.lookup name)
    else none
  | .arr items =>
    if items.length ≤ names.length then
      some (items.map some ++ List.replicate (names.length - items.length) none)
    else none
  | _ => none

/-- A field read by `read?`, which must be given. -/
def required? {α : Type} (read? : Json → Option α) (field : Option Json) : Option α :=
  field.bind read?

/-- A field read by `read?`, or a default if it is not given. -/
def fieldOr? {α : Type} (default : α) (read? : Json → Option α) : Option Json → Option α
  | none => some default
  | some x => read? x

/-- A string. -/
def string? : Json → Option String
  | .str s => some s
  | _ => none

/-- A truth value. -/
def bool? : Json → Option Bool
  | .bool b => some b
  | _ => none

/-- An unsigned integer of 64 bits. -/
def natural? : Json → Option Nat
  | .int n => if 0 ≤ n ∧ n < 0x10000000000000000 then some n.toNat else none
  | _ => none

/-- A list of values. -/
def list? {α : Type} (read? : Json → Option α) : Json → Option (List α)
  | .arr items => items.mapM read?
  | _ => none

/-- A field of text, empty by default. -/
def text? (field : Option Json) : Option String := fieldOr? "" string? field

/-- A field of a list, empty by default. -/
def entries? {α : Type} (read? : Json → Option α) (field : Option Json) : Option (List α) :=
  fieldOr? [] (list? read?) field

end DocPress.Doc
