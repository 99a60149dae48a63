/-!
# TOML values

* `Value` — a value of a TOML document. Floating-point numbers, dates and times are told apart from
  all others, but not from each other.
-/

namespace DocPress.Toml

/-- A value of a document. -/
inductive Value where
  | string (value : String)
  | integer (value : Int)
  | boolean (value : Bool)
  /-- A floating-point number, a date or a time. -/
  | other
  | array (items : List Value)
  | table (entries : List (String × Value))

end DocPress.Toml
