import DocPress.Number.Binary64

/-!
# JSON values

* `Json` — a JSON value. Objects keep their fields in the order of the text, repeated names
  included. A string with an unpaired surrogate or a number too large for its type is `unreadable`:
  such a value may stand where it is not looked at.
-/

namespace DocPress

/-- A JSON value. -/
inductive Json where
  | null
  | bool (value : Bool)
  /-- An integer of 64 bits, signed or unsigned. -/
  | int (value : Int)
  /-- A number with a fraction or an exponent, or one outside 64 bits. -/
  | float (value : Number.Binary64)
  | str (value : String)
  | arr (items : List Json)
  | obj (fields : List (String × Json))
  /-- Well-formed text without a value. -/
  | unreadable

namespace Json

/-- The value of a field of an object, if there is one. -/
def field? (name : String) : Json → Option Json
  | .obj fields => fields.lookup name
  | _ => none

end Json

end DocPress
