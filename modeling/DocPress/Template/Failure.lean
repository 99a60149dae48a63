/-!
# Failures of templates

* `MapError` — why arguments do not make a map; `MapError.message` — its wording.
* `Failure` — why a template cannot be evaluated; `Failure.mapError?` — the map error behind it.

Specification: section 7, failures of helpers and of rendering.
-/

namespace DocPress.Template

/-- Why a list of arguments does not make a map. -/
inductive MapError where
  /-- The last key has no value. -/
  | oddCount (count : Nat)
  /-- The first argument in the place of a key that is not a string. -/
  | keyNotString (position : Nat)
  deriving DecidableEq, Repr

/-- The wording of a map error. -/
def MapError.message : MapError → String
  | .oddCount count => "map requires an even number of arguments, got " ++ toString count
  | .keyNotString position => "map key at position " ++ toString position ++ " must be a string"

/-- Why a template cannot be evaluated. -/
inductive Failure where
  /-- An attribute or item of a missing value. -/
  | undefinedAccess
  /-- A value that an operation does not take. -/
  | invalidOperation
  | malformedMap (cause : MapError)
  | missingArgument
  | tooManyArguments
  /-- An argument that is not the record that a helper reads. -/
  | unreadableArgument
  | unknownFunction
  | unknownMethod
  | templateNotFound
  /-- A failure of an included template. -/
  | inInclude (cause : Failure)
  deriving DecidableEq, Repr

/-- The map error that a failure goes back to. -/
def Failure.mapError? : Failure → Option MapError
  | .malformedMap cause => some cause
  | .inInclude cause => cause.mapError?
  | _ => none

end DocPress.Template
