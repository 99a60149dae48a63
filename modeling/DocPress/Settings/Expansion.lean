import DocPress.Text.Alphanumeric

/-!
# Variables in settings

A setting may refer to variables of the environment in braces after a dollar sign, with or without
a default. Only a setting with such a reference is looked at, but then other dollar signs count too:
a doubled one stands for itself, and one before a name without braces refers to that variable.

* `Lookup` — the environment.
* `reference?` — a reference in braces, taken apart.
* `expand` — a text with its references replaced, or the first variable that is not set.
* `names` — the variables that a text refers to.

Specification: section 10.2, variables in values of the configuration.
-/

namespace DocPress.Settings

/-- The values of variables; none if a variable is not set. -/
abbrev Lookup := String → Option String

/-- Whether a character may stand in the name of a variable without braces. -/
def isNameChar (c : Char) : Bool := Text.isAlphanumeric c || c == '_'

/-- What stands before and after the first pair of a colon and a hyphen. -/
def splitDefault? : List Char → Option (List Char × List Char)
  | ':' :: '-' :: rest => some ([], rest)
  | c :: rest => (splitDefault? rest).map fun (before, after) => (c :: before, after)
  | [] => none

/-- A reference to a variable. -/
structure Reference where
  name : List Char
  default? : Option (List Char)
  deriving DecidableEq, Repr

/-- The reference that stands between braces. There is no default if there is no name before it. -/
def Reference.ofInner (inner : List Char) : Reference :=
  match splitDefault? inner with
  | some (c :: name, default) => ⟨c :: name, some default⟩
  | _ => ⟨inner, none⟩

/-- The reference after a dollar sign and a brace, and what follows its closing brace. -/
def reference? (s : List Char) : Option (Reference × List Char) :=
  match s.span (· != '\x7d') with
  | (inner, _ :: rest) => some (Reference.ofInner inner, rest)
  | (_, []) => none

/-- The value of a reference, or the name of its variable if that is not set and has no default. -/
def Reference.value (lookup : Lookup) (r : Reference) : Except String (List Char) :=
  match lookup (String.ofList r.name), r.default? with
  | some value, _ => .ok value.toList
  | none, some default => .ok default
  | none, none => .error (String.ofList r.name)

/-- A text with its references replaced. -/
def expandWithin (lookup : Lookup) : Nat → List Char → Except String (List Char)
  | 0, s => .ok s
  | _ + 1, [] => .ok []
  | fuel + 1, '$' :: '\x7b' :: rest =>
    match reference? rest with
    | some (r, after) => do
      let value ← r.value lookup
      let more ← expandWithin lookup fuel after
      pure (value ++ more)
    | none => do
      let more ← expandWithin lookup fuel rest
      pure ('$' :: '\x7b' :: more)
  | fuel + 1, '$' :: '$' :: rest => do
    let more ← expandWithin lookup fuel rest
    pure ('$' :: more)
  | fuel + 1, '$' :: rest => do
    let (name, after) := rest.span isNameChar
    let value ← if name.isEmpty then pure ['$'] else Reference.value lookup ⟨name, none⟩
    let more ← expandWithin lookup fuel after
    pure (value ++ more)
  | fuel + 1, c :: rest => do
    let more ← expandWithin lookup fuel rest
    pure (c :: more)

/-- Whether a text has a dollar sign before a brace. -/
def mentionsVariable : List Char → Bool
  | '$' :: '\x7b' :: _ => true
  | _ :: rest => mentionsVariable rest
  | [] => false

/-- A text with its references replaced, or the first variable that is not set. What replaces a
reference is not looked at again. -/
def expand (lookup : Lookup) (text : String) : Except String String :=
  if mentionsVariable text.toList then
    (expandWithin lookup text.length text.toList).map String.ofList
  else .ok text

/-- The variables that a text refers to, as far as the number of characters given. -/
def namesWithin : Nat → List Char → List String
  | 0, _ => []
  | _ + 1, [] => []
  | fuel + 1, '$' :: '\x7b' :: rest =>
    match reference? rest with
    | some (r, after) => String.ofList r.name :: namesWithin fuel after
    | none => namesWithin fuel rest
  | fuel + 1, '$' :: '$' :: rest => namesWithin fuel rest
  | fuel + 1, '$' :: rest =>
    let (name, after) := rest.span isNameChar
    if name.isEmpty then namesWithin fuel after else String.ofList name :: namesWithin fuel after
  | fuel + 1, _ :: rest => namesWithin fuel rest

/-- The variables that a text refers to. -/
def names (text : String) : List String :=
  if mentionsVariable text.toList then namesWithin text.length text.toList else []

end DocPress.Settings
