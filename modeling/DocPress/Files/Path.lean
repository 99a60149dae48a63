/-!
# Paths

Paths are read by their spelling alone: a part is what stands between slashes, an empty part or a
part `.` stands for nothing, except that a leading `.` of a relative path is a part of its own.

* `parts` — the pieces between slashes; `Anchor` and `anchored` — what a path starts from.
* `fileName?`, `extension?` — the last part and what follows its last dot.
* `join`, `parent?`, `ancestors` — going down and up.
-/

namespace DocPress.Files

/-- The pieces of a path between slashes, empty ones included. -/
def parts : List Char → List (List Char)
  | [] => [[]]
  | c :: rest =>
    if c = '/' then [] :: parts rest
    else
      match parts rest with
      | [] => [[c]]
      | p :: more => (c :: p) :: more

/-- Pieces with slashes between them. -/
def joinParts : List (List Char) → List Char
  | [] => []
  | [p] => p
  | p :: rest => p ++ '/' :: joinParts rest

/-- What a path starts from. -/
inductive Anchor where
  /-- The root of all files. -/
  | root
  /-- The current directory, written as a dot. -/
  | here
  /-- Nothing. -/
  | bare
  deriving DecidableEq, Repr

/-- The start of a path, and the pieces after it. -/
def anchored (path : List Char) : Anchor × List (List Char) :=
  match parts path with
  | [] => (.bare, [])
  | [p] => if p = ['.'] then (.here, []) else (.bare, [p])
  | p :: rest =>
    if p = [] then (.root, rest)
    else if p = ['.'] then (.here, rest)
    else (.bare, p :: rest)

/-- Whether a piece stands for nothing. -/
def isVoid (part : List Char) : Bool := part = [] || part = ['.']

/-- Pieces without those at the end that stand for nothing. -/
def dropVoid (pieces : List (List Char)) : List (List Char) :=
  (pieces.reverse.dropWhile isVoid).reverse

/-- Whether a path starts at the root. -/
def isAbsolute (path : String) : Bool := path.toList.head? = some '/'

/-! ## The last part -/

/-- The last part of a path, unless it leads upwards. -/
def fileName? (path : String) : Option (List Char) :=
  match (dropVoid (anchored path.toList).2).getLast? with
  | some name => if name = ['.', '.'] then none else some name
  | none => none

/-- What stands before and after the last dot of a name. -/
def splitAtLastDot? (name : List Char) : Option (List Char × List Char) :=
  let (after, before) := name.reverse.span (· != '.')
  match before with
  | [] => none
  | _ :: stem => some (stem.reverse, after.reverse)

/-- The extension of a path's last part. A name whose only dot comes first has none. -/
def extension? (path : String) : Option (List Char) := do
  let name ← fileName? path
  let (stem, extension) ← splitAtLastDot? name
  if stem = [] then none else some extension

/-! ## Down and up -/

/-- A path below another. A path that starts at the root stands for itself. -/
def join (base path : String) : String :=
  if isAbsolute path then path
  else if base.toList.getLast?.any (· != '/') then base ++ "/" ++ path
  else base ++ path

/-- An anchor and pieces as a path. -/
def spelled : Anchor → List (List Char) → List Char
  | .root, pieces => '/' :: joinParts pieces
  | .here, pieces => joinParts (['.'] :: pieces)
  | .bare, pieces => joinParts pieces

/-- The path without its last part; none for the root and the empty path. -/
def parent? (path : String) : Option String :=
  let (anchor, pieces) := anchored path.toList
  let pieces := dropVoid pieces
  if pieces = [] then
    if anchor = .here then some "" else none
  else some (String.ofList (spelled anchor (dropVoid pieces.dropLast)))

/-- A path and all that are left when its parts are taken away one after the other. -/
def ancestorsWithin : Nat → String → List String
  | 0, path => [path]
  | fuel + 1, path =>
    path :: match parent? path with
      | some up => ancestorsWithin fuel up
      | none => []

/-- A path and those above it, nearest first. Each step up removes a part, so there are at most as
many steps as there are pieces and one for a leading dot. -/
def ancestors (path : String) : List String :=
  ancestorsWithin ((parts path.toList).length + 1) path

end DocPress.Files
