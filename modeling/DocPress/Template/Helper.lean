import DocPress.Breadcrumb
import DocPress.Comment.Renderer
import DocPress.Declaration
import DocPress.Doc.Reader
import DocPress.Doc.Writer
import DocPress.Examples
import DocPress.ImportPath
import DocPress.Template.Failure
import DocPress.Template.Value
import DocPress.Time.Age
import DocPress.Url.Path

/-!
# Helpers of templates

* `buildMap` — a map from alternating keys and values.
* `PackagePath`, `readOwner?` and the readers of `DocPress.Doc` — the records that helpers read.
* `Helper`, `Helper.ofName?` — the helpers and their names.
* `Helper.apply` — the value that a helper gives for arguments. Arguments are looked at in order, so
  a bad one is reported before a missing or a surplus one.

Specification: section 6 for the names of all helpers, sections 4.7 and 10.4 for `map` and `equal`.
-/

namespace DocPress.Template

/-! ## Maps -/

/-- The entries of keys and values that begin at a position, put after others. -/
def mapFrom (position : Nat) (entries : List (String × Value)) :
    List Value → Except MapError (List (String × Value))
  | key :: value :: rest =>
    match key.string? with
    | some k => mapFrom (position + 2) (Value.insert k value entries) rest
    | none => .error (.keyNotString position)
  | _ => .ok entries

/-- The map of alternating keys and values. The last value of a key counts. -/
def buildMap (args : List Value) : Except MapError (List (String × Value)) :=
  if args.length % 2 = 0 then mapFrom 0 [] args else .error (.oddCount args.length)

/-! ## Records -/

/-- The paths of a package. -/
structure PackagePath where
  importPath : String
  projectRoot : String
  deriving DecidableEq, Repr

/-- Reads the paths of a package; the import path must be given. -/
def readPackagePath? (json : Json) : Option PackagePath := do
  match ← Doc.fieldsOf? ["import_path", "project_root"] json with
  | [importPath, projectRoot] =>
    some ⟨← Doc.required? Doc.string? importPath, ← Doc.text? projectRoot⟩
  | _ => none

/-- Reads the name of an example. -/
def readExampleName? (json : Json) : Option String := do
  match ← Doc.fieldsOf? ["name"] json with
  | [name] => Doc.text? name
  | _ => none

/-- The kinds of owners of examples. -/
inductive OwnerKind where
  | package
  | type
  | func
  deriving DecidableEq, Repr

/-- Reads the kind of an owner, which is given by name or by number. -/
def readOwnerKind? : Json → Option OwnerKind
  | .str s =>
    if s = "package" then some .package
    else if s = "type" then some .type
    else if s = "func" then some .func
    else none
  | .int n =>
    if n = 0 then some .package
    else if n = 1 then some .type
    else if n = 2 then some .func
    else none
  | _ => none

/-- Reads an owner of a known kind. Nothing more is asked of a package. -/
def readOwnerOf? (json : Json) : OwnerKind → Option Examples.Owner
  | .package => some .package
  | .type => do
    match ← Doc.fieldsOf? ["name"] json with
    | [name] => some (.type (← Doc.required? Doc.string? name))
    | _ => none
  | .func => do
    match ← Doc.fieldsOf? ["name", "recv"] json with
    | [name, recv] => some (.func (← Doc.text? recv) (← Doc.required? Doc.string? name))
    | _ => none

/-- Reads the owner of an example: an object with a `kind`, or a list that begins with it. -/
def readOwner? : Json → Option Examples.Owner
  | .obj fields =>
    match fields.filter fun f => f.1 == "kind" with
    | [(_, tag)] => do
      let kind ← readOwnerKind? tag
      readOwnerOf? (.obj (fields.filter fun f => f.1 != "kind")) kind
    | _ => none
  | .arr (tag :: rest) => do
    let kind ← readOwnerKind? tag
    readOwnerOf? (.arr rest) kind
  | _ => none

/-! ## Arguments -/

/-- An argument as text. -/
def asText (v : Value) : Except Failure String := .ok (String.ofList v.printed)

/-- An argument that has to be a string. -/
def asString (v : Value) : Except Failure String :=
  match v.string? with
  | some s => .ok s
  | none => .error .invalidOperation

/-- An argument that has to be a record. -/
def asRecord {α : Type} (read? : Json → Option α) (v : Value) : Except Failure α :=
  match read? v.toJson with
  | some x => .ok x
  | none => .error .unreadableArgument

/-- Fails if arguments are left. -/
def noMore : List Value → Except Failure Unit
  | [] => .ok ()
  | _ => .error .tooManyArguments

/-- The first argument, and those after it. -/
def takeArg {α : Type} (read : Value → Except Failure α) :
    List Value → Except Failure (α × List Value)
  | [] => .error .missingArgument
  | v :: rest => (read v).map fun x => (x, rest)

/-- The only argument. -/
def one {α : Type} (read : Value → Except Failure α) (args : List Value) : Except Failure α := do
  let (x, rest) ← takeArg read args
  noMore rest
  pure x

/-- The two arguments. -/
def two {α β : Type} (first : Value → Except Failure α) (second : Value → Except Failure β)
    (args : List Value) : Except Failure (α × β) := do
  let (x, rest) ← takeArg first args
  let (y, rest) ← takeArg second rest
  noMore rest
  pure (x, y)

/-- A string, and perhaps a value after it. -/
def oneOrTwo (args : List Value) : Except Failure (String × Option Value) := do
  let (x, rest) ← takeArg asString args
  match rest with
  | [] => pure (x, none)
  | y :: rest => do
    noMore rest
    pure (x, some y)

/-! ## Helpers -/

/-- The helpers that templates can call. -/
inductive Helper where
  | comment
  | commentText
  | decl
  | equal
  | map
  | breadcrumbs
  | commandName
  | relativePath
  | relativeTime
  | importPath
  | url
  | exampleId
  | examples
  | isType
  | isPackage
  | isFunc
  deriving DecidableEq, Repr

/-- The helpers by name. -/
def Helper.names : List (String × Helper) :=
  [("comment", .comment), ("commentText", .commentText), ("decl", .decl), ("equal", .equal),
   ("map", .map), ("breadcrumbs", .breadcrumbs), ("commandName", .commandName),
   ("relativePath", .relativePath), ("relativeTime", .relativeTime), ("importPath", .importPath),
   ("url", .url), ("exampleId", .exampleId), ("examples", .examples), ("isType", .isType),
   ("isPackage", .isPackage), ("isFunc", .isFunc)]

/-- The helper of a name. -/
def Helper.ofName? (name : String) : Option Helper := Helper.names.lookup name

/-- What helpers draw on: how comments are rendered, and the present time. -/
structure Setting where
  comments : Comment.Renderer
  now : Time.Instant
  deriving DecidableEq, Repr

/-- A path as a value: ready-made markup where output is escaped, and plain text elsewhere. -/
def pathValue (escapes : Bool) (path : String) : Value :=
  if escapes then .safe (Html.escape path) else .str path

/-- Whether a value is a map with this kind. -/
def hasKind (kind : String) : Value → Bool
  | .map entries =>
    match entries.lookup "kind" with
    | some tag => tag.string? == some kind
    | none => false
  | _ => false

/-- The examples of a package as a value. -/
def examplesValue (p : Doc.Package) : Value :=
  Value.ofJson (.arr ((Examples.collect p).map Doc.ExampleRef.toJson))

/-- The value that a helper gives where output is escaped or not. -/
def Helper.apply (s : Setting) (escapes : Bool) (args : List Value) :
    Helper → Except Failure Value
  | .comment => do
    let text ← one asText args
    pure (.safe (s.comments.html text))
  | .commentText => do
    let text ← one asText args
    pure (.str (s.comments.text text))
  | .decl => do
    let d ← one (asRecord Doc.readDecl?) args
    pure (.safe (Declaration.html d))
  | .equal => do
    let (a, b) ← two .ok .ok args
    pure (.bool (a.deepEqual b))
  | .map =>
    match buildMap args with
    | .ok entries => .ok (.map entries)
    | .error cause => .error (.malformedMap cause)
  | .breadcrumbs => do
    let p ← one (asRecord readPackagePath?) args
    pure (.safe (Breadcrumb.html p.importPath (p.projectRoot.utf8ByteSize)))
  | .commandName => do
    let p ← one (asRecord readPackagePath?) args
    pure (.safe (ImportPath.commandName p.importPath))
  | .relativePath => do
    let (path, parent) ← oneOrTwo args
    pure (pathValue escapes (ImportPath.relativeTo path (parent.bind Value.string?)))
  | .relativeTime => do
    let t ← one (asRecord Doc.readInstant?) args
    pure (.str (Time.age t s.now))
  | .importPath => do
    let path ← one asText args
    pure (.safe (ImportPath.displayed path))
  | .url => do
    let path ← one asString args
    pure (pathValue escapes (Url.urlPath path))
  | .exampleId => do
    let (owner, name) ← two (asRecord readOwner?) (asRecord readExampleName?) args
    pure (.safe (Examples.anchor owner name))
  | .examples => do
    let p ← one (asRecord Doc.readPackage?) args
    pure (examplesValue p)
  | .isType => do
    let v ← one .ok args
    pure (.bool (hasKind "type" v))
  | .isPackage => do
    let v ← one .ok args
    pure (.bool (hasKind "package" v))
  | .isFunc => do
    let v ← one .ok args
    pure (.bool (hasKind "func" v))

end DocPress.Template
