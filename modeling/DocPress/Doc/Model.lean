import DocPress.Time.Instant

/-!
# Package documentation

The parsed documentation of a package, as a source analyser delivers it.

* `Package` — a package with its constants, variables, functions, types and examples.
* `TypeEntry`, `FuncEntry`, `ValueEntry` — its parts; `Decl` — a declaration's source text with
  `Annotation`s that link parts of it; `Example` — a runnable example.
* `Item` — a package, a type or a function; `ExampleRef` — an example with the item it belongs to.

Specification: sections 3 and 10.1, the data model.
-/

namespace DocPress.Doc

/-- A runnable example. -/
structure Example where
  /-- Suffix of the name; empty for the default example of its owner. -/
  name : String := ""
  doc : String := ""
  code : String := ""
  /-- Expected output, empty if the example declares none. -/
  output : String := ""
  deriving DecidableEq, Repr

/-- A link over the bytes from `start` to before `stop` of a declaration. -/
structure Annotation where
  start : Nat := 0
  stop : Nat := 0
  /-- Import path of the package referred to; empty for the same package. -/
  importPath : String := ""
  /-- Identifier that names the anchor. -/
  name : String := ""
  deriving DecidableEq, Repr

/-- The source text of a declaration and its links. -/
structure Decl where
  text : String := ""
  annotations : List Annotation := []
  deriving DecidableEq, Repr

/-- A group of constants or variables. -/
structure ValueEntry where
  decl : Decl := {}
  doc : String := ""
  deriving DecidableEq, Repr

/-- A function or method. -/
structure FuncEntry where
  name : String := ""
  /-- Receiver type, with or without a leading star; empty for plain functions. -/
  recv : String := ""
  doc : String := ""
  decl : Decl := {}
  url : String := ""
  examples : List Example := []
  deriving DecidableEq, Repr

/-- A named type with its constants, variables, constructors and methods. -/
structure TypeEntry where
  name : String := ""
  doc : String := ""
  decl : Decl := {}
  consts : List ValueEntry := []
  vars : List ValueEntry := []
  funcs : List FuncEntry := []
  methods : List FuncEntry := []
  examples : List Example := []
  deriving DecidableEq, Repr

/-- The documentation of one package. -/
structure Package where
  importPath : String := ""
  /-- Import path of the project; empty for standard packages. -/
  projectRoot : String := ""
  projectName : String := ""
  projectUrl : String := ""
  name : String := ""
  synopsis : String := ""
  doc : String := ""
  isCommand : Bool := false
  updated : Option Time.Instant := none
  browseUrl : String := ""
  consts : List ValueEntry := []
  vars : List ValueEntry := []
  funcs : List FuncEntry := []
  types : List TypeEntry := []
  examples : List Example := []
  imports : List String := []
  errors : List String := []
  deriving DecidableEq, Repr

/-- The length of the project root in bytes. -/
def Package.projectRootLength (p : Package) : Nat := p.projectRoot.utf8ByteSize

/-- A package, a type or a function. -/
inductive Item where
  | package (value : Package)
  | type (value : TypeEntry)
  | func (value : FuncEntry)
  deriving DecidableEq, Repr

/-- The tag that tells an item's variant. -/
def Item.kind : Item → String
  | .package _ => "package"
  | .type _ => "type"
  | .func _ => "func"

/-- An example and the item that it belongs to. -/
structure ExampleRef where
  owner : Item
  sample : Example
  deriving DecidableEq, Repr

end DocPress.Doc
