import DocPress.Doc.Model
import DocPress.Json.Basic

/-!
# Writing package documentation

* `toJson` of each part — an object with all fields in order.
* `Item.toJson` — the item's fields and its `kind`; `ExampleRef.toJson` — owner and example.

Specification: section 10.2, serialization of the data model.
-/

namespace DocPress.Doc

/-- An example as JSON. -/
def Example.toJson (x : Example) : Json :=
  .obj [("name", .str x.name), ("doc", .str x.doc), ("code", .str x.code), ("output", .str x.output)]

/-- An annotation as JSON. -/
def Annotation.toJson (x : Annotation) : Json :=
  .obj [("pos", .int x.start), ("end", .int x.stop), ("import_path", .str x.importPath),
    ("name", .str x.name)]

/-- A declaration as JSON. -/
def Decl.toJson (x : Decl) : Json :=
  .obj [("text", .str x.text), ("annotations", .arr (x.annotations.map Annotation.toJson))]

/-- A group of constants or variables as JSON. -/
def ValueEntry.toJson (x : ValueEntry) : Json :=
  .obj [("decl", x.decl.toJson), ("doc", .str x.doc)]

/-- The fields of a function. -/
def FuncEntry.fields (x : FuncEntry) : List (String × Json) :=
  [("name", .str x.name), ("recv", .str x.recv), ("doc", .str x.doc), ("decl", x.decl.toJson),
   ("url", .str x.url), ("examples", .arr (x.examples.map Example.toJson))]

/-- A function as JSON. -/
def FuncEntry.toJson (x : FuncEntry) : Json := .obj x.fields

/-- The fields of a type. -/
def TypeEntry.fields (x : TypeEntry) : List (String × Json) :=
  [("name", .str x.name), ("doc", .str x.doc), ("decl", x.decl.toJson),
   ("consts", .arr (x.consts.map ValueEntry.toJson)), ("vars", .arr (x.vars.map ValueEntry.toJson)),
   ("funcs", .arr (x.funcs.map FuncEntry.toJson)), ("methods", .arr (x.methods.map FuncEntry.toJson)),
   ("examples", .arr (x.examples.map Example.toJson))]

/-- A type as JSON. -/
def TypeEntry.toJson (x : TypeEntry) : Json := .obj x.fields

/-- A timestamp as JSON, null if there is none. -/
def updatedJson : Option Time.Instant → Json
  | none => .null
  | some t => .str t.text

/-- The fields of a package. -/
def Package.fields (x : Package) : List (String × Json) :=
  [("import_path", .str x.importPath), ("project_root", .str x.projectRoot),
   ("project_name", .str x.projectName), ("project_url", .str x.projectUrl), ("name", .str x.name),
   ("synopsis", .str x.synopsis), ("doc", .str x.doc), ("is_cmd", .bool x.isCommand),
   ("updated", updatedJson x.updated), ("browse_url", .str x.browseUrl),
   ("consts", .arr (x.consts.map ValueEntry.toJson)), ("vars", .arr (x.vars.map ValueEntry.toJson)),
   ("funcs", .arr (x.funcs.map FuncEntry.toJson)), ("types", .arr (x.types.map TypeEntry.toJson)),
   ("examples", .arr (x.examples.map Example.toJson)), ("imports", .arr (x.imports.map Json.str)),
   ("errors", .arr (x.errors.map Json.str))]

/-- A package as JSON. -/
def Package.toJson (x : Package) : Json := .obj x.fields

/-- The fields of an item. -/
def Item.fields : Item → List (String × Json)
  | .package x => x.fields
  | .type x => x.fields
  | .func x => x.fields

/-- An item as JSON, with its kind. -/
def Item.toJson (x : Item) : Json := .obj (("kind", .str x.kind) :: x.fields)

/-- An example with its owner as JSON. -/
def ExampleRef.toJson (x : ExampleRef) : Json :=
  .obj [("owner", x.owner.toJson), ("example", x.sample.toJson)]

end DocPress.Doc
