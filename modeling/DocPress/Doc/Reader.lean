import DocPress.Doc.Model
import DocPress.Doc.Record

/-!
# Reading package documentation

* `readPackage?`, `readType?`, `readFunc?`, `readValue?`, `readDecl?`, `readAnnotation?`,
  `readExample?` — the parts of a package from JSON. A missing field takes its default; a value of
  another type than its field is refused, and null is a value only for the time of the update.

Specification: section 10.2, serialization of the data model.
-/

namespace DocPress.Doc

/-- Reads an example. -/
def readExample? (json : Json) : Option Example := do
  match ← fieldsOf? ["name", "doc", "code", "output"] json with
  | [name, doc, code, output] =>
    some ⟨← text? name, ← text? doc, ← text? code, ← text? output⟩
  | _ => none

/-- Reads an annotation. -/
def readAnnotation? (json : Json) : Option Annotation := do
  match ← fieldsOf? ["pos", "end", "import_path", "name"] json with
  | [start, stop, importPath, name] =>
    some ⟨← fieldOr? 0 natural? start, ← fieldOr? 0 natural? stop, ← text? importPath, ← text? name⟩
  | _ => none

/-- Reads a declaration. -/
def readDecl? (json : Json) : Option Decl := do
  match ← fieldsOf? ["text", "annotations"] json with
  | [text, annotations] => some ⟨← text? text, ← entries? readAnnotation? annotations⟩
  | _ => none

/-- Reads a group of constants or variables. -/
def readValue? (json : Json) : Option ValueEntry := do
  match ← fieldsOf? ["decl", "doc"] json with
  | [decl, doc] => some ⟨← fieldOr? {} readDecl? decl, ← text? doc⟩
  | _ => none

/-- Reads a function. -/
def readFunc? (json : Json) : Option FuncEntry := do
  match ← fieldsOf? ["name", "recv", "doc", "decl", "url", "examples"] json with
  | [name, recv, doc, decl, url, examples] =>
    some ⟨← text? name, ← text? recv, ← text? doc, ← fieldOr? {} readDecl? decl, ← text? url,
      ← entries? readExample? examples⟩
  | _ => none

/-- Reads a type. -/
def readType? (json : Json) : Option TypeEntry := do
  match ← fieldsOf? ["name", "doc", "decl", "consts", "vars", "funcs", "methods", "examples"] json with
  | [name, doc, decl, consts, vars, funcs, methods, examples] =>
    some ⟨← text? name, ← text? doc, ← fieldOr? {} readDecl? decl, ← entries? readValue? consts,
      ← entries? readValue? vars, ← entries? readFunc? funcs, ← entries? readFunc? methods,
      ← entries? readExample? examples⟩
  | _ => none

/-- Reads a timestamp. -/
def readInstant? (json : Json) : Option Time.Instant := (string? json).bind Time.Instant.parse?

/-- Reads a timestamp or null. -/
def readUpdated? : Json → Option (Option Time.Instant)
  | .null => some none
  | json => (readInstant? json).map some

/-- The names of a package's fields, in order. -/
def packageFields : List String :=
  ["import_path", "project_root", "project_name", "project_url", "name", "synopsis", "doc", "is_cmd",
   "updated", "browse_url", "consts", "vars", "funcs", "types", "examples", "imports", "errors"]

/-- Reads a package. -/
def readPackage? (json : Json) : Option Package := do
  match ← fieldsOf? packageFields json with
  | [importPath, projectRoot, projectName, projectUrl, name, synopsis, doc, isCommand, updated,
      browseUrl, consts, vars, funcs, types, examples, imports, errors] =>
    some ⟨← text? importPath, ← text? projectRoot, ← text? projectName, ← text? projectUrl,
      ← text? name, ← text? synopsis, ← text? doc, ← fieldOr? false bool? isCommand,
      ← fieldOr? none readUpdated? updated, ← text? browseUrl, ← entries? readValue? consts,
      ← entries? readValue? vars, ← entries? readFunc? funcs, ← entries? readType? types,
      ← entries? readExample? examples, ← entries? string? imports, ← entries? string? errors⟩
  | _ => none

end DocPress.Doc
