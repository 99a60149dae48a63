import DocPress.Comment.Renderer
import DocPress.Files.Tree
import DocPress.Settings.Expansion
import DocPress.Toml.Parser

/-!
# Settings

* `Resolved` — what a run of the program works with; `Overrides` — what its arguments ask for.
* `Error` — why settings cannot be loaded; `Error.message` — its wording.
* `Draft` — what a configuration file says; `readDraft?` — read from a document.
* `Draft.expanded`, `Draft.check`, `Draft.settings` — variables replaced, refused values, and paths
  taken from the place of the file.
* `load` — the settings of a file that is given or found, with overrides.

Specification: section 10.2, the configuration in `pkgdoc.toml`.
-/

namespace DocPress.Settings

/-- What a run of the program works with. -/
structure Resolved where
  templatesDir : String
  /-- Whether templates are read anew for each page. -/
  devMode : Bool := false
  comments : Comment.Renderer := {}
  /-- The configuration file, if there is one. -/
  configPath : Option String := none
  deriving DecidableEq, Repr

/-- What arguments ask for instead of what is configured. -/
structure Overrides where
  templatesDir : Option String := none
  devMode : Option Bool := none
  markup : Option Comment.Markup := none
  deriving DecidableEq, Repr

/-- The name of configuration files. -/
def configFileName : String := "pkgdoc.toml"

/-- The directory of templates, unless another is configured. -/
def defaultTemplatesDir : String := "templates"

/-! ## Errors -/

/-- Why settings cannot be loaded. -/
inductive Error where
  | notFound (path : String)
  | unreadable (cause : Files.Error)
  /-- The file is no document, or has a value of a wrong type. -/
  | malformed
  | emptyDirectory
  | narrow (width indent : Nat)
  | unset (name : String)
  deriving DecidableEq, Repr

/-- The wording of an error. What the reader of TOML objects to in a file, which the program adds behind
a colon, is left out. -/
def Error.message : Error → String
  | .notFound path => "Configuration file not found: " ++ path
  | .unreadable cause => "I/O error: " ++ cause.message
  | .malformed => "TOML parse error"
  | .emptyDirectory => "Configuration error: templates.dir cannot be empty"
  | .narrow width indent =>
    "Configuration error: comments.width (" ++ toString width ++
      ") must exceed twice comments.indent (" ++ toString indent ++ ")"
  | .unset name =>
    "Environment variable error in templates.dir: $\x7b" ++ name ++ "\x7d not set"

/-! ## Configuration files -/

/-- What a configuration file says. -/
structure Draft where
  dir : Option String := none
  devMode : Option Bool := none
  comments : Comment.Renderer := {}
  deriving DecidableEq, Repr

/-- The fields of a section, which is a table or an array of the first fields in order. -/
def sectionFields? (names : List String) : Toml.Value → Option (List (Option Toml.Value))
  | .table entries => some (names.map fun name => entries.lookup name)
  | .array items => some ((items.map some ++ names.map fun _ => none).take names.length)
  | _ => none

/-- A field read by `read?`, or a default if it is not given. -/
def fieldOr? {α : Type} (default : α) (read? : Toml.Value → Option α) :
    Option Toml.Value → Option α
  | none => some default
  | some v => read? v

/-- A text. -/
def text? : Toml.Value → Option String
  | .string s => some s
  | _ => none

/-- A truth value. -/
def flag? : Toml.Value → Option Bool
  | .boolean b => some b
  | _ => none

/-- An unsigned integer of 64 bits. -/
def count? : Toml.Value → Option Nat
  | .integer n => if 0 ≤ n ∧ n < 0x10000000000000000 then some n.toNat else none
  | _ => none

/-- The markup of a name. -/
def markupOfName? (name : String) : Option Comment.Markup :=
  if name = "godoc" then some .plain
  else if name = "markdown" then some .markdown
  else none

/-- A markup: its name, or a table with nothing but an empty entry of that name. -/
def markup? : Toml.Value → Option Comment.Markup
  | .string name => markupOfName? name
  | .table [(name, .table [])] => markupOfName? name
  | .table [(name, .array [])] => markupOfName? name
  | _ => none

/-- Reads the section on templates. -/
def readTemplates? (v : Toml.Value) : Option (Option String × Option Bool) := do
  match ← sectionFields? ["dir", "dev_mode"] v with
  | [dir, devMode] =>
    some (← fieldOr? none (fun x => (text? x).map some) dir,
      ← fieldOr? none (fun x => (flag? x).map some) devMode)
  | _ => none

/-- Reads the section on comments. -/
def readComments? (v : Toml.Value) : Option Comment.Renderer := do
  match ← sectionFields? ["syntax", "indent", "width"] v with
  | [markup, indent, width] =>
    let default : Comment.Renderer := {}
    some ⟨← fieldOr? default.markup markup? markup, ← fieldOr? default.indent count? indent,
      ← fieldOr? default.width count? width⟩
  | _ => none

/-- Reads a document. What it does not know it ignores. -/
def readDraft? (entries : List (String × Toml.Value)) : Option Draft := do
  let (dir, devMode) ← fieldOr? (none, none) readTemplates? (entries.lookup "templates")
  let comments ← fieldOr? {} readComments? (entries.lookup "comments")
  some ⟨dir, devMode, comments⟩

/-- A draft with the variables in its directory replaced. -/
def Draft.expanded (lookup : Lookup) (d : Draft) : Except Error Draft :=
  match d.dir with
  | none => .ok d
  | some dir =>
    match expand lookup dir with
    | .ok dir => .ok { d with dir := some dir }
    | .error name => .error (.unset name)

/-- Whether the text of comments has room between the indentations on both sides. -/
def hasRoom (r : Comment.Renderer) : Bool := 2 * r.indent < r.width

/-- Refuses an empty directory, and comments without room for text. -/
def Draft.check (d : Draft) : Except Error Unit :=
  if d.dir = some "" then .error .emptyDirectory
  else if hasRoom d.comments then .ok ()
  else .error (.narrow d.comments.width d.comments.indent)

/-- The settings of a draft in a file. Its directory is taken from the file's. -/
def Draft.settings (d : Draft) (path : String) : Resolved :=
  { templatesDir := Files.join ((Files.parent? path).getD ".") (d.dir.getD defaultTemplatesDir)
    devMode := d.devMode.getD false
    comments := d.comments
    configPath := some path }

/-! ## Loading -/

/-- The variables that a file refers to; none if it cannot be read. -/
def namesInFile (disk : Files.Disk) (path : String) : List String :=
  match disk.readText path with
  | .ok text =>
    match ((Toml.parse? text).bind readDraft?).bind fun draft => draft.dir with
    | some dir => names dir
    | none => []
  | .error _ => []

/-- The settings of a file. -/
def loadFile (disk : Files.Disk) (lookup : Lookup) (path : String) : Except Error Resolved := do
  let text ← match disk.readText path with
    | .ok text => pure text
    | .error cause => .error (.unreadable cause)
  let draft ← match (Toml.parse? text).bind readDraft? with
    | some draft => pure draft
    | none => .error .malformed
  let draft ← draft.expanded lookup
  draft.check
  pure (draft.settings path)

/-- The settings where no file is found, for a directory. -/
def defaults (base : String) : Resolved := { templatesDir := Files.join base defaultTemplatesDir }

/-- The nearest configuration file in the current directory or above it. -/
def discover? (disk : Files.Disk) : Option String :=
  ((Files.ancestors disk.current).map fun dir => Files.join dir configFileName).find? disk.isFile

/-- Settings with overrides. -/
def Resolved.override (s : Resolved) (o : Overrides) : Resolved :=
  { s with
    templatesDir := o.templatesDir.getD s.templatesDir
    devMode := o.devMode.getD s.devMode
    comments := { s.comments with markup := o.markup.getD s.comments.markup } }

/-- The settings without overrides: of the file that is given, or found, or else the defaults for the
current directory. -/
def loadBase (disk : Files.Disk) (lookup : Lookup) (path : Option String) : Except Error Resolved :=
  match path with
  | some path => if disk.exists path then loadFile disk lookup path else .error (.notFound path)
  | none =>
    match discover? disk with
    | some found => loadFile disk lookup found
    | none => .ok (defaults disk.current)

/-- The settings of the file that is given or found, with overrides. -/
def load (disk : Files.Disk) (lookup : Lookup) (path : Option String) (o : Overrides) :
    Except Error Resolved :=
  (loadBase disk lookup path).map fun s => s.override o

end DocPress.Settings
