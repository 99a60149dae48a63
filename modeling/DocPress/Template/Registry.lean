import DocPress.Files.Tree
import DocPress.Template.Evaluation
import DocPress.Template.Parser
import DocPress.Template.Response

/-!
# Registries of templates

* `Source` — where templates come from; `Options` — a source and how pages are rendered.
* `LoadError`, `Error` — why templates cannot be loaded or a page cannot be made, and `message`.
* `sources` — the names and texts of templates; `build` — the set that they make.
* `Registry` — options and the set last built; `load`, `reload`, `names`.
* `Registry.page`, `Registry.execute` — a page, and its way to a sink. A page that cannot be made
  leaves the sink alone.

Specification: sections 4.7 and 10.5 (Template Execution Facade), `load`, `reload` and `execute`.
-/

namespace DocPress.Template

/-- Where templates come from. -/
inductive Source where
  /-- The files of a directory. -/
  | directory (path : String)
  /-- Names and texts. -/
  | memory (templates : List (String × String))
  deriving DecidableEq, Repr

/-- How templates are found and pages rendered. -/
structure Options where
  source : Source
  /-- Whether the templates are read anew for each page. -/
  devMode : Bool := false
  setting : Setting
  deriving DecidableEq, Repr

/-! ## Errors -/

/-- Why templates cannot be loaded. -/
inductive LoadError where
  | noDirectory (path : String)
  | unreadable (path : String) (cause : Files.Error)
  | malformed (name : String)
  deriving DecidableEq, Repr

/-- The wording of a load error. What the template engine objects to in a text, which the program adds
behind a colon, is left out. -/
def LoadError.message : LoadError → String
  | .noDirectory path => "Failed to read template " ++ path ++ ": template directory not found"
  | .unreadable path cause => "Failed to read template " ++ path ++ ": " ++ cause.message
  | .malformed name => "Failed to parse template " ++ name

/-- Why a page cannot be made or delivered. -/
inductive Error where
  | load (cause : LoadError)
  | unknown (name : String)
  | failed (name : String) (cause : Failure)
  | unwritten (cause : WriteError)
  deriving DecidableEq, Repr

/-- The wording of an error. What the template engine objects to while a page is rendered, which the
program adds behind a colon, is left out. -/
def Error.message : Error → String
  | .load cause => cause.message
  | .unknown name => "Template not found: " ++ name
  | .failed name _ => "Failed to render template " ++ name
  | .unwritten cause => "Failed to write response: " ++ cause.message

/-! ## Sources -/

/-- The extensions of template files, in the order in which they are read. -/
def templateExtensions : List (List Char) := ["html".toList, "txt".toList]

/-- A path one piece further. The current directory is left out in front of other pieces. -/
def enter? (path : String) (piece : List Char) : Option String :=
  if path = "." then if piece = [] then none else some (String.ofList piece)
  else some (Files.join path (String.ofList piece))

/-- The path under which the entries of a directory are found. -/
def listingPath? (dir : String) : Option String :=
  if Files.isAbsolute dir then (Files.parts dir.toList).tail.foldlM enter? "/"
  else (Files.parts dir.toList).foldlM enter? "."

/-- Whether a name ends in a dot and an extension. -/
def hasExtension (extension : List Char) (name : String) : Bool :=
  ('.' :: extension).isSuffixOf name.toList

/-- The names of the files in a directory that have an extension. Names that are not text do not
count. -/
def namesWith (disk : Files.Disk) (path : String) (extension : List Char) : List String :=
  ((disk.names path).filterMap Text.Utf8.decode?).filter (hasExtension extension)

/-- A template file's name and text. -/
def readTemplate (disk : Files.Disk) (path name : String) : Except LoadError (String × String) :=
  match enter? path name.toList with
  | none => .error (.unreadable name .notFound)
  | some file =>
    match disk.readText file with
    | .ok text => .ok (name, text)
    | .error cause => .error (.unreadable file cause)

/-- The names and texts of the templates in a directory. -/
def readDirectory (disk : Files.Disk) (dir : String) : Except LoadError (List (String × String)) :=
  if disk.isDirectory dir then
    match listingPath? dir with
    | none => .ok []
    | some path => (templateExtensions.flatMap (namesWith disk path)).mapM (readTemplate disk path)
  else .error (.noDirectory dir)

/-- The names and texts of the templates of a source. -/
def sources (disk : Files.Disk) : Source → Except LoadError (List (String × String))
  | .directory dir => readDirectory disk dir
  | .memory templates => .ok templates

/-- A set with one more template, given by its text. -/
def addSource (templates : TemplateSet) (entry : String × String) : Except LoadError TemplateSet :=
  match parse? entry.2 with
  | some template => .ok (TemplateSet.insert entry.1 template templates)
  | none => .error (.malformed entry.1)

/-- The set of the templates of a source. All are read before the first is parsed. -/
def build (disk : Files.Disk) (source : Source) : Except LoadError TemplateSet := do
  let entries ← sources disk source
  entries.foldlM addSource []

/-! ## Registries -/

/-- Options, and the set of templates that was built last. -/
structure Registry where
  options : Options
  templates : TemplateSet

/-- The registry of a source as it is now. -/
def Registry.load (disk : Files.Disk) (options : Options) : Except LoadError Registry := do
  let templates ← build disk options.source
  pure ⟨options, templates⟩

/-- The registry with its set built anew, or as it was if that fails. -/
def Registry.reload (r : Registry) (disk : Files.Disk) : Registry × Except LoadError Unit :=
  match build disk r.options.source with
  | .ok templates => ({ r with templates := templates }, .ok ())
  | .error cause => (r, .error cause)

/-- The names of the templates, in ascending order. -/
def Registry.names (r : Registry) : List String := r.templates.map fun entry => entry.1

/-- The set that pages are made from. -/
def Registry.inUse (r : Registry) (disk : Files.Disk) : Except LoadError TemplateSet :=
  if r.options.devMode then build disk r.options.source else .ok r.templates

/-- A page of a set of templates. -/
def pageOf (s : Setting) (templates : TemplateSet) (name : String) (data : Value) :
    Except Error String :=
  match templates.lookup name with
  | none => .error (.unknown name)
  | some template =>
    match render templates s name template data with
    | .ok body => .ok body
    | .error cause => .error (.failed name cause)

/-- The page that a template makes of data. -/
def Registry.page (r : Registry) (disk : Files.Disk) (name : String) (data : Value) :
    Except Error String :=
  match r.inUse disk with
  | .ok templates => pageOf r.options.setting templates name data
  | .error cause => .error (.load cause)

/-- A sink after the page of a template was sent to it. -/
def Registry.execute (r : Registry) (disk : Files.Disk) (sink : Sink) (name : String) (status : Nat)
    (data : Value) : Sink × Except Error Unit :=
  match r.page disk name data with
  | .error cause => (sink, .error cause)
  | .ok body =>
    match sink.deliver (contentType? name) status (Text.Utf8.encode body.toList) with
    | (sink, .ok ()) => (sink, .ok ())
    | (sink, .error cause) => (sink, .error (.unwritten cause))

/-- A documentation item as data for templates. -/
def itemValue (item : Doc.Item) : Value := Value.ofJson item.toJson

/-! ## Description -/

/-- Text between braces. -/
def braced (content : String) : String := "\x7b " ++ content ++ " \x7d"

/-- A text in quotation marks. -/
def quoted (s : String) : String := String.ofList (Text.quote s.toList)

/-- A source in words. -/
def Source.description : Source → String
  | .directory path => "Dir(" ++ quoted path ++ ")"
  | .memory templates =>
    let entry (t : String × String) : String := "(" ++ quoted t.1 ++ ", " ++ quoted t.2 ++ ")"
    "Memory([" ++ ", ".intercalate (templates.map entry) ++ "])"

/-- A registry in words: its options, but not its templates. -/
def Registry.description (r : Registry) : String :=
  let comments := r.options.setting.comments
  let layout := "indent: " ++ toString comments.indent ++ ", width: " ++ toString comments.width
  let options := "source: " ++ r.options.source.description ++
    ", dev_mode: " ++ (if r.options.devMode then "true" else "false") ++
    ", comments: CommentRenderer " ++ braced (layout ++ ", ..") ++ ", .."
  "TemplateRegistry " ++ braced ("config: RegistryConfig " ++ braced options ++ ", ..")

end DocPress.Template
