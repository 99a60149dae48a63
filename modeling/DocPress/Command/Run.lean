import DocPress.Command.Arguments
import DocPress.Json.Parser
import DocPress.Settings.Basic
import DocPress.Template.Registry

/-!
# Running commands

* `World` — what a run can see; `Outcome` — what it leaves behind.
* `Error` — why a run fails; `Error.message` — its wording.
* `render`, `check` — the two commands; `run` — any request.

Specification: section 10.6, `pkgdoc render` and `pkgdoc check`; section 7 for failures.
-/

namespace DocPress.Command

/-- What a run can see: files, variables and the time. -/
structure World where
  disk : Files.Disk
  lookup : Settings.Lookup
  now : Time.Instant

/-- What a run leaves behind. -/
structure Outcome where
  exit : Nat
  stdout : List UInt8
  /-- The lines of the standard error output. -/
  stderr : List String
  disk : Files.Disk

/-- Why a run fails. -/
inductive Error where
  | settings (cause : Settings.Error)
  | template (cause : Template.Error)
  | file (cause : Files.Error)
  /-- The file is not the documentation of a package. -/
  | data (path : String)
  deriving DecidableEq, Repr

/-- The wording of an error. What the reader of JSON objects to in package data, which the program adds
behind a colon, is left out. -/
def Error.message : Error → String
  | .settings cause => cause.message
  | .template cause => cause.message
  | .file cause => cause.message
  | .data path => "Invalid package data in " ++ path

/-- A failure under another type of error. -/
def liftError {ε α : Type} (wrap : ε → Error) : Except ε α → Except Error α
  | .ok x => .ok x
  | .error e => .error (wrap e)

/-- The registry of the templates of some settings. -/
def loadRegistry (w : World) (s : Settings.Resolved) :
    Except Template.LoadError Template.Registry :=
  Template.Registry.load w.disk
    { source := .directory s.templatesDir, devMode := s.devMode, setting := ⟨s.comments, w.now⟩ }

/-- The package that a file documents. A directory can be opened, but is no such file. -/
def readPackage (disk : Files.Disk) (path : String) : Except Error Doc.Package :=
  match disk.read path with
  | .error .isADirectory => .error (.data path)
  | .error cause => .error (.file cause)
  | .ok bytes =>
    match (Text.Utf8.decode? bytes).bind fun text => (Json.parse? text).bind Doc.readPackage? with
    | some p => .ok p
    | none => .error (.data path)

/-! ## Reports -/

/-- The line that tells of a failure. -/
def failureLine (e : Error) : String := "Error: " ++ e.message

/-- How many templates were parsed, in words. -/
def parsedSummary (count : Nat) : String :=
  if count = 1 then "1 template parsed" else toString count ++ " templates parsed"

/-- The lines that tell of a set of templates. -/
def templateLines (dir : String) (names : List String) : List String :=
  ("Templates: " ++ dir) :: names.map (fun name => "  " ++ name) ++ [parsedSummary names.length]

/-- The lines that tell of a response. -/
def responseLines (sink : Template.Sink) : List String :=
  (match sink.status? with
   | some code => ["Status: " ++ toString code]
   | none => []) ++ ["Content-Type: " ++ sink.contentType?.getD "(not set)"]

/-! ## Commands -/

/-- What arguments to render override. -/
def RenderRequest.overrides (r : RenderRequest) : Settings.Overrides :=
  { templatesDir := r.templates
    devMode := if r.dev then some true else none
    markup := if r.markdown then some .markdown else none }

/-- The response to a request to render. -/
def respond (w : World) (r : RenderRequest) : Except Error Template.Sink := do
  let settings ← liftError .settings (Settings.load w.disk w.lookup r.config r.overrides)
  let registry ← liftError (fun e => .template (.load e)) (loadRegistry w settings)
  let package ← readPackage w.disk r.data
  match registry.execute w.disk {} r.template r.status (Template.itemValue (.package package)) with
  | (sink, .ok ()) => pure sink
  | (_, .error cause) => .error (.template cause)

/-- Renders a page, to a file if one is asked for. -/
def render (w : World) (r : RenderRequest) : Except Error Outcome := do
  let sink ← respond w r
  let details := if r.verbose then responseLines sink else []
  match r.output with
  | none => pure ⟨0, sink.body, details, w.disk⟩
  | some path =>
    let disk ← liftError .file (w.disk.write path sink.body)
    pure ⟨0, [], ("Rendered " ++ r.template ++ " to " ++ path) :: details, disk⟩

/-- Parses the templates and lists them. -/
def check (w : World) (r : CheckRequest) : Except Error Outcome := do
  let settings ← liftError .settings
    (Settings.load w.disk w.lookup r.config { templatesDir := r.templates })
  let registry ← liftError (fun e => .template (.load e)) (loadRegistry w settings)
  pure ⟨0, [], templateLines settings.templatesDir registry.names, w.disk⟩

/-- The outcome of a command. A failure changes nothing. -/
def outcome (w : World) : Except Error Outcome → Outcome
  | .ok o => o
  | .error e => ⟨1, [], [failureLine e], w.disk⟩

/-- The name and version of the program. -/
def versionLine : String := "pkgdoc 0.1.0\n"

/-- How the program is called. -/
def usage : String := "Usage: pkgdoc <render|check> [OPTIONS] [DATA]"

/-- Runs a request. -/
def run (w : World) : Request → Outcome
  | .render r => outcome w (render w r)
  | .check r => outcome w (check w r)
  | .version => ⟨0, Text.Utf8.encode versionLine.toList, [], w.disk⟩
  | .help => ⟨0, Text.Utf8.encode (usage ++ "\n").toList, [], w.disk⟩
  | .misuse => ⟨2, [], [usage], w.disk⟩

end DocPress.Command
