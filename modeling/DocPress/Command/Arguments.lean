/-!
# Arguments of the command line

* `Request` — what the arguments ask for; `RenderRequest`, `CheckRequest` — with their details.
* `Opt` — the options, with their names and the values that they take.
* `scan` — arguments taken apart into options and other words.
* `request` — the request that arguments and the environment make.

Specification: section 10.6, the arguments of `pkgdoc render` and `pkgdoc check`.
-/

namespace DocPress.Command

/-! ## Requests -/

/-- A page to be rendered. -/
structure RenderRequest where
  /-- The file with the documentation of a package. -/
  data : String
  template : String
  status : Nat
  /-- Where the page goes, if not to the standard output. -/
  output : Option String
  config : Option String
  templates : Option String
  dev : Bool
  markdown : Bool
  verbose : Bool
  deriving DecidableEq, Repr

/-- A set of templates to be checked. -/
structure CheckRequest where
  config : Option String
  templates : Option String
  verbose : Bool
  deriving DecidableEq, Repr

/-- What the arguments ask for. -/
inductive Request where
  | render (details : RenderRequest)
  | check (details : CheckRequest)
  | version
  | help
  /-- Nothing that makes sense. -/
  | misuse
  deriving DecidableEq, Repr

/-! ## Options -/

/-- The options of the commands. -/
inductive Opt where
  | template
  | status
  | output
  | config
  | templates
  | dev
  | markdown
  | verbose
  deriving DecidableEq, Repr

/-- The options that rendering takes. -/
def renderOptions : List Opt :=
  [.template, .status, .output, .config, .templates, .dev, .markdown, .verbose]

/-- The options that checking takes. -/
def checkOptions : List Opt := [.config, .templates, .verbose]

/-- The name of an option, which follows two hyphens. -/
def Opt.name : Opt → List Char
  | .template => "template".toList
  | .status => "status".toList
  | .output => "output".toList
  | .config => "config".toList
  | .templates => "templates".toList
  | .dev => "dev".toList
  | .markdown => "markdown".toList
  | .verbose => "verbose".toList

/-- The letter of an option, which follows one hyphen. -/
def Opt.letter? : Opt → Option Char
  | .template => some 't'
  | .status => some 's'
  | .output => some 'o'
  | .config => some 'c'
  | .verbose => some 'v'
  | _ => none

/-- Whether a value belongs to an option. -/
def Opt.takesValue : Opt → Bool
  | .dev => false
  | .markdown => false
  | .verbose => false
  | _ => true

/-- The number that a text spells, with or without a sign. -/
def number? (text : String) : Option Int :=
  let (sign, digits) : Int × List Char := match text.toList with
    | '-' :: rest => (-1, rest)
    | '+' :: rest => (1, rest)
    | rest => (1, rest)
  if digits.isEmpty || !digits.all Char.isDigit then none
  else some (sign * (digits.foldl (fun n c => 10 * n + (c.toNat - '0'.toNat)) 0 : Nat))

/-- The status code that a text spells: an unsigned integer of 16 bits. -/
def statusCode? (text : String) : Option Nat := do
  let n ← number? text
  if 0 ≤ n ∧ n < 0x10000 then some n.toNat else none

/-- Whether an option takes this value. No path is empty. -/
def Opt.admits (o : Opt) (value : String) : Bool :=
  match o with
  | .status => (statusCode? value).isSome
  | .output => !value.isEmpty
  | .config => !value.isEmpty
  | .templates => !value.isEmpty
  | _ => true

/-! ## Scanning -/

/-- Why scanning stops early. -/
inductive Stop where
  | help
  | misuse
  deriving DecidableEq, Repr

/-- Options with their values, and the other words. -/
structure Scanned where
  options : List (Opt × String) := []
  words : List String := []
  deriving DecidableEq, Repr

/-- One more option, which was not given before. -/
def Scanned.add (s : Scanned) (o : Opt) (value : String) : Except Stop Scanned :=
  if (s.options.lookup o).isSome || !o.admits value then .error .misuse
  else .ok { s with options := s.options ++ [(o, value)] }

/-- What an argument that begins with a hyphen asks for. -/
inductive Mark where
  /-- All further arguments are words. -/
  | stop
  /-- An option by name, perhaps with its value after an equals sign. -/
  | long (name : List Char) (value : Option String)
  /-- Options by letter. -/
  | short (letters : List Char)
  /-- No option at all. -/
  | word
  deriving DecidableEq, Repr

/-- What an argument looks like. A lone hyphen is a word. -/
def Mark.of (arg : String) : Mark :=
  match arg.toList with
  | ['-', '-'] => .stop
  | '-' :: '-' :: rest =>
    match rest.span (· != '=') with
    | (name, _ :: value) => .long name (some (String.ofList value))
    | (name, []) => .long name none
  | '-' :: c :: rest => .short (c :: rest)
  | _ => .word

/-- Options given by letters, and the one that still waits for its value. -/
def letters (allowed : List Opt) : Scanned → List Char → Except Stop (Scanned × Option Opt)
  | s, [] => .ok (s, none)
  | s, c :: rest =>
    match allowed.find? fun o => o.letter? == some c with
    | none => .error (if c = 'h' then .help else .misuse)
    | some o =>
      if !o.takesValue then do
        let s ← s.add o ""
        letters allowed s rest
      else
        match rest with
        | [] => .ok (s, some o)
        | '=' :: value => (s.add o (String.ofList value)).map fun s => (s, none)
        | value => (s.add o (String.ofList value)).map fun s => (s, none)

/-- What one argument adds, and the option that waits for its value after it. -/
def argument (allowed : List Opt) (s : Scanned) (arg : String) :
    Except Stop (Scanned × Option Opt) :=
  match Mark.of arg with
  | .stop => .ok (s, none)
  | .word => .ok ({ s with words := s.words ++ [arg] }, none)
  | .short cs => letters allowed s cs
  | .long name value =>
    match allowed.find? fun o => o.name == name with
    | none => .error (if name = "help".toList ∧ value = none then .help else .misuse)
    | some o =>
      match o.takesValue, value with
      | true, some v => (s.add o v).map fun s => (s, none)
      | true, none => .ok (s, some o)
      | false, some _ => .error .misuse
      | false, none => (s.add o "").map fun s => (s, none)

/-- Arguments taken apart, the first of them being the value of an option that waits for one. -/
def scan (allowed : List Opt) : Option Opt → Scanned → List String → Except Stop Scanned
  | none, s, [] => .ok s
  | some _, _, [] => .error .misuse
  | some o, s, arg :: rest =>
    if Mark.of arg = .word then do
      let s ← s.add o arg
      scan allowed none s rest
    else .error .misuse
  | none, s, arg :: rest =>
    if Mark.of arg = .stop then .ok { s with words := s.words ++ rest }
    else do
      let (s, waiting) ← argument allowed s arg
      scan allowed waiting s rest

/-! ## The request -/

/-- The value of an option. -/
def Scanned.value? (s : Scanned) (o : Opt) : Option String := s.options.lookup o

/-- Whether an option is given. -/
def Scanned.has (s : Scanned) (o : Opt) : Bool := (s.options.lookup o).isSome

/-- The variable that names the directory of templates. -/
def templatesVariable : String := "PKGDOC_TEMPLATES"

/-- The directory of templates: the option's value, or else the environment's, which is no path if it
is empty. -/
def templatesOf (env : Option String) (s : Scanned) : Except Stop (Option String) :=
  match s.value? .templates, env with
  | some dir, _ => .ok (some dir)
  | none, some dir => if dir.isEmpty then .error .misuse else .ok (some dir)
  | none, none => .ok none

/-- The request to render. -/
def renderRequest (env : Option String) (s : Scanned) : Except Stop Request := do
  let templates ← templatesOf env s
  match s.words with
  | [data] =>
    if data.isEmpty then .error .misuse
    else
      pure (.render {
        data
        template := (s.value? .template).getD "package.html"
        status := ((s.value? .status).bind statusCode?).getD 200
        output := s.value? .output
        config := s.value? .config
        templates
        dev := s.has .dev
        markdown := s.has .markdown
        verbose := s.has .verbose })
  | _ => .error .misuse

/-- The request to check. -/
def checkRequest (env : Option String) (s : Scanned) : Except Stop Request := do
  let templates ← templatesOf env s
  match s.words with
  | [] => pure (.check ⟨s.value? .config, templates, s.has .verbose⟩)
  | _ => .error .misuse

/-- The request that scanning ended with. -/
def settle : Except Stop Request → Request
  | .ok r => r
  | .error .help => .help
  | .error .misuse => .misuse

/-- The request that arguments make, with the directory of templates that the environment names. -/
def request (env : Option String) : List String → Request
  | [] => .misuse
  | "render" :: rest => settle (scan renderOptions none {} rest >>= renderRequest env)
  | "check" :: rest => settle (scan checkOptions none {} rest >>= checkRequest env)
  | arg :: _ =>
    match Mark.of arg with
    | .long name none =>
      if name = "version".toList then .version
      else if name = "help".toList then .help
      else .misuse
    | .short (c :: _) => if c = 'V' then .version else if c = 'h' then .help else .misuse
    | _ => if arg = "help" then .help else .misuse

end DocPress.Command
