import DocPress.Template.ContentType
import DocPress.Template.Helper
import DocPress.Template.Tree

/-!
# Evaluating templates

* `Frames` — the variables in sight, `lookup?` and `assign`.
* `Value.attribute?`, `Value.item?`, `Value.elements` — access to the parts of a value.
* `shown` — the text that a value is printed as.
* `Env` — what evaluation depends on besides the variables.
* `Expr.eval` — the value of an expression; `Stmt.run`, `runAll` — the output of pieces.
* `renderWithin`, `render` — the output of a template of a set. Including goes down to a fixed depth.
-/

namespace DocPress.Template

/-! ## Variables -/

/-- The variables in sight, the innermost frame first. A loop has a frame of its own. -/
abbrev Frames := List (List (String × Value))

/-- The value of a variable. -/
def lookup? (frames : Frames) (name : String) : Option Value :=
  frames.findSome? fun frame => frame.lookup name

/-- Frames after an assignment, which is made in the innermost frame. -/
def assign (name : String) (value : Value) : Frames → Frames
  | [] => [[(name, value)]]
  | frame :: outer => ((name, value) :: frame.filter fun entry => entry.1 != name) :: outer

/-! ## Parts of values -/

/-- An attribute: an entry of a map. -/
def Value.attribute? (name : String) : Value → Option Value
  | .map entries => entries.lookup name
  | _ => .none

/-- A value as an index. -/
def Value.index? : Value → Option Int
  | .int n => some n
  | .bool b => some (if b then 1 else 0)
  | .float x => x.toInt?
  | _ => .none

/-- The place in a sequence that an index denotes; a negative one counts from the end. -/
def place? (length : Nat) (index : Int) : Option Nat :=
  if 0 ≤ index then some index.toNat
  else if index.natAbs ≤ length then some (length - index.natAbs)
  else .none

/-- The character of a text at an index. -/
def characterAt? (s : String) (index : Int) : Option Value := do
  let c ← s.toList[(← place? s.length index)]?
  some (.str (String.singleton c))

/-- An item: an entry of a map, or what stands at an index of a list or a string. -/
def Value.item? (target index : Value) : Option Value :=
  match target with
  | .map entries => index.string?.bind fun key => entries.lookup key
  | .list items => do
    let i ← index.index?
    items[(← place? items.length i)]?
  | .str s => index.index?.bind (characterAt? s)
  | .safe s => index.index?.bind (characterAt? s)
  | _ => .none

/-- A part of a value, which is missing if there is none. Nothing has parts if it is missing. -/
def partOf (target : Value) (part : Option Value) : Except Failure Value :=
  match part with
  | some v => .ok v
  | none =>
    match target with
    | .undefined => .error .undefinedAccess
    | _ => .ok .undefined

/-- What a loop over a value goes through: items, keys or characters. -/
def Value.elements : Value → Except Failure (List Value)
  | .undefined => .ok []
  | .none => .ok []
  | .str s => .ok (s.toList.map fun c => .str (String.singleton c))
  | .safe s => .ok (s.toList.map fun c => .str (String.singleton c))
  | .list items => .ok items
  | .map entries => .ok (entries.map fun entry => .str entry.1)
  | _ => .error .invalidOperation

/-! ## Output -/

/-- A character in escaped output. -/
def escapeChar (c : Char) : List Char :=
  if c = '&' then "&amp;".toList
  else if c = '<' then "&lt;".toList
  else if c = '>' then "&gt;".toList
  else if c = '"' then "&quot;".toList
  else if c = '\x27' then "&#x27;".toList
  else if c = '/' then "&#x2f;".toList
  else [c]

/-- The text that a value is printed as. Ready-made markup is never escaped. -/
def shown (escapes : Bool) : Value → List Char
  | .safe s => s.toList
  | v => if escapes then v.printed.flatMap escapeChar else v.printed

/-! ## Expressions -/

/-- What evaluation depends on besides the variables. -/
structure Env where
  setting : Setting
  /-- Whether output is escaped. -/
  escapes : Bool
  /-- How many templates include each other around this one. -/
  level : Nat
  /-- The output of the template that a value names, and the variables after it. -/
  embed : Frames → Value → Except Failure (Frames × List Char)

/-- A call by name: a helper, unless a variable hides it. -/
def callNamed (env : Env) (frames : Frames) (name : String) (args : List Value) :
    Except Failure Value :=
  match lookup? frames name with
  | some _ => .error .invalidOperation
  | none =>
    match Helper.ofName? name with
    | some helper => helper.apply env.setting env.escapes args
    | none => .error .unknownFunction

/-- A call of an attribute. No value can be called. -/
def callAttribute (target : Value) (name : String) : Except Failure Value :=
  match target.attribute? name with
  | some _ => .error .invalidOperation
  | none => .error .unknownMethod

mutual

/-- The value of an expression. -/
def Expr.eval (env : Env) (frames : Frames) : Expr → Except Failure Value
  | .literal v => .ok v
  | .var name => .ok ((lookup? frames name).getD .undefined)
  | .attr target name => do
    let v ← target.eval env frames
    partOf v (v.attribute? name)
  | .item target index => do
    let v ← target.eval env frames
    let i ← index.eval env frames
    partOf v (v.item? i)
  | .call (.var name) args => do
    let values ← evalAll env frames args
    callNamed env frames name values
  | .call (.attr target name) args => do
    let v ← target.eval env frames
    let _ ← evalAll env frames args
    callAttribute v name
  | .call target args => do
    let _ ← target.eval env frames
    let _ ← evalAll env frames args
    .error .invalidOperation
  | .list items => do
    let values ← evalAll env frames items
    pure (.list values)
  | .map entries => do
    let pairs ← evalEntries env frames entries
    pure (.map (pairs.foldl (fun done pair => Value.insert pair.1 pair.2 done) []))
  | .concat left right => do
    let a ← left.eval env frames
    let b ← right.eval env frames
    pure (.str (String.ofList (a.printed ++ b.printed)))
  | .not operand => do
    let v ← operand.eval env frames
    pure (.bool (!v.isTrue))
  | .and left right => do
    let v ← left.eval env frames
    if v.isTrue then right.eval env frames else pure v
  | .or left right => do
    let v ← left.eval env frames
    if v.isTrue then pure v else right.eval env frames

/-- The values of expressions, in order. -/
def evalAll (env : Env) (frames : Frames) : List Expr → Except Failure (List Value)
  | [] => .ok []
  | e :: rest => do
    let v ← e.eval env frames
    let more ← evalAll env frames rest
    pure (v :: more)

/-- The keys and values of entries, in order. A key is the text that its value prints as. -/
def evalEntries (env : Env) (frames : Frames) :
    List (Expr × Expr) → Except Failure (List (String × Value))
  | [] => .ok []
  | (key, value) :: rest => do
    let k ← key.eval env frames
    let v ← value.eval env frames
    let more ← evalEntries env frames rest
    pure ((String.ofList k.printed, v) :: more)

end

/-! ## Statements -/

/-- How deep frames and inclusions may be nested. -/
def depthLimit : Nat := 500

/-- How many frames an inclusion counts for. -/
def includeCost : Nat := 10

/-- Runs a body once for each value of a variable, each time with the variables left before. -/
def each (body : Frames → Except Failure (Frames × List Char)) (name : String) :
    List Value → Frames → Except Failure (Frames × List Char)
  | [], frames => .ok (frames, [])
  | x :: rest, frames => do
    let (frames, out) ← body (assign name x frames)
    let (frames, more) ← each body name rest frames
    pure (frames, out ++ more)

mutual

/-- The variables after a piece, and its output. -/
def Stmt.run (env : Env) (frames : Frames) : Stmt → Except Failure (Frames × List Char)
  | .text content => .ok (frames, content)
  | .emit expr => do
    let v ← expr.eval env frames
    pure (frames, shown env.escapes v)
  | .set name expr => do
    let v ← expr.eval env frames
    pure (assign name v frames, [])
  | .embed name => do
    let v ← name.eval env frames
    env.embed frames v
  | .branch cond yes no => do
    let v ← cond.eval env frames
    if v.isTrue then runAll env frames yes else runAll env frames no
  | .loop name items body empty => do
    let v ← items.eval env frames
    let values ← v.elements
    if depthLimit < includeCost * env.level + frames.length then .error .invalidOperation
    else if values.isEmpty then runAll env frames empty
    else do
      let (inner, out) ← each (fun fs => runAll env fs body) name values ([] :: frames)
      pure (inner.tail, out)

/-- The variables after pieces, and their output. -/
def runAll (env : Env) (frames : Frames) : List Stmt → Except Failure (Frames × List Char)
  | [] => .ok (frames, [])
  | stmt :: rest => do
    let (frames, out) ← stmt.run env frames
    let (frames, more) ← runAll env frames rest
    pure (frames, out ++ more)

end

/-! ## Sets of templates -/

/-- Templates by name, in ascending order of their distinct names. -/
abbrev TemplateSet := List (String × Body)

/-- A set with one more template, which replaces one of the same name. -/
def TemplateSet.insert (name : String) (template : Body) : TemplateSet → TemplateSet
  | [] => [(name, template)]
  | (n, t) :: rest =>
    if name = n then (name, template) :: rest
    else if name < n then (name, template) :: (n, t) :: rest
    else (n, t) :: TemplateSet.insert name template rest

/-- The names that a value includes: one, or several to choose from. -/
def choices : Value → List Value
  | .list items => items
  | .map entries => entries.map fun entry => .str entry.1
  | v => [v]

/-- The output of the first of several names that is a template's. -/
def embedFirst (templates : TemplateSet) (deep : Bool)
    (run : String → Body → Except Failure (Frames × List Char)) (frames : Frames) :
    Bool → List Value → Except Failure (Frames × List Char)
  | tried, [] => if tried then .error .templateNotFound else .ok (frames, [])
  | _, choice :: rest =>
    match choice.string? with
    | none => .error .invalidOperation
    | some name =>
      match templates.lookup name with
      | none => embedFirst templates deep run frames true rest
      | some template =>
        if deep then .error .invalidOperation
        else
          match run name template with
          | .ok result => .ok result
          | .error cause => .error (.inInclude cause)

/-- The variables after a template, and its output. The first number bounds how deep templates may
still include each other, the second says how deep they do. -/
def renderWithin (templates : TemplateSet) (s : Setting) :
    Nat → Nat → Frames → String → Body → Except Failure (Frames × List Char)
  | 0, _, _, _, _ => .error .invalidOperation
  | fuel + 1, level, frames, name, template =>
    let embed (frames : Frames) (v : Value) : Except Failure (Frames × List Char) :=
      embedFirst templates (depthLimit < includeCost * (level + 1) + frames.length)
        (renderWithin templates s fuel (level + 1) frames) frames false (choices v)
    runAll ⟨s, escapesHtml name, level, embed⟩ frames template

/-- The output of a template of a set for some data. As an inclusion counts for several frames,
the limit on the depth is met before the bound on the inclusions. -/
def render (templates : TemplateSet) (s : Setting) (name : String) (template : Body)
    (data : Value) : Except Failure String := do
  let (_, out) ← renderWithin templates s (depthLimit / includeCost + 1) 0 [[("data", data)]] name
    template
  pure (String.ofList out)

end DocPress.Template
