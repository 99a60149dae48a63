import DocPress.Template.Token

/-!
# Reading templates

* `expression?` — an expression; `oneExpression?` — tokens that are nothing else.
* `body?` — pieces up to a tag that ends them; `parse?` — a template.
-/

namespace DocPress.Template

/-! ## Expressions -/

/-- Values that have a name of their own. -/
def namedValue? (name : String) : Option Value :=
  if name = "true" ∨ name = "True" then some (.bool true)
  else if name = "false" ∨ name = "False" then some (.bool false)
  else if name = "none" ∨ name = "None" then some .none
  else none

/-- The names of operators. -/
def isOperatorName (name : String) : Bool := name == "not" || name == "and" || name == "or"

mutual

/-- Alternatives: `or` binds least. -/
def expression? : Nat → List Token → Option (Expr × List Token)
  | 0, _ => none
  | fuel + 1, s => do
    let (first, s) ← conjunction? fuel s
    moreAlternatives? fuel first s

/-- Further alternatives after one. -/
def moreAlternatives? : Nat → Expr → List Token → Option (Expr × List Token)
  | 0, _, _ => none
  | fuel + 1, left, s =>
    match s with
    | .word "or" :: rest => do
      let (right, s) ← conjunction? fuel rest
      moreAlternatives? fuel (.or left right) s
    | _ => some (left, s)

/-- Conditions joined by `and`. -/
def conjunction? : Nat → List Token → Option (Expr × List Token)
  | 0, _ => none
  | fuel + 1, s => do
    let (first, s) ← negation? fuel s
    moreConditions? fuel first s

/-- Further conditions after one. -/
def moreConditions? : Nat → Expr → List Token → Option (Expr × List Token)
  | 0, _, _ => none
  | fuel + 1, left, s =>
    match s with
    | .word "and" :: rest => do
      let (right, s) ← negation? fuel rest
      moreConditions? fuel (.and left right) s
    | _ => some (left, s)

/-- A negation, or a concatenation. -/
def negation? : Nat → List Token → Option (Expr × List Token)
  | 0, _ => none
  | fuel + 1, s =>
    match s with
    | .word "not" :: rest => (negation? fuel rest).map fun (e, s) => (.not e, s)
    | _ => do
      let (first, s) ← operand? fuel s
      moreParts? fuel first s

/-- Further parts of a concatenation after one. -/
def moreParts? : Nat → Expr → List Token → Option (Expr × List Token)
  | 0, _, _ => none
  | fuel + 1, left, s =>
    match s with
    | .mark '~' :: rest => do
      let (right, s) ← operand? fuel rest
      moreParts? fuel (.concat left right) s
    | _ => some (left, s)

/-- A value with the accesses after it. -/
def operand? : Nat → List Token → Option (Expr × List Token)
  | 0, _ => none
  | fuel + 1, s =>
    match s with
    | .literal v :: rest => accesses? fuel (.literal v) rest
    | .word name :: rest =>
      match namedValue? name with
      | some v => accesses? fuel (.literal v) rest
      | none => if isOperatorName name then none else accesses? fuel (.var name) rest
    | .mark c :: rest =>
      if c == '(' then do
        let (e, s) ← expression? fuel rest
        match s with
        | .mark ')' :: after => accesses? fuel e after
        | _ => none
      else if c == '[' then do
        let (items, s) ← arguments? fuel ']' rest
        accesses? fuel (.list items) s
      else if c == '\x7b' then do
        let (entries, s) ← entries? fuel rest
        accesses? fuel (.map entries) s
      else none
    | [] => none

/-- Attributes, items and calls after a value. -/
def accesses? : Nat → Expr → List Token → Option (Expr × List Token)
  | 0, _, _ => none
  | fuel + 1, target, s =>
    match s with
    | .mark '.' :: .word name :: rest => accesses? fuel (.attr target name) rest
    | .mark '.' :: _ => none
    | .mark '[' :: rest => do
      let (index, s) ← expression? fuel rest
      match s with
      | .mark ']' :: after => accesses? fuel (.item target index) after
      | _ => none
    | .mark '(' :: rest => do
      let (args, s) ← arguments? fuel ')' rest
      accesses? fuel (.call target args) s
    | _ => some (target, s)

/-- Expressions separated by commas up to a closing mark. -/
def arguments? : Nat → Char → List Token → Option (List Expr × List Token)
  | 0, _, _ => none
  | fuel + 1, close, s =>
    match s with
    | .mark c :: rest =>
      if c == close then some ([], rest) else moreArguments? fuel close (.mark c :: rest)
    | _ => moreArguments? fuel close s

/-- At least one more expression up to a closing mark. -/
def moreArguments? : Nat → Char → List Token → Option (List Expr × List Token)
  | 0, _, _ => none
  | fuel + 1, close, s => do
    let (e, s) ← expression? fuel s
    match s with
    | .mark c :: rest =>
      if c == ',' then
        let (more, s) ← arguments? fuel close rest
        some (e :: more, s)
      else if c == close then some ([e], rest)
      else none
    | _ => none

/-- Entries of a map up to its closing brace. -/
def entries? : Nat → List Token → Option (List (Expr × Expr) × List Token)
  | 0, _ => none
  | fuel + 1, s =>
    match s with
    | .mark '\x7d' :: rest => some ([], rest)
    | _ => do
      let (key, s) ← expression? fuel s
      match s with
      | .mark ':' :: rest =>
        let (value, s) ← expression? fuel rest
        match s with
        | .mark c :: rest =>
          if c == ',' then
            let (more, s) ← entries? fuel rest
            some ((key, value) :: more, s)
          else if c == '\x7d' then some ([(key, value)], rest)
          else none
        | _ => none
      | _ => none

end

/-- The expression that tokens are. -/
def oneExpression? (tokens : List Token) : Option Expr :=
  match expression? (12 * tokens.length + 12) tokens with
  | some (e, []) => some e
  | _ => none

/-! ## Statements -/

/-- Names that cannot be assigned to. -/
def reservedNames : List String :=
  ["true", "True", "false", "False", "none", "None", "loop", "self"]

/-- Whether a name can be assigned to. -/
def isAssignable (name : String) : Bool := !reservedNames.contains name

/-- Whether a word ends the pieces before it. -/
def isClosing (word : String) : Bool :=
  word == "elif" || word == "else" || word == "endif" || word == "endfor"

mutual

/-- Pieces up to the end, or up to a tag that ends them: its tokens, and what follows. -/
def body? : Nat → List Chunk → Option (List Stmt × Option (List Token) × List Chunk)
  | 0, _ => none
  | fuel + 1, s =>
    match s with
    | [] => some ([], none, [])
    | .text t :: rest => after? fuel (.text t) rest
    | .output tokens :: rest => do
      let e ← oneExpression? tokens
      after? fuel (.emit e) rest
    | .block tokens :: rest =>
      match tokens with
      | .word name :: args =>
        if isClosing name then some ([], some tokens, rest)
        else if name == "if" then do
          let (stmt, rest) ← branch? fuel args rest
          after? fuel stmt rest
        else if name == "for" then do
          let (stmt, rest) ← loop? fuel args rest
          after? fuel stmt rest
        else if name == "set" then
          match args with
          | .word target :: .mark '=' :: value => do
            let e ← oneExpression? value
            if isAssignable target then after? fuel (.set target e) rest else none
          | _ => none
        else if name == "include" then do
          let e ← oneExpression? args
          after? fuel (.embed e) rest
        else none
      | _ => none

/-- A piece and those after it. -/
def after? : Nat → Stmt → List Chunk → Option (List Stmt × Option (List Token) × List Chunk)
  | 0, _, _ => none
  | fuel + 1, stmt, s => do
    let (more, stop, rest) ← body? fuel s
    some (stmt :: more, stop, rest)

/-- A conditional after its condition's tokens, up to its end. -/
def branch? : Nat → List Token → List Chunk → Option (Stmt × List Chunk)
  | 0, _, _ => none
  | fuel + 1, cond, s => do
    let e ← oneExpression? cond
    let (yes, stop, s) ← body? fuel s
    match stop with
    | some [.word "endif"] => some (.branch e yes [], s)
    | some (.word "elif" :: cond) =>
      let (no, s) ← branch? fuel cond s
      some (.branch e yes [no], s)
    | some [.word "else"] =>
      let (no, stop, s) ← body? fuel s
      match stop with
      | some [.word "endif"] => some (.branch e yes no, s)
      | _ => none
    | _ => none

/-- A loop after its tokens, up to its end. -/
def loop? : Nat → List Token → List Chunk → Option (Stmt × List Chunk)
  | 0, _, _ => none
  | fuel + 1, head, s =>
    match head with
    | .word name :: .word "in" :: items => do
      let e ← oneExpression? items
      if !isAssignable name then none
      let (body, stop, s) ← body? fuel s
      match stop with
      | some [.word "endfor"] => some (.loop name e body [], s)
      | some [.word "else"] =>
        let (empty, stop, s) ← body? fuel s
        match stop with
        | some [.word "endfor"] => some (.loop name e body empty, s)
        | _ => none
      | _ => none
    | _ => none

end

/-- Reads a template; none if it is malformed. -/
def parse? (source : String) : Option Body := do
  let chunks ← chunks? source.toList
  match body? (4 * chunks.length + 4) chunks with
  | some (stmts, none, []) => some stmts
  | _ => none

end DocPress.Template
