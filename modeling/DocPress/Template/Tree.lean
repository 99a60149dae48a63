import DocPress.Template.Value

/-!
# Template trees

* `Expr` — an expression; `Stmt` — a piece of a template; `Body` — the pieces of a template in order.
-/

namespace DocPress.Template

/-- An expression. -/
inductive Expr where
  | literal (value : Value)
  | var (name : String)
  | attr (target : Expr) (name : String)
  | item (target index : Expr)
  | call (target : Expr) (args : List Expr)
  | list (items : List Expr)
  | map (entries : List (Expr × Expr))
  | concat (left right : Expr)
  | not (operand : Expr)
  | and (left right : Expr)
  | or (left right : Expr)

/-- A piece of a template. -/
inductive Stmt where
  | text (content : List Char)
  | emit (expr : Expr)
  | set (name : String) (expr : Expr)
  | embed (name : Expr)
  | branch (cond : Expr) (yes no : List Stmt)
  /-- The body for each item; the last part if there is none. -/
  | loop (name : String) (items : Expr) (body empty : List Stmt)

/-- The pieces of a parsed template. -/
abbrev Body := List Stmt

end DocPress.Template
