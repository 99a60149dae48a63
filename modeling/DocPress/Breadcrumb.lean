import DocPress.Html.Escape
import DocPress.Text.Utf8
import DocPress.Url.Path

/-!
# Breadcrumb trails

The trail of a package leads from its project root, or from the index of the standard packages, to
the package itself.

* `Crumb` — one entry of a trail.
* `steps` — a path cut at its slashes, up to the first empty step.
* `trail` — the trail of an import path with a project root of a given length in bytes.
* `html` — the trail as links.

Specification: section 4.5 (Breadcrumb Builder), helper `breadcrumbs`.
-/

namespace DocPress.Breadcrumb

/-- The index page of the standard packages. -/
def standardPackagesPath : String := "/-/go"

/-- One entry of a trail. -/
inductive Crumb where
  /-- The index of the standard packages, shown for paths without a project root. -/
  | standard
  /-- An ancestor of the page: the step's name and the path up to it. -/
  | segment (label path : List Char)
  /-- The page itself. -/
  | current (label : List Char)
  deriving DecidableEq, Repr

/-- The first step of a path and what follows its slash; none if there is no slash or it leads. -/
def firstStep? (path : List Char) : Option (List Char × List Char) :=
  match path.span fun c => c != '/' with
  | (_, []) => none
  | ([], _) => none
  | (step, _ :: rest) => some (step, rest)

/-- The crumbs below a part of the path already walked, with the steps left to take bounded. -/
def stepsFrom : Nat → List Char → List Char → List Crumb
  | 0, _, rest => [.current rest]
  | n + 1, walked, rest =>
    match firstStep? rest with
    | none => [.current rest]
    | some (step, rest') =>
      .segment step (walked ++ step) :: stepsFrom n (walked ++ step ++ ['/']) rest'

/-- The crumbs of the part of a path that follows what is walked. -/
def steps (walked rest : List Char) : List Crumb := stepsFrom rest.length walked rest

/-- The trail of an import path whose first `rootLength` bytes name the project. -/
def trailOf (path : List Char) (rootLength : Nat) : List Crumb :=
  if rootLength = 0 then
    .standard :: steps [] path
  else
    match Text.Utf8.splitAtByte? rootLength path with
    | some (root, '/' :: rest) => .segment root root :: steps (root ++ ['/']) rest
    | _ => [.current path]

/-- The trail of an import path. -/
def trail (path : String) (rootLength : Nat) : List Crumb := trailOf path.toList rootLength

/-- One crumb in HTML. -/
def Crumb.html : Crumb → List Char
  | .standard =>
    "<a href=\"".toList ++ standardPackagesPath.toList ++ "\" title=\"Standard Packages\">☆</a> ".toList
  | .segment label path =>
    "<a href=\"".toList ++ Html.escapeText (Url.pathOf ('/' :: path)) ++ "\">".toList ++
      Html.escapeText label ++ "</a>/".toList
  | .current label => Html.escapeText label

/-- The trail of an import path in HTML. -/
def html (path : String) (rootLength : Nat) : String :=
  String.ofList ((trail path rootLength).flatMap Crumb.html)

end DocPress.Breadcrumb
