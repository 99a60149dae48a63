import DocPress.Html.Escape
import DocPress.Text.Replace
import DocPress.Url.Path

/-!
# Import paths

Import paths are slash-separated names of packages.

* `commandName` — the last element of a path, which names a command.
* `displayed` — a path for display, with break opportunities if it is long.
* `relativeTo` — a path below a parent path, shown without the parent.

Specification: section 10.4, helpers `commandName`, `importPath` and `relativePath`.
-/

namespace DocPress.ImportPath

/-- Escaped paths longer than this number of bytes get break opportunities. -/
def breakableLength : Nat := 45

/-- The last element of a path. -/
def lastElement (path : List Char) : List Char :=
  (path.reverse.takeWhile fun c => c != '/').reverse

/-- The name of the command at a path, in HTML. -/
def commandName (path : String) : String :=
  String.ofList (Html.escapeText (lastElement path.toList))

/-- A zero-width space after each slash. -/
def withBreaks (path : List Char) : List Char :=
  Text.replaceAll "/".toList "/&#8203;".toList path

/-- A path for display: URL-formatted, and breakable after each slash if it is long. -/
def displayedText (path : List Char) : List Char :=
  let url := Url.pathOf path
  if url.length > breakableLength then withBreaks url else url

/-- A path for display. -/
def displayed (path : String) : String := String.ofList (displayedText path.toList)

/-- What follows `parent` and a slash in `path`, if both it and `parent` are not empty. -/
def below? (parent path : List Char) : Option (List Char) :=
  match parent.isPrefixOf? path with
  | some ('/' :: c :: rest) => if parent.isEmpty then none else some (c :: rest)
  | _ => none

/-- A path as URL path, without the parent if it lies strictly below the parent. -/
def relativeTo (path : String) (parent : Option String) : String :=
  let whole := path.toList
  let shown := ((parent.bind fun p => below? p.toList whole)).getD whole
  String.ofList (Url.pathOf shown)

end DocPress.ImportPath
