import DocPress.Files.Path

/-!
# Content types of templates

* `contentType?` — the content type that a template's name announces.
* `escapesHtml` — whether the output of a template with this name is escaped as HTML.

Specification: section 6, template name and content type.
-/

namespace DocPress.Template

/-- The content types by extension. -/
def contentTypes : List (List Char × String) :=
  [("html".toList, "text/html; charset=utf-8"), ("txt".toList, "text/plain; charset=utf-8")]

/-- The content type of a template, if its extension has one. -/
def contentType? (name : String) : Option String := do
  let extension ← Files.extension? name
  contentTypes.lookup extension

/-- Names that end in one of these are markup. -/
def markupSuffixes : List (List Char) := ["html".toList, "htm".toList, "xml".toList]

/-- Whether values printed by a template with this name are escaped: what follows the last dot
decides, or the whole name if it has none. -/
def escapesHtml (name : String) : Bool :=
  match Files.splitAtLastDot? name.toList with
  | some (_, suffix) => markupSuffixes.contains suffix
  | none => markupSuffixes.contains name.toList

end DocPress.Template
