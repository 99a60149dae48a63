/-!
# Replacing a pattern

* `replaceAll` — every occurrence of a fixed pattern, found from left to right without overlap,
  replaced by another text.
-/

namespace DocPress.Text

/-- Replacement after `skip` further characters of an occurrence already replaced. -/
def replaceFrom (pattern replacement : List Char) : Nat → List Char → List Char
  | _, [] => []
  | skip + 1, _ :: rest => replaceFrom pattern replacement skip rest
  | 0, c :: rest =>
    if pattern.isPrefixOf (c :: rest) then
      replacement ++ replaceFrom pattern replacement (pattern.length - 1) rest
    else
      c :: replaceFrom pattern replacement 0 rest

/-- The text with each occurrence of a non-empty pattern replaced, from left to right. -/
def replaceAll (pattern replacement s : List Char) : List Char :=
  replaceFrom pattern replacement 0 s

end DocPress.Text
