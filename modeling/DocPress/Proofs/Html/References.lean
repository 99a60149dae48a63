import DocPress.Html.Entity
import Mathlib.Data.List.Basic

/-!
# Text with its character references read

A reader of HTML replaces the character references of a text, those by number and those by name. It
has a table of names, about which only this is needed: they consist of letters, digits and
semicolons, and stand for no more characters than they have.

* `NamedReferences` — a table of names; `NamedReferences.at?` — the name that a text begins with.
* `decodeReferences` — a text with its references read, from left to right.
* `HoldsName` — some ampersand of a text begins a reference by name.

Principal results: `decodeReferences_reference`, `decodeReferences_name` — at a reference its
characters are read, and what follows is read on its own; `decodeReferences_kept` — all other
characters are kept; `holdsName_cons` — where the names of a text begin.
-/

namespace DocPress.Html

/-- A table of references by name. -/
structure NamedReferences where
  /-- Names as they stand behind an ampersand, with the semicolon if it belongs to the name, and the
  characters that they stand for. Of two that fit, the first is read. -/
  entries : List (List Char × List Char)
  solid : ∀ e ∈ entries, e.1 ≠ [] ∧ e.1.all (fun c => c.isAlphanum || c == ';') = true
  short : ∀ e ∈ entries, e.2.length ≤ e.1.length

/-- The names of the characters of markup, which may also be written without the semicolon. -/
def markupNames : NamedReferences where
  entries :=
    [("amp;".toList, ['&']), ("lt;".toList, ['<']), ("gt;".toList, ['>']), ("quot;".toList, ['\x22']),
      ("amp".toList, ['&']), ("lt".toList, ['<']), ("gt".toList, ['>']), ("quot".toList, ['\x22'])]
  solid := by decide
  short := by decide

variable (names : NamedReferences)

/-- The reference by name that a text behind an ampersand begins with: its characters, and what
follows it. -/
def NamedReferences.at? (s : List Char) : Option (List Char × List Char) :=
  names.entries.findSome? fun e => (e.1.isPrefixOf? s).map fun rest => (e.2, rest)

/-- The reference that a text behind an ampersand begins with. -/
def referenceAt? (s : List Char) : Option (List Char × List Char) :=
  if s.head? = some '#' then entityAt? ('&' :: s) else names.at? s

/-- The text with its references read, after `skip` further characters of one already read. -/
def decodeReferencesFrom : Nat → List Char → List Char
  | _, [] => []
  | skip + 1, _ :: rest => decodeReferencesFrom skip rest
  | 0, c :: rest =>
    if c = '&' then
      match referenceAt? names rest with
      | some (chars, after) => chars ++ decodeReferencesFrom (rest.length - after.length) rest
      | none => c :: decodeReferencesFrom 0 rest
    else c :: decodeReferencesFrom 0 rest

/-- The text with its references read, from left to right. -/
def decodeReferences (s : List Char) : List Char := decodeReferencesFrom names 0 s

/-- Some ampersand of a text begins a reference by name. -/
def HoldsName (s : List Char) : Prop :=
  ∃ before after, s = before ++ '&' :: after ∧ names.at? after ≠ none

variable {names}

/-! ## Names -/

theorem NamedReferences.slash_not_mem {e : List Char × List Char} (he : e ∈ names.entries) :
    '/' ∉ e.1 := by
  intro hslash
  exact absurd (List.all_eq_true.mp (names.solid e he).2 '/' hslash) (by decide)

/-- A name that is read stands at the beginning, and is not shorter than what it stands for. -/
theorem NamedReferences.at?_eq_some {s chars after : List Char}
    (h : names.at? s = some (chars, after)) :
    ∃ name, s = name ++ after ∧ chars.length ≤ name.length := by
  obtain ⟨e, he, hread⟩ := List.exists_of_findSome?_eq_some h
  obtain ⟨rest, hrest, hpair⟩ := Option.map_eq_some_iff.mp hread
  obtain ⟨rfl, rfl⟩ := Prod.mk.inj hpair
  exact ⟨e.1, (List.isPrefixOf?_eq_some_iff_append_eq.mp hrest).symm, names.short e he⟩

theorem not_holdsName_nil : ¬ HoldsName names [] := by
  rintro ⟨before, after, h, _⟩
  simp at h

theorem holdsName_cons (c : Char) (s : List Char) :
    HoldsName names (c :: s) ↔ (c = '&' ∧ names.at? s ≠ none) ∨ HoldsName names s := by
  constructor
  · rintro ⟨before, after, hs, hname⟩
    cases before with
    | nil =>
      obtain ⟨rfl, rfl⟩ := List.cons.inj hs
      exact Or.inl ⟨rfl, hname⟩
    | cons b before => exact Or.inr ⟨before, after, (List.cons.inj hs).2, hname⟩
  · rintro (⟨rfl, hname⟩ | ⟨before, after, rfl, hname⟩)
    · exact ⟨[], s, rfl, hname⟩
    · exact ⟨c :: before, after, rfl, hname⟩

/-! ## Reading -/

theorem decodeReferencesFrom_skip (s t : List Char) :
    decodeReferencesFrom names s.length (s ++ t) = decodeReferences names t := by
  induction s with
  | nil => rfl
  | cons c s ih => rw [List.length_cons, List.cons_append, decodeReferencesFrom, ih]

/-- **At a reference** its characters are read, and what follows is read on its own. -/
theorem decodeReferences_reference {reference chars after : List Char}
    (h : referenceAt? names (reference ++ after) = some (chars, after)) :
    decodeReferences names ('&' :: (reference ++ after)) = chars ++ decodeReferences names after := by
  have hskip : (reference ++ after).length - after.length = reference.length := by
    rw [List.length_append]
    omega
  rw [decodeReferences, decodeReferencesFrom, if_pos rfl, h]
  simp only [hskip, decodeReferencesFrom_skip]

theorem decodeReferences_name {s chars after : List Char} (hnumber : s.head? ≠ some '#')
    (h : names.at? s = some (chars, after)) :
    decodeReferences names ('&' :: s) = chars ++ decodeReferences names after := by
  obtain ⟨name, rfl, _⟩ := NamedReferences.at?_eq_some h
  refine decodeReferences_reference ?_
  rw [referenceAt?, if_neg hnumber, h]

/-- **All other characters are kept**: those that are no ampersands, and the ampersands that begin no
reference. -/
theorem decodeReferences_kept {c : Char} {s : List Char}
    (h : c = '&' → s.head? ≠ some '#' ∧ names.at? s = none) :
    decodeReferences names (c :: s) = c :: decodeReferences names s := by
  rw [decodeReferences, decodeReferencesFrom]
  split
  · rename_i hc
    obtain ⟨hnumber, hname⟩ := h hc
    rw [referenceAt?, if_neg hnumber, hname]
    rfl
  · rfl

/-- The reference by number to the zero-width space. -/
theorem decodeReferences_zeroWidthSpace (t : List Char) :
    decodeReferences names ("&#8203;".toList ++ t) = '\u200B' :: decodeReferences names t := by
  have hnumber : referenceAt? names ("#8203;".toList ++ t) = some (['\u200B'], t) := by
    have hvalue : referredChar (numberOfDigits 10 ['8', '2', '0', '3']) = '\u200B' := by decide
    show numberAt? 10 7 Char.isDigit ('8' :: '2' :: '0' :: '3' :: ';' :: t) = _
    simp [numberAt?, hvalue]
  exact decodeReferences_reference hnumber

end DocPress.Html
