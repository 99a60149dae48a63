import DocPress.Proofs.Html.Visible
import DocPress.Proofs.Text.Replace

/-!
# Link targets of a page

Where the links of a page lead, read off its HTML.

* `tagsFrom`, `tagInsides` — what stands between the brackets of the tags of a page.
* `hrefIn?` — the value of the attribute `href` in a tag.
* `linkTargets` — these values with their entities read back, in the order of the page.

Principal results: `linkTargets_text`, `linkTargets_element` — text leads nowhere, and a link leads
where its address says, since no address can end its attribute or tag; `linkTargets_flatMap` — so the
targets of a page made of parts are those of the parts.
-/

namespace DocPress.Html

/-! ## Reading tags -/

/-- What stands between the brackets of the tags of a text, which begins in text or in a tag whose
inside is read up to there. -/
def tagsFrom : Option (List Char) → List Char → List (List Char)
  | _, [] => []
  | none, c :: rest => if c = '<' then tagsFrom (some []) rest else tagsFrom none rest
  | some inside, c :: rest =>
    if c = '>' then inside :: tagsFrom none rest else tagsFrom (some (inside ++ [c])) rest

/-- What stands between the brackets of the tags of a page. -/
def tagInsides (page : List Char) : List (List Char) := tagsFrom none page

/-- What follows the first occurrence of a mark. -/
def behind? (mark : List Char) : List Char → Option (List Char)
  | [] => none
  | c :: rest => (mark.isPrefixOf? (c :: rest)).or (behind? mark rest)

/-- The value of the attribute `href` in a tag, as it is written. -/
def hrefIn? (inside : List Char) : Option (List Char) :=
  (behind? " href=\"".toList inside).map fun rest => rest.takeWhile fun c => c != '\x22'

/-- Where the links of a page lead. -/
def linkTargets (page : List Char) : List (List Char) :=
  ((tagInsides page).filterMap hrefIn?).map decodeEntities

theorem tagInsides_text {s : List Char} (h : '<' ∉ s) (t : List Char) :
    tagInsides (s ++ t) = tagInsides t := by
  induction s with
  | nil => rfl
  | cons c s ih =>
    rw [List.mem_cons, not_or] at h
    rw [List.cons_append, tagInsides, tagsFrom, if_neg (Ne.symm h.1)]
    exact ih h.2

theorem tagsFrom_inside {s : List Char} (h : '>' ∉ s) (read t : List Char) :
    tagsFrom (some read) (s ++ '>' :: t) = (read ++ s) :: tagInsides t := by
  induction s generalizing read with
  | nil =>
    rw [List.nil_append, tagsFrom, if_pos rfl, List.append_nil]
    rfl
  | cons c s ih =>
    rw [List.mem_cons, not_or] at h
    rw [List.cons_append, tagsFrom, if_neg (Ne.symm h.1), ih h.2]
    simp

theorem tagInsides_tag {inside : List Char} (h : '>' ∉ inside) (t : List Char) :
    tagInsides ('<' :: (inside ++ '>' :: t)) = inside :: tagInsides t := by
  rw [tagInsides, tagsFrom, if_pos rfl, tagsFrom_inside h]
  rfl

/-! ## Links -/

theorem quote_not_mem_escapeText (s : List Char) : '\x22' ∉ escapeText s := fun h => by
  have := isMarkupChar_of_mem_escapeText h
  simp [isMarkupChar] at this

/-- The tag that begins a link. The escaped address ends neither the attribute nor the tag, and
further attributes may follow. -/
theorem tagInsides_linkStart {more : List Char} (h : '>' ∉ more) (address t : List Char) :
    tagInsides ("<a href=\"".toList ++ (escapeText address ++ ('\x22' :: more ++ '>' :: t))) =
      ("a href=\"".toList ++ (escapeText address ++ '\x22' :: more)) :: tagInsides t := by
  have hstart : '>' ∉ "a href=\"".toList := by decide
  have hinside : '>' ∉ "a href=\"".toList ++ (escapeText address ++ '\x22' :: more) := by
    simp only [List.mem_append, List.mem_cons, not_or]
    exact ⟨hstart, gt_not_mem_escapeText address, by decide, h⟩
  have htag := tagInsides_tag hinside t
  rw [List.append_assoc, List.append_assoc] at htag
  exact htag

theorem hrefIn?_linkStart (address more : List Char) :
    hrefIn? ("a href=\"".toList ++ (escapeText address ++ '\x22' :: more)) =
      some (escapeText address) := by
  have hbehind : ∀ rest, behind? " href=\"".toList ("a href=\"".toList ++ rest) = some rest :=
    fun _ => rfl
  rw [hrefIn?, hbehind, Option.map_some, Text.takeWhile_bne (quote_not_mem_escapeText address)]

/-- Text leads nowhere. -/
theorem linkTargets_text {s : List Char} (h : '<' ∉ s) (t : List Char) :
    linkTargets (s ++ t) = linkTargets t := by
  rw [linkTargets, tagInsides_text h, linkTargets]

theorem linkTargets_linkStart {more : List Char} (h : '>' ∉ more) (address t : List Char) :
    linkTargets ("<a href=\"".toList ++ (escapeText address ++ ('\x22' :: more ++ '>' :: t))) =
      address.map shownChar :: linkTargets t := by
  rw [linkTargets, tagInsides_linkStart h, List.filterMap_cons, hrefIn?_linkStart]
  simp only [List.map_cons, decodeEntities_escaped]
  rfl

theorem linkTargets_linkEnd (t : List Char) : linkTargets ("</a>".toList ++ t) = linkTargets t := by
  have hend : '>' ∉ "/a".toList := by decide
  have hinsides : tagInsides ("</a>".toList ++ t) = "/a".toList :: tagInsides t :=
    tagInsides_tag hend t
  have hnone : hrefIn? "/a".toList = none := by decide
  rw [linkTargets, hinsides, List.filterMap_cons, hnone, linkTargets]

/-- **A link leads where its address says**, whatever address and label are. -/
theorem linkTargets_element (address label t : List Char) :
    linkTargets ("<a href=\"".toList ++ escapeText address ++ "\">".toList ++ escapeText label ++
        "</a>".toList ++ t) = address.map shownChar :: linkTargets t := by
  have hstart := linkTargets_linkStart (List.not_mem_nil (a := '>')) address
    (escapeText label ++ ("</a>".toList ++ t))
  rw [linkTargets_text (lt_not_mem_escapeText label), linkTargets_linkEnd] at hstart
  simp only [List.append_assoc]
  exact hstart

/-- **The targets of a page made of parts** are those of the parts, each of which leads to one place
or nowhere. -/
theorem linkTargets_flatMap {α : Type} {html : α → List Char} {target? : α → Option (List Char)}
    (h : ∀ x t, linkTargets (html x ++ t) = (target? x).toList ++ linkTargets t) (xs : List α) :
    linkTargets (xs.flatMap html) = xs.filterMap target? := by
  induction xs with
  | nil => rfl
  | cons x xs ih =>
    rw [List.flatMap_cons, h, ih, List.filterMap_cons]
    cases target? x <;> rfl

end DocPress.Html
