import DocPress.Proofs.Comment.Page

/-!
# Demoting headings

Headings are made one level lower by three replacements in generated HTML. On a page they reach the
tags of headings and nothing else, because text cannot spell a tag once it is escaped.

* `Inert` — a stretch that a replacement leaves as it is, whatever follows it.
* `IsHeadingPattern.replaceAll_element` — only headings are reached.
* `replaceAll_opening`, `replaceAll_selfStanding`, `replaceAll_closing` — one element in each of the
  three replacements.

Principal result: `demoteHeadings_page` — demoting the headings of a page is writing it with
headings of level four.
-/

namespace DocPress.Comment.Page

open DocPress.Text

/-- A stretch that a replacement leaves as it is, whatever follows. -/
def Inert (pattern replacement piece : List Char) : Prop :=
  ∀ t, replaceAll pattern replacement (piece ++ t) = piece ++ replaceAll pattern replacement t

section
variable {pattern replacement : List Char}

theorem Inert.append {a b : List Char} (ha : Inert pattern replacement a)
    (hb : Inert pattern replacement b) : Inert pattern replacement (a ++ b) := by
  intro t
  rw [List.append_assoc, ha, hb, List.append_assoc]

theorem inert_text {ps s : List Char} (h : '<' ∉ s) : Inert ('<' :: ps) replacement s :=
  replaceAll_append_of_head h

/-- A tag is left as it is if the pattern differs from it. -/
theorem inert_tag (ps body : List Char) (hlt : '<' ∉ body) (h : ∀ t, ¬ ps <+: body ++ t) :
    Inert ('<' :: ps) replacement ('<' :: body) := by
  intro t
  have hno : ¬ '<' :: ps <+: '<' :: (body ++ t) := by
    rw [List.cons_prefix_cons]
    exact fun hpre => h t hpre.2
  rw [List.cons_append, replaceAll_cons hno, replaceAll_append_of_head hlt]
  rfl

/-- What a replacement does to each part, it does to the parts one after the other. -/
theorem replaceAll_flatMap {α : Type} {f g : α → List Char} {xs : List α}
    (h : ∀ x t, replaceAll pattern replacement (f x ++ t) =
      g x ++ replaceAll pattern replacement t) :
    replaceAll pattern replacement (xs.flatMap f) = xs.flatMap g := by
  induction xs with
  | nil => rfl
  | cons x xs ih => rw [List.flatMap_cons, h, ih, List.flatMap_cons]

/-- The beginning or the end of the tag of a heading. -/
def IsHeadingPattern (pattern : List Char) : Prop :=
  ∃ ps, pattern = '<' :: 'h' :: ps ∨ pattern = '<' :: '/' :: 'h' :: ps

/-- A tag that begins with neither `h` nor `/h` is no tag of a heading. -/
theorem IsHeadingPattern.inert_tag (hp : IsHeadingPattern pattern) {body : List Char} {a b : Char}
    (hlt : '<' ∉ a :: b :: body) (ha : a ≠ 'h') (hab : a = '/' → b ≠ 'h') :
    Inert pattern replacement ('<' :: a :: b :: body) := by
  obtain ⟨ps, rfl | rfl⟩ := hp
  · refine Page.inert_tag _ _ hlt fun t hpre => ?_
    rw [List.cons_append, List.cons_prefix_cons] at hpre
    exact ha hpre.1.symm
  · refine Page.inert_tag _ _ hlt fun t hpre => ?_
    rw [List.cons_append, List.cons_prefix_cons, List.cons_append, List.cons_prefix_cons] at hpre
    exact hab hpre.1.symm hpre.2.1.symm

theorem IsHeadingPattern.inert_text (hp : IsHeadingPattern pattern) {s : List Char} (h : '<' ∉ s) :
    Inert pattern replacement s := by
  obtain ⟨ps, rfl | rfl⟩ := hp
  · exact Page.inert_text h
  · exact Page.inert_text h

/-- **Content holds no tag of a heading.** -/
theorem IsHeadingPattern.inert_content (hp : IsHeadingPattern pattern) (content : List Inline) :
    Inert pattern replacement (contentHtml content) := by
  induction content with
  | nil => exact fun _ => rfl
  | cons i content ih =>
    rw [contentHtml_cons]
    refine Inert.append ?_ ih
    cases i with
    | char c =>
      have hlt := Html.lt_not_mem_escapeText [c]
      rw [Inline.html_char]
      exact hp.inert_text (by simpa [Html.escapeText] using hlt)
    | link l =>
      rw [Inline.html_link]
      have hopen : Inert pattern replacement "<a href=\"".toList :=
        hp.inert_tag (by decide) (by decide) (by decide)
      have hclose : Inert pattern replacement "</a>".toList :=
        hp.inert_tag (by decide) (by decide) (by decide)
      refine hopen.append ((hp.inert_text (Html.lt_not_mem_escapeText _)).append ?_)
      exact (hp.inert_text (by decide)).append
        ((hp.inert_text (Html.lt_not_mem_escapeText _)).append hclose)

/-- What a replacement does to headings decides what it does to elements: it leaves the others as
they are. -/
theorem IsHeadingPattern.replaceAll_element (hp : IsHeadingPattern pattern)
    {opening closing opening' closing' : Char}
    (h : ∀ anchor content t,
      replaceAll pattern replacement ((Element.heading anchor content).htmlAt opening closing ++ t) =
        (Element.heading anchor content).htmlAt opening' closing' ++
          replaceAll pattern replacement t) (e : Element) (t : List Char) :
    replaceAll pattern replacement (e.htmlAt opening closing ++ t) =
      e.htmlAt opening' closing' ++ replaceAll pattern replacement t := by
  cases e with
  | para content =>
    have hopen : Inert pattern replacement "<p>".toList :=
      hp.inert_tag (by decide) (by decide) (by decide)
    have hclose : Inert pattern replacement "</p>\n".toList :=
      hp.inert_tag (by decide) (by decide) (by decide)
    rw [Element.htmlAt_para, Element.htmlAt_para]
    exact hopen.append ((hp.inert_content content).append hclose) t
  | pre content =>
    have hopen : Inert pattern replacement "<pre>".toList :=
      hp.inert_tag (by decide) (by decide) (by decide)
    have hclose : Inert pattern replacement "</pre>\n".toList :=
      hp.inert_tag (by decide) (by decide) (by decide)
    rw [Element.htmlAt_pre, Element.htmlAt_pre]
    exact hopen.append ((hp.inert_content content).append hclose) t
  | heading anchor content => exact h anchor content t

/-- The inside of a heading, between its level and the end tag. -/
def headingInside (anchor : List Char) (content : List Inline) : List Char :=
  "id=\"".toList ++ (Html.escapeText anchor ++ ("\">".toList ++ contentHtml content))

theorem inert_headingInside (hp : IsHeadingPattern pattern) (anchor : List Char)
    (content : List Inline) :
    Inert pattern replacement (headingInside anchor content) :=
  (hp.inert_text (by decide)).append ((hp.inert_text (Html.lt_not_mem_escapeText _)).append
    ((hp.inert_text (by decide)).append (hp.inert_content content)))

end

/-! ## The three replacements -/

theorem htmlAt_heading_eq (opening closing : Char) (anchor : List Char) (content : List Inline) :
    (Element.heading anchor content).htmlAt opening closing = ['<', 'h', opening, ' '] ++
      (headingInside anchor content ++ (['<', '/', 'h', closing, '>'] ++ ['\n'])) := by
  rw [Element.htmlAt_heading, headingInside]
  simp

/-- The first replacement reaches the tag that begins a heading. -/
theorem replaceAll_opening (e : Element) (t : List Char) :
    replaceAll "<h3 ".toList "<h4 ".toList (e.htmlAt '3' '3' ++ t) =
      e.htmlAt '4' '3' ++ replaceAll "<h3 ".toList "<h4 ".toList t := by
  have hp : IsHeadingPattern "<h3 ".toList := ⟨['3', ' '], Or.inl rfl⟩
  refine hp.replaceAll_element (fun anchor content t => ?_) e t
  have hopen : ∀ u, replaceAll "<h3 ".toList "<h4 ".toList ("<h3 ".toList ++ u) =
      "<h4 ".toList ++ replaceAll "<h3 ".toList "<h4 ".toList u :=
    replaceAll_match (by decide)
  have hend : Inert "<h3 ".toList "<h4 ".toList (['<', '/', 'h', '3', '>'] ++ ['\n']) :=
    inert_tag ['h', '3', ' '] ['/', 'h', '3', '>', '\n'] (by decide) (by simp)
  rw [htmlAt_heading_eq, htmlAt_heading_eq, List.append_assoc]
  refine (hopen _).trans ?_
  rw [(inert_headingInside hp anchor content).append hend]
  simp

/-- The second replacement finds nothing, since every heading has an anchor. -/
theorem replaceAll_selfStanding (e : Element) (t : List Char) :
    replaceAll "<h3>".toList "<h4>".toList (e.htmlAt '4' '3' ++ t) =
      e.htmlAt '4' '3' ++ replaceAll "<h3>".toList "<h4>".toList t := by
  have hp : IsHeadingPattern "<h3>".toList := ⟨['3', '>'], Or.inl rfl⟩
  refine hp.replaceAll_element (fun anchor content t => ?_) e t
  have hbegin : Inert "<h3>".toList "<h4>".toList ['<', 'h', '4', ' '] :=
    inert_tag ['h', '3', '>'] ['h', '4', ' '] (by decide) (by simp)
  have hend : Inert "<h3>".toList "<h4>".toList (['<', '/', 'h', '3', '>'] ++ ['\n']) :=
    inert_tag ['h', '3', '>'] ['/', 'h', '3', '>', '\n'] (by decide) (by simp)
  rw [htmlAt_heading_eq]
  exact hbegin.append ((inert_headingInside hp anchor content).append hend) t

/-- The third replacement reaches the tag that ends a heading. -/
theorem replaceAll_closing (e : Element) (t : List Char) :
    replaceAll "</h3>".toList "</h4>".toList (e.htmlAt '4' '3' ++ t) =
      e.htmlAt '4' '4' ++ replaceAll "</h3>".toList "</h4>".toList t := by
  have hp : IsHeadingPattern "</h3>".toList := ⟨['3', '>'], Or.inr rfl⟩
  refine hp.replaceAll_element (fun anchor content t => ?_) e t
  have hbegin : Inert "</h3>".toList "</h4>".toList ['<', 'h', '4', ' '] :=
    inert_tag ['/', 'h', '3', '>'] ['h', '4', ' '] (by decide) (by simp)
  have hclose : ∀ u, replaceAll "</h3>".toList "</h4>".toList ("</h3>".toList ++ u) =
      "</h4>".toList ++ replaceAll "</h3>".toList "</h4>".toList u :=
    replaceAll_match (by decide)
  have hline : Inert "</h3>".toList "</h4>".toList ['\n'] := hp.inert_text (by decide)
  have hrest := hbegin.append (inert_headingInside hp anchor content)
    (['<', '/', 'h', '3', '>'] ++ '\n' :: t)
  rw [htmlAt_heading_eq, htmlAt_heading_eq]
  simp only [List.append_assoc] at hrest ⊢
  refine hrest.trans ?_
  rw [show ['<', '/', 'h', '3', '>'] ++ '\n' :: t = "</h3>".toList ++ '\n' :: t from rfl, hclose]
  exact congrArg _ (congrArg _ (congrArg _ (hline t)))

/-- **Demoting the headings of a page** is writing it with headings of level four. -/
theorem demoteHeadings_page (page : List Element) :
    demoteHeadings (page.flatMap (Element.htmlAt '3' '3')) = page.flatMap Element.html := by
  rw [demoteHeadings, replaceAll_flatMap replaceAll_opening,
    replaceAll_flatMap replaceAll_selfStanding, replaceAll_flatMap replaceAll_closing]
  rfl

end DocPress.Comment.Page
