import DocPress.Proofs.Comment.Page

/-!
# Linking references to RFCs

References to RFCs are linked in generated HTML. On a page every reference that is found lies in the
text of one element: it holds white space, which no attribute and no link of the page does, and it
holds no character of markup.

* `IsReference` — the form of a reference; `rfcAt?_spec` — what is found has this form;
  `rfcAt?_before` — it ends before a character that belongs to no reference.
* `linkRfcs_solid`, `linkRfcs_append` — stretches in which no reference begins.
* `eq_chars_append` — a reference found in written content is text of that content.

Principal result: `exists_linked_page` — linking references turns a page into a page with the same
text.
-/

namespace DocPress.Comment.Page

open DocPress.Text

/-! ## References -/

/-- A reference to an RFC and its number. -/
structure IsReference (label digits : List Char) : Prop where
  form : ∃ blanks, blanks ≠ [] ∧ (∀ c ∈ blanks, isRfcBlank c = true) ∧
    label = "RFC".toList ++ (blanks ++ digits)
  digits : ∀ c ∈ digits, c.isDigit = true

/-- Whether a character may belong to a reference. -/
def isRfcChar (c : Char) : Bool :=
  "RFC".toList.contains c || isRfcBlank c || c.isDigit

theorem IsReference.isRfcChar {label digits : List Char} (h : IsReference label digits) :
    ∀ c ∈ label, isRfcChar c = true := by
  obtain ⟨blanks, _, hblanks, rfl⟩ := h.form
  intro c hc
  rw [Page.isRfcChar]
  rcases List.mem_append.mp hc with hc | hc
  · rw [List.contains_iff_mem.mpr hc]
    rfl
  · rcases List.mem_append.mp hc with hc | hc
    · rw [hblanks c hc, Bool.or_true]
      rfl
    · rw [h.digits c hc, Bool.or_true]

theorem IsReference.exists_cons {label digits : List Char} (h : IsReference label digits) :
    ∃ rest, label = 'R' :: rest := by
  obtain ⟨blanks, _, _, rfl⟩ := h.form
  exact ⟨_, rfl⟩

/-- **What is found is a reference** at the beginning of the text. -/
theorem rfcAt?_spec {s label digits : List Char} (h : rfcAt? s = some (label, digits)) :
    IsReference label digits ∧ label <+: s := by
  unfold rfcAt? at h
  split at h
  · cases h
  · rename_i rest hrest
    obtain rfl := List.isPrefixOf?_eq_some_iff_append_eq.mp hrest
    simp only at h
    split at h
    · cases h
    · rename_i hcond
      simp only [Option.some.injEq, Prod.mk.injEq] at h
      obtain ⟨rfl, rfl⟩ := h
      simp only [Bool.or_eq_true, not_or, List.isEmpty_iff] at hcond
      have hdigits : ((rest.drop (rest.takeWhile isRfcBlank).length).take 4).takeWhile Char.isDigit
          <+: rest.drop (rest.takeWhile isRfcBlank).length :=
        (List.takeWhile_prefix _).trans (List.take_prefix _ _)
      have hrest' : rest.takeWhile isRfcBlank ++ rest.drop (rest.takeWhile isRfcBlank).length = rest :=
        List.prefix_iff_eq_append.mp (List.takeWhile_prefix _)
      refine ⟨⟨⟨_, hcond.1, ?_, by rw [List.append_assoc]⟩, ?_⟩, ?_⟩
      · exact fun c hc => List.all_eq_true.mp (List.all_takeWhile ..) c hc
      · exact fun c hc => List.all_eq_true.mp (List.all_takeWhile ..) c hc
      · rw [List.append_assoc, List.prefix_append_right_inj]
        obtain ⟨after, hafter⟩ := hdigits
        exact ⟨after, by rw [List.append_assoc, hafter, hrest']⟩

/-- **A reference ends before a character that belongs to none.** -/
theorem rfcAt?_before {s label digits t : List Char} {d : Char} (hd : isRfcChar d = false)
    (h : rfcAt? (s ++ d :: t) = some (label, digits)) : IsReference label digits ∧ label <+: s := by
  obtain ⟨href, hpre⟩ := rfcAt?_spec h
  have hout : ∀ x ∈ (d :: t).head?, x ∉ label := by
    intro x hx hmem
    rw [List.head?_cons, Option.mem_some_iff] at hx
    subst hx
    rw [href.isRfcChar _ hmem] at hd
    cases hd
  exact ⟨href, (prefix_append_iff hout s).mp hpre⟩

/-! ## Where no reference begins -/

theorem linkRfcsFrom_skip (s t : List Char) : linkRfcsFrom s.length (s ++ t) = linkRfcs t := by
  induction s with
  | nil => rfl
  | cons c s ih => rw [List.length_cons, List.cons_append, linkRfcsFrom, ih]

theorem linkRfcs_cons {c : Char} {t : List Char} (h : rfcAt? (c :: t) = none) :
    linkRfcs (c :: t) = c :: linkRfcs t := by
  rw [linkRfcs, linkRfcsFrom, h]
  rfl

/-- A reference at the beginning is linked. -/
theorem linkRfcs_reference {label digits t : List Char}
    (h : rfcAt? (label ++ t) = some (label, digits)) :
    linkRfcs (label ++ t) = rfcLink label digits ++ linkRfcs t := by
  obtain ⟨rest, hrest⟩ := (rfcAt?_spec h).1.exists_cons
  rw [hrest, List.cons_append] at h ⊢
  rw [linkRfcs, linkRfcsFrom, h]
  simp only [List.length_cons, Nat.add_sub_cancel, linkRfcsFrom_skip]

theorem rfcAt?_eq_none {c : Char} (h : c ≠ 'R') (t : List Char) : rfcAt? (c :: t) = none := by
  cases hfound : rfcAt? (c :: t) with
  | none => rfl
  | some found =>
    obtain ⟨label, digits⟩ := found
    obtain ⟨href, hpre⟩ := rfcAt?_spec hfound
    obtain ⟨rest, rfl⟩ := href.exists_cons
    rw [List.cons_prefix_cons] at hpre
    exact absurd hpre.1.symm h

/-- A text without the letter that references begin with is kept. -/
theorem linkRfcs_append {s : List Char} (h : 'R' ∉ s) (t : List Char) :
    linkRfcs (s ++ t) = s ++ linkRfcs t := by
  induction s with
  | nil => rfl
  | cons c s ih =>
    have hc : c ≠ 'R' := fun hc => h (by simp [hc])
    rw [List.cons_append, linkRfcs_cons (rfcAt?_eq_none hc _),
      ih (fun hs => h (List.mem_cons_of_mem _ hs))]
    rfl

/-- **A text without white space is kept** up to a character that belongs to no reference. -/
theorem linkRfcs_solid {s : List Char} (hs : ∀ c ∈ s, isRfcBlank c = false) {d : Char}
    (hd : isRfcChar d = false) (t : List Char) :
    linkRfcs (s ++ d :: t) = s ++ linkRfcs (d :: t) := by
  induction s with
  | nil => rfl
  | cons c s ih =>
    have hnone : rfcAt? (c :: (s ++ d :: t)) = none := by
      cases hfound : rfcAt? (c :: (s ++ d :: t)) with
      | none => rfl
      | some found =>
        obtain ⟨label, digits⟩ := found
        rw [← List.cons_append] at hfound
        obtain ⟨href, hpre⟩ := rfcAt?_before hd hfound
        -- the reference ends before `d`, so its white space would stand in `c :: s`
        obtain ⟨blanks, hne, hblanks, hlabel⟩ := href.form
        obtain ⟨b, hb⟩ := List.exists_mem_of_ne_nil blanks hne
        have hb' := hs b (hpre.subset (by rw [hlabel]; simp [hb]))
        rw [hblanks b hb] at hb'
        cases hb'
    rw [List.cons_append, linkRfcs_cons hnone, ih (fun x hx => hs x (List.mem_cons_of_mem _ hx))]
    rfl

/-! ## References in content -/

theorem isPlainChar_of_isRfcChar {c : Char} (h : isRfcChar c = true) :
    Html.isPlainChar c = true := by
  rcases Html.escapeChar_cases c with ⟨hplain, _⟩ | hspecial
  · exact hplain
  · have hno : ∀ p ∈ Html.specialForms, isRfcChar p.1 = false := by decide
    rw [hno _ hspecial] at h
    cases h

theorem escapeText_of_isRfcChar {s : List Char} (h : ∀ c ∈ s, isRfcChar c = true) :
    Html.escapeText s = s := by
  induction s with
  | nil => rfl
  | cons c s ih =>
    rw [Html.escapeText_cons, ih (fun x hx => h x (List.mem_cons_of_mem _ hx)),
      Html.escapeChar_plain (isPlainChar_of_isRfcChar (h c List.mem_cons_self))]
    rfl

/-- Escaping brings no white space. -/
theorem isRfcBlank_escapeText {s : List Char} (hs : ∀ c ∈ s, isRfcBlank c = false) :
    ∀ x ∈ Html.escapeText s, isRfcBlank x = false := by
  intro x hx
  obtain ⟨c, hc, hx⟩ := List.mem_flatMap.mp hx
  rcases Html.escapeChar_cases c with ⟨_, hform⟩ | hspecial
  · rw [hform, List.mem_singleton] at hx
    exact hx ▸ hs c hc
  · have hno : ∀ p ∈ Html.specialForms, ∀ y ∈ p.2, isRfcBlank y = false := by
      simp [Html.specialForms, isRfcBlank]
    exact hno _ hspecial x hx

/-- **A reference found in written content is text of that content.** -/
theorem eq_chars_append {label : List Char} (hlabel : ∀ c ∈ label, isRfcChar c = true)
    {content : List Inline} (h : label <+: contentHtml content) :
    ∃ rest, content = chars label ++ rest := by
  induction label generalizing content with
  | nil => exact ⟨content, rfl⟩
  | cons a label ih =>
    have ha := hlabel a List.mem_cons_self
    cases content with
    | nil => simp [contentHtml] at h
    | cons i content =>
      rw [contentHtml_cons] at h
      cases i with
      | char c =>
        rw [Inline.html_char] at h
        rcases Html.escapeChar_cases c with ⟨_, hform⟩ | hspecial
        · rw [hform, List.singleton_append, List.cons_prefix_cons] at h
          obtain ⟨rfl, h⟩ := h
          obtain ⟨rest, rfl⟩ := ih (fun x hx => hlabel x (List.mem_cons_of_mem _ hx)) h
          exact ⟨rest, rfl⟩
        · -- no form of a special character begins like a reference
          have hno : ∀ p ∈ Html.specialForms, p.2.head?.any isRfcChar = false ∧ p.2 ≠ [] := by
            decide
          obtain ⟨hhead, hne⟩ := hno _ hspecial
          obtain ⟨y, ys, hform⟩ := List.exists_cons_of_ne_nil hne
          simp only at hhead hform
          rw [hform, List.cons_append, List.cons_prefix_cons] at h
          rw [hform, List.head?_cons, Option.any_some, ← h.1, ha] at hhead
          cases hhead
      | link l =>
        have h' : a :: label <+: '<' :: _ := h
        rw [List.cons_prefix_cons] at h'
        rw [h'.1] at ha
        cases ha

/-- The link to an RFC, as a link of a page. -/
def rfcLinkOf (label digits : List Char) : Link :=
  ⟨"http://tools.ietf.org/html/rfc".toList ++ digits, label,
    "http://".toList, by decide, "tools.ietf.org/html/rfc".toList ++ digits, by simp⟩

theorem href_rfcLinkOf (label digits : List Char) :
    (rfcLinkOf label digits).href = "http://tools.ietf.org/html/rfc".toList ++ digits := rfl

theorem label_rfcLinkOf (label digits : List Char) : (rfcLinkOf label digits).label = label := rfl

theorem rfcLink_eq (label digits : List Char) :
    rfcLink label digits = "<a href=\"http://tools.ietf.org/html/rfc".toList ++ digits ++
      "\">".toList ++ label ++ "</a>".toList := rfl

theorem html_rfcLinkOf {label digits : List Char} (h : IsReference label digits) :
    (Inline.link (rfcLinkOf label digits)).html = rfcLink label digits := by
  have hdigits : Html.escapeText digits = digits := by
    refine escapeText_of_isRfcChar fun c hc => ?_
    rw [Page.isRfcChar, h.digits c hc, Bool.or_true]
  have hsite : Html.escapeText "http://tools.ietf.org/html/rfc".toList =
      "http://tools.ietf.org/html/rfc".toList := by decide
  rw [Inline.html_link, href_rfcLinkOf, label_rfcLinkOf, rfcLink_eq, Html.escapeText_append, hsite,
    hdigits, escapeText_of_isRfcChar h.isRfcChar]
  simp

theorem isRfcChar_lt : isRfcChar '<' = false := by decide

/-- A link whose target and label hold no white space is kept. -/
theorem linkRfcs_link {l : Link} (hl : (Inline.link l).Solid) (t : List Char) :
    linkRfcs ((Inline.link l).html ++ t) = (Inline.link l).html ++ linkRfcs t := by
  have hhref := isRfcBlank_escapeText fun c hc => hl c (List.mem_append_left _ hc)
  have hlabel := isRfcBlank_escapeText fun c hc => hl c (List.mem_append_right _ hc)
  have hhtml : ∀ u, (Inline.link l).html ++ u = "<a href=\"".toList ++ (Html.escapeText l.href ++
      '\x22' :: ('>' :: (Html.escapeText l.label ++ '<' :: ("/a>".toList ++ u)))) := fun u => by
    simp [Inline.html_link]
  rw [hhtml, hhtml, linkRfcs_append (by decide), linkRfcs_solid hhref (by decide),
    linkRfcs_cons (rfcAt?_eq_none (by decide) _), linkRfcs_cons (rfcAt?_eq_none (by decide) _),
    linkRfcs_solid hlabel isRfcChar_lt, linkRfcs_cons (rfcAt?_eq_none (by decide) _),
    linkRfcs_append (by decide)]

/-- **Linking references in content** gives content with the same text. -/
theorem exists_linked_content (content : List Inline) (hsolid : ∀ i ∈ content, i.Solid)
    (t : List Char) :
    ∃ linked, linkRfcs (contentHtml content ++ '<' :: t) =
        contentHtml linked ++ linkRfcs ('<' :: t) ∧ contentText linked = contentText content := by
  -- a reference is several characters long, so the induction is on the length of the content
  induction hlen : content.length using Nat.strongRecOn generalizing content with
  | ind n ih =>
    cases content with
    | nil => exact ⟨[], rfl, rfl⟩
    | cons i rest =>
      have hrest : ∀ j ∈ rest, j.Solid := fun j hj => hsolid j (List.mem_cons_of_mem _ hj)
      have ihrest := ih rest.length (by rw [← hlen]; exact Nat.lt_succ_self _) rest hrest rfl
      cases hfound : rfcAt? (contentHtml (i :: rest) ++ '<' :: t) with
      | none =>
        obtain ⟨linked, hhtml, htext⟩ := ihrest
        refine ⟨i :: linked, ?_, by rw [contentText_cons, contentText_cons, htext]⟩
        rw [contentHtml_cons, List.append_assoc] at hfound ⊢
        rw [contentHtml_cons, List.append_assoc, ← hhtml]
        cases i with
        | link l => exact linkRfcs_link (hsolid _ List.mem_cons_self) _
        | char c =>
          rw [Inline.html_char] at hfound ⊢
          rcases Html.escapeChar_cases c with ⟨_, hform⟩ | hspecial
          · rw [hform] at hfound ⊢
            exact linkRfcs_cons hfound
          · have hno : ∀ p ∈ Html.specialForms, 'R' ∉ p.2 := by decide
            exact linkRfcs_append (hno _ hspecial) _
      | some found =>
        obtain ⟨label, digits⟩ := found
        obtain ⟨href, hpre⟩ := rfcAt?_before isRfcChar_lt hfound
        obtain ⟨after, hafter⟩ := eq_chars_append href.isRfcChar hpre
        have hlabel : contentHtml (chars label) = label := by
          rw [contentHtml_chars, escapeText_of_isRfcChar href.isRfcChar]
        have hshorter : after.length < n := by
          obtain ⟨more, hmore⟩ := href.exists_cons
          rw [← hlen, hafter, List.length_append, chars, List.length_map, hmore, List.length_cons]
          omega
        obtain ⟨linked, hhtml, htext⟩ := ih after.length hshorter after
          (fun j hj => hsolid j (by rw [hafter]; exact List.mem_append_right _ hj)) rfl
        refine ⟨.link (rfcLinkOf label digits) :: linked, ?_, ?_⟩
        · rw [hafter, contentHtml_append, hlabel, List.append_assoc] at hfound ⊢
          rw [linkRfcs_reference hfound, hhtml, contentHtml_cons, html_rfcLinkOf href,
            List.append_assoc]
        · rw [contentText_cons, hafter, contentText_append, contentText_chars, htext]
          rfl

/-- The same between the tags of an element, which hold no reference. -/
theorem exists_linked_between {first last : List Char} (hfirst : 'R' ∉ first) (hlast : 'R' ∉ last)
    (content : List Inline) (hsolid : ∀ i ∈ content, i.Solid) (t : List Char) :
    ∃ linked, linkRfcs (first ++ (contentHtml content ++ '<' :: (last ++ t))) =
        first ++ (contentHtml linked ++ '<' :: (last ++ linkRfcs t)) ∧
      contentText linked = contentText content := by
  obtain ⟨linked, hhtml, htext⟩ := exists_linked_content content hsolid (last ++ t)
  refine ⟨linked, ?_, htext⟩
  rw [linkRfcs_append hfirst, hhtml, linkRfcs_cons (rfcAt?_eq_none (by decide) _),
    linkRfcs_append hlast]

/-- **Linking references in an element** gives an element with the same text. -/
theorem exists_linked_element (e : Element) (he : e.Solid) (t : List Char) :
    ∃ linked : Element, linkRfcs (e.html ++ t) = linked.html ++ linkRfcs t ∧
      linked.text = e.text := by
  cases e with
  | para content =>
    have hplain : 'R' ∉ "<p>".toList ∧ 'R' ∉ "/p>\n".toList := by decide
    obtain ⟨linked, hhtml, htext⟩ := exists_linked_between hplain.1 hplain.2 content he t
    refine ⟨.para linked, ?_, by rw [Element.text, Element.text, htext]⟩
    have hform : ∀ c u, (Element.para c).html ++ u =
        "<p>".toList ++ (contentHtml c ++ '<' :: ("/p>\n".toList ++ u)) := fun c u => by
      simp [Element.html, Element.htmlAt_para]
    rw [hform, hform, hhtml]
  | pre content =>
    have hplain : 'R' ∉ "<pre>".toList ∧ 'R' ∉ "/pre>\n".toList := by decide
    obtain ⟨linked, hhtml, htext⟩ := exists_linked_between hplain.1 hplain.2 content he t
    refine ⟨.pre linked, ?_, by rw [Element.text, Element.text, htext]⟩
    have hform : ∀ c u, (Element.pre c).html ++ u =
        "<pre>".toList ++ (contentHtml c ++ '<' :: ("/pre>\n".toList ++ u)) := fun c u => by
      simp [Element.html, Element.htmlAt_pre]
    rw [hform, hform, hhtml]
  | heading anchor content =>
    have hplain : 'R' ∉ ['>'] ∧ 'R' ∉ "/h4>\n".toList := by decide
    obtain ⟨linked, hhtml, htext⟩ := exists_linked_between hplain.1 hplain.2 content he.2 t
    refine ⟨.heading anchor linked, ?_, by rw [Element.text, Element.text, htext]⟩
    have hanchor := isRfcBlank_escapeText he.1
    have hform : ∀ c u, (Element.heading anchor c).html ++ u = "<h4 id=\"".toList ++
        (Html.escapeText anchor ++ '\x22' :: (['>'] ++
          (contentHtml c ++ '<' :: ("/h4>\n".toList ++ u)))) := fun c u => by
      simp [Element.html, Element.htmlAt_heading]
    rw [hform, hform, linkRfcs_append (by decide), linkRfcs_solid hanchor (by decide),
      linkRfcs_cons (rfcAt?_eq_none (by decide) _), hhtml]

/-- **Linking references turns a page into a page with the same text.** -/
theorem exists_linked_page (page : List Element) (hpage : ∀ e ∈ page, e.Solid) :
    ∃ linked : List Element, linkRfcs (page.flatMap Element.html) = linked.flatMap Element.html ∧
      linked.flatMap Element.text = page.flatMap Element.text := by
  induction page with
  | nil => exact ⟨[], rfl, rfl⟩
  | cons e page ih =>
    obtain ⟨linked, hhtml, htext⟩ := ih fun x hx => hpage x (List.mem_cons_of_mem _ hx)
    obtain ⟨first, hhtml', htext'⟩ := exists_linked_element e (hpage e List.mem_cons_self)
      (page.flatMap Element.html)
    refine ⟨first :: linked, ?_, ?_⟩
    · rw [List.flatMap_cons, hhtml', hhtml, List.flatMap_cons]
    · rw [List.flatMap_cons, List.flatMap_cons, htext, htext']

end DocPress.Comment.Page
