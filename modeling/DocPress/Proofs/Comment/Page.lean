import DocPress.Comment.Renderer
import DocPress.Proofs.Comment.Spans
import DocPress.Proofs.Html.Visible

/-!
# Pages of plain comments

The HTML that plain comments have: a sequence of paragraphs, preformatted blocks and headings, whose
content is characters of text and links. A link holds text only, so links cannot be nested.

* `Inline`, `Element` — the pages; `Element.html` — how they are written, with all text escaped.
* `isPageTag` — the insides of the tags that a page may hold, attributes included.

Principal results: `stripTags_page`, `visible_page` — the tags of a page are exactly the markup in
it, and it shows its text; `exists_element` — a block is written as an element, with headings of
level three.
-/

namespace DocPress.Comment.Page

open DocPress.Text

/-- A link, to a target with one of the schemes of URLs. -/
structure Link where
  href : List Char
  label : List Char
  scheme : HasScheme href

/-- A part of the content of an element. -/
inductive Inline where
  | char (c : Char)
  | link (l : Link)

/-- An element of a page. -/
inductive Element where
  | para (content : List Inline)
  | pre (content : List Inline)
  | heading (anchor : List Char) (content : List Inline)

/-! ## Writing pages -/

/-- A part of the content in HTML. -/
def Inline.html : Inline → List Char
  | .char c => Html.escapeChar c
  | .link l => "<a href=\"".toList ++ (Html.escapeText l.href ++ ("\">".toList ++
      (Html.escapeText l.label ++ "</a>".toList)))

/-- Content in HTML. -/
def contentHtml (content : List Inline) : List Char := content.flatMap Inline.html

/-- An element in HTML; the tags around a heading have the levels `opening` and `closing`. -/
def Element.htmlAt (opening closing : Char) : Element → List Char
  | .para content => "<p>".toList ++ (contentHtml content ++ "</p>\n".toList)
  | .pre content => "<pre>".toList ++ (contentHtml content ++ "</pre>\n".toList)
  | .heading anchor content => "<h".toList ++ (opening :: (" id=\"".toList ++
      (Html.escapeText anchor ++ ("\">".toList ++ (contentHtml content ++
        ("</h".toList ++ (closing :: ">\n".toList)))))))

/-- An element in HTML, with headings of level four. -/
def Element.html (e : Element) : List Char := e.htmlAt '4' '4'

/-- The text of a part of the content. -/
def Inline.text : Inline → List Char
  | .char c => [c]
  | .link l => l.label

/-- The text of content. -/
def contentText (content : List Inline) : List Char := content.flatMap Inline.text

/-- The text of an element, and the line end that follows it. -/
def Element.text : Element → List Char
  | .para content => contentText content ++ ['\n']
  | .pre content => contentText content ++ ['\n']
  | .heading _ content => contentText content ++ ['\n']

theorem Inline.html_char (c : Char) : (Inline.char c).html = Html.escapeChar c := rfl

theorem Inline.html_link (l : Link) :
    (Inline.link l).html = "<a href=\"".toList ++ (Html.escapeText l.href ++ ("\">".toList ++
      (Html.escapeText l.label ++ "</a>".toList))) := rfl

theorem Element.htmlAt_para (opening closing : Char) (content : List Inline) :
    (Element.para content).htmlAt opening closing =
      "<p>".toList ++ (contentHtml content ++ "</p>\n".toList) := rfl

theorem Element.htmlAt_pre (opening closing : Char) (content : List Inline) :
    (Element.pre content).htmlAt opening closing =
      "<pre>".toList ++ (contentHtml content ++ "</pre>\n".toList) := rfl

theorem Element.htmlAt_heading (opening closing : Char) (anchor : List Char)
    (content : List Inline) :
    (Element.heading anchor content).htmlAt opening closing =
      "<h".toList ++ (opening :: (" id=\"".toList ++ (Html.escapeText anchor ++ ("\">".toList ++
        (contentHtml content ++ ("</h".toList ++ (closing :: ">\n".toList))))))) := rfl

theorem contentHtml_cons (i : Inline) (content : List Inline) :
    contentHtml (i :: content) = i.html ++ contentHtml content := rfl

theorem contentText_cons (i : Inline) (content : List Inline) :
    contentText (i :: content) = i.text ++ contentText content := rfl

theorem contentHtml_append (a b : List Inline) :
    contentHtml (a ++ b) = contentHtml a ++ contentHtml b := by
  simp [contentHtml]

theorem contentText_append (a b : List Inline) :
    contentText (a ++ b) = contentText a ++ contentText b := by
  simp [contentText]

/-- Content of text only. -/
def chars (s : List Char) : List Inline := s.map Inline.char

theorem contentHtml_chars (s : List Char) : contentHtml (chars s) = Html.escapeText s := by
  induction s with
  | nil => rfl
  | cons c s ih => rw [chars, List.map_cons, contentHtml_cons, ← chars, ih]; rfl

theorem contentText_chars (s : List Char) : contentText (chars s) = s := by
  induction s with
  | nil => rfl
  | cons c s ih => rw [chars, List.map_cons, contentText_cons, ← chars, ih]; rfl

/-! ## Reading pages -/

/-- The insides of tags without an attribute. -/
def plainTags : List (List Char) :=
  ["p".toList, "/p".toList, "pre".toList, "/pre".toList, "/h4".toList, "/a".toList]

/-- The value of the one attribute of a tag whose inside begins with `start`. -/
def attribute? (start body : List Char) : Option (List Char) :=
  (start.isPrefixOf? body).bind fun rest =>
    if rest.getLast? = some '\x22' then some rest.dropLast else none

/-- Whether a text can stand in an attribute. -/
def isAttribute (value : List Char) : Bool := value.all fun c => !Html.isMarkupChar c

/-- The inside of a tag of a page: of a tag without an attribute, of one that begins a heading and
names its anchor, or of one that begins a link with a scheme. -/
def isPageTag (body : List Char) : Bool :=
  plainTags.contains body || (attribute? "h4 id=\"".toList body).any isAttribute ||
    (attribute? "a href=\"".toList body).any fun href =>
      isAttribute href && urlStarts.any (·.isPrefixOf href)

theorem attribute?_append (start value : List Char) :
    attribute? start (start ++ (value ++ ['\x22'])) = some value := by
  rw [attribute?, List.isPrefixOf?_eq_some_iff_append_eq.mpr rfl]
  simp

theorem isAttribute_escapeText (s : List Char) : isAttribute (Html.escapeText s) = true := by
  refine List.all_eq_true.mpr fun c hc => ?_
  rw [Html.isMarkupChar_of_mem_escapeText hc]
  rfl

theorem isPageTag_heading (anchor : List Char) :
    isPageTag ("h4 id=\"".toList ++ (Html.escapeText anchor ++ ['\x22'])) = true := by
  rw [isPageTag, attribute?_append, Option.any_some, isAttribute_escapeText]
  simp

/-- Escaping keeps the scheme of a URL. -/
theorem hasScheme_escapeText {href : List Char} (h : HasScheme href) :
    HasScheme (Html.escapeText href) := by
  obtain ⟨start, hstart, rest, rfl⟩ := h
  refine ⟨start, hstart, Html.escapeText rest, ?_⟩
  have hplain : ∀ s ∈ urlStarts, Html.escapeText s = s := by decide
  rw [Html.escapeText_append, hplain start hstart]

theorem isPageTag_link (l : Link) :
    isPageTag ("a href=\"".toList ++ (Html.escapeText l.href ++ ['\x22'])) = true := by
  obtain ⟨start, hstart, hpre⟩ := hasScheme_escapeText l.scheme
  have hscheme : urlStarts.any (·.isPrefixOf (Html.escapeText l.href)) = true :=
    List.any_eq_true.mpr ⟨start, hstart, List.isPrefixOf_iff_prefix.mpr hpre⟩
  rw [isPageTag, attribute?_append, Option.any_some, isAttribute_escapeText, hscheme]
  simp

section
variable {isTag : List Char → Bool} (htag : ∀ body, isPageTag body = true → isTag body = true)
include htag

/-- A tag without an attribute is dropped. -/
theorem stripTags_plainTag {body : List Char} (hbody : body ∈ plainTags) (t : List Char) :
    Html.stripTags isTag ('<' :: (body ++ '>' :: t)) = Html.stripTags isTag t := by
  have hgt : ∀ b ∈ plainTags, '>' ∉ b := by decide
  refine Html.stripTags_tag (hgt body hbody) (htag body ?_) t
  simp [isPageTag, hbody]

theorem stripTags_content (content : List Inline) (t : List Char) :
    Html.stripTags isTag (contentHtml content ++ t) =
      Html.escapeText (contentText content) ++ Html.stripTags isTag t := by
  induction content with
  | nil => rfl
  | cons i content ih =>
    rw [contentHtml_cons, contentText_cons, Html.escapeText_append, List.append_assoc,
      List.append_assoc, ← ih]
    cases i with
    | char c =>
      have hlt := Html.lt_not_mem_escapeText [c]
      rw [show (Inline.char c).html = Html.escapeText [c] by simp [Inline.html_char, Html.escapeText]]
      exact Html.stripTags_text hlt _
    | link l =>
      have hhtml : ∀ u, (Inline.link l).html ++ u =
          '<' :: ("a href=\"".toList ++ (Html.escapeText l.href ++ ("\">".toList ++
            (Html.escapeText l.label ++ '<' :: ("/a".toList ++ '>' :: u))))) := fun u => by
        simp [Inline.html_link]
      rw [hhtml, Html.stripTags_attribute (by decide) (htag _ (isPageTag_link l)),
        Html.stripTags_text (Html.lt_not_mem_escapeText l.label),
        stripTags_plainTag htag (by decide)]
      rfl

/-- Content up to the tag that ends its element, and the line end that follows it. -/
theorem stripTags_content_end {body : List Char} (hbody : body ∈ plainTags) (content : List Inline)
    (t : List Char) :
    Html.stripTags isTag (contentHtml content ++ '<' :: (body ++ '>' :: '\n' :: t)) =
      Html.escapeText (contentText content ++ ['\n']) ++ Html.stripTags isTag t := by
  rw [stripTags_content htag, stripTags_plainTag htag hbody, Html.stripTags_cons (by decide),
    Html.escapeText_append, List.append_assoc]
  rfl

/-- **An element shows its text**: its tags are dropped, and nothing else. -/
theorem stripTags_element (e : Element) (t : List Char) :
    Html.stripTags isTag (e.html ++ t) = Html.escapeText e.text ++ Html.stripTags isTag t := by
  cases e with
  | para content =>
    have hhtml : (Element.para content).html ++ t = '<' :: ("p".toList ++ '>' ::
        (contentHtml content ++ '<' :: ("/p".toList ++ '>' :: '\n' :: t))) := by
      simp [Element.html, Element.htmlAt_para]
    rw [hhtml, stripTags_plainTag htag (by decide)]
    exact stripTags_content_end htag (by decide) content t
  | pre content =>
    have hhtml : (Element.pre content).html ++ t = '<' :: ("pre".toList ++ '>' ::
        (contentHtml content ++ '<' :: ("/pre".toList ++ '>' :: '\n' :: t))) := by
      simp [Element.html, Element.htmlAt_pre]
    rw [hhtml, stripTags_plainTag htag (by decide)]
    exact stripTags_content_end htag (by decide) content t
  | heading anchor content =>
    have hhtml : (Element.heading anchor content).html ++ t = '<' :: ("h4 id=\"".toList ++
        (Html.escapeText anchor ++ ("\">".toList ++
          (contentHtml content ++ '<' :: ("/h4".toList ++ '>' :: '\n' :: t))))) := by
      simp [Element.html, Element.htmlAt_heading]
    rw [hhtml, Html.stripTags_attribute (by decide) (htag _ (isPageTag_heading anchor))]
    exact stripTags_content_end htag (by decide) content t

/-- **The tags of a page are exactly the markup in it.** -/
theorem stripTags_page (page : List Element) :
    Html.stripTags isTag (page.flatMap Element.html) =
      Html.escapeText (page.flatMap Element.text) :=
  Html.stripTags_flatMap (stripTags_element htag) page

/-- **A page shows its text**, whatever further tags are taken out. -/
theorem visible_page (page : List Element) :
    Html.visible isTag (page.flatMap Element.html) =
      (page.flatMap Element.text).map Html.shownChar :=
  Html.visible_eq_map (stripTags_page htag page)

end

/-! ## Pages of blocks -/

/-- No reference to an RFC, which holds white space, can begin inside a link of the content. -/
def Inline.Solid : Inline → Prop
  | .char _ => True
  | .link l => ∀ c ∈ l.href ++ l.label, isRfcBlank c = false

/-- The same of all the content of an element and of the anchor of a heading. -/
def Element.Solid : Element → Prop
  | .para content => ∀ i ∈ content, i.Solid
  | .pre content => ∀ i ∈ content, i.Solid
  | .heading anchor content => (∀ c ∈ anchor, isRfcBlank c = false) ∧ ∀ i ∈ content, i.Solid

theorem solid_chars (s : List Char) : ∀ i ∈ chars s, i.Solid := by
  intro i hi
  obtain ⟨c, _, rfl⟩ := List.mem_map.mp hi
  trivial

theorem isRfcBlank_of_not_isWhite {c : Char} (h : isWhite c = false) : isRfcBlank c = false := by
  cases hc : isRfcBlank c with
  | false => rfl
  | true =>
    simp only [isRfcBlank, Bool.or_eq_true, beq_iff_eq] at hc
    have hwhite : isWhite c = true := by
      rcases hc with (((rfl | rfl) | rfl) | rfl) | rfl <;> decide
    rw [hwhite] at h
    cases h

/-- The content of a line of text. -/
theorem exists_lineContent (line : List Char) :
    ∃ content, Plain.lineHtml line = contentHtml content ∧
      contentText content = convertQuotes line ∧ ∀ i ∈ content, i.Solid := by
  suffices h : ∀ sps : List Span, (∀ url, Span.url url ∈ sps → LinkTarget url) →
      ∃ content, sps.flatMap Plain.spanHtml = contentHtml content ∧
        contentText content = sps.flatMap Span.shown ∧ ∀ i ∈ content, i.Solid by
    have := h (spans line) (fun url hurl => linkTarget_of_mem_spans hurl)
    rwa [flatMap_shown_spans] at this
  intro sps
  induction sps with
  | nil => exact fun _ => ⟨[], rfl, rfl, by simp⟩
  | cons sp sps ih =>
    intro htargets
    obtain ⟨content, hhtml, htext, hsolid⟩ := ih fun url hurl => htargets url (by simp [hurl])
    cases sp with
    | plain text =>
      refine ⟨chars (convertQuotes text) ++ content, ?_, ?_, ?_⟩
      · rw [List.flatMap_cons, hhtml, contentHtml_append, contentHtml_chars]
        rfl
      · rw [contentText_append, contentText_chars, htext]
        rfl
      · exact List.forall_mem_append.mpr ⟨solid_chars _, hsolid⟩
    | url text =>
      have htarget := htargets text (by simp)
      refine ⟨.link ⟨text, text, htarget.scheme⟩ :: content, ?_, ?_, ?_⟩
      · rw [List.flatMap_cons, hhtml, contentHtml_cons, Inline.html_link]
        show _ ++ _ ++ _ ++ _ ++ _ ++ contentHtml content = _
        simp only [List.append_assoc]
      · rw [contentText_cons, htext]
        rfl
      · refine List.forall_mem_cons.mpr ⟨fun c hc => ?_, hsolid⟩
        refine isRfcBlank_of_not_isWhite (htarget.notWhite c ?_)
        simpa using hc

/-- The content of a paragraph, whose lines end in line feeds. -/
theorem exists_linesContent (ls : List (List Char)) :
    ∃ content, (ls.flatMap fun l => Plain.lineHtml l ++ ['\n']) = contentHtml content ∧
      contentText content = (ls.flatMap fun l => convertQuotes l ++ ['\n']) ∧
        ∀ i ∈ content, i.Solid := by
  induction ls with
  | nil => exact ⟨[], rfl, rfl, by simp⟩
  | cons l ls ih =>
    obtain ⟨rest, hhtml, htext, hsolid⟩ := ih
    obtain ⟨content, hhtml', htext', hsolid'⟩ := exists_lineContent l
    refine ⟨content ++ (chars ['\n'] ++ rest), ?_, ?_, ?_⟩
    · rw [List.flatMap_cons, hhtml, hhtml', contentHtml_append, contentHtml_append,
        contentHtml_chars, List.append_assoc]
      rfl
    · rw [List.flatMap_cons, contentText_append, contentText_append, contentText_chars, htext,
        htext', List.append_assoc]
    · exact List.forall_mem_append.mpr
        ⟨hsolid', List.forall_mem_append.mpr ⟨solid_chars _, hsolid⟩⟩

theorem escapeText_lines (ls : List (List Char)) :
    Html.escapeText (ls.flatMap fun l => l ++ ['\n']) =
      ls.flatMap fun l => Html.escapeText l ++ ['\n'] := by
  induction ls with
  | nil => rfl
  | cons l ls ih =>
    rw [List.flatMap_cons, Html.escapeText_append, Html.escapeText_append, ih]
    rfl

theorem isRfcBlank_of_mem_anchorId {title : List Char} {c : Char} (h : c ∈ anchorId title) :
    isRfcBlank c = false := by
  rw [anchorId, List.mem_append, List.mem_map] at h
  rcases h with h | ⟨x, _, rfl⟩
  · have hstart : "hdr-".toList.all (fun x => !isRfcBlank x) = true := by decide
    simpa using List.all_eq_true.mp hstart c h
  · split
    · rename_i halnum
      cases hblank : isRfcBlank x with
      | false => rfl
      | true =>
        simp only [isRfcBlank, Bool.or_eq_true, beq_iff_eq] at hblank
        have hnot : isAlphanumeric x = false := by
          rcases hblank with (((rfl | rfl) | rfl) | rfl) | rfl <;> decide +kernel
        rw [hnot] at halnum
        cases halnum
    · decide

/-- What a block shows in HTML: its text, line by line. -/
def blockText : Block → List Char
  | .para ls => '\n' :: ((ls.flatMap fun l => convertQuotes l ++ ['\n']) ++ ['\n'])
  | .heading title => convertQuotes title ++ ['\n']
  | .pre ls => (ls.flatMap fun l => l ++ ['\n']) ++ ['\n']

/-- **A block is written as an element** that shows it. -/
theorem exists_element (b : Block) :
    ∃ e : Element, Plain.blockHtml b = e.htmlAt '3' '3' ∧ e.text = blockText b ∧ e.Solid := by
  cases b with
  | para ls =>
    obtain ⟨content, hhtml, htext, hsolid⟩ := exists_linesContent ls
    refine ⟨.para (chars ['\n'] ++ content), ?_, ?_, ?_⟩
    · rw [Element.htmlAt_para, contentHtml_append, contentHtml_chars, ← hhtml]
      show "<p>\n".toList ++ _ ++ _ = _
      simp [Html.escapeText, Html.escapeChar]
    · rw [Element.text, contentText_append, contentText_chars, htext]
      rfl
    · exact List.forall_mem_append.mpr ⟨solid_chars _, hsolid⟩
  | heading title =>
    refine ⟨.heading (anchorId title) (chars (convertQuotes title)), ?_, ?_,
      fun c hc => isRfcBlank_of_mem_anchorId hc, solid_chars _⟩
    · rw [Element.htmlAt_heading, contentHtml_chars]
      show "<h3 id=\"".toList ++ _ ++ _ ++ _ ++ _ = _
      simp
    · rw [Element.text, contentText_chars]
      rfl
  | pre ls =>
    refine ⟨.pre (chars (ls.flatMap fun l => l ++ ['\n'])), ?_, ?_, solid_chars _⟩
    · rw [Element.htmlAt_pre, contentHtml_chars, escapeText_lines]
      show "<pre>".toList ++ _ ++ _ = _
      rw [List.append_assoc]
    · rw [Element.text, contentText_chars]
      rfl

/-- **A comment is written as a page** that shows its blocks. -/
theorem exists_page (blocks : List Block) :
    ∃ page : List Element, blocks.flatMap Plain.blockHtml = page.flatMap (Element.htmlAt '3' '3') ∧
      page.flatMap Element.text = blocks.flatMap blockText ∧ ∀ e ∈ page, e.Solid := by
  induction blocks with
  | nil => exact ⟨[], rfl, rfl, by simp⟩
  | cons b blocks ih =>
    obtain ⟨page, hhtml, htext, hsolid⟩ := ih
    obtain ⟨e, hhtml', htext', hsolid'⟩ := exists_element b
    refine ⟨e :: page, ?_, ?_, ?_⟩
    · rw [List.flatMap_cons, List.flatMap_cons, hhtml, hhtml']
    · rw [List.flatMap_cons, List.flatMap_cons, htext, htext']
    · exact List.forall_mem_cons.mpr ⟨hsolid', hsolid⟩

end DocPress.Comment.Page
