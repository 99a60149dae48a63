import DocPress.Proofs.Comment.Demotion
import DocPress.Proofs.Comment.LinkPlaces
import DocPress.Proofs.Comment.MarkdownPage

/-!
# Where comments are linked to RFCs

References to RFCs are linked in the finished page of a comment. On the page of a plain comment they
all lie in text. On that of a Markdown comment a reference may also lie in a link and in an attribute
that holds text of the author, and is linked there.

* `Clear` — HTML that brings no reference into attributes and links, whatever follows it.
* `Written.demoteHeadings` — the page of a Markdown comment with its headings demoted.
* `holdsReference_attribute` — only titles, alternative texts and languages of code hold references.

Principal results: `linksInText_iff_free` — which comments are linked in text only;
`linked_in_title_and_link` — one that is linked in a title and in a link.
-/

namespace DocPress.Comment

open DocPress.Text DocPress.Comment.Page

/-! ## Texts without references -/

/-- A reference holds white space. -/
theorem not_holdsReference_of_solid {s : List Char} (h : ∀ c ∈ s, isRfcBlank c = false) :
    ¬ HoldsReference s := by
  rintro ⟨before, after, rfl, hafter⟩
  obtain ⟨⟨label, digits⟩, hfound⟩ := Option.isSome_iff_exists.mp hafter
  obtain ⟨href, hpre⟩ := rfcAt?_spec hfound
  obtain ⟨blanks, hne, hblanks, hlabel⟩ := href.form
  obtain ⟨b, hb⟩ := List.exists_mem_of_ne_nil blanks hne
  have hmem : b ∈ after := hpre.subset (by rw [hlabel]; simp [hb])
  have hnot := h b (List.mem_append_right _ hmem)
  rw [hblanks b hb] at hnot
  cases hnot

theorem not_holdsReference_of_not_mem {s : List Char} (h : 'R' ∉ s) : ¬ HoldsReference s := by
  rintro ⟨before, after, rfl, hafter⟩
  obtain ⟨rest, rfl⟩ := eq_cons_of_rfcAt? hafter
  simp at h

/-! ## Plain comments -/

/-- HTML that brings no reference into attributes and links, whatever follows it. -/
def Clear (html : List Char) : Prop :=
  ∃ tokens, html = Html.tokensHtml tokens ∧ AttributesFree tokens ∧
    ∀ rest, LinksFree rest → LinksFree (tokens ++ rest)

theorem Clear.nil : Clear [] := ⟨[], rfl, by simp [AttributesFree, Html.tagsOf], fun _ h => h⟩

theorem Clear.append {a b : List Char} (ha : Clear a) (hb : Clear b) : Clear (a ++ b) := by
  obtain ⟨ts, rfl, hts, hlinks⟩ := ha
  obtain ⟨us, rfl, hus, hlinks'⟩ := hb
  refine ⟨ts ++ us, (Html.tokensHtml_append ..).symm, ?_, fun rest hrest => ?_⟩
  · rw [AttributesFree, Html.tagsOf_append]
    exact List.forall_mem_append.mpr ⟨hts, hus⟩
  · rw [List.append_assoc]
    exact hlinks _ (hlinks' _ hrest)

theorem linkContents_textTokens {s : List Char} (h : ∀ c ∈ s, c ≠ '<' ∧ c ≠ '>')
    (rest : List Html.Token) :
    Html.linkContents (Html.textTokens s h ++ rest) = Html.linkContents rest := by
  induction s with
  | nil => rfl
  | cons c s ih => exact ih fun x hx => h x (List.mem_cons_of_mem _ hx)

theorem endsLink_textTokens {s : List Char} (h : ∀ c ∈ s, c ≠ '<' ∧ c ≠ '>') :
    ∀ t ∈ Html.textTokens s h, t.endsLink = false := by
  intro t ht
  obtain ⟨c, hc, rfl⟩ := List.mem_pmap.mp ht
  rfl

theorem Clear.text {s : List Char} (h : ∀ c ∈ s, c ≠ '<' ∧ c ≠ '>') : Clear s := by
  obtain ⟨hhtml, _, htags⟩ := Html.tokensHtml_textTokens h
  refine ⟨Html.textTokens s h, hhtml.symm, by simp [AttributesFree, htags], fun rest hrest => ?_⟩
  rw [LinksFree, linkContents_textTokens]
  exact hrest

/-- A tag that begins no link. -/
theorem Clear.tag {t : Html.Tag} (regular : t.Regular) (hstart : Html.isLinkStart t.inside = false)
    (hfree : ∀ a ∈ t.attributes, ¬ HoldsReference a.value) : Clear t.html := by
  refine ⟨[.tag t regular], (List.append_nil _).symm, ?_, fun rest hrest => ?_⟩
  · exact List.forall_mem_singleton.mpr hfree
  · have hskip : Html.linkContents ([.tag t regular] ++ rest) = Html.linkContents rest := by
      rw [List.singleton_append, Html.linkContents, Html.Token.startsLink, hstart]
      rfl
    rw [LinksFree, hskip]
    exact hrest

/-- A tag without attributes. -/
theorem Clear.bare (name : List Char) (hname : name.all Html.isNameChar = true)
    (hstart : Html.isLinkStart name = false) : Clear ('<' :: (name ++ ['>'])) := by
  have hinside : (Html.Tag.mk name [] false).inside = name := by simp [Html.Tag.inside]
  have hregular : (Html.Tag.mk name [] false).Regular := ⟨List.all_eq_true.mp hname, by simp⟩
  have htag := Clear.tag hregular (by rwa [hinside]) (by simp)
  rwa [Html.Tag.html, hinside] at htag

/-- The tag that ends a link. -/
theorem linkEnd_regular : (Html.Tag.mk "/a".toList [] false).Regular :=
  ⟨List.all_eq_true.mp (by decide : "/a".toList.all Html.isNameChar = true), by simp⟩

/-- A link around text holds that text. -/
theorem linkContents_link {t : Html.Tag} (regular : t.Regular)
    (hstart : Html.isLinkStart t.inside = true) {label : List Char}
    (hlabel : ∀ c ∈ label, c ≠ '<' ∧ c ≠ '>') (rest : List Html.Token) :
    Html.linkContents (.tag t regular ::
      (Html.textTokens label hlabel ++ .tag _ linkEnd_regular :: rest)) =
        label :: Html.linkContents rest := by
  have htake : (Html.textTokens label hlabel ++ .tag _ linkEnd_regular :: rest).takeWhile
      (fun t => !t.endsLink) = Html.textTokens label hlabel := by
    rw [List.takeWhile_append_of_pos fun t ht => by rw [endsLink_textTokens hlabel t ht]; rfl,
      List.takeWhile_cons_of_neg (by decide), List.append_nil]
  have hskip : Html.linkContents (.tag _ linkEnd_regular :: rest) = Html.linkContents rest := by
    rw [Html.linkContents, if_neg (by decide)]
  rw [Html.linkContents, Html.Token.startsLink, if_pos hstart, htake,
    (Html.tokensHtml_textTokens hlabel).1, linkContents_textTokens, hskip]

/-- A link whose attributes and label hold no reference. -/
theorem Clear.link {t : Html.Tag} (regular : t.Regular) (hstart : Html.isLinkStart t.inside = true)
    (hfree : ∀ a ∈ t.attributes, ¬ HoldsReference a.value) {label : List Char}
    (hlabel : ∀ c ∈ label, c ≠ '<' ∧ c ≠ '>') (hsolid : ¬ HoldsReference label) :
    Clear (t.html ++ (label ++ "</a>".toList)) := by
  obtain ⟨hhtml, _, htags⟩ := Html.tokensHtml_textTokens hlabel
  refine ⟨.tag t regular :: (Html.textTokens label hlabel ++ [.tag _ linkEnd_regular]), ?_, ?_,
    fun rest hrest => ?_⟩
  · rw [Html.tokensHtml_cons, Html.tokensHtml_append, hhtml]
    rfl
  · rw [AttributesFree, ← List.singleton_append, Html.tagsOf_append, Html.tagsOf_append, htags]
    refine List.forall_mem_append.mpr ⟨List.forall_mem_singleton.mpr hfree, ?_⟩
    simp [Html.tagsOf, Html.Token.tag?]
  · rw [LinksFree, List.cons_append, List.append_assoc, List.singleton_append,
      linkContents_link _ hstart]
    exact List.forall_mem_cons.mpr ⟨hsolid, hrest⟩

theorem bracket_not_mem_escapeText {s : List Char} : ∀ c ∈ Html.escapeText s, c ≠ '<' ∧ c ≠ '>' :=
  fun _ hc => Html.ne_bracket_of_isMarkupChar (Html.isMarkupChar_of_mem_escapeText hc)

/-- A tag with one attribute, whose value is escaped text. -/
theorem regular_escapeText {name key : List Char} (hname : name.all Html.isNameChar = true)
    (hkey : key.all Html.isNameChar = true) (s : List Char) :
    (Html.Tag.mk name [⟨key, Html.escapeText s⟩] false).Regular :=
  ⟨List.all_eq_true.mp hname, List.forall_mem_singleton.mpr
    ⟨List.all_eq_true.mp hkey, fun _ hc => Html.isMarkupChar_of_mem_escapeText hc⟩⟩

theorem not_holdsReference_escapeText {s : List Char} (h : ∀ c ∈ s, isRfcBlank c = false) :
    ¬ HoldsReference (Html.escapeText s) :=
  not_holdsReference_of_solid (isRfcBlank_escapeText h)

/-- The content of elements. -/
theorem clear_contentHtml {content : List Inline} (h : ∀ i ∈ content, i.Solid) :
    Clear (contentHtml content) := by
  induction content with
  | nil => exact .nil
  | cons i content ih =>
    obtain ⟨hi, hcontent⟩ := List.forall_mem_cons.mp h
    rw [contentHtml_cons]
    refine Clear.append ?_ (ih hcontent)
    cases i with
    | char c =>
      have htext := Clear.text (bracket_not_mem_escapeText (s := [c]))
      simpa [Html.escapeText, Inline.html_char] using htext
    | link l =>
      have hhref := not_holdsReference_escapeText fun c hc => hi c (List.mem_append_left _ hc)
      have hlabel := not_holdsReference_escapeText fun c hc => hi c (List.mem_append_right _ hc)
      have hregular := regular_escapeText (by decide : "a".toList.all _ = true)
        (by decide : "href".toList.all _ = true) l.href
      have hlink := Clear.link hregular
        (by simp [Html.Tag.inside, Html.Attribute.html, Html.isLinkStart])
        (List.forall_mem_singleton.mpr hhref) bracket_not_mem_escapeText hlabel
      simpa [Html.Tag.html, Html.Tag.inside, Html.Attribute.html, Inline.html_link] using hlink

/-- The elements of a page. -/
theorem clear_html {e : Element} (h : e.Solid) : Clear e.html := by
  have hline : Clear ['\n'] := Clear.text (by simp)
  cases e with
  | para content =>
    have hopen := Clear.bare "p".toList (by decide) (by decide)
    have hclose := Clear.bare "/p".toList (by decide) (by decide)
    exact hopen.append ((clear_contentHtml h).append (hclose.append hline))
  | pre content =>
    have hopen := Clear.bare "pre".toList (by decide) (by decide)
    have hclose := Clear.bare "/pre".toList (by decide) (by decide)
    exact hopen.append ((clear_contentHtml h).append (hclose.append hline))
  | heading anchor content =>
    have hregular := regular_escapeText (by decide : "h4".toList.all _ = true)
      (by decide : "id".toList.all _ = true) anchor
    have hopen := Clear.tag hregular
      (by simp [Html.Tag.inside, Html.isLinkStart, List.isPrefixOf])
      (List.forall_mem_singleton.mpr (not_holdsReference_escapeText h.1))
    have hclose := Clear.bare "/h4".toList (by decide) (by decide)
    have hall := hopen.append ((clear_contentHtml h.2).append (hclose.append hline))
    simpa [Html.Tag.html, Html.Tag.inside, Html.Attribute.html, Element.html, Element.htmlAt_heading]
      using hall

theorem clear_page {page : List Element} (h : ∀ e ∈ page, e.Solid) :
    Clear (page.flatMap Element.html) := by
  induction page with
  | nil => exact .nil
  | cons e page ih =>
    obtain ⟨he, hpage⟩ := List.forall_mem_cons.mp h
    rw [List.flatMap_cons]
    exact (clear_html he).append (ih hpage)

/-- **On the page of a plain comment neither attributes nor links hold references.** -/
theorem exists_free_tokens (blocks : List Block) :
    ∃ tokens, demoteHeadings (blocks.flatMap Plain.blockHtml) = Html.tokensHtml tokens ∧
      AttributesFree tokens ∧ LinksFree tokens := by
  obtain ⟨page, hhtml, _, hsolid⟩ := exists_page blocks
  obtain ⟨tokens, htokens, hattributes, hlinks⟩ := clear_page hsolid
  refine ⟨tokens, by rw [hhtml, demoteHeadings_page, htokens], hattributes, ?_⟩
  have hfree := hlinks [] (by simp [LinksFree, Html.linkContents])
  rwa [List.append_nil] at hfree

/-! ## Markdown comments -/

namespace Markdown

/-- The tags of headings of level three are the only ones that demoting reaches. -/
theorem IsWriterTag.demotion_cases {t : Html.Tag} (ht : IsWriterTag t) :
    t = ⟨"h3".toList, [], false⟩ ∨ t = ⟨"/h3".toList, [], false⟩ ∨
      (¬ "h3".toList <+: t.inside ∧ ¬ "/h3".toList <+: t.inside) := by
  cases ht with
  | @bare name h =>
    have hnames : ∀ name ∈ bareNames, name = "h3".toList ∨ name = "/h3".toList ∨
        (¬ "h3".toList <+: name ∧ ¬ "/h3".toList <+: name) := by decide +kernel
    have hinside : (Html.Tag.mk name [] false).inside = name := by simp [Html.Tag.inside]
    rw [hinside]
    rcases hnames name h with rfl | rfl | hother
    · exact Or.inl rfl
    · exact Or.inr (Or.inl rfl)
    · exact Or.inr (Or.inr hother)
  | line h =>
    refine Or.inr (Or.inr ?_)
    rw [List.mem_pair] at h
    rcases h with rfl | rfl <;> simp [Html.Tag.inside]
  | cell h _ =>
    refine Or.inr (Or.inr ?_)
    rw [List.mem_pair] at h
    rcases h with rfl | rfl <;> simp [Html.Tag.inside]
  | code _ => exact Or.inr (Or.inr (by simp [Html.Tag.inside]))
  | list _ => exact Or.inr (Or.inr (by simp [Html.Tag.inside]))
  | link _ _ _ => exact Or.inr (Or.inr (by simp [Html.Tag.inside]))
  | image _ _ _ => exact Or.inr (Or.inr (by simp [Html.Tag.inside]))

/-- What a replacement makes of each tag, it makes of the page. -/
theorem Written.replaced {ps replacement : List Char}
    (h : ∀ t, IsWriterTag t → ∃ t', IsWriterTag t' ∧ ∀ u,
      replaceAll ('<' :: ps) replacement (t.html ++ u) =
        t'.html ++ replaceAll ('<' :: ps) replacement u)
    {shown html : List Char} (hwritten : Written shown html) :
    Written shown (replaceAll ('<' :: ps) replacement html) := by
  obtain ⟨tokens, rfl, htags, htext⟩ := hwritten
  suffices hreplaced : ∃ replaced,
      replaceAll ('<' :: ps) replacement (Html.tokensHtml tokens) = Html.tokensHtml replaced ∧
      (∀ t ∈ Html.tagsOf replaced, IsWriterTag t) ∧ Html.textOf replaced = Html.textOf tokens by
    obtain ⟨replaced, hhtml, htags', htext'⟩ := hreplaced
    exact ⟨replaced, hhtml, htags', by rw [htext', htext]⟩
  clear htext
  induction tokens with
  | nil => exact ⟨[], rfl, htags, rfl⟩
  | cons token tokens ih =>
    rw [← List.singleton_append, Html.tagsOf_append] at htags
    obtain ⟨htoken, htokens⟩ := List.forall_mem_append.mp htags
    obtain ⟨replaced, hhtml, htags', htext'⟩ := ih htokens
    rw [Html.tokensHtml_cons]
    cases token with
    | char c free =>
      refine ⟨.char c free :: replaced, ?_, htags', congrArg (c :: ·) htext'⟩
      have hinert : Inert ('<' :: ps) replacement [c] :=
        inert_text (by simpa using Ne.symm free.1)
      exact (hinert _).trans (congrArg ([c] ++ ·) hhtml)
    | tag t regular =>
      obtain ⟨t', ht', hreplace⟩ := h t (htoken t (by simp [Html.tagsOf, Html.Token.tag?]))
      refine ⟨.tag t' ht'.regular :: replaced, ?_, ?_, htext'⟩
      · rw [Html.Token.html, hreplace, hhtml]
        rfl
      · exact List.forall_mem_cons.mpr ⟨ht', htags'⟩

/-- A tag that the pattern of a heading does not begin is kept. -/
theorem replaceAll_tag {ps name replacement : List Char} (hps : name <+: ps) (hgt : '>' ∉ name)
    {t : Html.Tag} (regular : t.Regular) (h : ¬ name <+: t.inside) (u : List Char) :
    replaceAll ('<' :: ps) replacement (t.html ++ u) =
      t.html ++ replaceAll ('<' :: ps) replacement u := by
  have hlt : '<' ∉ t.inside ++ ['>'] := by
    simp [regular.bracket_not_mem (Or.inl rfl)]
  refine inert_tag ps (t.inside ++ ['>']) hlt (fun v hpre => h ?_) u
  rw [List.append_assoc] at hpre
  refine (prefix_append_iff ?_ t.inside).mp (hps.trans hpre)
  intro c hc
  obtain rfl := Option.some.inj hc
  exact hgt

/-- **Demoting headings keeps a page of the writer.** -/
theorem Written.demoted {shown html : List Char} (h : Written shown html) :
    Written shown (demoteHeadings html) := by
  have hh4 : IsWriterTag ⟨"h4".toList, [], false⟩ := .bare (by decide)
  have hh4End : IsWriterTag ⟨"/h4".toList, [], false⟩ := .bare (by decide)
  -- a heading of the writer has no attributes, so that the first replacement keeps all tags
  have hopening : Written shown (replaceAll "<h3 ".toList "<h4 ".toList html) := by
    refine Written.replaced (fun t ht => ⟨t, ht, fun u => ?_⟩) h
    rcases ht.demotion_cases with rfl | rfl | ⟨hother, _⟩
    · exact inert_tag ['h', '3', ' '] ['h', '3', '>'] (by decide) (by simp) u
    · exact inert_tag ['h', '3', ' '] ['/', 'h', '3', '>'] (by decide) (by simp) u
    · exact replaceAll_tag (by decide) (by decide) ht.regular hother u
  have hselfStanding : Written shown (replaceAll "<h3>".toList "<h4>".toList
      (replaceAll "<h3 ".toList "<h4 ".toList html)) := by
    refine Written.replaced (fun t ht => ?_) hopening
    rcases ht.demotion_cases with rfl | rfl | ⟨hother, _⟩
    · exact ⟨_, hh4, replaceAll_match (by decide)⟩
    · exact ⟨_, ht, inert_tag ['h', '3', '>'] ['/', 'h', '3', '>'] (by decide) (by simp)⟩
    · exact ⟨_, ht, replaceAll_tag (by decide) (by decide) ht.regular hother⟩
  refine Written.replaced (fun t ht => ?_) hselfStanding
  rcases ht.demotion_cases with rfl | rfl | ⟨_, hother⟩
  · exact ⟨_, ht, inert_tag ['/', 'h', '3', '>'] ['h', '3', '>'] (by decide) (by simp)⟩
  · exact ⟨_, hh4End, replaceAll_match (by decide)⟩
  · exact ⟨_, ht, replaceAll_tag (by decide) (by decide) ht.regular hother⟩

theorem isRfcBlank_of_isControlOrSpace {c : Char} (h : isControlOrSpace c = false) :
    isRfcBlank c = false := by
  cases hblank : isRfcBlank c with
  | false => rfl
  | true =>
    simp only [isRfcBlank, Bool.or_eq_true, beq_iff_eq] at hblank
    have hcontrol : isControlOrSpace c = true := by
      rcases hblank with (((rfl | rfl) | rfl) | rfl) | rfl <;> rfl
    rw [hcontrol] at h
    cases h

/-- **Only titles, alternative texts and languages of code hold references.** -/
theorem holdsReference_attribute {t : Html.Tag} (ht : IsWriterTag t) {a : Html.Attribute}
    (ha : a ∈ t.attributes) (h : HoldsReference a.value) : a.name ∈ authorNames := by
  rcases ht.attribute_cases ha with
    ⟨_, email, dest, _, hvalue⟩ | hname | ⟨_, side, hside, hvalue⟩ | ⟨_, n, hvalue⟩
  · rw [hvalue] at h
    refine absurd h (not_holdsReference_of_solid fun c hc => ?_)
    exact isRfcBlank_of_isControlOrSpace (linkText_solid c hc).2
  · exact hname
  · have hletter : ∀ side ∈ ["left".toList, "center".toList, "right".toList],
        'R' ∉ "text-align: ".toList ++ side := by decide
    rw [hvalue] at h
    exact absurd h (not_holdsReference_of_not_mem (hletter side hside))
  · rw [hvalue] at h
    refine absurd h (not_holdsReference_of_not_mem fun hmem => ?_)
    cases isDigit_of_mem_toString hmem

/-- **The page of a Markdown comment**, with its headings demoted. -/
theorem exists_demoted_tokens (comment : List Char) :
    ∃ tokens, demoteHeadings (html comment) = Html.tokensHtml tokens ∧
      ∀ t ∈ Html.tagsOf tokens, IsWriterTag t := by
  obtain ⟨tokens, hhtml, htags, _⟩ := (written_write (DocPress.Markdown.eventsOf comment)).demoted
  exact ⟨tokens, hhtml, htags⟩

end Markdown

/-! ## Both -/

/-- **Which comments are linked in text only.** Linking wraps references of the finished page in
links and keeps all else. All links begin in text that belongs to no link exactly if no attribute and
no link of the page holds a reference. This is so for every plain comment; and on the page of a
Markdown comment only titles, alternative texts and languages of code are attributes that hold one. -/
theorem linksInText_iff_free (r : Renderer) (comment : String) :
    ∃ tokens, demoteHeadings (r.markup.html comment.toList) = Html.tokensHtml tokens ∧
      (r.html comment).toList = (stretches (Html.tokensHtml tokens)).flatMap Stretch.html ∧
      (stretches (Html.tokensHtml tokens)).flatMap Stretch.source = Html.tokensHtml tokens ∧
      (LinksInText (Html.tokensHtml tokens) ↔ AttributesFree tokens ∧ LinksFree tokens) ∧
      (r.markup = .plain → LinksInText (Html.tokensHtml tokens)) ∧
      ∀ t ∈ Html.tagsOf tokens, ∀ a ∈ t.attributes, HoldsReference a.value →
        a.name ∈ Markdown.authorNames := by
  have hlinked : ∀ tokens, demoteHeadings (r.markup.html comment.toList) = Html.tokensHtml tokens →
      (r.html comment).toList = (stretches (Html.tokensHtml tokens)).flatMap Stretch.html := by
    intro tokens htokens
    rw [Renderer.html, String.toList_ofList, htokens, linkRfcs_eq_stretches]
  cases hmarkup : r.markup with
  | plain =>
    obtain ⟨tokens, htokens, hattributes, hlinks⟩ := exists_free_tokens (Plain.blocks comment.toList)
    refine ⟨tokens, htokens, hlinked tokens ?_, source_stretches _, linksInText_iff tokens,
      fun _ => (linksInText_iff tokens).mpr ⟨hattributes, hlinks⟩, ?_⟩
    · rw [hmarkup]
      exact htokens
    · intro t ht a ha href
      exact absurd href (hattributes t ht a ha)
  | markdown =>
    obtain ⟨tokens, htokens, htags⟩ := Markdown.exists_demoted_tokens comment.toList
    refine ⟨tokens, htokens, hlinked tokens ?_, source_stretches _, linksInText_iff tokens,
      fun h => absurd h (by decide), ?_⟩
    · rw [hmarkup]
      exact htokens
    · intro t ht a ha href
      exact Markdown.holdsReference_attribute (htags t ht) ha href

/-- A title and the label of a link are linked as text is: the first link begins inside a tag, and the
second inside a link. -/
theorem linked_in_title_and_link :
    let page := demoteHeadings (Markup.markdown.html "[RFC 2616](/u \"RFC 2616\")".toList)
    let title := "<p><a href=\"/u\" title=\"".toList
    let label := "<p><a href=\"/u\" title=\"RFC 2616\">".toList
    LinkedAt page title ∧ (Html.placeAfter title).tag = some "a href=\"/u\" title=\"".toList ∧
      LinkedAt page label ∧ (Html.placeAfter label).link = true ∧ ¬ LinksInText page := by
  have hpage : demoteHeadings (Markup.markdown.html "[RFC 2616](/u \"RFC 2616\")".toList) =
      "<p><a href=\"/u\" title=\"RFC 2616\">RFC 2616</a></p>\n".toList := by decide +kernel
  have htitle : LinkedAt "<p><a href=\"/u\" title=\"RFC 2616\">RFC 2616</a></p>\n".toList
      "<p><a href=\"/u\" title=\"".toList :=
    linkedAt_iff.mpr ⟨"RFC 2616\">RFC 2616</a></p>\n".toList, by decide, by decide⟩
  have hlabel : LinkedAt "<p><a href=\"/u\" title=\"RFC 2616\">RFC 2616</a></p>\n".toList
      "<p><a href=\"/u\" title=\"RFC 2616\">".toList :=
    linkedAt_iff.mpr ⟨"RFC 2616</a></p>\n".toList, by decide, by decide⟩
  simp only [hpage]
  refine ⟨htitle, by decide, hlabel, by decide, fun h => ?_⟩
  exact absurd (h _ htitle) (by decide)

end DocPress.Comment
