import DocPress.Proofs.Comment.Destination
import DocPress.Proofs.Html.Token

/-!
# Markdown comments as pages of safe tags

What the writer makes of guarded events, in tokens of HTML.

* `IsWriterTag` — the tags that are written, with the attributes they may have.
* `Written` — HTML of such tags and of escaped text, line ends apart.
* `shownFrom` — the text of events outside images, raw HTML included.
* `SafePage` — every `<` of a page begins one of these tags, no link of it has a scheme that links may
  not have, and its text is the escaped text of the events.

Principal results: `Page.written_event`, `Page.event_alt` — what one event writes outside images and
inside one; `Page.written_events` — what any sequence of events writes; `safePage_of_events` — so a
comment is a safe page, whatever its events are.
-/

namespace DocPress.Comment.Markdown

open DocPress.Markdown

/-! ## The tags of the writer -/

/-- The names of tags without attributes. -/
def bareNames : List (List Char) :=
  let elements := ["p", "h2", "h3", "h4", "h5", "h6", "table", "thead", "tbody", "tr", "th", "td",
    "blockquote", "pre", "code", "ul", "ol", "li", "em", "strong", "del"].map String.toList
  elements ++ (elements ++ ["a".toList]).map ('/' :: ·)

/-- A link as it is written: a destination, behind `mailto:` if it is an e-mail address. -/
def linkText (email : Bool) (dest : List Char) : List Char :=
  (if email then "mailto:".toList else []) ++ destinationText dest

/-- A title as an attribute, if there is one. -/
def titleAttributes (title : List Char) : List Html.Attribute :=
  if title.isEmpty then [] else [⟨"title".toList, attributeText title⟩]

/-- The tags that are written. -/
inductive IsWriterTag : Html.Tag → Prop
  | bare {name : List Char} (h : name ∈ bareNames) : IsWriterTag ⟨name, [], false⟩
  | line {name : List Char} (h : name ∈ ["br".toList, "hr".toList]) : IsWriterTag ⟨name, [], true⟩
  | cell {name side : List Char} (hname : name ∈ ["th".toList, "td".toList])
      (hside : side ∈ ["left".toList, "center".toList, "right".toList]) :
      IsWriterTag ⟨name, [⟨"style".toList, "text-align: ".toList ++ side⟩], false⟩
  | code (language : List Char) :
      IsWriterTag
        ⟨"code".toList, [⟨"class".toList, "language-".toList ++ attributeText language⟩], false⟩
  | list (start : Nat) :
      IsWriterTag ⟨"ol".toList, [⟨"start".toList, (toString start).toList⟩], false⟩
  | link (email : Bool) {dest : List Char} (title : List Char) (h : isSafeDestination dest = true) :
      IsWriterTag ⟨"a".toList, ⟨"href".toList, linkText email dest⟩ :: titleAttributes title, false⟩
  | image {dest : List Char} (alt title : List Char) (h : isSafeDestination dest = true) :
      IsWriterTag ⟨"img".toList, ⟨"src".toList, linkText false dest⟩ ::
        ⟨"alt".toList, attributeText alt⟩ :: titleAttributes title, true⟩

/-! ## Escaped text -/

theorem bodyText_append (s t : List Char) : bodyText (s ++ t) = bodyText s ++ bodyText t := by
  simp [bodyText]

theorem attributeText_append (s t : List Char) :
    attributeText (s ++ t) = attributeText s ++ attributeText t := by
  simp [attributeText]

theorem isMarkupChar_of_mem_reference {s : List Char} {x : Char}
    (hs : s ∈ ["&amp;".toList, "&lt;".toList, "&gt;".toList, "&quot;".toList]) (hx : x ∈ s) :
    Html.isMarkupChar x = false := by
  have hall : ∀ s ∈ ["&amp;".toList, "&lt;".toList, "&gt;".toList, "&quot;".toList],
      s.all (fun y => !Html.isMarkupChar y) = true := by decide
  simpa using List.all_eq_true.mp (hall s hs) x hx

/-- A character is written as it is, or by a reference. -/
theorem mem_bodyChar {c x : Char} (h : x ∈ bodyChar c) :
    (x = c ∧ x ≠ '<' ∧ x ≠ '>') ∨ Html.isMarkupChar x = false := by
  rw [bodyChar] at h
  split at h
  · exact Or.inr (isMarkupChar_of_mem_reference (by simp) h)
  · split at h
    · exact Or.inr (isMarkupChar_of_mem_reference (by simp) h)
    · split at h
      · exact Or.inr (isMarkupChar_of_mem_reference (by simp) h)
      · obtain rfl := List.mem_singleton.mp h
        exact Or.inl ⟨rfl, by assumption, by assumption⟩

theorem bracket_not_mem_bodyText {s : List Char} : ∀ x ∈ bodyText s, x ≠ '<' ∧ x ≠ '>' := by
  intro x h
  obtain ⟨c, _, hx⟩ := List.mem_flatMap.mp h
  rcases mem_bodyChar hx with ⟨_, hfree⟩ | hx
  · exact hfree
  · exact Html.ne_bracket_of_isMarkupChar hx

/-- **Escaped attributes hold no character of markup.** -/
theorem isMarkupChar_of_mem_attributeText {s : List Char} :
    ∀ x ∈ attributeText s, Html.isMarkupChar x = false := by
  intro x h
  obtain ⟨c, _, hx⟩ := List.mem_flatMap.mp h
  rw [attributeChar] at hx
  split at hx
  · exact isMarkupChar_of_mem_reference (by simp) hx
  · rename_i hquote
    rcases mem_bodyChar hx with ⟨rfl, hlt, hgt⟩ | hx
    · simp [Html.isMarkupChar, hlt, hgt, hquote]
    · exact hx

/-- A link holds no character of markup, and no control or space. -/
theorem linkText_solid {email : Bool} {dest : List Char} : ∀ x ∈ linkText email dest,
    Html.isMarkupChar x = false ∧ isControlOrSpace x = false := by
  refine List.forall_mem_append.mpr ⟨fun x h => ?_, fun x h => ?_⟩
  · have hall : (if email then "mailto:".toList else []).all
        (fun c => !Html.isMarkupChar c && !isControlOrSpace c) = true := by cases email <;> decide
    simpa using List.all_eq_true.mp hall x h
  · obtain ⟨b, _, hx⟩ := List.mem_flatMap.mp h
    simpa using List.all_eq_true.mp (destinationByte_solid b) x hx

theorem isDigit_of_mem_toString {n : Nat} {x : Char} (h : x ∈ (toString n).toList) :
    x.isDigit = true := by
  have hdigits : (toString n).toList = Nat.toDigits 10 n := by simp
  rw [hdigits] at h
  exact Nat.isDigit_of_mem_toDigits (by decide) (by decide) h

theorem isMarkupChar_of_mem_toString {n : Nat} :
    ∀ x ∈ (toString n).toList, Html.isMarkupChar x = false := by
  intro x h
  exact Html.isMarkupChar_of_isNameChar (by simp [Html.isNameChar, isDigit_of_mem_toString h])

/-- The names of tags that have attributes or are elements of their own, and of attributes. -/
def markedNames : List (List Char) :=
  ["br", "hr", "th", "td", "code", "ol", "a", "img", "style", "class", "start", "href", "src", "alt",
    "title"].map String.toList

/-- All names that are written are names of HTML. -/
theorem isNameChar_of_mem_names {name : List Char} (h : name ∈ bareNames ++ markedNames) :
    ∀ c ∈ name, Html.isNameChar c = true := by
  have hall : (bareNames ++ markedNames).all (fun name => name.all Html.isNameChar) = true := by
    decide +kernel
  exact List.all_eq_true.mp (List.all_eq_true.mp hall name h)

theorem isNameChar_of_mem_marked (name : List Char) (h : name ∈ markedNames) :
    ∀ c ∈ name, Html.isNameChar c = true :=
  isNameChar_of_mem_names (List.mem_append_right _ h)

theorem titleAttributes_regular {title : List Char} : ∀ a ∈ titleAttributes title,
    (∀ c ∈ a.name, Html.isNameChar c = true) ∧ ∀ c ∈ a.value, Html.isMarkupChar c = false := by
  intro a ha
  rw [titleAttributes] at ha
  split at ha
  · cases ha
  · obtain rfl := List.mem_singleton.mp ha
    exact ⟨isNameChar_of_mem_marked "title".toList (by decide), isMarkupChar_of_mem_attributeText⟩

/-- The tags of the writer can be told apart from text. -/
theorem IsWriterTag.regular {t : Html.Tag} (ht : IsWriterTag t) : t.Regular := by
  cases ht with
  | bare h => exact ⟨isNameChar_of_mem_names (List.mem_append_left _ h), by simp⟩
  | line h => exact ⟨isNameChar_of_mem_marked _ (List.mem_append_left _ h), by simp⟩
  | @cell name side hname hside =>
    have hnames : ∀ name ∈ ["th".toList, "td".toList], name ∈ markedNames := by decide
    have hvalues : ∀ side ∈ ["left".toList, "center".toList, "right".toList],
        ("text-align: ".toList ++ side).all (fun c => !Html.isMarkupChar c) = true := by decide
    refine ⟨isNameChar_of_mem_marked name (hnames name hname), List.forall_mem_singleton.mpr
      ⟨isNameChar_of_mem_marked "style".toList (by decide), fun c hc => ?_⟩⟩
    simpa using List.all_eq_true.mp (hvalues side hside) c hc
  | code language =>
    refine ⟨isNameChar_of_mem_marked "code".toList (by decide), List.forall_mem_singleton.mpr
      ⟨isNameChar_of_mem_marked "class".toList (by decide), ?_⟩⟩
    refine List.forall_mem_append.mpr ⟨fun c hc => ?_, isMarkupChar_of_mem_attributeText⟩
    have hall : "language-".toList.all (fun c => !Html.isMarkupChar c) = true := by decide
    simpa using List.all_eq_true.mp hall c hc
  | list start =>
    exact ⟨isNameChar_of_mem_marked "ol".toList (by decide), List.forall_mem_singleton.mpr
      ⟨isNameChar_of_mem_marked "start".toList (by decide), isMarkupChar_of_mem_toString⟩⟩
  | link email title _ =>
    exact ⟨isNameChar_of_mem_marked "a".toList (by decide), List.forall_mem_cons.mpr
      ⟨⟨isNameChar_of_mem_marked "href".toList (by decide), fun x hx => (linkText_solid x hx).1⟩,
        titleAttributes_regular⟩⟩
  | image alt title _ =>
    exact ⟨isNameChar_of_mem_marked "img".toList (by decide), List.forall_mem_cons.mpr
      ⟨⟨isNameChar_of_mem_marked "src".toList (by decide), fun x hx => (linkText_solid x hx).1⟩,
        List.forall_mem_cons.mpr ⟨⟨isNameChar_of_mem_marked "alt".toList (by decide),
          isMarkupChar_of_mem_attributeText⟩, titleAttributes_regular⟩⟩⟩

/-- A browser reads in a link to a safe destination a URL that links may have. -/
theorem hasLinkScheme_linkText {dest : List Char} (h : isSafeDestination dest = true)
    (email : Bool) {decode : List Char → List Char} (hdecode : ReadsReferences decode) :
    hasLinkScheme (browserReads decode (linkText email dest)) = true := by
  rw [linkText]
  cases email with
  | false =>
    rw [browserReads_destinationText hdecode (by simp)]
    exact hasLinkScheme_of_isSafeDestination h
  | true =>
    have hkept : "mailto:".toList.all isKept = true := by decide
    rw [if_pos rfl, browserReads_destinationText hdecode (List.all_eq_true.mp hkept)]
    exact hasLinkScheme_mailto _

/-- The names of attributes that hold text of the author. -/
def authorNames : List (List Char) := ["title".toList, "alt".toList, "class".toList]

/-- An attribute of these tags is a safe link, holds text of the author, or is one of layout. -/
theorem IsWriterTag.attribute_cases {t : Html.Tag} (ht : IsWriterTag t) {a : Html.Attribute}
    (ha : a ∈ t.attributes) :
    (a.name ∈ ["href".toList, "src".toList] ∧ ∃ email dest, isSafeDestination dest = true ∧
      a.value = linkText email dest) ∨
    a.name ∈ authorNames ∨
    (a.name = "style".toList ∧ ∃ side ∈ ["left".toList, "center".toList, "right".toList],
      a.value = "text-align: ".toList ++ side) ∨
    (a.name = "start".toList ∧ ∃ n : Nat, a.value = (toString n).toList) := by
  have htitle : ∀ title, a ∈ titleAttributes title → a.name ∈ authorNames := by
    intro title ha
    rw [titleAttributes] at ha
    split at ha
    · cases ha
    · rw [List.mem_singleton.mp ha]
      exact List.mem_cons_self
  cases ht with
  | bare _ => cases ha
  | line _ => cases ha
  | cell _ hside =>
    obtain rfl := List.mem_singleton.mp ha
    exact Or.inr (Or.inr (Or.inl ⟨rfl, _, hside, rfl⟩))
  | code _ =>
    obtain rfl := List.mem_singleton.mp ha
    exact Or.inr (Or.inl (by simp [authorNames]))
  | list n =>
    obtain rfl := List.mem_singleton.mp ha
    exact Or.inr (Or.inr (Or.inr ⟨rfl, n, rfl⟩))
  | link email title h =>
    rcases List.mem_cons.mp ha with rfl | ha
    · exact Or.inl ⟨by simp, email, _, h, rfl⟩
    · exact Or.inr (Or.inl (htitle title ha))
  | image alt title h =>
    rcases List.mem_cons.mp ha with rfl | ha
    · exact Or.inl ⟨by simp, false, _, h, rfl⟩
    · rcases List.mem_cons.mp ha with rfl | ha
      · exact Or.inr (Or.inl (by simp [authorNames]))
      · exact Or.inr (Or.inl (htitle title ha))

/-- **A browser reads in every link of these tags a URL without a scheme, or with one that links may
have.** -/
theorem IsWriterTag.hasLinkScheme {t : Html.Tag} (ht : IsWriterTag t) {a : Html.Attribute}
    (ha : a ∈ t.attributes) (hname : a.name ∈ ["href".toList, "src".toList])
    {decode : List Char → List Char} (hdecode : ReadsReferences decode) :
    Markdown.hasLinkScheme (browserReads decode a.value) = true := by
  have hother : ∀ name ∈ ["href".toList, "src".toList],
      name ∉ authorNames ∧ name ≠ "style".toList ∧ name ≠ "start".toList := by decide
  obtain ⟨hauthor, hstyle, hstart⟩ := hother _ hname
  rcases ht.attribute_cases ha with ⟨_, email, dest, hsafe, hvalue⟩ | h | ⟨h, _⟩ | ⟨h, _⟩
  · rw [hvalue]
    exact hasLinkScheme_linkText hsafe email hdecode
  · exact absurd h hauthor
  · exact absurd h hstyle
  · exact absurd h hstart

/-! ## Written pages -/

/-- A text without its line ends. -/
def withoutLineEnds (s : List Char) : List Char := s.filter fun c => c != '\n'

/-- HTML of tags of the writer, whose text is a given text in its escaped form, line ends apart. -/
def Written (shown html : List Char) : Prop :=
  ∃ tokens, html = Html.tokensHtml tokens ∧ (∀ t ∈ Html.tagsOf tokens, IsWriterTag t) ∧
    withoutLineEnds (Html.textOf tokens) = withoutLineEnds (bodyText shown)

theorem Written.nil : Written [] [] := ⟨[], rfl, by simp [Html.tagsOf], rfl⟩

theorem Written.append {s t html html' : List Char} (h : Written s html) (h' : Written t html') :
    Written (s ++ t) (html ++ html') := by
  obtain ⟨tokens, rfl, htags, htext⟩ := h
  obtain ⟨tokens', rfl, htags', htext'⟩ := h'
  refine ⟨tokens ++ tokens', (Html.tokensHtml_append ..).symm, ?_, ?_⟩
  · rw [Html.tagsOf_append]
    exact List.forall_mem_append.mpr ⟨htags, htags'⟩
  · rw [Html.textOf_append, bodyText_append, withoutLineEnds, List.filter_append, ← withoutLineEnds,
      htext, ← withoutLineEnds, htext']
    exact (List.filter_append ..).symm

/-- HTML that shows nothing, in front of other HTML. -/
theorem Written.silent_append {s html html' : List Char} (h : Written [] html) (h' : Written s html') :
    Written s (html ++ html') :=
  h.append h'

theorem Written.tag {t : Html.Tag} (ht : IsWriterTag t) : Written [] t.html := by
  refine ⟨[.tag t ht.regular], ?_, ?_, rfl⟩
  · exact (List.append_nil _).symm
  · exact List.forall_mem_singleton.mpr ht

theorem Written.bodyText (s : List Char) : Written s (bodyText s) := by
  obtain ⟨hhtml, htext, htags⟩ := Html.tokensHtml_textTokens (bracket_not_mem_bodyText (s := s))
  exact ⟨_, hhtml.symm, by simp [htags], by rw [htext]⟩

theorem Written.lineEnd : Written [] ['\n'] := by
  refine ⟨[.char '\n' (by decide)], rfl, by simp [Html.tagsOf, Html.Token.tag?], rfl⟩

/-- Tags without attributes, one after the other. -/
theorem Written.bare : ∀ names : List (List Char), (∀ name ∈ names, name ∈ bareNames) →
    Written [] (names.flatMap fun name => '<' :: (name ++ ['>'])) := by
  intro names h
  induction names with
  | nil => exact .nil
  | cons name names ih =>
    obtain ⟨hname, hnames⟩ := List.forall_mem_cons.mp h
    have htag := Written.tag (.bare hname)
    simp only [Html.Tag.html, Html.Tag.inside, List.flatMap_nil, Bool.false_eq_true, if_false,
      List.append_nil] at htag
    exact htag.silent_append (ih hnames)

/-! ## Events outside images -/

/-- Whether an element is an image. -/
def isImage : Tag → Bool
  | .image _ _ => true
  | _ => false

/-- HTML on a fresh line. -/
theorem Written.fresh {html : List Char} (h : Written [] html) (fresh : Bool) :
    Written [] ((if fresh then [] else ['\n']) ++ html) := by
  cases fresh with
  | true => exact h
  | false => exact Written.lineEnd.silent_append h

theorem Page.putFresh_snd (p : Page) (s : String) :
    (p.putFresh s).2 = (if p.fresh then [] else ['\n']) ++ s.toList := by
  show (if p.fresh then s.toList else '\n' :: s.toList) = _
  split <;> rfl

theorem Written.putFresh {p : Page} {s : String} (h : Written [] s.toList) :
    Written [] (p.putFresh s).2 := by
  rw [Page.putFresh_snd]
  exact h.fresh p.fresh

/-- Tags without attributes, with a line end. -/
theorem Written.bareLine (names : List (List Char)) (h : ∀ name ∈ names, name ∈ bareNames) :
    Written [] ((names.flatMap fun name => '<' :: (name ++ ['>'])) ++ ['\n']) :=
  (Written.bare names h).silent_append .lineEnd

/-- The tags of a heading in a comment. -/
theorem headingName_shiftLevel (level : Nat) :
    (headingName (shiftLevel level)).toList ∈ bareNames ∧
      '/' :: (headingName (shiftLevel level)).toList ∈ bareNames := by
  have hlow : 2 ≤ shiftLevel level := by rw [shiftLevel]; omega
  have hhigh : shiftLevel level ≤ 6 := by rw [shiftLevel]; omega
  generalize shiftLevel level = n at hlow hhigh
  have hall : ∀ n ≤ 6, 2 ≤ n →
      (headingName n).toList ∈ bareNames ∧ '/' :: (headingName n).toList ∈ bareNames := by
    decide +kernel
  exact hall n hhigh hlow

theorem Written.cell (inHead : Bool) (alignment : Option DocPress.Markdown.Alignment) :
    Written [] ((if inHead then "<th" else "<td") ++ alignmentText alignment ++ ">").toList := by
  have hname : (if inHead then "th".toList else "td".toList) ∈ ["th".toList, "td".toList] := by
    cases inHead <;> decide
  have haligned : ∀ side ∈ ["left".toList, "center".toList, "right".toList],
      Written [] (Html.Tag.html ⟨if inHead then "th".toList else "td".toList,
        [⟨"style".toList, "text-align: ".toList ++ side⟩], false⟩) :=
    fun side hside => .tag (.cell hname hside)
  have hbare : Written [] ([if inHead then "th".toList else "td".toList].flatMap
      fun name => '<' :: (name ++ ['>'])) := by
    refine Written.bare _ (List.forall_mem_singleton.mpr ?_)
    cases inHead <;> decide
  rcases alignment with _ | alignment
  · cases inHead <;> exact hbare
  · cases alignment with
    | none => cases inHead <;> exact hbare
    | left => cases inHead <;> exact haligned "left".toList (by decide)
    | center => cases inHead <;> exact haligned "center".toList (by decide)
    | right => cases inHead <;> exact haligned "right".toList (by decide)

/-- A title with the quotes around it is an attribute. -/
theorem titleText_append_quote (title : List Char) :
    titleText title ++ ['\x22'] = '\x22' :: (titleAttributes title).flatMap Html.Attribute.html := by
  rw [titleText, titleAttributes]
  split
  · rfl
  · simp [Html.Attribute.html]

theorem linkTag_html (email : Bool) (dest title : List Char) :
    "<a href=\"".toList ++ linkText email dest ++ titleText title ++ "\">".toList =
      (Html.Tag.mk "a".toList
        (⟨"href".toList, linkText email dest⟩ :: titleAttributes title) false).html := by
  have hhtml : "<a href=\"".toList ++ linkText email dest ++ titleText title ++ "\">".toList =
      "<a href=\"".toList ++ (linkText email dest ++ ((titleText title ++ ['\x22']) ++ ['>'])) := by
    simp
  rw [hhtml, titleText_append_quote]
  simp [Html.Tag.html, Html.Tag.inside, Html.Attribute.html]

theorem Written.link (email : Bool) {dest : List Char} (h : isSafeDestination dest = true)
    (title : List Char) :
    Written [] ("<a href=\"".toList ++ linkText email dest ++ titleText title ++ "\">".toList) := by
  rw [linkTag_html]
  exact .tag (.link email title h)

/-- A list that does not begin with one. -/
theorem Page.start_list (p : Page) {n : Nat} (hn : n ≠ 1) :
    p.start (.list (some n)) = p.putFresh ("<ol start=\"" ++ toString n ++ "\">\n") := by
  rw [Page.start]
  exact hn

/-- **The start of an element that is no image writes tags only.** -/
theorem Page.written_start (p : Page) {tag : Tag} (h : isImage tag = false) :
    (p.start (guardTag tag)).1.image = p.image ∧ Written [] (p.start (guardTag tag)).2 := by
  cases tag with
  | paragraph => exact ⟨rfl, Written.putFresh (Written.bare ["p".toList] (by decide))⟩
  | heading level =>
    refine ⟨rfl, Written.putFresh ?_⟩
    have hbare := Written.bare [(headingName (shiftLevel level)).toList]
      (List.forall_mem_singleton.mpr (headingName_shiftLevel level).1)
    simpa using hbare
  | quote => exact ⟨rfl, Written.putFresh (Written.bareLine ["blockquote".toList] (by decide))⟩
  | codeBlock info =>
    show (p.start (.codeBlock info)).1.image = _ ∧ Written [] (p.start (.codeBlock info)).2
    rw [Page.start]
    split
    · exact ⟨rfl, (Written.bare ["pre".toList, "code".toList] (by decide)).fresh p.fresh⟩
    · refine ⟨rfl, ?_⟩
      have hcode := (Written.bare ["pre".toList] (by decide)).silent_append
        (Written.tag (.code ((info.getD []).takeWhile (· != ' '))))
      have hfresh := hcode.fresh p.fresh
      simpa [Page.inLine, Html.Tag.html, Html.Tag.inside, Html.Attribute.html] using hfresh
  | htmlBlock => exact ⟨rfl, .nil⟩
  | list start =>
    cases start with
    | none => exact ⟨rfl, Written.putFresh (Written.bareLine ["ul".toList] (by decide))⟩
    | some n =>
      show (p.start (.list (some n))).1.image = _ ∧ Written [] (p.start (.list (some n))).2
      by_cases hn : n = 1
      · subst hn
        exact ⟨rfl, Written.putFresh (Written.bareLine ["ol".toList] (by decide))⟩
      · rw [Page.start_list p hn]
        refine ⟨rfl, Written.putFresh ?_⟩
        have hlist := (Written.tag (.list n)).silent_append .lineEnd
        simpa [Html.Tag.html, Html.Tag.inside, Html.Attribute.html] using hlist
  | item => exact ⟨rfl, Written.putFresh (Written.bare ["li".toList] (by decide))⟩
  | table _ => exact ⟨rfl, Written.bare ["table".toList] (by decide)⟩
  | tableHead => exact ⟨rfl, Written.bare ["thead".toList, "tr".toList] (by decide)⟩
  | tableRow => exact ⟨rfl, Written.bare ["tr".toList] (by decide)⟩
  | tableCell => exact ⟨rfl, Written.cell ..⟩
  | emphasis => exact ⟨rfl, Written.bare ["em".toList] (by decide)⟩
  | strong => exact ⟨rfl, Written.bare ["strong".toList] (by decide)⟩
  | strikethrough => exact ⟨rfl, Written.bare ["del".toList] (by decide)⟩
  | link email dest title =>
    refine ⟨rfl, ?_⟩
    have hlink := Written.link email (isSafeDestination_safeDestination dest) title
    rw [linkText, ← List.append_assoc] at hlink
    exact hlink
  | image _ _ => cases h

/-- **The end of an element writes tags only.** -/
theorem Page.written_stop (p : Page) (tag : Tag) :
    (p.stop (guardTag tag)).1.image = p.image ∧ Written [] (p.stop (guardTag tag)).2 := by
  cases tag with
  | paragraph => exact ⟨rfl, Written.bareLine ["/p".toList] (by decide)⟩
  | heading level =>
    refine ⟨rfl, ?_⟩
    have hbare := Written.bareLine ['/' :: (headingName (shiftLevel level)).toList]
      (List.forall_mem_singleton.mpr (headingName_shiftLevel level).2)
    simpa [guardTag, Page.stop, Page.put] using hbare
  | quote => exact ⟨rfl, Written.bareLine ["/blockquote".toList] (by decide)⟩
  | codeBlock _ => exact ⟨rfl, Written.bareLine ["/code".toList, "/pre".toList] (by decide)⟩
  | htmlBlock => exact ⟨rfl, .nil⟩
  | list start =>
    cases start with
    | none => exact ⟨rfl, Written.bareLine ["/ul".toList] (by decide)⟩
    | some n => exact ⟨rfl, Written.bareLine ["/ol".toList] (by decide)⟩
  | item => exact ⟨rfl, Written.bareLine ["/li".toList] (by decide)⟩
  | table _ => exact ⟨rfl, Written.bareLine ["/tbody".toList, "/table".toList] (by decide)⟩
  | tableHead =>
    exact ⟨rfl, Written.bareLine ["/tr".toList, "/thead".toList, "tbody".toList] (by decide)⟩
  | tableRow => exact ⟨rfl, Written.bareLine ["/tr".toList] (by decide)⟩
  | tableCell =>
    refine ⟨rfl, ?_⟩
    show Written [] (if p.inHead then "</th>" else "</td>").toList
    split
    · exact Written.bare ["/th".toList] (by decide)
    · exact Written.bare ["/td".toList] (by decide)
  | emphasis => exact ⟨rfl, Written.bare ["/em".toList] (by decide)⟩
  | strong => exact ⟨rfl, Written.bare ["/strong".toList] (by decide)⟩
  | strikethrough => exact ⟨rfl, Written.bare ["/del".toList] (by decide)⟩
  | link _ _ _ => exact ⟨rfl, Written.bare ["/a".toList] (by decide)⟩
  | image _ _ => exact ⟨rfl, .nil⟩

/-- The text that an event shows outside images. -/
def shownText : Event → List Char
  | .text s => s
  | .code s => s
  | .html s => s
  | .inlineHtml s => s
  | _ => []

/-- Whether an event begins an image. -/
def startsImage : Event → Bool
  | .start tag => isImage tag
  | _ => false

theorem exists_image {e : Event} (h : startsImage e = true) :
    ∃ dest title, e = .start (.image dest title) := by
  cases e with
  | start tag =>
    cases tag with
    | image dest title => exact ⟨dest, title, rfl⟩
    | _ => cases h
  | _ => cases h

/-- **What one event writes outside images**: tags, and its text in escaped form. -/
theorem Page.written_event {p : Page} (hp : p.image = none) {e : Event} (he : startsImage e = false) :
    (p.event (guardEvent e)).1.image = none ∧ Written (shownText e) (p.event (guardEvent e)).2 := by
  rw [Page.event.eq_def, hp]
  cases e with
  | start tag =>
    obtain ⟨himage, hwritten⟩ := Page.written_start p he
    exact ⟨himage.trans hp, hwritten⟩
  | stop tag =>
    obtain ⟨himage, hwritten⟩ := Page.written_stop p tag
    exact ⟨himage.trans hp, hwritten⟩
  | text s => exact ⟨rfl, Written.bodyText s⟩
  | code s =>
    refine ⟨hp, ?_⟩
    have hcode := ((Written.bare ["code".toList] (by decide)).silent_append
      (Written.bodyText s)).append (Written.bare ["/code".toList] (by decide))
    rw [List.append_nil] at hcode
    exact hcode
  | html s => exact ⟨rfl, Written.bodyText s⟩
  | inlineHtml s => exact ⟨rfl, Written.bodyText s⟩
  | softBreak => exact ⟨hp, Written.lineEnd⟩
  | hardBreak =>
    have hbreak := Written.tag (.line (by decide : "br".toList ∈ ["br".toList, "hr".toList]))
    exact ⟨hp, hbreak.silent_append .lineEnd⟩
  | rule =>
    have hrule := Written.tag (.line (by decide : "hr".toList ∈ ["br".toList, "hr".toList]))
    exact ⟨hp, Written.putFresh (hrule.silent_append .lineEnd)⟩

/-! ## Images -/

/-- The text of events outside images; `image` is the number of elements open in an open image. -/
def shownFrom : Option Nat → List Event → List Char
  | _, [] => []
  | none, .start (.image _ _) :: rest => shownFrom (some 0) rest
  | none, e :: rest => shownText e ++ shownFrom none rest
  | some depth, .start _ :: rest => shownFrom (some (depth + 1)) rest
  | some depth, .stop _ :: rest => shownFrom (if depth = 0 then none else some (depth - 1)) rest
  | some depth, _ :: rest => shownFrom (some depth) rest

/-- An image as far as its alternative text is written. -/
def imageStart (dest alt : List Char) : List Char :=
  '<' :: ("img src=\"".toList ++ (linkText false dest ++ ("\" alt=\"".toList ++ attributeText alt)))

theorem imageStart_append (dest alt s : List Char) :
    imageStart dest alt ++ attributeText s = imageStart dest (alt ++ s) := by
  simp [imageStart, attributeText_append]

/-- The title ends an image. -/
theorem imageTag_html (dest alt title : List Char) :
    imageStart dest alt ++ imageEnd title =
      (Html.Tag.mk "img".toList (⟨"src".toList, linkText false dest⟩ ::
        ⟨"alt".toList, attributeText alt⟩ :: titleAttributes title) true).html := by
  have hhtml : imageStart dest alt ++ imageEnd title =
      imageStart dest alt ++ ((titleText title ++ ['\x22']) ++ " />".toList) := by
    simp [imageEnd]
  rw [hhtml, titleText_append_quote]
  simp [imageStart, Html.Tag.html, Html.Tag.inside, Html.Attribute.html]

theorem Written.image {dest : List Char} (h : isSafeDestination dest = true) (alt title : List Char) :
    Written [] (imageStart dest alt ++ imageEnd title) := by
  rw [imageTag_html]
  exact .tag (.image alt title h)

/-- The start of an image opens it. -/
theorem Page.event_image {p : Page} (hp : p.image = none) (dest title : List Char) :
    p.event (guardEvent (.start (.image dest title))) =
      ({ p with image := some ⟨0, title⟩, fresh := false }, imageStart (safeDestination dest) []) := by
  rw [Page.event.eq_def, hp]
  simp [guardEvent, guardTag, Page.start, Page.inLine, imageStart, linkText, attributeText]

/-- **What one event writes into an open image**: more of its alternative text, or its end. -/
theorem Page.event_alt {p : Page} {image : OpenImage} (hp : p.image = some image) (e : Event) :
    (∃ s depth, (p.event (guardEvent e)).1.image = some ⟨depth, image.title⟩ ∧
      (p.event (guardEvent e)).2 = attributeText s ∧
      ∀ rest, shownFrom (some image.depth) (e :: rest) = shownFrom (some depth) rest) ∨
    ((p.event (guardEvent e)).1.image = none ∧
      (p.event (guardEvent e)).2 = imageEnd image.title ∧
      ∀ rest, shownFrom (some image.depth) (e :: rest) = shownFrom none rest) := by
  have hevent : p.event (guardEvent e) = p.altEvent image (guardEvent e) := by
    rw [Page.event.eq_def, hp]
  rw [hevent]
  cases e with
  | start tag =>
    exact Or.inl ⟨[], image.depth + 1, rfl, rfl, fun _ => by rw [shownFrom]⟩
  | stop tag =>
    rw [guardEvent, Page.altEvent]
    split
    · rename_i hdepth
      refine Or.inr ⟨rfl, rfl, fun _ => ?_⟩
      rw [shownFrom, if_pos hdepth]
    · rename_i hdepth
      refine Or.inl ⟨[], image.depth - 1, rfl, rfl, fun _ => ?_⟩
      rw [shownFrom, if_neg hdepth]
  | text s => exact Or.inl ⟨s, image.depth, hp, rfl, fun _ => rfl⟩
  | code s => exact Or.inl ⟨s, image.depth, hp, rfl, fun _ => rfl⟩
  | html s => exact Or.inl ⟨s, image.depth, hp, rfl, fun _ => rfl⟩
  | inlineHtml s => exact Or.inl ⟨s, image.depth, hp, rfl, fun _ => rfl⟩
  | softBreak => exact Or.inl ⟨[' '], image.depth, hp, rfl, fun _ => rfl⟩
  | hardBreak => exact Or.inl ⟨[' '], image.depth, hp, rfl, fun _ => rfl⟩
  | rule => exact Or.inl ⟨[' '], image.depth, hp, rfl, fun _ => rfl⟩

theorem Page.events_cons (p : Page) (e : Event) (rest : List Event) :
    p.events (e :: rest) = (p.event e).2 ++ (p.event e).1.events rest := rfl

/-- **What events write**, outside images and with an image open. -/
theorem Page.written_events (events : List Event) :
    (∀ p : Page, p.image = none →
      Written (shownFrom none events) (p.events (events.map guardEvent))) ∧
    ∀ (p : Page) (image : OpenImage) (dest alt : List Char), p.image = some image →
      isSafeDestination dest = true → Written (shownFrom (some image.depth) events)
        (imageStart dest alt ++ p.events (events.map guardEvent)) := by
  -- both at once: an event may open an image or end it
  induction events with
  | nil =>
    refine ⟨fun p hp => ?_, fun p image dest alt hp hdest => ?_⟩
    · rw [List.map_nil, Page.events, hp]
      exact .nil
    · rw [List.map_nil, Page.events, hp]
      exact .image hdest alt image.title
  | cons e events ih =>
    obtain ⟨houtside, hinside⟩ := ih
    refine ⟨fun p hp => ?_, fun p image dest alt hp hdest => ?_⟩
    · rw [List.map_cons, Page.events_cons]
      cases he : startsImage e with
      | false =>
        obtain ⟨himage, hwritten⟩ := Page.written_event hp he
        have hshown : shownFrom none (e :: events) = shownText e ++ shownFrom none events := by
          rw [shownFrom]
          rintro dest title rfl
          cases he
        rw [hshown]
        exact hwritten.append (houtside _ himage)
      | true =>
        obtain ⟨dest, title, rfl⟩ := exists_image he
        rw [Page.event_image hp]
        exact hinside _ ⟨0, title⟩ _ [] rfl (isSafeDestination_safeDestination dest)
    · rw [List.map_cons, Page.events_cons]
      rcases Page.event_alt hp e with
        ⟨s, depth, himage, hwritten, hshown⟩ | ⟨himage, hwritten, hshown⟩
      · rw [hshown, hwritten, ← List.append_assoc, imageStart_append]
        exact hinside _ ⟨depth, image.title⟩ dest (alt ++ s) himage hdest
      · rw [hshown, hwritten, ← List.append_assoc]
        exact (Written.image hdest alt image.title).silent_append (houtside _ himage)

/-- **What is written for events**, from a fresh page on. -/
theorem written_write (events : List Event) :
    Written (shownFrom none events) (write (events.map guardEvent)) :=
  (Page.written_events events).1 {} rfl

/-! ## Safe pages -/

/-- A page that shows a text and holds no other tags than those of the writer. -/
structure SafePage (shown page : List Char) (tokens : List Html.Token) : Prop where
  page_eq : page = Html.tokensHtml tokens
  /-- Every `<` begins a tag of the writer. -/
  opens : ∀ before after, page = before ++ '<' :: after →
    ∃ pre t regular post, tokens = pre ++ .tag t regular :: post ∧ before = Html.tokensHtml pre ∧
      IsWriterTag t
  /-- A browser reads in every link a URL without a scheme, or with one that links may have. -/
  links : ∀ t ∈ Html.tagsOf tokens, ∀ a ∈ t.attributes, a.name ∈ ["href".toList, "src".toList] →
    ∀ decode, ReadsReferences decode → hasLinkScheme (browserReads decode a.value) = true
  /-- All text is escaped. -/
  text : withoutLineEnds (Html.textOf tokens) = withoutLineEnds (bodyText shown)

theorem Written.safePage {shown page : List Char} (h : Written shown page) :
    ∃ tokens, SafePage shown page tokens := by
  obtain ⟨tokens, rfl, htags, htext⟩ := h
  refine ⟨tokens, rfl, ?_, ?_, htext⟩
  · intro before after hpage
    obtain ⟨pre, t, regular, post, rfl, hbefore⟩ := Html.lt_opens_tag hpage
    refine ⟨pre, t, regular, post, rfl, hbefore, htags t ?_⟩
    exact Html.mem_tagsOf.mpr ⟨regular, by simp⟩
  · intro t ht a ha hname decode hdecode
    exact (htags t ht).hasLinkScheme ha hname hdecode

/-- **Comments are safe pages**: whatever the events are, and so for every text, all markup is the
writer's own, all links are safe, and raw HTML of the author is shown as text. -/
theorem safePage_of_events :
    (∀ events : List Event,
      ∃ tokens, SafePage (shownFrom none events) (write (events.map guardEvent)) tokens) ∧
    ∀ text : List Char, ∃ tokens, SafePage (shownFrom none (eventsOf text)) (html text) tokens := by
  have hevents : ∀ events : List Event,
      ∃ tokens, SafePage (shownFrom none events) (write (events.map guardEvent)) tokens :=
    fun events => (written_write events).safePage
  exact ⟨hevents, fun text => hevents (eventsOf text)⟩

end DocPress.Comment.Markdown
