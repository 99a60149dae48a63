import DocPress.Proofs.Comment.LinkedComments

/-!
# Headings one level down

Comments are written with headings of level three, and three replacements in the finished HTML make
them level four. That is the same as writing them so in the first place.

* `Html.Tag.lower`, `Html.Token.lower` — a tag of level three made one of level four; all else is
  kept.
* `Demotes` — what the replacements make of a stretch of HTML, whatever follows it.
* `Lowers` — HTML in tokens, and the same with its tags lowered.
* `Markup.htmlAt` — a comment in HTML, with another level in place of level three.

Principal results: `demotes_tag`, `demotes_tokens` — replacing in HTML is lowering its tags;
`Lowers.free_of_level_three` — no tag of level three is left; `Plain.lowers_blockHtml`,
`Markdown.Page.lowers_event` — one block and one event; `Markdown.Page.lowers_events` — all events;
`demoteHeadings_writes_level_four` — every comment.
-/

namespace DocPress.Html

/-! ## Tags one level down -/

/-- The name of a tag, with level three made level four. -/
def lowerName (name : List Char) : List Char :=
  if name = "h3".toList then "h4".toList else if name = "/h3".toList then "/h4".toList else name

theorem isNameChar_lowerName {name : List Char} (h : ∀ c ∈ name, isNameChar c = true) :
    ∀ c ∈ lowerName name, isNameChar c = true := by
  unfold lowerName
  split
  · exact List.all_eq_true.mp (by decide)
  · split
    · exact List.all_eq_true.mp (by decide)
    · exact h

/-- A tag, with level three made level four. -/
def Tag.lower (t : Tag) : Tag := { t with name := lowerName t.name }

/-- A name that does not begin like those of the tags of level three. -/
def IsOtherName (name : List Char) : Prop := ¬ "h3".toList <+: name ∧ ¬ "/h3".toList <+: name

instance (name : List Char) : Decidable (IsOtherName name) := inferInstanceAs (Decidable (_ ∧ _))

theorem Tag.lower_eq_self {t : Tag} (h : IsOtherName t.name) : t.lower = t := by
  have hstart : t.name ≠ "h3".toList := fun hname => h.1 (hname ▸ List.prefix_rfl)
  have hstop : t.name ≠ "/h3".toList := fun hname => h.2 (hname ▸ List.prefix_rfl)
  rw [Tag.lower, lowerName, if_neg hstart, if_neg hstop]

theorem Tag.Regular.lower {t : Tag} (h : t.Regular) : t.lower.Regular :=
  ⟨isNameChar_lowerName h.name, h.attributes⟩

/-- A token, with level three made level four if it is a tag. Text is kept. -/
def Token.lower : Token → Token
  | .char c free => .char c free
  | .tag t regular => .tag t.lower regular.lower

/-- No other name begins like those of level three, and the tag that ends a heading is its name. -/
structure Tag.Lowerable (t : Tag) : Prop where
  start : "h3".toList <+: t.name → t.name = "h3".toList
  stop : "/h3".toList <+: t.name → t = ⟨"/h3".toList, [], false⟩

/-- Behind its name a tag has nothing, or a space. -/
theorem behindName_cases (attributes : List Attribute) (void : Bool) :
    (attributes = [] ∧ void = false) ∨ ∃ more, ∀ name,
      (Tag.mk name attributes void).inside = name ++ ' ' :: more := by
  cases attributes with
  | nil =>
    cases void with
    | false => exact Or.inl ⟨rfl, rfl⟩
    | true => exact Or.inr ⟨['/'], fun _ => rfl⟩
  | cons a attributes =>
    refine Or.inr ⟨a.name ++ ('=' :: '\x22' :: (a.value ++ '\x22' ::
      (attributes.flatMap Attribute.html ++ if void then " /".toList else []))), fun name => ?_⟩
    simp [Tag.inside, Attribute.html]

/-- What holds no space begins a tag exactly if it begins its name. -/
theorem Tag.prefix_inside_iff {t : Tag} {s : List Char} (hs : ' ' ∉ s) :
    s <+: t.inside ↔ s <+: t.name := by
  obtain ⟨name, attributes, void⟩ := t
  rcases behindName_cases attributes void with ⟨rfl, rfl⟩ | ⟨more, hinside⟩
  · simp [Tag.inside]
  · rw [hinside]
    refine Text.prefix_append_iff ?_ name
    intro c hc
    obtain rfl := Option.some.inj hc
    exact hs

/-- **A tag one level down is none of level three.** -/
theorem Tag.Lowerable.isOtherName_lower {t : Tag} (h : t.Lowerable) : IsOtherName t.lower.name := by
  show IsOtherName (lowerName t.name)
  unfold lowerName
  split
  · decide
  · rename_i hstart
    split
    · decide
    · rename_i hstop
      exact ⟨fun hpre => hstart (h.start hpre), fun hpre => hstop (by rw [h.stop hpre])⟩

theorem infix_tokensHtml {ts : List Token} {token : Token} (h : token ∈ ts) :
    token.html <:+: tokensHtml ts := by
  obtain ⟨front, back, rfl⟩ := List.append_of_mem h
  refine ⟨tokensHtml front, tokensHtml back, ?_⟩
  rw [tokensHtml_append, tokensHtml_cons, List.append_assoc]

/-- **What begins no name of a tag stands nowhere behind a `<`.** -/
theorem not_infix_tokensHtml {ts : List Token} {s : List Char} (hs : ' ' ∉ s ∧ '>' ∉ s)
    (h : ∀ t ∈ tagsOf ts, ¬ s <+: t.name) : ¬ '<' :: s <:+: tokensHtml ts := by
  rintro ⟨before, after, hhtml⟩
  have hlt : tokensHtml ts = before ++ '<' :: (s ++ after) := by simp [← hhtml]
  obtain ⟨pre, t, regular, post, rfl, rfl⟩ := lt_opens_tag hlt
  rw [tokensHtml_append] at hlt
  have hrest : t.html ++ tokensHtml post = '<' :: (s ++ after) := List.append_cancel_left hlt
  have hinside : t.inside ++ ('>' :: tokensHtml post) = s ++ after := by
    simpa [Tag.html] using hrest
  refine h t (mem_tagsOf.mpr ⟨regular, by simp⟩) ((Tag.prefix_inside_iff hs.1).mp ?_)
  refine (Text.prefix_append_iff ?_ t.inside).mp ⟨after, hinside.symm⟩
  intro c hc
  obtain rfl := Option.some.inj hc
  exact hs.2

end DocPress.Html

namespace DocPress.Comment

open DocPress.Text DocPress.Comment.Page

/-! ## Demoting tokens -/

/-- What demoting makes of a stretch of HTML, whatever follows it. -/
def Demotes (html lowered : List Char) : Prop :=
  ∀ t, demoteHeadings (html ++ t) = lowered ++ demoteHeadings t

theorem Demotes.append {a b a' b' : List Char} (h : Demotes a b) (h' : Demotes a' b') :
    Demotes (a ++ a') (b ++ b') := by
  intro t
  rw [List.append_assoc, h, h', List.append_assoc]

/-- The three replacements, one after the other. -/
theorem Demotes.of_replacements {a b c d : List Char}
    (hopening : ∀ t, replaceAll "<h3 ".toList "<h4 ".toList (a ++ t) =
      b ++ replaceAll "<h3 ".toList "<h4 ".toList t)
    (hbare : ∀ t, replaceAll "<h3>".toList "<h4>".toList (b ++ t) =
      c ++ replaceAll "<h3>".toList "<h4>".toList t)
    (hclosing : ∀ t, replaceAll "</h3>".toList "</h4>".toList (c ++ t) =
      d ++ replaceAll "</h3>".toList "</h4>".toList t) : Demotes a d := by
  intro t
  rw [demoteHeadings, hopening, hbare, hclosing]
  rfl

theorem demotes_char {c : Char} (h : c ≠ '<') : Demotes [c] [c] :=
  have hlt : '<' ∉ [c] := by simpa using Ne.symm h
  .of_replacements (inert_text hlt) (inert_text hlt) (inert_text hlt)

/-- A tag of another name is kept. -/
theorem demotes_other {t : Html.Tag} (regular : t.Regular) (h : Html.IsOtherName t.name) :
    Demotes t.html t.html := by
  have hstart : ¬ "h3".toList <+: t.inside := mt (Html.Tag.prefix_inside_iff (by decide)).mp h.1
  have hstop : ¬ "/h3".toList <+: t.inside := mt (Html.Tag.prefix_inside_iff (by decide)).mp h.2
  exact .of_replacements (Markdown.replaceAll_tag (by decide) (by decide) regular hstart)
    (Markdown.replaceAll_tag (by decide) (by decide) regular hstart)
    (Markdown.replaceAll_tag (by decide) (by decide) regular hstop)

/-- The tag that ends a heading. -/
theorem demotes_end : Demotes "</h3>".toList "</h4>".toList :=
  .of_replacements (inert_tag ['h', '3', ' '] ['/', 'h', '3', '>'] (by decide) (by simp))
    (inert_tag ['h', '3', '>'] ['/', 'h', '3', '>'] (by decide) (by simp))
    (replaceAll_match (by decide))

/-- The tag that begins a heading without attributes: the second replacement reaches it. -/
theorem demotes_bare : Demotes "<h3>".toList "<h4>".toList :=
  .of_replacements (inert_tag ['h', '3', ' '] ['h', '3', '>'] (by decide) (by simp))
    (replaceAll_match (by decide))
    (inert_tag ['/', 'h', '3', '>'] ['h', '4', '>'] (by decide) (by simp))

/-- The tag that begins a heading with attributes: the first replacement reaches it. -/
theorem demotes_opening {more : List Char} (h : '<' ∉ more) :
    Demotes ("<h3 ".toList ++ more) ("<h4 ".toList ++ more) := by
  refine .of_replacements (b := "<h4 ".toList ++ more) (c := "<h4 ".toList ++ more) ?_ ?_ ?_
  · intro t
    rw [List.append_assoc, replaceAll_match (by decide), List.append_assoc]
    exact congrArg _ (inert_text h t)
  · exact Inert.append (inert_tag ['h', '3', '>'] ['h', '4', ' '] (by decide) (by simp))
      (inert_text h)
  · exact Inert.append (inert_tag ['/', 'h', '3', '>'] ['h', '4', ' '] (by decide) (by simp))
      (inert_text h)

/-- A tag that begins a heading, whatever stands behind its name. -/
theorem demotes_start {attributes : List Html.Attribute} {void : Bool}
    (regular : (Html.Tag.mk "h3".toList attributes void).Regular) :
    Demotes (Html.Tag.mk "h3".toList attributes void).html
      (Html.Tag.mk "h4".toList attributes void).html := by
  have hlt := regular.bracket_not_mem (Or.inl rfl)
  rcases Html.behindName_cases attributes void with ⟨rfl, rfl⟩ | ⟨more, hinside⟩
  · exact demotes_bare
  · rw [hinside] at hlt
    have hmore : '<' ∉ more ++ ['>'] := by simpa using hlt
    rw [Html.Tag.html, Html.Tag.html, hinside, hinside]
    simpa using demotes_opening hmore

/-- **Demoting lowers a tag.** -/
theorem demotes_tag {t : Html.Tag} (regular : t.Regular) (h : t.Lowerable) :
    Demotes t.html t.lower.html := by
  by_cases hstart : "h3".toList <+: t.name
  · obtain ⟨name, attributes, void⟩ := t
    obtain rfl : name = "h3".toList := h.start hstart
    exact demotes_start regular
  · by_cases hstop : "/h3".toList <+: t.name
    · rw [h.stop hstop]
      exact demotes_end
    · rw [Html.Tag.lower_eq_self ⟨hstart, hstop⟩]
      exact demotes_other regular ⟨hstart, hstop⟩

/-- **Demoting lowers the tags of a sequence of tokens**, and keeps its text. -/
theorem demotes_tokens {tokens : List Html.Token} (h : ∀ t ∈ Html.tagsOf tokens, t.Lowerable) :
    Demotes (Html.tokensHtml tokens) (Html.tokensHtml (tokens.map Html.Token.lower)) := by
  induction tokens with
  | nil => exact fun _ => rfl
  | cons token tokens ih =>
    rw [← List.singleton_append, Html.tagsOf_append] at h
    obtain ⟨htoken, htokens⟩ := List.forall_mem_append.mp h
    rw [List.map_cons, Html.tokensHtml_cons, Html.tokensHtml_cons]
    refine Demotes.append ?_ (ih htokens)
    cases token with
    | char c free => exact demotes_char free.1
    | tag t regular => exact demotes_tag regular (htoken t List.mem_cons_self)

/-! ## Lowered pages -/

/-- HTML in tokens, and the same with the tags of level three lowered. -/
def Lowers (html lowered : List Char) : Prop :=
  ∃ tokens, html = Html.tokensHtml tokens ∧
    lowered = Html.tokensHtml (tokens.map Html.Token.lower) ∧
    ∀ t ∈ Html.tagsOf tokens, t.Lowerable

theorem Lowers.nil : Lowers [] [] := ⟨[], rfl, rfl, by simp [Html.tagsOf]⟩

theorem Lowers.append {a b a' b' : List Char} (h : Lowers a b) (h' : Lowers a' b') :
    Lowers (a ++ a') (b ++ b') := by
  obtain ⟨ts, rfl, rfl, hts⟩ := h
  obtain ⟨us, rfl, rfl, hus⟩ := h'
  refine ⟨ts ++ us, (Html.tokensHtml_append ..).symm, ?_, ?_⟩
  · rw [List.map_append, Html.tokensHtml_append]
  · rw [Html.tagsOf_append]
    exact List.forall_mem_append.mpr ⟨hts, hus⟩

theorem Lowers.flatMap {α : Type} {f g : α → List Char} (h : ∀ x, Lowers (f x) (g x))
    (xs : List α) : Lowers (xs.flatMap f) (xs.flatMap g) := by
  induction xs with
  | nil => exact .nil
  | cons x xs ih => exact (h x).append ih

theorem Lowers.tag {t : Html.Tag} (regular : t.Regular) (h : t.Lowerable) :
    Lowers t.html t.lower.html :=
  ⟨[.tag t regular], (List.append_nil _).symm, (List.append_nil _).symm,
    List.forall_mem_singleton.mpr h⟩

/-- Text is kept. -/
theorem Lowers.text {s : List Char} (h : ∀ c ∈ s, c ≠ '<' ∧ c ≠ '>') : Lowers s s := by
  obtain ⟨hhtml, _, htags⟩ := Html.tokensHtml_textTokens h
  have hlower : (Html.textTokens s h).map Html.Token.lower = Html.textTokens s h := by
    rw [Html.textTokens, List.map_pmap]
    rfl
  exact ⟨Html.textTokens s h, hhtml.symm, by rw [hlower, hhtml], by simp [htags]⟩

theorem Lowers.lineEnd : Lowers ['\n'] ['\n'] := .text (by simp)

/-- A tag of another name is kept. -/
theorem Lowers.other {t : Html.Tag} (regular : t.Regular) (h : Html.IsOtherName t.name) :
    Lowers t.html t.html := by
  have htag := Lowers.tag regular ⟨fun hpre => absurd hpre h.1, fun hpre => absurd hpre h.2⟩
  rwa [Html.Tag.lower_eq_self h] at htag

/-- A tag of another name, without attributes. -/
theorem Lowers.bare (name : List Char)
    (h : name.all Html.isNameChar = true ∧ Html.IsOtherName name) :
    Lowers ('<' :: (name ++ ['>'])) ('<' :: (name ++ ['>'])) := by
  have hother := Lowers.other (t := ⟨name, [], false⟩) ⟨List.all_eq_true.mp h.1, by simp⟩ h.2
  simpa [Html.Tag.html, Html.Tag.inside] using hother

theorem Lowers.demoteHeadings_eq {html lowered : List Char} (h : Lowers html lowered) :
    demoteHeadings html = lowered := by
  obtain ⟨tokens, rfl, rfl, htags⟩ := h
  have hdemotes := demotes_tokens htags []
  rwa [List.append_nil, show demoteHeadings [] = [] from rfl, List.append_nil] at hdemotes

/-- **No tag of level three is left.** -/
theorem Lowers.free_of_level_three {html lowered : List Char} (h : Lowers html lowered) :
    ¬ "<h3".toList <:+: lowered ∧ ¬ "</h3".toList <:+: lowered := by
  obtain ⟨tokens, -, rfl, htags⟩ := h
  have hlowered : ∀ t ∈ Html.tagsOf (tokens.map Html.Token.lower), Html.IsOtherName t.name := by
    intro t ht
    obtain ⟨regular, hmem⟩ := Html.mem_tagsOf.mp ht
    obtain ⟨token, htoken, hlower⟩ := List.mem_map.mp hmem
    cases token with
    | char c free => cases hlower
    | tag u uregular =>
      obtain rfl : u.lower = t := by injection hlower
      exact (htags u (Html.mem_tagsOf.mpr ⟨uregular, htoken⟩)).isOtherName_lower
  exact ⟨Html.not_infix_tokensHtml (by decide) fun t ht => (hlowered t ht).1,
    Html.not_infix_tokensHtml (by decide) fun t ht => (hlowered t ht).2⟩

/-! ## Plain comments -/

namespace Plain

/-- A block in HTML, with headings of a level. -/
def blockHtmlAt (level : Nat) : Block → List Char
  | .heading title =>
    let name := (DocPress.Markdown.headingName level).toList
    ('<' :: name ++ " id=\"".toList) ++ Html.escapeText (anchorId title) ++ "\">".toList ++
      Html.escapeText (convertQuotes title) ++ ("</".toList ++ name ++ ">\n".toList)
  | b => blockHtml b

theorem headingName_three : (DocPress.Markdown.headingName 3).toList = "h3".toList := by
  decide +kernel

theorem headingName_four : (DocPress.Markdown.headingName 4).toList = "h4".toList := by
  decide +kernel

/-- Blocks have headings of level three. -/
theorem blockHtmlAt_three : blockHtmlAt 3 = blockHtml := by
  funext b
  cases b with
  | heading title =>
    rw [blockHtmlAt]
    simp only [headingName_three]
    rfl
  | para _ => rfl
  | pre _ => rfl

/-- The tag that begins a heading. -/
def headingTag (name title : List Char) : Html.Tag :=
  ⟨name, [⟨"id".toList, Html.escapeText (anchorId title)⟩], false⟩

theorem blockHtmlAt_heading (level : Nat) (title : List Char) :
    blockHtmlAt level (.heading title) =
      (headingTag (DocPress.Markdown.headingName level).toList title).html ++
        (Html.escapeText (convertQuotes title) ++
          ((Html.Tag.mk ('/' :: (DocPress.Markdown.headingName level).toList) [] false).html ++
            ['\n'])) := by
  simp [blockHtmlAt, headingTag, Html.Tag.html, Html.Tag.inside, Html.Attribute.html]

theorem lowers_escapeText (s : List Char) : Lowers (Html.escapeText s) (Html.escapeText s) :=
  .text bracket_not_mem_escapeText

theorem spanHtml_url (url : List Char) :
    spanHtml (.url url) =
      (Html.Tag.mk "a".toList [⟨"href".toList, Html.escapeText url⟩] false).html ++
        (Html.escapeText url ++ "</a>".toList) := by
  show "<a href=\"".toList ++ Html.escapeText url ++ "\">".toList ++ _ ++ _ = _
  simp [Html.Tag.html, Html.Tag.inside, Html.Attribute.html]

theorem lowers_spanHtml (span : Span) : Lowers (spanHtml span) (spanHtml span) := by
  cases span with
  | plain text => exact lowers_escapeText _
  | url url =>
    have hopen := Lowers.other (regular_escapeText (by decide : "a".toList.all _ = true)
      (by decide : "href".toList.all _ = true) url) (by decide : Html.IsOtherName "a".toList)
    have hclose := Lowers.bare "/a".toList (by decide)
    rw [spanHtml_url]
    exact hopen.append ((lowers_escapeText url).append hclose)

theorem lowers_lineHtml (line : List Char) : Lowers (lineHtml line) (lineHtml line) :=
  .flatMap lowers_spanHtml (spans line)

/-- **A block with its heading lowered.** -/
theorem lowers_blockHtml (b : Block) : Lowers (blockHtml b) (blockHtmlAt 4 b) := by
  cases b with
  | para lines =>
    have hopen := Lowers.bare "p".toList (by decide)
    have hclose := Lowers.bare "/p".toList (by decide)
    have hlines := Lowers.flatMap (fun l => (lowers_lineHtml l).append .lineEnd) lines
    exact ((hopen.append .lineEnd).append hlines).append (hclose.append .lineEnd)
  | heading title =>
    have hopen : Lowers (headingTag "h3".toList title).html (headingTag "h4".toList title).html :=
      .tag (regular_escapeText (by decide) (by decide) _)
        ⟨fun _ => rfl, fun h => absurd h (by simp [headingTag])⟩
    have hclose : Lowers (Html.Tag.mk "/h3".toList [] false).html
        (Html.Tag.mk "/h4".toList [] false).html :=
      .tag ⟨List.all_eq_true.mp (by decide), by simp⟩ ⟨fun h => absurd h (by simp), fun _ => rfl⟩
    rw [← blockHtmlAt_three, blockHtmlAt_heading, blockHtmlAt_heading, headingName_three,
      headingName_four]
    exact hopen.append ((lowers_escapeText _).append (hclose.append .lineEnd))
  | pre lines =>
    have hopen := Lowers.bare "pre".toList (by decide)
    have hclose := Lowers.bare "/pre".toList (by decide)
    have hlines := Lowers.flatMap (fun l => (lowers_escapeText l).append .lineEnd) lines
    exact (hopen.append hlines).append (hclose.append .lineEnd)

end Plain

/-! ## Markdown comments -/

namespace Markdown

open DocPress.Markdown

/-- A level of headings, with another in place of three. -/
def levelAt (level n : Nat) : Nat := if n = 3 then level else n

/-- An element, with headings of another level in place of three. -/
def tagAt (level : Nat) : Tag → Tag
  | .heading n => .heading (levelAt level n)
  | tag => tag

/-- An event, with headings of another level in place of three. -/
def eventAt (level : Nat) : Event → Event
  | .start tag => .start (tagAt level tag)
  | .stop tag => .stop (tagAt level tag)
  | e => e

theorem eventAt_three (e : Event) : eventAt 3 e = e := by
  have htag : ∀ tag, tagAt 3 tag = tag := by
    intro tag
    cases tag with
    | heading n =>
      rw [tagAt, levelAt]
      split
      · rename_i hn
        rw [hn]
      · rfl
    | _ => rfl
  cases e with
  | start tag => rw [eventAt, htag]
  | stop tag => rw [eventAt, htag]
  | _ => rfl

theorem IsWriterTag.lowerable {t : Html.Tag} (ht : IsWriterTag t) : t.Lowerable := by
  have hname : t.name <+: t.inside := List.prefix_append ..
  rcases ht.demotion_cases with rfl | rfl | ⟨hstart, hstop⟩
  · exact ⟨fun _ => rfl, fun h => absurd h (by decide)⟩
  · exact ⟨fun h => absurd h (by decide), fun _ => rfl⟩
  · exact ⟨fun h => absurd (h.trans hname) hstart, fun h => absurd (h.trans hname) hstop⟩

/-- Whether a tag of level three without attributes stands in HTML. -/
def hasLevelThree : List Char → Bool
  | [] => false
  | c :: s =>
    "<h3>".toList.isPrefixOf (c :: s) || "</h3>".toList.isPrefixOf (c :: s) || hasLevelThree s

theorem hasLevelThree_of_holds {tag s : List Char} (htag : tag ∈ ["<h3>".toList, "</h3>".toList])
    (h : tag <:+: s) : hasLevelThree s = true := by
  obtain ⟨front, back, rfl⟩ := h
  induction front with
  | nil =>
    rcases List.mem_pair.mp htag with rfl | rfl <;> rfl
  | cons c front ih =>
    rw [List.cons_append, List.cons_append, hasLevelThree, ih, Bool.or_true]

/-- **HTML of the writer without headings of level three is kept.** -/
theorem Written.lowers_self {shown html : List Char} (h : Written shown html)
    (hnot : hasLevelThree html = false) : Lowers html html := by
  obtain ⟨tokens, rfl, htags, -⟩ := h
  have hother : ∀ token ∈ tokens, token.lower = token := by
    intro token htoken
    cases token with
    | char c free => rfl
    | tag t regular =>
      have hkept : t.html ∉ ["<h3>".toList, "</h3>".toList] := by
        intro hmem
        rw [hasLevelThree_of_holds hmem (Html.infix_tokensHtml htoken)] at hnot
        cases hnot
      have hlower : t.lower = t := by
        have hname : t.name <+: t.inside := List.prefix_append ..
        rcases (htags t (Html.mem_tagsOf.mpr ⟨regular, htoken⟩)).demotion_cases with
          rfl | rfl | ⟨hstart, hstop⟩
        · exact absurd List.mem_cons_self hkept
        · exact absurd (List.mem_cons_of_mem _ List.mem_cons_self) hkept
        · exact Html.Tag.lower_eq_self
            ⟨fun hpre => hstart (hpre.trans hname), fun hpre => hstop (hpre.trans hname)⟩
      simp only [Html.Token.lower, hlower]
  have hmap : tokens.map Html.Token.lower = tokens :=
    (List.map_congr_left hother).trans (List.map_id _)
  exact ⟨tokens, rfl, by rw [hmap], fun t ht => (htags t ht).lowerable⟩

theorem lowers_fresh (fresh : Bool) :
    Lowers (if fresh then [] else ['\n']) (if fresh then [] else ['\n']) := by
  cases fresh with
  | true => exact .nil
  | false => exact .lineEnd

theorem lowers_putFresh {p : Page} {s s' : String} (h : Lowers s.toList s'.toList) :
    Lowers (p.putFresh s).2 (p.putFresh s').2 := by
  rw [Page.putFresh_snd, Page.putFresh_snd]
  exact (lowers_fresh p.fresh).append h

theorem lowers_bareName {name : List Char} (h : name ∈ bareNames) :
    Lowers ('<' :: (name ++ ['>'])) ('<' :: (Html.lowerName name ++ ['>'])) := by
  have htag := Lowers.tag (IsWriterTag.bare h).regular (IsWriterTag.bare h).lowerable
  simpa [Html.Tag.html, Html.Tag.inside, Html.Tag.lower] using htag

theorem lowerName_headingName : ∀ level ≤ 6,
    Html.lowerName (headingName level).toList = (headingName (levelAt 4 level)).toList ∧
      Html.lowerName ('/' :: (headingName level).toList) =
        '/' :: (headingName (levelAt 4 level)).toList := by decide +kernel

theorem lowers_headingStart (level : Nat) :
    Lowers ("<" ++ headingName (shiftLevel level) ++ ">").toList
      ("<" ++ headingName (levelAt 4 (shiftLevel level)) ++ ">").toList := by
  have hlevel : shiftLevel level ≤ 6 := Nat.min_le_right ..
  have hname := lowers_bareName (headingName_shiftLevel level).1
  rw [(lowerName_headingName _ hlevel).1] at hname
  simpa using hname

theorem lowers_headingStop (level : Nat) :
    Lowers ("</" ++ headingName (shiftLevel level) ++ ">\n").toList
      ("</" ++ headingName (levelAt 4 (shiftLevel level)) ++ ">\n").toList := by
  have hlevel : shiftLevel level ≤ 6 := Nat.min_le_right ..
  have hname := (lowers_bareName (headingName_shiftLevel level).2).append .lineEnd
  rw [(lowerName_headingName _ hlevel).2] at hname
  simpa using hname

/-- Behind the tag of a heading the page is the same, whatever the level is. -/
theorem Page.heading_fst (p : Page) (level level' : Nat) :
    (p.start (.heading level)).1 = (p.start (.heading level')).1 ∧
      (p.stop (.heading level)).1 = (p.stop (.heading level')).1 := by
  simp [Page.start, Page.stop, Page.putFresh, Page.put, List.getLast?_cons, List.getLast?_append]

/-- **The start of an element that is no image**, with its heading lowered. -/
theorem Page.lowers_start (p : Page) {tag : Tag} (h : isImage tag = false) :
    (p.start (tagAt 4 (guardTag tag))).1 = (p.start (guardTag tag)).1 ∧
      Lowers (p.start (guardTag tag)).2 (p.start (tagAt 4 (guardTag tag))).2 := by
  cases tag with
  | heading level => exact ⟨(Page.heading_fst p _ _).1, lowers_putFresh (lowers_headingStart level)⟩
  | codeBlock info =>
    refine ⟨rfl, ?_⟩
    have hfresh := lowers_fresh p.fresh
    have hpre := Lowers.bare "pre".toList (by decide)
    show Lowers (p.start (.codeBlock info)).2 (p.start (.codeBlock info)).2
    rw [Page.start]
    split
    · have hcode := Lowers.bare "code".toList (by decide)
      exact hfresh.append (hpre.append hcode)
    · have hcode := Lowers.other (IsWriterTag.code ((info.getD []).takeWhile (· != ' '))).regular
        (by decide : Html.IsOtherName "code".toList)
      have hall := hfresh.append (hpre.append hcode)
      simpa [Page.inLine, Html.Tag.html, Html.Tag.inside, Html.Attribute.html] using hall
  | list start =>
    refine ⟨rfl, ?_⟩
    cases start with
    | none =>
      refine (Page.written_start p h).2.lowers_self ?_
      obtain ⟨fresh, alignments, cell, inHead, image⟩ := p
      cases fresh <;> rfl
    | some n =>
      show Lowers (p.start (.list (some n))).2 (p.start (.list (some n))).2
      by_cases hn : n = 1
      · subst hn
        exact lowers_putFresh ((Lowers.bare "ol".toList (by decide)).append .lineEnd)
      · have hlist := (Lowers.other (IsWriterTag.list n).regular
          (by decide : Html.IsOtherName "ol".toList)).append .lineEnd
        rw [Page.start_list p hn]
        refine lowers_putFresh ?_
        simpa [Html.Tag.html, Html.Tag.inside, Html.Attribute.html] using hlist
  | tableCell =>
    refine ⟨rfl, (Page.written_start p h).2.lowers_self ?_⟩
    show hasLevelThree ((if p.inHead then "<th" else "<td") ++
      alignmentText p.alignments[p.cell]? ++ ">").toList = false
    generalize p.inHead = inHead
    rcases p.alignments[p.cell]? with _ | (_ | _ | _ | _) <;> cases inHead <;> rfl
  | link email dest title =>
    refine ⟨rfl, ?_⟩
    have hlink := Lowers.other
      (IsWriterTag.link email title (isSafeDestination_safeDestination dest)).regular
      (by decide : Html.IsOtherName "a".toList)
    rw [← linkTag_html, linkText, ← List.append_assoc] at hlink
    exact hlink
  | image dest title => cases h
  | _ =>
    refine ⟨rfl, (Page.written_start p h).2.lowers_self ?_⟩
    obtain ⟨fresh, alignments, cell, inHead, image⟩ := p
    cases fresh <;> rfl

theorem Page.lowers_stop (p : Page) (tag : Tag) :
    (p.stop (tagAt 4 (guardTag tag))).1 = (p.stop (guardTag tag)).1 ∧
      Lowers (p.stop (guardTag tag)).2 (p.stop (tagAt 4 (guardTag tag))).2 := by
  cases tag with
  | heading level => exact ⟨(Page.heading_fst p _ _).2, lowers_headingStop level⟩
  | list start =>
    refine ⟨rfl, (Page.written_stop p _).2.lowers_self ?_⟩
    cases start <;> rfl
  | tableCell =>
    refine ⟨rfl, (Page.written_stop p _).2.lowers_self ?_⟩
    show hasLevelThree (if p.inHead then "</th>" else "</td>").toList = false
    split <;> rfl
  | _ => exact ⟨rfl, (Page.written_stop p _).2.lowers_self rfl⟩

theorem lowers_image {dest : List Char} (h : isSafeDestination dest = true)
    (alt title : List Char) :
    Lowers (imageStart dest alt ++ imageEnd title) (imageStart dest alt ++ imageEnd title) := by
  rw [imageTag_html]
  exact Lowers.other (IsWriterTag.image alt title h).regular
    (by decide : Html.IsOtherName "img".toList)

/-- **An event outside images**, with its heading lowered. -/
theorem Page.lowers_event {p : Page} (hp : p.image = none) {e : Event}
    (he : startsImage e = false) :
    (p.event (eventAt 4 (guardEvent e))).1 = (p.event (guardEvent e)).1 ∧
      Lowers (p.event (guardEvent e)).2 (p.event (eventAt 4 (guardEvent e))).2 := by
  have hbody : ∀ s, Lowers (bodyText s) (bodyText s) := fun s => .text bracket_not_mem_bodyText
  rw [Page.event.eq_def, Page.event.eq_def, hp]
  cases e with
  | start tag => exact Page.lowers_start p he
  | stop tag => exact Page.lowers_stop p tag
  | text s => exact ⟨rfl, hbody s⟩
  | html s => exact ⟨rfl, hbody s⟩
  | inlineHtml s => exact ⟨rfl, hbody s⟩
  | code s =>
    have hopen := Lowers.bare "code".toList (by decide)
    have hclose := Lowers.bare "/code".toList (by decide)
    exact ⟨rfl, (hopen.append (hbody s)).append hclose⟩
  | softBreak => exact ⟨rfl, .lineEnd⟩
  | hardBreak =>
    have hbr : "br".toList ∈ ["br".toList, "hr".toList] := by decide
    have hbreak := Lowers.other (IsWriterTag.line hbr).regular (by decide)
    exact ⟨rfl, hbreak.append .lineEnd⟩
  | rule =>
    have hhr : "hr".toList ∈ ["br".toList, "hr".toList] := by decide
    have hrule := Lowers.other (IsWriterTag.line hhr).regular (by decide)
    exact ⟨rfl, lowers_putFresh (hrule.append .lineEnd)⟩

/-- In an image all elements are left out, whatever they are. -/
theorem Page.event_eventAt {p : Page} {image : OpenImage} (hp : p.image = some image) (e : Event) :
    p.event (eventAt 4 e) = p.event e := by
  rw [Page.event.eq_def, Page.event.eq_def, hp]
  cases e <;> rfl

/-- **Events with their headings lowered**, outside images and with an image open. -/
theorem Page.lowers_events (events : List Event) :
    (∀ p : Page, p.image = none →
      Lowers (p.events (events.map guardEvent))
        (p.events ((events.map guardEvent).map (eventAt 4)))) ∧
    ∀ (p : Page) (image : OpenImage) (dest alt : List Char), p.image = some image →
      isSafeDestination dest = true →
      Lowers (imageStart dest alt ++ p.events (events.map guardEvent))
        (imageStart dest alt ++ p.events ((events.map guardEvent).map (eventAt 4))) := by
  -- both at once: an event may open an image or end it
  induction events with
  | nil =>
    refine ⟨fun p hp => ?_, fun p image dest alt hp hdest => ?_⟩
    · rw [List.map_nil, List.map_nil, Page.events, hp]
      exact .nil
    · rw [List.map_nil, List.map_nil, Page.events, hp]
      exact lowers_image hdest alt image.title
  | cons e events ih =>
    obtain ⟨houtside, hinside⟩ := ih
    refine ⟨fun p hp => ?_, fun p image dest alt hp hdest => ?_⟩
    · rw [List.map_cons, List.map_cons, Page.events_cons, Page.events_cons]
      cases he : startsImage e with
      | false =>
        obtain ⟨hpage, hlowers⟩ := Page.lowers_event hp he
        rw [hpage]
        exact hlowers.append (houtside _ (Page.written_event hp he).1)
      | true =>
        obtain ⟨dest, title, rfl⟩ := exists_image he
        have hlower : eventAt 4 (guardEvent (.start (.image dest title))) =
          guardEvent (.start (.image dest title)) := rfl
        rw [hlower, Page.event_image hp]
        exact hinside _ ⟨0, title⟩ _ [] rfl (isSafeDestination_safeDestination dest)
    · rw [List.map_cons, List.map_cons, Page.events_cons, Page.events_cons,
        Page.event_eventAt hp]
      rcases Page.event_alt hp e with ⟨s, depth, himage, hwritten, -⟩ | ⟨himage, hwritten, -⟩
      · rw [hwritten, ← List.append_assoc, ← List.append_assoc, imageStart_append]
        exact hinside _ ⟨depth, image.title⟩ dest (alt ++ s) himage hdest
      · rw [hwritten, ← List.append_assoc, ← List.append_assoc]
        exact (lowers_image hdest alt image.title).append (houtside _ himage)

end Markdown

/-! ## Both -/

/-- A comment in HTML, with headings of another level in place of three. -/
def Markup.htmlAt (m : Markup) (level : Nat) (comment : List Char) : List Char :=
  match m with
  | .plain => (Plain.blocks comment).flatMap (Plain.blockHtmlAt level)
  | .markdown =>
    DocPress.Markdown.write (((DocPress.Markdown.eventsOf comment).map Markdown.guardEvent).map
      (Markdown.eventAt level))

theorem Markup.htmlAt_three (m : Markup) (comment : List Char) :
    m.htmlAt 3 comment = m.html comment := by
  cases m with
  | plain => rw [Markup.htmlAt, Plain.blockHtmlAt_three, Markup.html, Plain.html]
  | markdown =>
    rw [Markup.htmlAt, List.map_congr_left fun e _ => Markdown.eventAt_three e, List.map_id']
    rfl

theorem Markup.lowers_html (m : Markup) (comment : List Char) :
    Lowers (m.html comment) (m.htmlAt 4 comment) := by
  cases m with
  | plain => exact .flatMap Plain.lowers_blockHtml (Plain.blocks comment)
  | markdown => exact (Markdown.Page.lowers_events (DocPress.Markdown.eventsOf comment)).1 {} rfl

/-- **Replacing in the HTML of a comment is writing it with headings of level four.** The blocks or
events are the same, and those of level three are written with level four. No tag of level three is
left. In tokens, the tags of level three are renamed and all else is kept, also text that spells
such a tag. -/
theorem demoteHeadings_writes_level_four (m : Markup) (comment : List Char) :
    m.htmlAt 3 comment = m.html comment ∧
      demoteHeadings (m.html comment) = m.htmlAt 4 comment ∧
      ¬ "<h3".toList <:+: demoteHeadings (m.html comment) ∧
      ¬ "</h3".toList <:+: demoteHeadings (m.html comment) ∧
      ∃ tokens, m.html comment = Html.tokensHtml tokens ∧
        demoteHeadings (m.html comment) = Html.tokensHtml (tokens.map Html.Token.lower) := by
  have hlowers := m.lowers_html comment
  obtain ⟨hstart, hstop⟩ := hlowers.free_of_level_three
  obtain ⟨tokens, htokens, hlowered, -⟩ := id hlowers
  rw [hlowers.demoteHeadings_eq]
  exact ⟨m.htmlAt_three comment, rfl, hstart, hstop, tokens, htokens, hlowered⟩

-- a heading that spells a tag of its own
example : demoteHeadings (Markup.markdown.html "# \x60<h3>\x60".toList) =
    "<h4><code>&lt;h3&gt;</code></h4>\n".toList := by decide +kernel

end DocPress.Comment
