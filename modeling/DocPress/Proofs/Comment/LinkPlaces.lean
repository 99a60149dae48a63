import DocPress.Proofs.Comment.RfcLinks
import DocPress.Proofs.Html.Token

/-!
# Where references to RFCs are linked

Linking cuts a page into characters that it keeps and references that it links. Where the page is one
of tokens, a reference lies in text, in the value of an attribute, or in what a link holds.

* `Stretch`, `stretches` — a page as linking cuts it; `LinkedAt` — the places at which links begin.
* `HoldsReference` — a text in which a reference can be found.
* `LinksInText` — links begin only in text that belongs to no link.

Principal results: `linkRfcs_eq_stretches`, `source_stretches` — what linking does to a page;
`linkedAt_iff` — a link begins wherever a reference does; `linksInText_iff` — all links begin in text
exactly if no attribute and no link of the page holds a reference.
-/

namespace DocPress.Comment

open DocPress.Text DocPress.Comment.Page

/-! ## Stretches of a page -/

/-- A stretch of a page as linking cuts it. -/
inductive Stretch where
  | kept (c : Char)
  | linked (label digits : List Char)
  deriving DecidableEq, Repr

/-- A stretch before linking. -/
def Stretch.source : Stretch → List Char
  | .kept c => [c]
  | .linked label _ => label

/-- A stretch after linking. -/
def Stretch.html : Stretch → List Char
  | .kept c => [c]
  | .linked label digits => rfcLink label digits

/-- The stretches of a page after `skip` characters of a reference. -/
def stretchesFrom : Nat → List Char → List Stretch
  | _, [] => []
  | skip + 1, _ :: rest => stretchesFrom skip rest
  | 0, c :: rest =>
    match rfcAt? (c :: rest) with
    | some (label, digits) => .linked label digits :: stretchesFrom (label.length - 1) rest
    | none => .kept c :: stretchesFrom 0 rest

/-- The stretches of a page. -/
def stretches (page : List Char) : List Stretch := stretchesFrom 0 page

/-- **What linking makes of a page**: each reference in it becomes a link. -/
theorem linkRfcs_eq_stretches (page : List Char) :
    linkRfcs page = (stretches page).flatMap Stretch.html := by
  suffices h : ∀ skip, linkRfcsFrom skip page = (stretchesFrom skip page).flatMap Stretch.html from h 0
  induction page with
  | nil => exact fun skip => by cases skip <;> rfl
  | cons c rest ih =>
    intro skip
    cases skip with
    | succ skip => exact ih skip
    | zero =>
      rw [linkRfcsFrom, stretchesFrom]
      cases rfcAt? (c :: rest) with
      | none => exact congrArg (c :: ·) (ih 0)
      | some found => exact congrArg (rfcLink found.1 found.2 ++ ·) (ih (found.1.length - 1))

theorem stretchesFrom_skip (s t : List Char) : stretchesFrom s.length (s ++ t) = stretches t := by
  induction s with
  | nil => rfl
  | cons c s ih => exact ih

theorem stretches_cons {c : Char} {rest : List Char} (h : rfcAt? (c :: rest) = none) :
    stretches (c :: rest) = .kept c :: stretches rest := by
  rw [stretches, stretchesFrom, h]
  rfl

/-- A reference at the beginning is one stretch. -/
theorem stretches_reference {label digits t : List Char}
    (h : rfcAt? (label ++ t) = some (label, digits)) :
    stretches (label ++ t) = .linked label digits :: stretches t := by
  obtain ⟨rest, hrest⟩ := (rfcAt?_spec h).1.exists_cons
  rw [hrest, List.cons_append] at h ⊢
  rw [stretches, stretchesFrom, h]
  simp only [List.length_cons, Nat.add_sub_cancel, stretchesFrom_skip]

/-- A page is kept up to a character, or is linked at its beginning. -/
theorem stretches_cases (c : Char) (rest : List Char) :
    (rfcAt? (c :: rest) = none ∧ stretches (c :: rest) = .kept c :: stretches rest) ∨
      ∃ label digits t, c :: rest = label ++ t ∧ IsReference label digits ∧
        rfcAt? (c :: rest) = some (label, digits) ∧
        stretches (c :: rest) = .linked label digits :: stretches t := by
  cases hfound : rfcAt? (c :: rest) with
  | none => exact Or.inl ⟨rfl, stretches_cons hfound⟩
  | some found =>
    obtain ⟨label, digits⟩ := found
    obtain ⟨href, t, ht⟩ := rfcAt?_spec hfound
    refine Or.inr ⟨label, digits, t, ht.symm, href, rfl, ?_⟩
    rw [← ht] at hfound ⊢
    exact stretches_reference hfound

/-- **Linking loses nothing of a page**: its stretches are the page. -/
theorem source_stretches (page : List Char) : (stretches page).flatMap Stretch.source = page := by
  -- a reference is several characters long, so the induction is on the length of the page
  induction hlen : page.length using Nat.strongRecOn generalizing page with
  | ind n ih =>
    cases page with
    | nil => rfl
    | cons c rest =>
      rcases stretches_cases c rest with ⟨_, hstretches⟩ | ⟨label, digits, t, ht, href, _, hstretches⟩
      · rw [hstretches, List.flatMap_cons, ih rest.length (by simp [← hlen]) rest rfl]
        rfl
      · have hshorter : t.length < n := by
          obtain ⟨more, rfl⟩ := href.exists_cons
          rw [← hlen, ht, List.length_append, List.length_cons]
          omega
        rw [hstretches, List.flatMap_cons, ih t.length hshorter t rfl, ht]
        rfl

/-! ## Places of links -/

/-- A link begins on the page behind `before`. -/
def LinkedAt (page before : List Char) : Prop :=
  ∃ front label digits back, stretches page = front ++ .linked label digits :: back ∧
    before = front.flatMap Stretch.source

/-- The places of links behind the first stretch, and before it if it is a link. -/
theorem linkedAt_iff_of_stretches {page t before : List Char} {s : Stretch}
    (h : stretches page = s :: stretches t) :
    LinkedAt page before ↔ (before = [] ∧ ∃ label digits, s = .linked label digits) ∨
      ∃ more, before = s.source ++ more ∧ LinkedAt t more := by
  constructor
  · rintro ⟨front, label, digits, back, hcut, rfl⟩
    rw [h] at hcut
    cases front with
    | nil => exact Or.inl ⟨rfl, label, digits, (List.cons.inj hcut).1⟩
    | cons s' front =>
      obtain ⟨hs, hcut⟩ := List.cons.inj hcut
      exact Or.inr ⟨_, by rw [hs]; rfl, front, label, digits, back, hcut, rfl⟩
  · rintro (⟨rfl, label, digits, rfl⟩ | ⟨_, rfl, front, label, digits, back, hcut, rfl⟩)
    · exact ⟨[], label, digits, stretches t, h, rfl⟩
    · exact ⟨s :: front, label, digits, back, by rw [h, hcut]; rfl, rfl⟩

/-- Only the first letter of a reference begins one. -/
theorem rfcAt?_inside {label digits front back : List Char} (h : IsReference label digits)
    (hlabel : label = front ++ back) (hfront : front ≠ []) (hback : back ≠ []) (t : List Char) :
    rfcAt? (back ++ t) = none := by
  obtain ⟨blanks, _, hblanks, hform⟩ := h.form
  obtain ⟨c, back, rfl⟩ := List.exists_cons_of_ne_nil hback
  obtain ⟨a, front, rfl⟩ := List.exists_cons_of_ne_nil hfront
  refine rfcAt?_eq_none ?_ _
  rintro rfl
  have htail : front ++ 'R' :: back = "FC".toList ++ (blanks ++ digits) := by
    have hcons : a :: (front ++ 'R' :: back) = 'R' :: ("FC".toList ++ (blanks ++ digits)) :=
      hlabel.symm.trans hform
    exact (List.cons.inj hcons).2
  have hmem : 'R' ∈ "FC".toList ++ (blanks ++ digits) := by
    rw [← htail]
    simp
  rcases List.mem_append.mp hmem with hmem | hmem
  · exact absurd hmem (by decide)
  · rcases List.mem_append.mp hmem with hmem | hmem
    · exact absurd (hblanks _ hmem) (by decide)
    · exact absurd (h.digits _ hmem) (by decide)

/-- A reference begins in a text behind `before`. -/
def ReferenceAt (s before : List Char) : Prop :=
  ∃ after, s = before ++ after ∧ (rfcAt? after).isSome = true

/-- **A link begins wherever a reference does.** -/
theorem linkedAt_iff {page before : List Char} : LinkedAt page before ↔ ReferenceAt page before := by
  induction hlen : page.length using Nat.strongRecOn generalizing page before with
  | ind n ih =>
    cases page with
    | nil =>
      constructor
      · rintro ⟨front, label, digits, back, hstretches, _⟩
        have hnil : front ++ .linked label digits :: back = [] := hstretches.symm
        simp at hnil
      · rintro ⟨after, hpage, hsome⟩
        obtain ⟨_, rfl⟩ := List.append_eq_nil_iff.mp hpage.symm
        cases hsome
    | cons c rest =>
      rcases stretches_cases c rest with
        ⟨hnone, hstretches⟩ | ⟨label, digits, t, ht, href, hsome, hstretches⟩
      · have ihrest : ∀ {b}, LinkedAt rest b ↔ ReferenceAt rest b :=
          ih rest.length (by simp [← hlen]) rfl
        rw [linkedAt_iff_of_stretches hstretches]
        constructor
        · rintro (⟨_, label, digits, hlinked⟩ | ⟨more, rfl, hmore⟩)
          · cases hlinked
          · obtain ⟨after, rfl, hafter⟩ := ihrest.mp hmore
            exact ⟨after, rfl, hafter⟩
        · rintro ⟨after, hpage, hafter⟩
          cases before with
          | nil =>
            obtain rfl : c :: rest = after := hpage
            rw [hnone] at hafter
            cases hafter
          | cons b before =>
            obtain ⟨rfl, hrest⟩ := List.cons.inj hpage
            exact Or.inr ⟨before, rfl, ihrest.mpr ⟨after, hrest, hafter⟩⟩
      · have hshorter : t.length < n := by
          obtain ⟨more, rfl⟩ := href.exists_cons
          rw [← hlen, ht, List.length_append, List.length_cons]
          omega
        have iht : ∀ {b}, LinkedAt t b ↔ ReferenceAt t b := ih t.length hshorter rfl
        rw [linkedAt_iff_of_stretches hstretches]
        constructor
        · rintro (⟨rfl, _⟩ | ⟨more, rfl, hmore⟩)
          · exact ⟨c :: rest, rfl, by rw [hsome]; rfl⟩
          · obtain ⟨after, rfl, hafter⟩ := iht.mp hmore
            exact ⟨after, by rw [ht, List.append_assoc]; rfl, hafter⟩
        · rintro ⟨after, hpage, hafter⟩
          by_cases hbefore : before = []
          · exact Or.inl ⟨hbefore, label, digits, rfl⟩
          rw [ht, List.append_eq_append_iff] at hpage
          -- the reference found at the beginning lies before the place, or would hold another one
          rcases hpage with ⟨more, rfl, rfl⟩ | ⟨back, hlabel, rfl⟩
          · exact Or.inr ⟨more, rfl, iht.mpr ⟨after, rfl, hafter⟩⟩
          · by_cases hback : back = []
            · subst hback
              exact Or.inr ⟨[], by simpa [Stretch.source] using hlabel.symm, iht.mpr ⟨t, rfl, hafter⟩⟩
            · rw [rfcAt?_inside href hlabel hbefore hback] at hafter
              cases hafter

/-! ## References in parts of a page -/

/-- A text holds a reference. -/
def HoldsReference (s : List Char) : Prop := ∃ before, ReferenceAt s before

/-- What a scan takes does not depend on what follows a character that it does not take. -/
theorem takeWhile_append_of_head {p : Char → Bool} {t : List Char} (ht : ∀ c ∈ t.head?, p c = false)
    (s : List Char) : (s ++ t).takeWhile p = s.takeWhile p := by
  induction s with
  | nil =>
    cases t with
    | nil => rfl
    | cons c t => exact List.takeWhile_cons_of_neg (by rw [ht c rfl]; exact Bool.false_ne_true)
  | cons c s ih => rw [List.cons_append, List.takeWhile_cons, List.takeWhile_cons, ih]

/-- **Whether a text begins with a reference does not depend on what follows a character that belongs
to none.** -/
theorem rfcAt?_append {t : List Char} (ht : ∀ c ∈ t.head?, isRfcChar c = false) (s : List Char) :
    rfcAt? (s ++ t) = rfcAt? s := by
  have hblank : ∀ c ∈ t.head?, isRfcBlank c = false := fun c hc => by
    have := ht c hc
    rw [isRfcChar, Bool.or_eq_false_iff, Bool.or_eq_false_iff] at this
    exact this.1.2
  have hdigit : ∀ c ∈ t.head?, c.isDigit = false := fun c hc => by
    have := ht c hc
    rw [isRfcChar, Bool.or_eq_false_iff] at this
    exact this.2
  have hletter : ∀ c ∈ t.head?, c ∉ "RFC".toList := fun c hc hmem => by
    have := ht c hc
    rw [isRfcChar, List.contains_iff_mem.mpr hmem] at this
    cases this
  by_cases hpre : "RFC".toList <+: s
  · obtain ⟨rest, rfl⟩ := hpre
    have hrest : ∀ u : List Char, "RFC".toList.isPrefixOf? ("RFC".toList ++ u) = some u :=
      fun u => List.isPrefixOf?_eq_some_iff_append_eq.mpr rfl
    have hblanks : (rest ++ t).takeWhile isRfcBlank = rest.takeWhile isRfcBlank :=
      takeWhile_append_of_head hblank rest
    have hle : (rest.takeWhile isRfcBlank).length ≤ rest.length :=
      (List.takeWhile_prefix _).length_le
    have hdigits :
        (((rest ++ t).drop (rest.takeWhile isRfcBlank).length).take 4).takeWhile Char.isDigit =
          ((rest.drop (rest.takeWhile isRfcBlank).length).take 4).takeWhile Char.isDigit := by
      rw [List.drop_append_of_le_length hle, List.take_append]
      refine takeWhile_append_of_head (fun c hc => hdigit c ?_) _
      rw [List.head?_take] at hc
      split at hc
      · cases hc
      · exact hc
    rw [rfcAt?, rfcAt?, List.append_assoc, hrest, hrest]
    simp only [hblanks, hdigits]
  · have hnone : ∀ u : List Char, ¬ "RFC".toList <+: u → rfcAt? u = none := by
      intro u hu
      rw [rfcAt?]
      cases hfound : "RFC".toList.isPrefixOf? u with
      | none => rfl
      | some rest => exact absurd ⟨rest, List.isPrefixOf?_eq_some_iff_append_eq.mp hfound⟩ hu
    rw [hnone s hpre, hnone _ fun h => hpre ((prefix_append_iff hletter s).mp h)]

/-- A reference in a part of a text is one of the text, if a character that belongs to none follows. -/
theorem ReferenceAt.append {s t before : List Char} (h : ReferenceAt s before) (front : List Char)
    (ht : ∀ c ∈ t.head?, isRfcChar c = false) : ReferenceAt (front ++ (s ++ t)) (front ++ before) := by
  obtain ⟨after, rfl, hafter⟩ := h
  refine ⟨after ++ t, by simp, ?_⟩
  rw [rfcAt?_append ht]
  exact hafter

theorem isRfcChar_quote : isRfcChar '\x22' = false := by decide

theorem isRfcChar_of_mem_head? {d : Char} (hd : isRfcChar d = false) (t : List Char) :
    ∀ c ∈ (d :: t).head?, isRfcChar c = false := by
  intro c hc
  obtain rfl := Option.some.inj hc
  exact hd

/-- A reference begins with its letter. -/
theorem eq_cons_of_rfcAt? {s : List Char} (h : (rfcAt? s).isSome = true) : ∃ rest, s = 'R' :: rest := by
  cases s with
  | nil => cases h
  | cons c rest =>
    by_cases hc : c = 'R'
    · exact ⟨rest, by rw [hc]⟩
    · rw [rfcAt?_eq_none hc] at h
      cases h

/-! ## Links in pages of tokens -/

/-- All links that are inserted into a page begin in text that belongs to no link. -/
def LinksInText (page : List Char) : Prop :=
  ∀ before, LinkedAt page before → (Html.placeAfter before).InText

/-- No attribute of the tokens holds a reference. -/
def AttributesFree (tokens : List Html.Token) : Prop :=
  ∀ t ∈ Html.tagsOf tokens, ∀ a ∈ t.attributes, ¬ HoldsReference a.value

/-- No link of the tokens holds a reference. -/
def LinksFree (tokens : List Html.Token) : Prop :=
  ∀ content ∈ Html.linkContents tokens, ¬ HoldsReference content

/-- A reference in an attribute is linked inside its tag. -/
theorem linkedAt_of_attribute {tokens : List Html.Token} {t : Html.Tag} (ht : t ∈ Html.tagsOf tokens)
    {a : Html.Attribute} (ha : a ∈ t.attributes) (h : HoldsReference a.value) :
    ∃ before, LinkedAt (Html.tokensHtml tokens) before ∧ (Html.placeAfter before).tag ≠ none := by
  obtain ⟨regular, hmem⟩ := Html.mem_tagsOf.mp ht
  obtain ⟨pre, post, rfl⟩ := List.append_of_mem hmem
  obtain ⟨start, rest, hinside⟩ := Html.Tag.exists_inside_value ha
  obtain ⟨before, href⟩ := h
  have hlinked := href.append (Html.tokensHtml pre ++ '<' :: start)
    (isRfcChar_of_mem_head? isRfcChar_quote (rest ++ '>' :: Html.tokensHtml post))
  have hpage : Html.tokensHtml (pre ++ .tag t regular :: post) =
      Html.tokensHtml pre ++ '<' :: start ++
        (a.value ++ '\x22' :: (rest ++ '>' :: Html.tokensHtml post)) := by
    rw [Html.tokensHtml_append, Html.tokensHtml_cons, Html.Token.html, Html.Tag.html, hinside]
    simp
  refine ⟨Html.tokensHtml pre ++ '<' :: (start ++ before), linkedAt_iff.mpr ?_, ?_⟩
  · rw [hpage]
    simpa using hlinked
  · obtain ⟨after, hvalue, hafter⟩ := href
    obtain ⟨more, rfl⟩ := eq_cons_of_rfcAt? hafter
    have hhtml : t.html = '<' :: (start ++ before) ++ 'R' :: (more ++ '\x22' :: (rest ++ ['>'])) := by
      rw [Html.Tag.html, hinside, hvalue]
      simp
    exact Html.placeAfter_inside pre regular (by decide) hhtml

/-- What follows the content of a link begins with no character of a reference. -/
theorem isRfcChar_of_dropWhile (tokens : List Html.Token) :
    ∀ c ∈ (Html.tokensHtml (tokens.dropWhile fun t => !t.endsLink)).head?, isRfcChar c = false := by
  cases hdrop : tokens.dropWhile fun t => !t.endsLink with
  | nil => simp [Html.tokensHtml]
  | cons token rest =>
    have hend : token.endsLink = true := by
      have := List.head?_dropWhile_not (fun t : Html.Token => !t.endsLink) tokens
      rw [hdrop] at this
      simpa using this
    cases token with
    | char c free => cases hend
    | tag t regular => exact isRfcChar_of_mem_head? isRfcChar_lt _

/-- The HTML behind the start of a link is its content and what follows it. -/
theorem tokensHtml_content (tokens : List Html.Token) :
    Html.tokensHtml tokens = Html.tokensHtml (tokens.takeWhile fun t => !t.endsLink) ++
      Html.tokensHtml (tokens.dropWhile fun t => !t.endsLink) := by
  rw [← Html.tokensHtml_append, List.takeWhile_append_dropWhile]

/-- A reference in a link is linked inside it, or inside a tag. -/
theorem linkedAt_of_content {tokens : List Html.Token} {content : List Char}
    (hcontent : content ∈ Html.linkContents tokens) (h : HoldsReference content) :
    ∃ before, LinkedAt (Html.tokensHtml tokens) before ∧ ¬ (Html.placeAfter before).InText := by
  obtain ⟨pre, token, post, rfl, hstart, rfl⟩ := Html.mem_linkContents.mp hcontent
  obtain ⟨inner, hinner⟩ : ∃ inner, inner = post.takeWhile fun t => !t.endsLink := ⟨_, rfl⟩
  obtain ⟨before, href⟩ := h
  refine ⟨Html.tokensHtml (pre ++ [token]) ++ before, linkedAt_iff.mpr ?_, ?_⟩
  · have hlinked := href.append (Html.tokensHtml (pre ++ [token])) (isRfcChar_of_dropWhile post)
    rw [← tokensHtml_content, ← Html.tokensHtml_append, List.append_assoc] at hlinked
    exact hlinked
  · rw [← hinner] at href
    have hopen : ∀ t ∈ inner, t.endsLink = false := by
      intro t ht
      rw [hinner] at ht
      simpa using List.all_eq_true.mp (List.all_takeWhile ..) t ht
    obtain ⟨after, hhtml, hafter⟩ := href
    obtain ⟨rest, rfl⟩ := eq_cons_of_rfcAt? hafter
    rcases Html.locate hhtml with ⟨front, back, free, rfl, rfl, _⟩ |
      ⟨front, t, regular, back, start, more, rfl, hstarts, rfl, _⟩
    · -- the reference begins in text behind the start of the link
      rw [← Html.tokensHtml_append, Html.placeAfter_tokens]
      rintro ⟨_, hlink⟩
      have hin : (pre ++ [token] ++ front).foldl Html.Token.linkAfter false = true := by
        refine Html.foldl_linkAfter_iff.mpr ⟨pre, token, front, by simp, hstart, ?_⟩
        exact fun t ht => hopen t (List.mem_append_left _ ht)
      rw [hin] at hlink
      cases hlink
    · rintro ⟨htag, _⟩
      rw [← List.append_assoc, ← Html.tokensHtml_append] at htag
      exact Html.placeAfter_inside _ regular (by decide) hstarts htag

/-- A reference that begins inside a tag is held by an attribute. -/
theorem holdsReference_of_tag {t : Html.Tag} (ht : t.Regular) {start rest after : List Char}
    (h : t.html = start ++ 'R' :: rest) (hafter : (rfcAt? ('R' :: (rest ++ after))).isSome = true) :
    ∃ a ∈ t.attributes, HoldsReference a.value := by
  obtain ⟨a, ha, front, back, more, hvalue, rfl⟩ := ht.exists_value (by decide) (by decide) h
  refine ⟨a, ha, front, 'R' :: back, hvalue, ?_⟩
  have hquote := rfcAt?_append (isRfcChar_of_mem_head? isRfcChar_quote (more ++ after)) ('R' :: back)
  rw [← hquote]
  simpa using hafter

/-- A reference that begins in the text of a link is held by that link. -/
theorem holdsReference_of_link {pre post : List Html.Token}
    (hin : pre.foldl Html.Token.linkAfter false = true)
    (hpost : (rfcAt? (Html.tokensHtml post)).isSome = true) :
    ∃ content ∈ Html.linkContents (pre ++ post), HoldsReference content := by
  obtain ⟨front, token, inner, rfl, hstart, hinner⟩ := Html.foldl_linkAfter_iff.mp hin
  refine ⟨_, Html.mem_linkContents.mpr ⟨front, token, inner ++ post, by simp, hstart, rfl⟩, ?_⟩
  have htake : (inner ++ post).takeWhile (fun t => !t.endsLink) =
      inner ++ post.takeWhile fun t => !t.endsLink :=
    List.takeWhile_append_of_pos fun t ht => by rw [hinner t ht]; rfl
  rw [htake, Html.tokensHtml_append]
  refine ⟨Html.tokensHtml inner, _, rfl, ?_⟩
  rw [tokensHtml_content, rfcAt?_append (isRfcChar_of_dropWhile post)] at hpost
  exact hpost

/-- **All links begin in text exactly if no attribute and no link of the page holds a reference.** -/
theorem linksInText_iff (tokens : List Html.Token) :
    LinksInText (Html.tokensHtml tokens) ↔ AttributesFree tokens ∧ LinksFree tokens := by
  constructor
  · intro h
    refine ⟨fun t ht a ha href => ?_, fun content hcontent href => ?_⟩
    · obtain ⟨before, hlinked, htag⟩ := linkedAt_of_attribute ht ha href
      exact htag (h before hlinked).1
    · obtain ⟨before, hlinked, hnot⟩ := linkedAt_of_content hcontent href
      exact hnot (h before hlinked)
  · rintro ⟨hattributes, hlinks⟩ before hlinked
    obtain ⟨after, hpage, hafter⟩ := linkedAt_iff.mp hlinked
    obtain ⟨rest, rfl⟩ := eq_cons_of_rfcAt? hafter
    rcases Html.locate hpage with ⟨pre, post, free, rfl, rfl, rfl⟩ |
      ⟨pre, t, regular, post, start, more, rfl, hstart, _, rfl⟩
    · rw [Html.placeAfter_tokens]
      refine ⟨rfl, ?_⟩
      cases hin : pre.foldl Html.Token.linkAfter false with
      | false => rfl
      | true =>
        have hpost : (rfcAt? (Html.tokensHtml (.char 'R' free :: post))).isSome = true := hafter
        obtain ⟨content, hcontent, href⟩ := holdsReference_of_link hin hpost
        exact absurd href (hlinks content hcontent)
    · obtain ⟨a, ha, href⟩ := holdsReference_of_tag regular hstart hafter
      exact absurd href (hattributes t (Html.mem_tagsOf.mpr ⟨regular, by simp⟩) a ha)

end DocPress.Comment
