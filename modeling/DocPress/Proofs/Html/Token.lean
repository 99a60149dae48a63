import DocPress.Proofs.Html.Visible
import Mathlib.Data.List.Basic
import Mathlib.Data.List.Induction

/-!
# Tokens of HTML

HTML as a sequence of characters of text and of tags with attributes. A token carries the proof that
it can be told apart from what stands around it: text holds neither `<` nor `>`, and no value of an
attribute holds these or a double quote.

* `Attribute`, `Tag`, `Token` — the parts; `tokensHtml` — how they are written.
* `tagsOf`, `textOf` — the tags and the text of a sequence of tokens.
* `Place`, `placeAfter` — what a reader of HTML knows at a place: whether it lies inside a tag, and
  whether it lies inside a link.
* `linkContents` — what stands inside links.

Principal results: `locate` — each character of written tokens belongs to a text or to a tag;
`lt_opens_tag` — so each `<` begins a tag; `placeAfter_tokens`, `placeAfter_tag` — what a reader knows
between tokens and inside a tag; `Tag.Regular.exists_value` — what stands in a tag and is neither name
nor punctuation is the value of an attribute.
-/

namespace DocPress.Html

/-! ## Tokens -/

/-- Whether a character may stand in the name of a tag or of an attribute. -/
def isNameChar (c : Char) : Bool := c.isLower || c.isDigit || c == '/'

/-- An attribute, with its value as it is written. -/
structure Attribute where
  name : List Char
  value : List Char
  deriving DecidableEq, Repr

/-- A tag. The name of one that ends an element begins with a slash. -/
structure Tag where
  name : List Char
  attributes : List Attribute := []
  /-- The tag is an element of its own. -/
  void : Bool := false
  deriving DecidableEq, Repr

/-- Names hold only characters of names, and values can stand between double quotes. -/
structure Tag.Regular (t : Tag) : Prop where
  name : ∀ c ∈ t.name, isNameChar c = true
  attributes : ∀ a ∈ t.attributes,
    (∀ c ∈ a.name, isNameChar c = true) ∧ ∀ c ∈ a.value, isMarkupChar c = false

/-- A character of text, as it is written, or a tag. -/
inductive Token where
  | char (c : Char) (free : c ≠ '<' ∧ c ≠ '>')
  | tag (t : Tag) (regular : t.Regular)

/-- An attribute in HTML. -/
def Attribute.html (a : Attribute) : List Char :=
  ' ' :: (a.name ++ ('=' :: '\x22' :: (a.value ++ ['\x22'])))

/-- What stands between the brackets of a tag. -/
def Tag.inside (t : Tag) : List Char :=
  t.name ++ (t.attributes.flatMap Attribute.html ++ if t.void then " /".toList else [])

/-- A tag in HTML. -/
def Tag.html (t : Tag) : List Char := '<' :: (t.inside ++ ['>'])

/-- A token in HTML. -/
def Token.html : Token → List Char
  | .char c _ => [c]
  | .tag t _ => t.html

/-- Tokens in HTML. -/
def tokensHtml (ts : List Token) : List Char := ts.flatMap Token.html

/-- The tag that a token is. -/
def Token.tag? : Token → Option Tag
  | .char _ _ => none
  | .tag t _ => some t

/-- The character that a token is. -/
def Token.char? : Token → Option Char
  | .char c _ => some c
  | .tag _ _ => none

/-- The tags of a sequence of tokens. -/
def tagsOf (ts : List Token) : List Tag := ts.filterMap Token.tag?

/-- The text of a sequence of tokens. -/
def textOf (ts : List Token) : List Char := ts.filterMap Token.char?

/-- Text as tokens. -/
def textTokens (s : List Char) (h : ∀ c ∈ s, c ≠ '<' ∧ c ≠ '>') : List Token := s.pmap Token.char h

theorem tokensHtml_cons (t : Token) (ts : List Token) :
    tokensHtml (t :: ts) = t.html ++ tokensHtml ts := rfl

theorem tokensHtml_append (ts us : List Token) :
    tokensHtml (ts ++ us) = tokensHtml ts ++ tokensHtml us := by
  simp [tokensHtml]

theorem tagsOf_append (ts us : List Token) : tagsOf (ts ++ us) = tagsOf ts ++ tagsOf us :=
  List.filterMap_append

theorem textOf_append (ts us : List Token) : textOf (ts ++ us) = textOf ts ++ textOf us :=
  List.filterMap_append

theorem tokensHtml_textTokens {s : List Char} (h : ∀ c ∈ s, c ≠ '<' ∧ c ≠ '>') :
    tokensHtml (textTokens s h) = s ∧ textOf (textTokens s h) = s ∧ tagsOf (textTokens s h) = [] := by
  induction s with
  | nil => exact ⟨rfl, rfl, rfl⟩
  | cons c s ih =>
    obtain ⟨hhtml, htext, htags⟩ := ih fun x hx => h x (List.mem_cons_of_mem _ hx)
    exact ⟨congrArg (c :: ·) hhtml, congrArg (c :: ·) htext, htags⟩

theorem mem_tagsOf {t : Tag} {ts : List Token} :
    t ∈ tagsOf ts ↔ ∃ regular, Token.tag t regular ∈ ts := by
  rw [tagsOf, List.mem_filterMap]
  constructor
  · rintro ⟨token, hmem, htag⟩
    cases token with
    | char c free => cases htag
    | tag u regular =>
      obtain rfl := Option.some.inj htag
      exact ⟨regular, hmem⟩
  · rintro ⟨regular, hmem⟩
    exact ⟨_, hmem, rfl⟩

/-! ## Characters of tags -/

theorem isMarkupChar_of_isNameChar {c : Char} (h : isNameChar c = true) : isMarkupChar c = false := by
  cases hc : isMarkupChar c with
  | false => rfl
  | true =>
    simp only [isMarkupChar, Bool.or_eq_true, beq_iff_eq] at hc
    rcases hc with (rfl | rfl) | rfl <;> cases h

theorem ne_bracket_of_isMarkupChar {c : Char} (h : isMarkupChar c = false) : c ≠ '<' ∧ c ≠ '>' := by
  constructor
  · rintro rfl
    cases h
  · rintro rfl
    cases h

/-- The inside of a tag holds neither `<` nor `>`. -/
theorem Tag.Regular.bracket_not_mem {t : Tag} (ht : t.Regular) {c : Char}
    (hc : c = '<' ∨ c = '>') : c ∉ t.inside := by
  have hmarkup : isMarkupChar c = true := by rcases hc with rfl | rfl <;> rfl
  have hfixed : c ∉ [' ', '=', '\x22', '/'] := by rcases hc with rfl | rfl <;> decide
  have hname : ∀ s : List Char, (∀ x ∈ s, isNameChar x = true) → c ∉ s := by
    intro s hs hmem
    rw [isMarkupChar_of_isNameChar (hs c hmem)] at hmarkup
    cases hmarkup
  simp only [List.mem_cons, List.not_mem_nil, or_false, not_or] at hfixed
  obtain ⟨hspace, hequals, hquote, hslash⟩ := hfixed
  have hattribute : ∀ a ∈ t.attributes, c ∉ a.html := by
    intro a ha hmem
    obtain ⟨haname, havalue⟩ := ht.attributes a ha
    simp only [Attribute.html, List.mem_cons, List.mem_append, List.not_mem_nil, or_false, hspace,
      hequals, hquote, false_or] at hmem
    rcases hmem with hmem | hmem
    · exact hname _ haname hmem
    · rw [havalue c hmem] at hmarkup
      cases hmarkup
  intro hmem
  simp only [Tag.inside, List.mem_append, List.mem_flatMap] at hmem
  rcases hmem with hmem | ⟨a, ha, hmem⟩ | hmem
  · exact hname _ ht.name hmem
  · exact hattribute a ha hmem
  · split at hmem
    · simp [hspace, hslash] at hmem
    · cases hmem

/-- **Each character of written tokens belongs to a text or to a tag.** -/
theorem locate {ts : List Token} {before after : List Char} {c : Char}
    (h : tokensHtml ts = before ++ c :: after) :
    (∃ pre post free, ts = pre ++ Token.char c free :: post ∧ before = tokensHtml pre ∧
      after = tokensHtml post) ∨
    ∃ pre t regular post start rest, ts = pre ++ Token.tag t regular :: post ∧
      t.html = start ++ c :: rest ∧ before = tokensHtml pre ++ start ∧
      after = rest ++ tokensHtml post := by
  induction ts generalizing before with
  | nil => simp [tokensHtml] at h
  | cons token ts ih =>
    rw [tokensHtml_cons, List.append_eq_append_iff] at h
    -- the character stands behind the first token, or in it
    rcases h with ⟨more, hbefore, hts⟩ | ⟨rest, htoken, hafter⟩
    · rcases ih hts with ⟨pre, post, free, rfl, rfl, rfl⟩ |
        ⟨pre, t, regular, post, start, rest, rfl, hhtml, rfl, rfl⟩
      · exact Or.inl ⟨token :: pre, post, free, rfl, hbefore, rfl⟩
      · refine Or.inr ⟨token :: pre, t, regular, post, start, rest, rfl, hhtml, ?_, rfl⟩
        rw [hbefore, tokensHtml_cons, List.append_assoc]
    · cases rest with
      | nil =>
        rw [List.append_nil] at htoken
        have hts : tokensHtml ts = [] ++ c :: after := hafter.symm
        rcases ih hts with ⟨pre, post, free, rfl, hpre, rfl⟩ |
          ⟨pre, t, regular, post, start, rest, rfl, hhtml, hpre, rfl⟩
        · refine Or.inl ⟨token :: pre, post, free, rfl, ?_, rfl⟩
          rw [tokensHtml_cons, ← hpre, List.append_nil, htoken]
        · refine Or.inr ⟨token :: pre, t, regular, post, start, rest, rfl, hhtml, ?_, rfl⟩
          rw [tokensHtml_cons, List.append_assoc, ← hpre, List.append_nil, htoken]
      | cons d rest =>
        obtain ⟨rfl, rfl⟩ := List.cons.inj hafter
        cases token with
        | char e free =>
          obtain ⟨rfl, hnil⟩ : before = [] ∧ [e] = c :: rest := by
            cases before with
            | nil => exact ⟨rfl, htoken⟩
            | cons b before => simp [Token.html] at htoken
          obtain ⟨rfl, rfl⟩ := List.cons.inj hnil
          exact Or.inl ⟨[], ts, free, rfl, rfl, rfl⟩
        | tag t regular =>
          exact Or.inr ⟨[], t, regular, ts, before, rest, rfl, htoken, rfl, rfl⟩

/-- **Each `<` of written tokens begins a tag.** -/
theorem lt_opens_tag {ts : List Token} {before after : List Char}
    (h : tokensHtml ts = before ++ '<' :: after) :
    ∃ pre t regular post, ts = pre ++ Token.tag t regular :: post ∧ before = tokensHtml pre := by
  rcases locate h with ⟨pre, post, free, _⟩ | ⟨pre, t, regular, post, start, rest, rfl, hhtml, rfl, _⟩
  · exact absurd rfl free.1
  · have hstart : start = [] := by
      cases start with
      | nil => rfl
      | cons s start =>
        have hmem : '<' ∈ t.inside ++ ['>'] := by
          rw [(List.cons.inj hhtml).2]
          simp
        simp [regular.bracket_not_mem (Or.inl rfl)] at hmem
    exact ⟨pre, t, regular, post, rfl, by rw [hstart, List.append_nil]⟩

/-! ## Values of attributes -/

/-- The value of an attribute stands in the tag, before a double quote. -/
theorem Tag.exists_inside_value {t : Tag} {a : Attribute} (ha : a ∈ t.attributes) :
    ∃ start rest, t.inside = start ++ (a.value ++ '\x22' :: rest) := by
  obtain ⟨front, back, hattributes⟩ := List.append_of_mem ha
  refine ⟨t.name ++ (front.flatMap Attribute.html ++ ' ' :: (a.name ++ ['=', '\x22'])), ?_, ?_⟩
  · exact back.flatMap Attribute.html ++ if t.void then " /".toList else []
  · rw [Tag.inside, hattributes]
    simp [Attribute.html]

/-- A character that a first part does not hold stands in the second. -/
theorem eq_append_of_not_mem {x y start rest : List Char} {c : Char} (hc : c ∉ x)
    (h : x ++ y = start ++ c :: rest) : ∃ more, start = x ++ more ∧ y = more ++ c :: rest := by
  rcases List.append_eq_append_iff.mp h with ⟨more, hstart, hy⟩ | ⟨back, hx, hy⟩
  · exact ⟨more, hstart, hy⟩
  · cases back with
    | nil => exact ⟨[], by simpa using hx.symm, hy.symm⟩
    | cons b back =>
      obtain ⟨rfl, _⟩ := List.cons.inj hy
      exact absurd (by simp [hx]) hc

/-- A character that belongs to no name and no punctuation of attributes stands in the value of one. -/
theorem exists_value_of_attributes {attributes : List Attribute} {tail start rest : List Char}
    {c : Char} (hfixed : c ∉ [' ', '=', '\x22']) (hnames : ∀ a ∈ attributes, c ∉ a.name)
    (htail : c ∉ tail) (h : attributes.flatMap Attribute.html ++ tail = start ++ c :: rest) :
    ∃ a ∈ attributes, ∃ front back more, a.value = front ++ c :: back ∧
      rest = back ++ '\x22' :: more := by
  have hquote : c ≠ '\x22' := fun hc => hfixed (by simp [hc])
  induction attributes generalizing start with
  | nil =>
    have htail' : tail = start ++ c :: rest := h
    exact absurd (by simp [htail']) htail
  | cons a attributes ih =>
    have hhtml : (a :: attributes).flatMap Attribute.html ++ tail =
        ' ' :: (a.name ++ ['=', '\x22']) ++
          (a.value ++ '\x22' :: (attributes.flatMap Attribute.html ++ tail)) := by
      simp [Attribute.html]
    have hhead : c ∉ ' ' :: (a.name ++ ['=', '\x22']) := by
      have hname := hnames a List.mem_cons_self
      simp only [List.mem_cons, List.mem_append, List.not_mem_nil, or_false, not_or] at hfixed ⊢
      exact ⟨hfixed.1, hname, hfixed.2⟩
    rw [hhtml] at h
    obtain ⟨more, _, hvalue⟩ := eq_append_of_not_mem hhead h
    rcases List.append_eq_append_iff.mp hvalue with ⟨behind, _, hrest⟩ | ⟨back, hback, hrest⟩
    · cases behind with
      | nil => exact absurd (List.cons.inj hrest).1.symm hquote
      | cons b behind =>
        obtain ⟨b', hb', found⟩ :=
          ih (fun x hx => hnames x (List.mem_cons_of_mem _ hx)) (List.cons.inj hrest).2
        exact ⟨b', List.mem_cons_of_mem _ hb', found⟩
    · cases back with
      | nil => exact absurd (List.cons.inj hrest).1 hquote
      | cons b back =>
        obtain ⟨rfl, hmore⟩ := List.cons.inj hrest
        exact ⟨a, List.mem_cons_self, more, back, _, hback, hmore⟩

/-- **A character that belongs to no name and no punctuation of a tag stands in the value of an
attribute.** -/
theorem Tag.Regular.exists_value {t : Tag} (ht : t.Regular) {start rest : List Char} {c : Char}
    (hfixed : c ∉ [' ', '=', '\x22', '/', '<', '>']) (hname : isNameChar c = false)
    (h : t.html = start ++ c :: rest) :
    ∃ a ∈ t.attributes, ∃ front back more, a.value = front ++ c :: back ∧
      rest = back ++ '\x22' :: more := by
  have hnot : ∀ s : List Char, (∀ x ∈ s, isNameChar x = true) → c ∉ s := by
    intro s hs hmem
    rw [hs c hmem] at hname
    cases hname
  simp only [List.mem_cons, List.not_mem_nil, or_false, not_or] at hfixed
  obtain ⟨hspace, hequals, hquote, hslash, hlt, hgt⟩ := hfixed
  have hhtml : t.html = '<' :: t.name ++ (t.attributes.flatMap Attribute.html ++
      ((if t.void then " /".toList else []) ++ ['>'])) := by
    simp [Tag.html, Tag.inside]
  rw [hhtml] at h
  have hhead : c ∉ '<' :: t.name := by simp [hlt, hnot _ ht.name]
  obtain ⟨more, _, hrest⟩ := eq_append_of_not_mem hhead h
  refine exists_value_of_attributes ?_ (fun a ha => hnot _ (ht.attributes a ha).1) ?_ hrest
  · simp [hspace, hequals, hquote]
  · cases t.void <;> simp [hspace, hslash, hgt]

/-! ## Places -/

/-- Whether the inside of a tag is that of one that begins a link. -/
def isLinkStart (inside : List Char) : Bool :=
  inside == "a".toList || "a ".toList.isPrefixOf inside

/-- Whether the inside of a tag is that of one that ends a link. -/
def isLinkEnd (inside : List Char) : Bool := inside == "/a".toList

/-- What a reader of HTML knows at a place. -/
structure Place where
  /-- The tag that the place lies in, as far as it is read. -/
  tag : Option (List Char) := none
  /-- The place lies in a link. -/
  link : Bool := false
  deriving DecidableEq, Repr

/-- Whether a reader is in a link after a tag. -/
def linkAfter (inside : List Char) (link : Bool) : Bool :=
  if isLinkEnd inside then false else isLinkStart inside || link

/-- One more character. -/
def Place.next (p : Place) (c : Char) : Place :=
  match p.tag with
  | none => if c = '<' then { p with tag := some [] } else p
  | some inside =>
    if c = '>' then { tag := none, link := linkAfter inside p.link }
    else { p with tag := some (inside ++ [c]) }

/-- The place after a text. -/
def placeAfter (s : List Char) : Place := s.foldl Place.next {}

/-- A place in text that belongs to no link. -/
def Place.InText (p : Place) : Prop := p.tag = none ∧ p.link = false

instance (p : Place) : Decidable p.InText := inferInstanceAs (Decidable (_ ∧ _))

/-- Whether a reader is in a link after a token. -/
def Token.linkAfter (link : Bool) : Token → Bool
  | .char _ _ => link
  | .tag t _ => Html.linkAfter t.inside link

theorem foldl_next_inside {inside : List Char} (h : '>' ∉ inside) (read : List Char) (link : Bool) :
    inside.foldl Place.next ⟨some read, link⟩ = ⟨some (read ++ inside), link⟩ := by
  induction inside generalizing read with
  | nil => simp
  | cons c inside ih =>
    have hc : c ≠ '>' := fun hc => h (by simp [hc])
    rw [List.foldl_cons, Place.next]
    simp only [hc, if_false]
    rw [ih fun hmem => h (List.mem_cons_of_mem _ hmem)]
    simp

theorem foldl_next_token (token : Token) (link : Bool) :
    token.html.foldl Place.next ⟨none, link⟩ = ⟨none, token.linkAfter link⟩ := by
  cases token with
  | char c free => simp [Token.html, Place.next, free.1, Token.linkAfter]
  | tag t regular =>
    have hgt := regular.bracket_not_mem (Or.inr rfl)
    rw [Token.html, Tag.html, List.foldl_cons, Place.next]
    simp only [if_true, List.foldl_append]
    rw [foldl_next_inside hgt]
    simp [Place.next, Token.linkAfter]

theorem foldl_next_tokens (ts : List Token) (link : Bool) :
    (tokensHtml ts).foldl Place.next ⟨none, link⟩ = ⟨none, ts.foldl Token.linkAfter link⟩ := by
  induction ts generalizing link with
  | nil => rfl
  | cons token ts ih =>
    rw [tokensHtml_cons, List.foldl_append, foldl_next_token, ih]
    rfl

/-- **Between tokens a reader is in no tag**, and in a link if one was begun and not ended. -/
theorem placeAfter_tokens (ts : List Token) :
    placeAfter (tokensHtml ts) = ⟨none, ts.foldl Token.linkAfter false⟩ :=
  foldl_next_tokens ts false

/-- **Inside a tag a reader knows that**, whatever the tag is. -/
theorem placeAfter_tag (ts : List Token) {start : List Char} (h : '>' ∉ start) :
    placeAfter (tokensHtml ts ++ '<' :: start) = ⟨some start, ts.foldl Token.linkAfter false⟩ := by
  rw [placeAfter, List.foldl_append, ← placeAfter, placeAfter_tokens, List.foldl_cons, Place.next]
  simp only [if_true]
  rw [foldl_next_inside h, List.nil_append]

/-- A reader is in a tag before each of its characters but the first. -/
theorem placeAfter_inside (ts : List Token) {t : Tag} (ht : t.Regular) {start rest : List Char}
    {c : Char} (hc : c ≠ '<') (h : t.html = start ++ c :: rest) :
    (placeAfter (tokensHtml ts ++ start)).tag ≠ none := by
  cases start with
  | nil => exact absurd (List.cons.inj h).1.symm hc
  | cons s start =>
    obtain ⟨rfl, hcut⟩ := List.cons.inj h
    have hinside : t.inside ++ ['>'] = start ++ c :: rest := hcut
    have hgt : '>' ∉ start := by
      intro hmem
      have hlast : start <+: t.inside := by
        refine List.prefix_of_prefix_length_le ⟨c :: rest, hinside.symm⟩ (List.prefix_append ..) ?_
        have := congrArg List.length hinside
        simp only [List.length_append, List.length_cons, List.length_nil] at this
        omega
      exact ht.bracket_not_mem (Or.inr rfl) (hlast.subset hmem)
    rw [placeAfter_tag ts hgt]
    exact Option.some_ne_none _

/-! ## What stands in links -/

/-- Whether a token ends a link. -/
def Token.endsLink : Token → Bool
  | .char _ _ => false
  | .tag t _ => isLinkEnd t.inside

/-- Whether a token begins a link. -/
def Token.startsLink : Token → Bool
  | .char _ _ => false
  | .tag t _ => isLinkStart t.inside

/-- The HTML from the beginning of each link to the next end of a link. -/
def linkContents : List Token → List (List Char)
  | [] => []
  | token :: rest =>
    if token.startsLink then tokensHtml (rest.takeWhile fun t => !t.endsLink) :: linkContents rest
    else linkContents rest

theorem mem_linkContents {ts : List Token} {content : List Char} :
    content ∈ linkContents ts ↔ ∃ pre token post, ts = pre ++ token :: post ∧
      token.startsLink = true ∧ content = tokensHtml (post.takeWhile fun t => !t.endsLink) := by
  induction ts with
  | nil => simp [linkContents]
  | cons token ts ih =>
    constructor
    · intro h
      rw [linkContents] at h
      split at h
      · rename_i hstart
        rcases List.mem_cons.mp h with rfl | h
        · exact ⟨[], token, ts, rfl, hstart, rfl⟩
        · obtain ⟨pre, u, post, rfl, hu⟩ := ih.mp h
          exact ⟨token :: pre, u, post, rfl, hu⟩
      · obtain ⟨pre, u, post, rfl, hu⟩ := ih.mp h
        exact ⟨token :: pre, u, post, rfl, hu⟩
    · rintro ⟨pre, u, post, hts, hstart, rfl⟩
      rw [linkContents]
      cases pre with
      | nil =>
        obtain ⟨rfl, rfl⟩ := List.cons.inj hts
        rw [if_pos hstart]
        exact List.mem_cons_self
      | cons v pre =>
        obtain ⟨rfl, rfl⟩ := List.cons.inj hts
        have hmem := ih.mpr ⟨pre, u, post, rfl, hstart, rfl⟩
        split
        · exact List.mem_cons_of_mem _ hmem
        · exact hmem

theorem Token.startsLink_eq_false {token : Token} (h : token.endsLink = true) :
    token.startsLink = false := by
  cases token with
  | char c free => rfl
  | tag t regular =>
    rw [Token.startsLink, beq_iff_eq.mp h]
    decide

theorem Token.linkAfter_eq (token : Token) (link : Bool) :
    token.linkAfter link = if token.endsLink then false else token.startsLink || link := by
  cases token <;> rfl

/-- A reader is in a link exactly if one was begun and not ended since. -/
theorem foldl_linkAfter_iff {ts : List Token} :
    ts.foldl Token.linkAfter false = true ↔ ∃ pre token post, ts = pre ++ token :: post ∧
      token.startsLink = true ∧ ∀ t ∈ post, t.endsLink = false := by
  induction ts using List.reverseRecOn with
  | nil => simp
  | append_singleton ts token ih =>
    rw [List.foldl_append, List.foldl_cons, List.foldl_nil, Token.linkAfter_eq]
    constructor
    · intro h
      split at h
      · cases h
      · rename_i hend
        rw [Bool.or_eq_true] at h
        rcases h with h | h
        · exact ⟨ts, token, [], rfl, h, by simp⟩
        · obtain ⟨pre, u, post, rfl, hstart, hpost⟩ := ih.mp h
          refine ⟨pre, u, post ++ [token], by simp, hstart, ?_⟩
          simpa [or_imp, forall_and] using ⟨hpost, Bool.not_eq_true _ ▸ hend⟩
    · rintro ⟨pre, u, post, hts, hstart, hpost⟩
      rcases List.eq_nil_or_concat' post with rfl | ⟨post, last, rfl⟩
      · obtain ⟨rfl, hu⟩ := List.append_inj' hts rfl
        obtain rfl := List.singleton_inj.mp hu
        have hend : token.endsLink = false := by
          cases hend : token.endsLink with
          | false => rfl
          | true =>
            rw [Token.startsLink_eq_false hend] at hstart
            cases hstart
        simp [hstart, hend]
      · rw [← List.cons_append, ← List.append_assoc] at hts
        obtain ⟨rfl, hlast⟩ := List.append_inj' hts rfl
        obtain rfl := List.singleton_inj.mp hlast
        have hin := ih.mpr ⟨pre, u, post, rfl, hstart,
          fun t ht => hpost t (List.mem_append_left _ ht)⟩
        simp [hin, hpost token (by simp)]

end DocPress.Html
