import DocPress.Html.Escape

/-!
# What HTML shows

The second side of every statement about generated HTML: what is left of it when its tags are taken
out and its entities are read back.

* `decodeEntities` — the five entities that escaping writes, read from left to right.
* `stripTags` — a text without its tags of a given kind.
* `visible` — both, one after the other.

Principal results: `decodeEntities_escapeText` — reading entities undoes escaping, up to NUL, which
is shown as the replacement character; `stripTags_text`, `stripTags_tag` — text without `<` is kept
and a whole tag is dropped, whatever follows; `stripTags_flatMap`, `visible_eq_map` — so HTML whose
parts leave escaped text shows that text.
-/

namespace DocPress.Html

/-! ## Reading entities -/

/-- What a reader sees of a character: NUL is shown as the replacement character. -/
def shownChar (c : Char) : Char := if c = '\x00' then '\uFFFD' else c

/-- The text with the entities of escaping read back, from left to right. -/
def decodeEntities : List Char → List Char
  | '&' :: 'a' :: 'm' :: 'p' :: ';' :: rest => '&' :: decodeEntities rest
  | '&' :: 'l' :: 't' :: ';' :: rest => '<' :: decodeEntities rest
  | '&' :: 'g' :: 't' :: ';' :: rest => '>' :: decodeEntities rest
  | '&' :: 'q' :: 'u' :: 'o' :: 't' :: ';' :: rest => '\x22' :: decodeEntities rest
  | '&' :: '#' :: 'x' :: '2' :: '7' :: ';' :: rest => '\x27' :: decodeEntities rest
  | c :: rest => c :: decodeEntities rest
  | [] => []

theorem decodeEntities_cons {c : Char} (h : c ≠ '&') (rest : List Char) :
    decodeEntities (c :: rest) = c :: decodeEntities rest := by
  rw [decodeEntities.eq_def]
  split <;> simp_all

theorem escapeText_cons (c : Char) (s : List Char) :
    escapeText (c :: s) = escapeChar c ++ escapeText s := rfl

theorem escapeText_append (s t : List Char) :
    escapeText (s ++ t) = escapeText s ++ escapeText t := by
  simp [escapeText]

/-- A character without a meaning in HTML stands for itself. -/
def isPlainChar (c : Char) : Bool :=
  c != '&' && c != '<' && c != '>' && c != '\x22' && c != '\x27' && c != '\x00'

/-- The characters that escaping changes, each with its HTML form. -/
def specialForms : List (Char × List Char) :=
  [('&', "&amp;".toList), ('<', "&lt;".toList), ('>', "&gt;".toList), ('\x22', "&quot;".toList),
   ('\x27', "&#x27;".toList), ('\x00', ['\uFFFD'])]

/-- A character is plain and stands for itself, or its form is one of the table. -/
theorem escapeChar_cases (c : Char) :
    (isPlainChar c = true ∧ escapeChar c = [c]) ∨ (c, escapeChar c) ∈ specialForms := by
  by_cases h : isPlainChar c = true
  · refine Or.inl ⟨h, ?_⟩
    simp only [isPlainChar, Bool.and_eq_true, bne_iff_ne, ne_eq] at h
    obtain ⟨⟨⟨⟨⟨h1, h2⟩, h3⟩, h4⟩, h5⟩, h6⟩ := h
    simp [escapeChar, h1, h2, h3, h4, h5, h6]
  · refine Or.inr ?_
    simp only [isPlainChar, Bool.and_eq_true, bne_iff_ne, ne_eq] at h
    have hc : c = '&' ∨ c = '<' ∨ c = '>' ∨ c = '\x22' ∨ c = '\x27' ∨ c = '\x00' := by
      grind
    rcases hc with rfl | rfl | rfl | rfl | rfl | rfl <;> decide

theorem escapeChar_plain {c : Char} (h : isPlainChar c = true) : escapeChar c = [c] := by
  rcases escapeChar_cases c with ⟨_, hc⟩ | hc
  · exact hc
  · have hne : ∀ p ∈ specialForms, isPlainChar p.1 = false := by decide
    simp [hne _ hc] at h

theorem decodeEntities_escapeChar (c : Char) (rest : List Char) :
    decodeEntities (escapeChar c ++ rest) = shownChar c :: decodeEntities rest := by
  rcases escapeChar_cases c with ⟨hplain, hc⟩ | hc
  · have hamp : c ≠ '&' := by rintro rfl; simp [isPlainChar] at hplain
    have hnul : c ≠ '\x00' := by rintro rfl; simp [isPlainChar] at hplain
    rw [hc, List.singleton_append, decodeEntities_cons hamp, shownChar, if_neg hnul]
  · have hforms : ∀ p ∈ specialForms,
        decodeEntities (p.2 ++ rest) = shownChar p.1 :: decodeEntities rest := by
      simp [specialForms, decodeEntities, shownChar]
    exact hforms _ hc

/-- **Reading entities undoes escaping**, and does not look beyond the escaped text. -/
theorem decodeEntities_escapeText (s rest : List Char) :
    decodeEntities (escapeText s ++ rest) = s.map shownChar ++ decodeEntities rest := by
  induction s with
  | nil => rfl
  | cons c s ih =>
    rw [escapeText_cons, List.append_assoc, decodeEntities_escapeChar, ih]
    rfl

theorem decodeEntities_escaped (s : List Char) : decodeEntities (escapeText s) = s.map shownChar := by
  have hdecode := decodeEntities_escapeText s []
  rw [List.append_nil, decodeEntities, List.append_nil] at hdecode
  exact hdecode

theorem map_shownChar_of_not_mem {s : List Char} (h : '\x00' ∉ s) : s.map shownChar = s := by
  have hkept : ∀ c ∈ s, shownChar c = id c := by
    intro c hc
    refine if_neg ?_
    rintro rfl
    exact h hc
  rw [List.map_congr_left hkept, List.map_id]

/-- **Escaping does not merge texts** without NUL: reading the entities back tells them apart. -/
theorem escapeText_inj {s t : List Char} (hs : '\x00' ∉ s) (ht : '\x00' ∉ t) :
    escapeText s = escapeText t ↔ s = t := by
  constructor
  · intro h
    have hread := congrArg decodeEntities h
    rwa [decodeEntities_escaped, decodeEntities_escaped, map_shownChar_of_not_mem hs,
      map_shownChar_of_not_mem ht] at hread
  · rintro rfl
    rfl

/-- Whether a character is one of `<`, `>` and the double quote, which end a tag or an attribute. -/
def isMarkupChar (c : Char) : Bool := c == '<' || c == '>' || c == '\x22'

theorem isMarkupChar_of_mem_escapeChar {c x : Char} (h : x ∈ escapeChar c) :
    isMarkupChar x = false := by
  rcases escapeChar_cases c with ⟨hplain, hc⟩ | hc
  · rw [hc, List.mem_singleton] at h
    subst h
    simp only [isPlainChar, Bool.and_eq_true, bne_iff_ne, ne_eq] at hplain
    simp [isMarkupChar, hplain]
  · have hforms : ∀ p ∈ specialForms, ∀ y ∈ p.2, isMarkupChar y = false := by
      simp [specialForms, isMarkupChar]
    exact hforms _ hc x h

/-- **Escaped text holds no character of markup**, so it can end neither a tag nor an attribute. -/
theorem isMarkupChar_of_mem_escapeText {s : List Char} {x : Char} (h : x ∈ escapeText s) :
    isMarkupChar x = false := by
  obtain ⟨c, _, hx⟩ := List.mem_flatMap.mp h
  exact isMarkupChar_of_mem_escapeChar hx

theorem lt_not_mem_escapeText (s : List Char) : '<' ∉ escapeText s := fun h => by
  have := isMarkupChar_of_mem_escapeText h
  simp [isMarkupChar] at this

theorem gt_not_mem_escapeText (s : List Char) : '>' ∉ escapeText s := fun h => by
  have := isMarkupChar_of_mem_escapeText h
  simp [isMarkupChar] at this

/-! ## Taking out tags -/

/-- The text without its tags of one kind. A tag reaches from a `<` to the next `>`, and `isTag`
decides on what stands between them. -/
def stripTags (isTag : List Char → Bool) (s : List Char) : List Char :=
  match s with
  | [] => []
  | c :: rest =>
    let body := rest.takeWhile (· != '>')
    if c = '<' ∧ body.length < rest.length ∧ isTag body = true then
      stripTags isTag (rest.drop (body.length + 1))
    else
      c :: stripTags isTag rest
termination_by s.length
decreasing_by
  · simp only [List.length_drop, List.length_cons]; omega
  · simp

variable {isTag : List Char → Bool}

theorem stripTags_nil : stripTags isTag [] = [] := by
  rw [stripTags]

theorem stripTags_cons {c : Char} (h : c ≠ '<') (rest : List Char) :
    stripTags isTag (c :: rest) = c :: stripTags isTag rest := by
  rw [stripTags]
  simp [h]

/-- Text without `<` is kept. -/
theorem stripTags_text {s : List Char} (h : '<' ∉ s) (t : List Char) :
    stripTags isTag (s ++ t) = s ++ stripTags isTag t := by
  induction s with
  | nil => rfl
  | cons c s ih =>
    have hc : c ≠ '<' := fun hc => h (by simp [hc])
    rw [List.cons_append, stripTags_cons hc, ih (fun hs => h (List.mem_cons_of_mem _ hs))]
    rfl

/-- A whole tag is dropped. -/
theorem stripTags_tag {body : List Char} (hgt : '>' ∉ body) (htag : isTag body = true)
    (t : List Char) :
    stripTags isTag ('<' :: (body ++ '>' :: t)) = stripTags isTag t := by
  have hbody : (body ++ '>' :: t).takeWhile (· != '>') = body := by
    have hin : ∀ c ∈ body, (c != '>') = true := by
      intro c hc
      rw [bne_iff_ne]
      rintro rfl
      exact hgt hc
    rw [List.takeWhile_append_of_pos hin]
    simp
  rw [stripTags]
  simp only [hbody, htag, and_true, List.length_append, List.length_cons, true_and]
  rw [if_pos (by omega)]
  congr 1
  rw [List.drop_append]
  simp

/-- A tag that ends in an attribute of escaped text is dropped: the text cannot end it early. -/
theorem stripTags_attribute {start value : List Char} (hstart : '>' ∉ start)
    (htag : isTag (start ++ (escapeText value ++ ['\x22'])) = true) (t : List Char) :
    stripTags isTag ('<' :: (start ++ (escapeText value ++ ("\">".toList ++ t)))) =
      stripTags isTag t := by
  have hgt : '>' ∉ start ++ (escapeText value ++ ['\x22']) := by
    simp [hstart, gt_not_mem_escapeText value]
  simpa using stripTags_tag hgt htag t

/-- Parts that leave escaped text, one after the other. -/
theorem stripTags_flatMap {α : Type} {html text : α → List Char}
    (h : ∀ x t, stripTags isTag (html x ++ t) = escapeText (text x) ++ stripTags isTag t)
    (xs : List α) : stripTags isTag (xs.flatMap html) = escapeText (xs.flatMap text) := by
  induction xs with
  | nil => exact stripTags_nil
  | cons x xs ih =>
    rw [List.flatMap_cons, h, ih, List.flatMap_cons, escapeText_append]

/-! ## What is shown -/

/-- What HTML shows once the tags of one kind are taken out. -/
def visible (isTag : List Char → Bool) (html : List Char) : List Char :=
  decodeEntities (stripTags isTag html)

/-- HTML that leaves escaped text shows that text. -/
theorem visible_eq_map {html text : List Char} (h : stripTags isTag html = escapeText text) :
    visible isTag html = text.map shownChar := by
  rw [visible, h, decodeEntities_escaped]

end DocPress.Html
