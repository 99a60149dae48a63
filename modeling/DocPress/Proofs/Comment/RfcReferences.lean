import DocPress.Proofs.Comment.LinkPlaces
import DocPress.Proofs.Text.Cut

/-!
# All references to RFCs are linked

Linking cuts a page at the references to RFCs in it and makes each of them a link.

* `Reference` — the form of a reference: its blanks, and three or four digits.
* `Reference.extend` — a reference with the digits that follow it, as far as it has room for them.
* `Follows` — a cut of a page that linking follows; `CutsAtReferences` — a cut at the references of
  a page: no gap holds one, and each takes a fourth digit if there is one.

Principal results: `Reference.rfcAt?_append` — a text that begins with a reference is found to;
`exists_reference_of_rfcAt?` — what is found is a reference; `Follows.prepend`, `Follows.find` — one
step of linking; `linkRfcs_links_each_reference_once` — what it makes of every page.
-/

namespace DocPress.Comment

open DocPress.Text DocPress.Comment.Page

/-! ## References -/

theorem length_takeWhile_take_le (p : Char → Bool) (n : Nat) (s : List Char) :
    ((s.take n).takeWhile p).length ≤ n :=
  (List.takeWhile_prefix p).length_le.trans (List.length_take_le n s)

/-- A reference to an RFC. -/
structure Reference where
  blanks : List Char
  digits : List Char
  blanks_ne_nil : blanks ≠ []
  isRfcBlank : ∀ c ∈ blanks, isRfcBlank c = true
  isDigit : ∀ c ∈ digits, c.isDigit = true
  size : digits.length = 3 ∨ digits.length = 4

namespace Reference

/-- A reference as it is written. -/
def text (r : Reference) : List Char := "RFC".toList ++ (r.blanks ++ r.digits)

/-- A reference as a link to the RFC that it names. -/
def link (r : Reference) : List Char :=
  "<a href=\"http://tools.ietf.org/html/rfc".toList ++ r.digits ++ "\">".toList ++ r.text ++
    "</a>".toList

theorem text_ne_nil (r : Reference) : r.text ≠ [] := by simp [text]

/-- The digits that a reference takes of those that follow it: at most four in all. -/
def moreDigits (r : Reference) (after : List Char) : List Char :=
  (after.take (4 - r.digits.length)).takeWhile Char.isDigit

/-- A reference with the digits that follow it, as far as it has room for them. -/
def extend (r : Reference) (after : List Char) : Reference where
  blanks := r.blanks
  digits := r.digits ++ r.moreDigits after
  blanks_ne_nil := r.blanks_ne_nil
  isRfcBlank := r.isRfcBlank
  isDigit := List.forall_mem_append.mpr
    ⟨r.isDigit, fun c hc => List.all_eq_true.mp (List.all_takeWhile ..) c hc⟩
  size := by
    have hle : (r.moreDigits after).length ≤ 4 - r.digits.length := length_takeWhile_take_le ..
    have hsize := r.size
    rw [List.length_append]
    omega

theorem text_prefix_extend (r : Reference) (after : List Char) : r.text <+: (r.extend after).text :=
  ⟨r.moreDigits after, by simp [text, extend]⟩

theorem isRfcBlank_of_isDigit {c : Char} (h : c.isDigit = true) : Comment.isRfcBlank c = false := by
  cases hblank : Comment.isRfcBlank c with
  | false => rfl
  | true =>
    simp only [Comment.isRfcBlank, Bool.or_eq_true, beq_iff_eq] at hblank
    rcases hblank with (((rfl | rfl) | rfl) | rfl) | rfl <;> cases h

/-- **A text that begins with a reference is found to**, with a fourth digit if there is one. -/
theorem rfcAt?_append (r : Reference) (after : List Char) :
    rfcAt? (r.text ++ after) = some ((r.extend after).text, (r.extend after).digits) := by
  obtain ⟨d, ds, hdigits⟩ : ∃ d ds, r.digits = d :: ds := by
    refine List.exists_cons_of_ne_nil fun hnil => ?_
    have hsize := r.size
    simp [hnil] at hsize
  have hfirst : ∀ c ∈ (r.digits ++ after).head?, Comment.isRfcBlank c = false := by
    intro c hc
    rw [hdigits] at hc
    obtain rfl : d = c := by simpa using hc
    exact isRfcBlank_of_isDigit (r.isDigit d (by simp [hdigits]))
  have hblanks : (r.blanks ++ (r.digits ++ after)).takeWhile Comment.isRfcBlank = r.blanks := by
    rw [takeWhile_append_of_head hfirst, List.takeWhile_eq_self_iff.mpr r.isRfcBlank]
  have htaken : ((r.digits ++ after).take 4).takeWhile Char.isDigit = (r.extend after).digits := by
    have hle : r.digits.length ≤ 4 := by
      have hsize := r.size
      omega
    rw [List.take_append, List.take_of_length_le hle, List.takeWhile_append_of_pos r.isDigit]
    rfl
  have hprefix : "RFC".toList.isPrefixOf? (r.text ++ after) =
      some (r.blanks ++ (r.digits ++ after)) := by
    refine List.isPrefixOf?_eq_some_iff_append_eq.mpr ?_
    simp [text]
  have hsize : ¬ (r.extend after).digits.length < 3 := by
    have hsize := (r.extend after).size
    omega
  rw [rfcAt?, hprefix]
  simp only [hblanks, List.drop_left, htaken]
  rw [if_neg (by simp [hsize, r.blanks_ne_nil])]
  simp [text, extend]

end Reference

theorem size_of_rfcAt? {s label digits : List Char} (h : rfcAt? s = some (label, digits)) :
    digits.length = 3 ∨ digits.length = 4 := by
  unfold rfcAt? at h
  split at h
  · cases h
  · rename_i rest _
    simp only at h
    split at h
    · cases h
    · rename_i hcond
      obtain ⟨-, rfl⟩ := Prod.mk.inj (Option.some.inj h)
      have hle := length_takeWhile_take_le Char.isDigit 4
        (rest.drop (rest.takeWhile isRfcBlank).length)
      simp only [Bool.or_eq_true, decide_eq_true_eq, not_or, not_lt] at hcond
      have hge := hcond.2
      omega

/-- **What is found is a reference** that takes no digit of those behind it. -/
theorem exists_reference_of_rfcAt? {s label digits : List Char}
    (h : rfcAt? s = some (label, digits)) :
    ∃ (r : Reference) (after : List Char), s = r.text ++ after ∧ label = r.text ∧
      digits = r.digits ∧ r.moreDigits after = [] := by
  obtain ⟨href, after, hafter⟩ := rfcAt?_spec h
  obtain ⟨blanks, hne, hblanks, hlabel⟩ := href.form
  let r : Reference := ⟨blanks, digits, hne, hblanks, href.digits, size_of_rfcAt? h⟩
  have hs : s = r.text ++ after := by rw [← hafter, hlabel]; rfl
  refine ⟨r, after, hs, hlabel, rfl, ?_⟩
  rw [hs, r.rfcAt?_append] at h
  have hdigits : r.digits ++ r.moreDigits after = digits := (Prod.mk.inj (Option.some.inj h)).2
  exact List.append_right_eq_self.mp hdigits

/-! ## Cuts at references -/

/-- A cut of a page that linking follows: its finds are the references that are linked. -/
structure Follows (page : List Char) (cut : Cut Reference) : Prop where
  page_eq : page = cut.join id Reference.text
  linked : linkRfcs page = cut.join id Reference.link
  whole : ∀ before r after, cut.Stands Reference.text before r after → r.moreDigits after = []
  places : ∀ before,
    LinkedAt page before ↔ ∃ r after, cut.Stands Reference.text before r after

theorem Follows.nil : Follows [] (.last []) where
  page_eq := rfl
  linked := rfl
  whole := by simp [Cut.Stands]
  places := by
    intro before
    constructor
    · rintro ⟨front, label, digits, back, hstretches, -⟩
      have hnil : front ++ .linked label digits :: back = [] := hstretches.symm
      simp at hnil
    · rintro ⟨r, after, hstands⟩
      cases hstands

/-- A character at which no reference begins is kept. -/
theorem Follows.prepend {c : Char} {page : List Char} {cut : Cut Reference} (h : Follows page cut)
    (hnone : rfcAt? (c :: page) = none) : Follows (c :: page) (cut.prepend [c]) where
  page_eq := by rw [Cut.join_prepend, ← h.page_eq, List.singleton_append]
  linked := by rw [linkRfcs_cons hnone, h.linked, Cut.join_prepend, List.singleton_append]
  whole := by
    intro before r after hstands
    obtain ⟨more, -, hmore⟩ := Cut.stands_prepend.mp hstands
    exact h.whole more r after hmore
  places := by
    intro before
    rw [linkedAt_iff_of_stretches (stretches_cons hnone)]
    constructor
    · rintro (⟨-, label, digits, hlinked⟩ | ⟨more, rfl, hmore⟩)
      · cases hlinked
      · obtain ⟨r, after, hstands⟩ := (h.places more).mp hmore
        exact ⟨r, after, Cut.stands_prepend.mpr ⟨more, rfl, hstands⟩⟩
    · rintro ⟨r, after, hstands⟩
      obtain ⟨more, rfl, hmore⟩ := Cut.stands_prepend.mp hstands
      exact Or.inr ⟨more, rfl, (h.places more).mpr ⟨r, after, hmore⟩⟩

/-- A reference that is found is linked as a whole. -/
theorem Follows.find {page : List Char} {cut : Cut Reference} (h : Follows page cut) {r : Reference}
    (hr : r.moreDigits page = []) (hfound : rfcAt? (r.text ++ page) = some (r.text, r.digits)) :
    Follows (r.text ++ page) (.find [] r cut) where
  page_eq := by
    conv_lhs => rw [h.page_eq]
    rfl
  linked := by
    rw [linkRfcs_reference hfound, h.linked]
    rfl
  whole := by
    rintro before r' after (⟨-, rfl, rfl⟩ | ⟨more, -, hmore⟩)
    · rwa [← h.page_eq]
    · exact h.whole more r' after hmore
  places := by
    intro before
    rw [linkedAt_iff_of_stretches (stretches_reference hfound)]
    constructor
    · rintro (⟨rfl, -⟩ | ⟨more, rfl, hmore⟩)
      · exact ⟨r, _, Or.inl ⟨rfl, rfl, rfl⟩⟩
      · obtain ⟨r', after, hstands⟩ := (h.places more).mp hmore
        exact ⟨r', after, Or.inr ⟨more, rfl, hstands⟩⟩
    · rintro ⟨r', after, ⟨rfl, -, -⟩ | ⟨more, rfl, hmore⟩⟩
      · exact Or.inl ⟨rfl, _, _, rfl⟩
      · exact Or.inr ⟨more, rfl, (h.places more).mpr ⟨r', after, hmore⟩⟩

/-- **Every page has a cut at the references that linking finds.** -/
theorem exists_follows (page : List Char) : ∃ cut, Follows page cut := by
  -- a reference is several characters long, so the induction is on the length of the page
  induction hlen : page.length using Nat.strongRecOn generalizing page with
  | ind n ih =>
    cases page with
    | nil => exact ⟨_, .nil⟩
    | cons c rest =>
      cases hfound : rfcAt? (c :: rest) with
      | none =>
        obtain ⟨cut, hcut⟩ := ih rest.length (by simp [← hlen]) rest rfl
        exact ⟨_, hcut.prepend hfound⟩
      | some found =>
        obtain ⟨r, after, hpage, hlabel, hdigits, hmore⟩ := exists_reference_of_rfcAt? hfound
        have hshorter : after.length < n := by
          have hpos := List.length_pos_iff.mpr r.text_ne_nil
          rw [← hlen, hpage, List.length_append]
          omega
        obtain ⟨cut, hcut⟩ := ih after.length hshorter after rfl
        rw [hpage] at hfound ⊢
        exact ⟨_, hcut.find hmore (by rw [hfound, ← hlabel, ← hdigits])⟩

/-- A reference that takes no digit of those behind it has four, or no digit follows it. -/
theorem Reference.not_isDigit_of_moreDigits {r : Reference} {after : List Char}
    (h : r.moreDigits after = []) (hsize : r.digits.length = 3) :
    ∀ c ∈ after.head?, c.isDigit = false := by
  intro c hc
  obtain ⟨rest, rfl⟩ : ∃ rest, after = c :: rest := by
    cases after with
    | nil => cases hc
    | cons d rest => exact ⟨rest, by rw [Option.some.inj hc]⟩
  simpa [Reference.moreDigits, hsize] using h

/-- A cut of a page at its references. -/
structure CutsAtReferences (page : List Char) (cut : Cut Reference) : Prop where
  page_eq : page = cut.join id Reference.text
  /-- A reference has four digits whenever a fourth one follows. -/
  greedy : ∀ before r after, cut.Stands Reference.text before r after → r.digits.length = 3 →
    ∀ c ∈ after.head?, c.isDigit = false
  /-- No gap holds a reference. -/
  free : ∀ gap ∈ cut.gaps, ∀ r : Reference, ¬ r.text <:+: gap
  /-- Wherever on the page a reference is written, one stands in the cut that begins with it. -/
  covers : ∀ before (r : Reference) after, page = before ++ (r.text ++ after) →
    ∃ r' after', cut.Stands Reference.text before r' after' ∧ r.text <+: r'.text

theorem Follows.covers {page : List Char} {cut : Cut Reference} (h : Follows page cut)
    {before after : List Char} {r : Reference} (hpage : page = before ++ (r.text ++ after)) :
    ∃ r' after', cut.Stands Reference.text before r' after' ∧ r.text <+: r'.text := by
  have hreference : ReferenceAt page before := ⟨_, hpage, by rw [r.rfcAt?_append]; rfl⟩
  obtain ⟨r', after', hstands⟩ := (h.places before).mp (linkedAt_iff.mpr hreference)
  have hsame : r.text ++ after = r'.text ++ after' := by
    have hwhole : before ++ (r.text ++ after) = before ++ (r'.text ++ after') := by
      rw [← hpage, ← hstands.join_eq, h.page_eq]
    exact List.append_cancel_left hwhole
  -- both are what is found at the place
  have hfound := r.rfcAt?_append after
  rw [hsame, r'.rfcAt?_append] at hfound
  have htext := (Prod.mk.inj (Option.some.inj hfound)).1
  have hwhole : (r'.extend after').text = r'.text := by
    simp [Reference.text, Reference.extend, h.whole before r' after' hstands]
  refine ⟨r', after', hstands, ?_⟩
  rw [← hwhole, htext]
  exact r.text_prefix_extend after

/-- **Each reference of a page is linked once, and nothing else changes.** Every page is cut at its
references: no gap between them holds one, they take four digits where there are four, and wherever
on the page one is written it is one of them. Linking keeps the gaps and makes a link of each
reference, to the RFC of the number that it shows and with the reference itself as the label. -/
theorem linkRfcs_links_each_reference_once (page : List Char) :
    ∃ cut : Cut Reference, CutsAtReferences page cut ∧
      linkRfcs page = cut.join id Reference.link := by
  obtain ⟨cut, hcut⟩ := exists_follows page
  refine ⟨cut, ⟨hcut.page_eq, ?_, ?_, fun before r after => hcut.covers⟩, hcut.linked⟩
  · intro before r after hstands hsize
    exact Reference.not_isDigit_of_moreDigits (hcut.whole before r after hstands) hsize
  · rintro gap hgap r ⟨inside, rest, rfl⟩
    -- a reference in a gap would be one of the cut, and none of these begins there
    obtain ⟨front, back, hjoin, hinside⟩ := Cut.exists_around_gap Reference.text_ne_nil hgap
    have hpage : page = front ++ inside ++ (r.text ++ (rest ++ back)) := by
      rw [hcut.page_eq, hjoin]
      simp
    obtain ⟨r', after, hstands, -⟩ := hcut.covers hpage
    refine hinside inside (r.text ++ rest) (by simp) ?_ r' after hstands
    simp [r.text_ne_nil]

-- too few digits, too many, and a word that only ends like a reference
example : linkRfcs "RFC 12, RFC\t12345, XRFC 791".toList =
    ("RFC 12, <a href=\"http://tools.ietf.org/html/rfc1234\">RFC\t1234</a>5, " ++
      "X<a href=\"http://tools.ietf.org/html/rfc791\">RFC 791</a>").toList := by decide +kernel

end DocPress.Comment
