import DocPress.ImportPath
import DocPress.Proofs.Html.References
import DocPress.Proofs.Text.Replace
import DocPress.Proofs.Url.Path

/-!
# Import paths as they are shown

A displayed path is put into a page as it is, and a reader of the page replaces the character
references in it: those of the break opportunities, and others if the path contains them.

* `withGap` — a text with something put behind each slash.
* `shownPath` — what a reader of the page sees of a path.
* `Displays` — a reader sees the URL path, with zero-width spaces behind its slashes if it is long.

A name of the reader's table contains no slash, so gaps do not change which names are read
(`at?_withGap`). Without names the reader sees the path and what its gaps stand for
(`ReadsGap.decode`); with one it sees too few characters (`ReadsGap.seenLength_le`).

Principal result: `displays_iff_no_name` — a path is displayed exactly if no ampersand of its URL path
begins a reference by name.
-/

namespace DocPress.ImportPath

open DocPress.Html

/-- The character of a break opportunity. -/
def zeroWidthSpace : Char := '\u200B'

/-- A text with a gap behind each slash. -/
def withGap (gap : List Char) : List Char → List Char
  | [] => []
  | c :: rest => if c = '/' then '/' :: (gap ++ withGap gap rest) else c :: withGap gap rest

/-- A text without its break opportunities. -/
def withoutBreaks (s : List Char) : List Char := s.filter fun c => c != zeroWidthSpace

/-- What a reader sees of a displayed path. -/
def shownPath (names : NamedReferences) (path : String) : List Char :=
  decodeReferences names (displayed path).toList

/-- A reader sees the URL path, and zero-width spaces in it exactly behind the slashes of a path of
more than 45 bytes. -/
structure Displays (names : NamedReferences) (path : String) : Prop where
  text : withoutBreaks (shownPath names path) = (Url.urlPath path).toList
  breaks : ∀ before after, shownPath names path = before ++ after →
    (after.head? = some zeroWidthSpace ↔
      before.getLast? = some '/' ∧ 45 < (Url.urlPath path).utf8ByteSize)

/-! ## Gaps -/

theorem withoutBreaks_append (s t : List Char) :
    withoutBreaks (s ++ t) = withoutBreaks s ++ withoutBreaks t := List.filter_append s t

theorem withoutBreaks_cons {c : Char} (h : c ≠ zeroWidthSpace) (s : List Char) :
    withoutBreaks (c :: s) = c :: withoutBreaks s := by
  simp [withoutBreaks, h]

theorem withoutBreaks_eq_nil {s : List Char} (h : ∀ c ∈ s, c = zeroWidthSpace) :
    withoutBreaks s = [] := by
  simpa [withoutBreaks, List.filter_eq_nil_iff] using h

theorem length_withoutBreaks_cons_le (c : Char) (s : List Char) :
    (withoutBreaks (c :: s)).length ≤ (withoutBreaks s).length + 1 := by
  unfold withoutBreaks
  rw [List.filter_cons]
  split <;> simp

section Gaps

variable {gap : List Char}

theorem withGap_slash (s : List Char) : withGap gap ('/' :: s) = '/' :: (gap ++ withGap gap s) :=
  if_pos rfl

theorem withGap_cons {c : Char} (h : c ≠ '/') (s : List Char) :
    withGap gap (c :: s) = c :: withGap gap s := if_neg h

theorem withGap_empty (s : List Char) : withGap [] s = s := by
  induction s with
  | nil => rfl
  | cons c s ih =>
    by_cases h : c = '/'
    · rw [h, withGap_slash, ih]
      rfl
    · rw [withGap_cons h, ih]

theorem withBreaks_eq_withGap (s : List Char) : withBreaks s = withGap "&#8203;".toList s := by
  induction s with
  | nil => rfl
  | cons c s ih =>
    rw [withBreaks] at ih ⊢
    by_cases h : c = '/'
    · rw [h, withGap_slash, ← ih]
      exact Text.replaceAll_match (by decide) s
    · have hno : ¬ "/".toList <+: c :: s := fun hpre => h (List.cons_prefix_cons.mp hpre).1.symm
      rw [Text.replaceAll_cons hno, withGap_cons h, ih]

theorem head?_withGap (s : List Char) : (withGap gap s).head? = s.head? := by
  cases s with
  | nil => rfl
  | cons c s =>
    by_cases h : c = '/'
    · rw [h, withGap_slash]
      rfl
    · rw [withGap_cons h]
      rfl

/-- A slashless beginning is found in front of the gaps exactly if it is found without them. -/
theorem isPrefixOf?_withGap {name : List Char} (h : '/' ∉ name) (s : List Char) :
    name.isPrefixOf? (withGap gap s) = (name.isPrefixOf? s).map (withGap gap) := by
  induction name generalizing s with
  | nil => rfl
  | cons n name ih =>
    obtain ⟨hn, hname⟩ : n ≠ '/' ∧ '/' ∉ name := by
      simpa [eq_comm, not_or] using h
    cases s with
    | nil => rfl
    | cons c s =>
      by_cases hc : c = '/'
      · have hne : (n == '/') = false := by simpa using hn
        rw [hc, withGap_slash]
        simp [List.isPrefixOf?, hne]
      · rw [withGap_cons hc, List.isPrefixOf?, List.isPrefixOf?, ih hname]
        split <;> rfl

/-- **Gaps behind slashes do not change which name a text begins with.** -/
theorem at?_withGap (names : NamedReferences) (s : List Char) :
    names.at? (withGap gap s) = (names.at? s).map fun read => (read.1, withGap gap read.2) := by
  suffices h : ∀ entries : List (List Char × List Char), (∀ e ∈ entries, '/' ∉ e.1) →
      (entries.findSome? fun e => (e.1.isPrefixOf? (withGap gap s)).map fun rest => (e.2, rest)) =
        (entries.findSome? fun e => (e.1.isPrefixOf? s).map fun rest => (e.2, rest)).map
          fun read => (read.1, withGap gap read.2) from
    h names.entries fun _ => NamedReferences.slash_not_mem
  intro entries hslash
  induction entries with
  | nil => rfl
  | cons e entries ih =>
    obtain ⟨he, hentries⟩ := List.forall_mem_cons.mp hslash
    rw [List.findSome?_cons, List.findSome?_cons, isPrefixOf?_withGap he, ih hentries]
    cases e.1.isPrefixOf? s <;> rfl

theorem getLast?_cons_eq_slash {c : Char} (h : c ≠ '/') (s : List Char) :
    (c :: s).getLast? = some '/' ↔ s.getLast? = some '/' := by
  cases s with
  | nil => simp [h]
  | cons d s => rw [List.getLast?_cons_cons]

/-- **A text without zero-width spaces, with one behind each slash**: they stand there and nowhere
else. -/
theorem head?_eq_zeroWidthSpace_iff {s before after : List Char} (hs : zeroWidthSpace ∉ s)
    (h : withGap [zeroWidthSpace] s = before ++ after) :
    after.head? = some zeroWidthSpace ↔ before.getLast? = some '/' := by
  induction s generalizing before with
  | nil =>
    obtain ⟨rfl, rfl⟩ := List.append_eq_nil_iff.mp h.symm
    simp
  | cons c s ih =>
    have hrest : zeroWidthSpace ∉ s := fun hmem => hs (List.mem_cons_of_mem c hmem)
    cases before with
    | nil =>
      -- the text itself begins with no zero-width space
      have hhead : after.head? ≠ some zeroWidthSpace := by
        rw [← List.nil_append after, ← h, head?_withGap]
        exact fun hsome => hs (List.mem_of_mem_head? hsome)
      simp [hhead]
    | cons b before =>
      by_cases hc : c = '/'
      · rw [hc, withGap_slash, List.singleton_append, List.cons_append, List.cons.injEq] at h
        obtain ⟨rfl, h⟩ := h
        cases before with
        | nil =>
          rw [List.nil_append] at h
          simp [← h]
        | cons z before =>
          rw [List.cons_append, List.cons.injEq] at h
          obtain ⟨rfl, h⟩ := h
          rw [List.getLast?_cons_cons, getLast?_cons_eq_slash (by decide)]
          exact ih hrest h
      · rw [withGap_cons hc, List.cons_append, List.cons.injEq] at h
        obtain ⟨rfl, h⟩ := h
        rw [getLast?_cons_eq_slash hc]
        exact ih hrest h

/-- Taking out what stands for the gaps gives the text back. -/
theorem withoutBreaks_withGap {s : List Char} (hgap : ∀ c ∈ gap, c = zeroWidthSpace)
    (hs : zeroWidthSpace ∉ s) : withoutBreaks (withGap gap s) = s := by
  induction s with
  | nil => rfl
  | cons c s ih =>
    have hrest : zeroWidthSpace ∉ s := fun hmem => hs (List.mem_cons_of_mem c hmem)
    have hc : c ≠ zeroWidthSpace := fun hc => hs (by simp [hc])
    by_cases hslash : c = '/'
    · rw [hslash, withGap_slash, withoutBreaks_cons (by decide), withoutBreaks_append,
        withoutBreaks_eq_nil hgap, List.nil_append, ih hrest]
    · rw [withGap_cons hslash, withoutBreaks_cons hc, ih hrest]

end Gaps

/-! ## Reading a text with gaps -/

section Reading

variable {names : NamedReferences} {gap shown s : List Char}

/-- A gap is read as zero-width spaces, whatever follows it. -/
structure ReadsGap (names : NamedReferences) (gap shown : List Char) : Prop where
  read : ∀ t, decodeReferences names (gap ++ t) = shown ++ decodeReferences names t
  blank : ∀ c ∈ shown, c = zeroWidthSpace

theorem readsGap_empty : ReadsGap names [] [] := ⟨fun _ => rfl, by simp⟩

theorem readsGap_break : ReadsGap names "&#8203;".toList [zeroWidthSpace] :=
  ⟨decodeReferences_zeroWidthSpace, by simp⟩

theorem ReadsGap.slash (h : ReadsGap names gap shown) (s : List Char) :
    decodeReferences names (withGap gap ('/' :: s)) =
      '/' :: (shown ++ decodeReferences names (withGap gap s)) := by
  rw [withGap_slash, decodeReferences_kept (fun hc => absurd hc (by decide)), h.read]

theorem decodeReferences_withGap_name {chars after : List Char} (hnumber : s.head? ≠ some '#')
    (h : names.at? s = some (chars, after)) :
    decodeReferences names (withGap gap ('&' :: s)) =
      chars ++ decodeReferences names (withGap gap after) := by
  rw [withGap_cons (by decide)]
  refine decodeReferences_name (by rwa [head?_withGap]) ?_
  rw [at?_withGap, h]
  rfl

theorem decodeReferences_withGap_kept {c : Char} (hc : c ≠ '/') (hnumber : s.head? ≠ some '#')
    (h : c = '&' → names.at? s = none) :
    decodeReferences names (withGap gap (c :: s)) =
      c :: decodeReferences names (withGap gap s) := by
  rw [withGap_cons hc]
  refine decodeReferences_kept fun hamp => ⟨by rwa [head?_withGap], ?_⟩
  rw [at?_withGap, h hamp]
  rfl

/-- **A text without names** is seen with what its gaps stand for. -/
theorem ReadsGap.decode (h : ReadsGap names gap shown) (hnumber : '#' ∉ s)
    (hname : ¬ HoldsName names s) : decodeReferences names (withGap gap s) = withGap shown s := by
  induction s with
  | nil => rfl
  | cons c s ih =>
    rw [holdsName_cons, not_or] at hname
    have hrest : '#' ∉ s := fun hmem => hnumber (List.mem_cons_of_mem c hmem)
    by_cases hc : c = '/'
    · rw [hc, h.slash, ih hrest hname.2, withGap_slash]
    · have hnone : c = '&' → names.at? s = none := by simpa using hname.1
      rw [decodeReferences_withGap_kept hc (fun hhead => hrest (List.mem_of_mem_head? hhead)) hnone,
        ih hrest hname.2, withGap_cons hc]

/-- The number of characters that are seen of a text with gaps, break opportunities apart. -/
def seenLength (names : NamedReferences) (gap s : List Char) : Nat :=
  (withoutBreaks (decodeReferences names (withGap gap s))).length

/-- **One step of the reader**: a name, of which no more characters are seen than it has, or one
character. -/
theorem ReadsGap.seenLength_cons (h : ReadsGap names gap shown) (c : Char) (hnumber : '#' ∉ s) :
    (∃ name after, s = name ++ after ∧
      seenLength names gap (c :: s) ≤ name.length + seenLength names gap after) ∨
    ((HoldsName names (c :: s) → HoldsName names s) ∧
      seenLength names gap (c :: s) ≤ seenLength names gap s + 1) := by
  have hhead : s.head? ≠ some '#' := fun hsome => hnumber (List.mem_of_mem_head? hsome)
  have hblank : withoutBreaks shown = [] := withoutBreaks_eq_nil h.blank
  unfold seenLength
  by_cases hname : c = '&' ∧ names.at? s ≠ none
  · obtain ⟨rfl, hname⟩ := hname
    obtain ⟨⟨chars, after⟩, hread⟩ := Option.ne_none_iff_exists'.mp hname
    obtain ⟨name, rfl, hshort⟩ := NamedReferences.at?_eq_some hread
    refine Or.inl ⟨name, after, rfl, ?_⟩
    have hchars : (withoutBreaks chars).length ≤ chars.length := List.length_filter_le _ _
    rw [decodeReferences_withGap_name hhead hread, withoutBreaks_append, List.length_append]
    omega
  · refine Or.inr ⟨fun holds => ((holdsName_cons c s).mp holds).resolve_left hname, ?_⟩
    by_cases hc : c = '/'
    · have hslash := length_withoutBreaks_cons_le '/'
        (shown ++ decodeReferences names (withGap gap s))
      rw [withoutBreaks_append, hblank, List.nil_append] at hslash
      rw [hc, h.slash]
      exact hslash
    · have hnone : c = '&' → names.at? s = none := by simpa using hname
      rw [decodeReferences_withGap_kept hc hhead hnone]
      exact length_withoutBreaks_cons_le c _

/-- **At most the characters of a text are seen**, and fewer if it holds a name. -/
theorem ReadsGap.seenLength_le (h : ReadsGap names gap shown) (hnumber : '#' ∉ s) :
    seenLength names gap s ≤ s.length ∧
      (HoldsName names s → seenLength names gap s < s.length) := by
  -- by induction on the length, since behind a name the reader goes on after its last character
  induction hn : s.length using Nat.strongRecOn generalizing s with
  | ind n ih =>
    subst hn
    cases s with
    | nil => exact ⟨Nat.le_refl 0, fun holds => absurd holds not_holdsName_nil⟩
    | cons c s =>
      have hrest : '#' ∉ s := fun hmem => hnumber (List.mem_cons_of_mem c hmem)
      rcases h.seenLength_cons c hrest with ⟨name, after, rfl, hseen⟩ | ⟨hholds, hseen⟩
      · have hafter : '#' ∉ after := fun hmem => hrest (List.mem_append_right name hmem)
        simp only [List.length_cons, List.length_append] at ih ⊢
        obtain ⟨hle, _⟩ := ih after.length (by omega) hafter rfl
        exact ⟨by omega, fun _ => by omega⟩
      · obtain ⟨hle, hlt⟩ := ih s.length (by simp) hrest rfl
        rw [List.length_cons]
        refine ⟨by omega, fun holds => ?_⟩
        have := hlt (hholds holds)
        omega

end Reading

/-! ## Displayed paths -/

theorem number_not_mem_pathOf (s : List Char) : '#' ∉ Url.pathOf s :=
  Url.not_mem_pathOf (by decide) (by decide) s

theorem zeroWidthSpace_not_mem_pathOf (s : List Char) : zeroWidthSpace ∉ Url.pathOf s :=
  fun h => absurd (Url.toNat_lt_of_mem_pathOf h) (by decide)

theorem utf8ByteSize_urlPath (path : String) :
    (Url.urlPath path).utf8ByteSize = (Url.pathOf path.toList).length := by
  rw [Url.urlPath, ← Text.Utf8.byteLength_eq_utf8ByteSize]
  exact Text.Utf8.byteLength_ascii fun _ => Url.toNat_lt_of_mem_pathOf

/-- **A displayed path** is the URL path, with a gap that is read as a zero-width space if it is long
and with none otherwise. -/
theorem displayed_eq_withGap (names : NamedReferences) (path : String) :
    ∃ gap, (displayed path).toList = withGap gap (Url.pathOf path.toList) ∧
      ReadsGap names gap
        (if 45 < (Url.urlPath path).utf8ByteSize then [zeroWidthSpace] else []) := by
  rw [displayed, String.toList_ofList, displayedText, utf8ByteSize_urlPath, breakableLength]
  by_cases hlong : 45 < (Url.pathOf path.toList).length
  · refine ⟨"&#8203;".toList, ?_, ?_⟩
    · simp only [gt_iff_lt, hlong, if_true, withBreaks_eq_withGap]
    · rw [if_pos hlong]
      exact readsGap_break
  · refine ⟨[], ?_, ?_⟩
    · simp only [gt_iff_lt, hlong, if_false, withGap_empty]
    · rw [if_neg hlong]
      exact readsGap_empty

theorem not_holdsName_of_displays {names : NamedReferences} {path : String}
    (h : Displays names path) : ¬ HoldsName names (Url.urlPath path).toList := by
  obtain ⟨gap, hdisplayed, hgap⟩ := displayed_eq_withGap names path
  have htext := h.text
  rw [Url.urlPath, String.toList_ofList] at htext ⊢
  intro holds
  -- fewer characters are seen than the path has
  have hlt := (hgap.seenLength_le (number_not_mem_pathOf _)).2 holds
  rw [seenLength, ← hdisplayed, ← shownPath, htext] at hlt
  exact Nat.lt_irrefl _ hlt

theorem displays_of_not_holdsName {names : NamedReferences} {path : String}
    (h : ¬ HoldsName names (Url.urlPath path).toList) : Displays names path := by
  obtain ⟨gap, hdisplayed, hgap⟩ := displayed_eq_withGap names path
  rw [Url.urlPath, String.toList_ofList] at h
  have hzero := zeroWidthSpace_not_mem_pathOf path.toList
  have hshown := hgap.decode (number_not_mem_pathOf _) h
  rw [← hdisplayed] at hshown
  constructor
  · rw [shownPath, hshown, Url.urlPath, String.toList_ofList]
    exact withoutBreaks_withGap hgap.blank hzero
  · intro before after hsplit
    rw [shownPath, hshown] at hsplit
    by_cases hlong : 45 < (Url.urlPath path).utf8ByteSize
    · rw [if_pos hlong] at hsplit
      rw [head?_eq_zeroWidthSpace_iff hzero hsplit]
      simp [hlong]
    · rw [if_neg hlong, withGap_empty] at hsplit
      have hnone : after.head? ≠ some zeroWidthSpace := by
        intro hsome
        refine hzero ?_
        rw [hsplit]
        exact List.mem_append_right before (List.mem_of_mem_head? hsome)
      simp [hlong, hnone]

/-- **A path is displayed exactly if no ampersand of its URL path begins a reference by name**, so in
particular if it has no ampersand: then a reader sees the URL path, with a zero-width space behind
each slash if it is long and none otherwise. -/
theorem displays_iff_no_name (names : NamedReferences) (path : String) :
    (Displays names path ↔ ¬ HoldsName names (Url.urlPath path).toList) ∧
      ('&' ∉ path.toList → Displays names path) := by
  refine ⟨⟨not_holdsName_of_displays, displays_of_not_holdsName⟩, fun hamp => ?_⟩
  refine displays_of_not_holdsName ?_
  rintro ⟨before, after, hurl, _⟩
  refine hamp ((Url.mem_pathOf_iff (by decide) (by decide)).mp ?_)
  rw [← String.toList_ofList (l := Url.pathOf path.toList), ← Url.urlPath, hurl]
  simp

/-- Of the path `a&lt;b` a reader sees `a<b`. -/
theorem lt_reference_not_displayed :
    shownPath markupNames "a&lt;b" = "a<b".toList ∧ ¬ Displays markupNames "a&lt;b" := by
  have hshown : shownPath markupNames "a&lt;b" = "a<b".toList := by decide +kernel
  refine ⟨hshown, fun h => ?_⟩
  have htext := h.text
  rw [hshown] at htext
  exact absurd htext (by decide +kernel)

end DocPress.ImportPath
