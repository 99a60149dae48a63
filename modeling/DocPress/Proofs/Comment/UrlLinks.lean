import DocPress.Comment.Plain
import DocPress.Proofs.Comment.LinkPlaces
import DocPress.Proofs.Comment.Spans
import DocPress.Proofs.Declaration.Offsets
import DocPress.Proofs.Text.Cut

/-!
# The URLs of a line are linked

A line of a paragraph is cut at its URLs. The search for the next URL goes on behind the punctuation
at the end of the last one, and the text between the two begins in front of it.

* `Url` — a URL and the punctuation at its end.
* `UrlAt` — a URL as it stands in a text: at a word boundary, and as long as it can be.
* `FindsUrls` — a cut that the search follows from a place on; `CutsAtUrls` — a cut of a line at its
  URLs: those that stand in it are found, unless they begin inside of one that is.
* `lineHtmlByOffsets?` — the line rendered by a scan over byte offsets, which can fail.

Principal results: `urlAt?_eq_some_iff` — what is found at a place; `FindsUrls.prepend`,
`FindsUrls.find` — one step of the search, and `exists_findsUrls` — the whole of it;
`UrlScan.step?_eq`, `scan_spansFrom` — the scan does not fail; `lineHtml_links_the_urls` — what
becomes of every line.
-/

namespace DocPress.Comment

open DocPress.Text DocPress.Text.Utf8 DocPress.Declaration

/-! ## URLs -/

/-- The form of a URL: a scheme with its mark, and at least one more character. -/
def HasUrlForm (s : List Char) : Prop :=
  ∃ start ∈ urlStarts, ∃ body, body ≠ [] ∧ (∀ c ∈ body, isUrlChar c = true) ∧ s = start ++ body

/-- A URL, and the punctuation at its end that belongs to the sentence around it. -/
structure Url where
  linked : List Char
  trailer : List Char
  form : HasUrlForm (linked ++ trailer)
  isTrailer : ∀ c ∈ trailer, isUrlTrailer c = true
  trimmed : ∀ c ∈ linked.getLast?, isUrlTrailer c = false

theorem mark_suffix_urlStart : ∀ start ∈ urlStarts, "://".toList <:+ start := by
  simp only [urlStarts, List.mem_cons, List.not_mem_nil, or_false]
  rintro _ (rfl | rfl | rfl | rfl)
  · exact ⟨"http".toList, rfl⟩
  · exact ⟨"https".toList, rfl⟩
  · exact ⟨"ftp".toList, rfl⟩
  · exact ⟨"file".toList, rfl⟩

theorem dropEndWhile_append_takeWhile (p : Char → Bool) (s : List Char) :
    dropEndWhile p s ++ (s.reverse.takeWhile p).reverse = s := by
  rw [dropEndWhile, ← List.reverse_append, List.takeWhile_append_dropWhile, List.reverse_reverse]

namespace Url

/-- A URL with the punctuation at its end. -/
def whole (u : Url) : List Char := u.linked ++ u.trailer

/-- A URL as a link to itself. -/
def link (u : Url) : List Char :=
  "<a href=\"".toList ++ Html.escapeText u.linked ++ "\">".toList ++ Html.escapeText u.linked ++
    "</a>".toList

/-- The URL in a text of the form of one: all but the punctuation at the end. -/
def ofWhole (s : List Char) (form : HasUrlForm s) : Url where
  linked := dropEndWhile isUrlTrailer s
  trailer := (s.reverse.takeWhile isUrlTrailer).reverse
  form := by rwa [dropEndWhile_append_takeWhile]
  isTrailer := by
    intro c hc
    exact List.all_eq_true.mp (List.all_takeWhile ..) c (List.mem_reverse.mp hc)
  trimmed := by
    intro c hc
    have hnot := List.head?_dropWhile_not isUrlTrailer s.reverse
    rw [← List.getLast?_reverse, ← dropEndWhile, Option.mem_def.mp hc] at hnot
    exact hnot

theorem whole_ofWhole (s : List Char) (form : HasUrlForm s) : (ofWhole s form).whole = s :=
  dropEndWhile_append_takeWhile isUrlTrailer s

theorem whole_ne_nil (u : Url) : u.whole ≠ [] := by
  obtain ⟨start, -, body, hbody, -, hform⟩ := u.form
  rw [whole, hform]
  exact List.append_ne_nil_of_right_ne_nil _ hbody

theorem isUrlChar_of_mem (u : Url) : ∀ c ∈ u.whole, isUrlChar c = true := by
  obtain ⟨start, hstart, body, -, hbody, hform⟩ := u.form
  rw [whole, hform]
  exact List.forall_mem_append.mpr ⟨(urlStarts_spec start hstart).1, hbody⟩

/-- The URL is what is left without the punctuation. -/
theorem dropEndWhile_whole (u : Url) : dropEndWhile isUrlTrailer u.whole = u.linked := by
  have htrailer : u.trailer.reverse.dropWhile isUrlTrailer = [] :=
    List.dropWhile_eq_nil_iff.mpr fun c hc => u.isTrailer c (List.mem_reverse.mp hc)
  have hlinked : u.linked.reverse.dropWhile isUrlTrailer = u.linked.reverse := by
    cases h : u.linked.reverse with
    | nil => rfl
    | cons c rest =>
      have hlast : c ∈ u.linked.getLast? := by rw [← List.head?_reverse, h]; rfl
      rw [List.dropWhile_cons_of_neg (by simp [u.trimmed c hlast])]
  rw [dropEndWhile, whole, List.reverse_append, List.dropWhile_append, htrailer]
  simp [hlinked]

theorem drop_linked (u : Url) : u.whole.drop u.linked.length = u.trailer := List.drop_left

/-- **A URL keeps its scheme and the mark behind it.** -/
theorem mark_infix_linked (u : Url) : "://".toList <:+: u.linked := by
  obtain ⟨start, hstart, body, -, -, hform⟩ := u.form
  obtain ⟨-, front, hfront⟩ := urlStarts_spec start hstart
  have hprefix : start <+: u.linked := by
    rw [← u.dropEndWhile_whole, whole, hform, hfront, dropEndWhile_append (by decide)]
    exact List.prefix_append _ _
  exact (mark_suffix_urlStart start hstart).isInfix.trans hprefix.isInfix

theorem mark_infix_escapeText (u : Url) : "://".toList <:+: Html.escapeText u.linked := by
  obtain ⟨front, back, h⟩ := u.mark_infix_linked
  refine ⟨Html.escapeText front, Html.escapeText back, ?_⟩
  rw [← h]
  simp [Html.escapeText, Html.escapeChar]

end Url

/-- No character that may stand in a URL begins a text. -/
def EndsUrl (after : List Char) : Prop := ∀ c ∈ after.head?, isUrlChar c = false

theorem takeWhile_append_of_endsUrl {s after : List Char} (hs : ∀ c ∈ s, isUrlChar c = true)
    (h : EndsUrl after) : (s ++ after).takeWhile isUrlChar = s := by
  rw [takeWhile_append_of_head h, List.takeWhile_eq_self_iff.mpr hs]

theorem endsUrl_dropWhile (s : List Char) : EndsUrl (s.dropWhile isUrlChar) := by
  intro c hc
  have hnot := List.head?_dropWhile_not isUrlChar s
  rw [Option.mem_def.mp hc] at hnot
  exact hnot

theorem exists_url_of_urlAt? {s whole : List Char} (h : urlAt? s = some whole) :
    ∃ (u : Url) (after : List Char), u.whole = whole ∧ s = u.whole ++ after ∧ EndsUrl after := by
  obtain ⟨start, hstart, hfound⟩ := List.exists_of_findSome?_eq_some h
  obtain ⟨rest, hrest, hbody⟩ := Option.bind_eq_some_iff.mp hfound
  obtain rfl := List.isPrefixOf?_eq_some_iff_append_eq.mp hrest
  split at hbody
  · cases hbody
  · rename_i hne
    obtain rfl := Option.some.inj hbody
    have hform : HasUrlForm (start ++ rest.takeWhile isUrlChar) :=
      ⟨start, hstart, _, hne, fun c hc => List.all_eq_true.mp (List.all_takeWhile ..) c hc, rfl⟩
    refine ⟨.ofWhole _ hform, rest.dropWhile isUrlChar, Url.whole_ofWhole _ _, ?_,
      endsUrl_dropWhile rest⟩
    rw [Url.whole_ofWhole, List.append_assoc, List.takeWhile_append_dropWhile]

theorem Url.isSome_urlAt? (u : Url) {after : List Char} (h : EndsUrl after) :
    (urlAt? (u.whole ++ after)).isSome = true := by
  obtain ⟨start, hstart, body, hne, hbody, hform⟩ := u.form
  have htake : (body ++ after).takeWhile isUrlChar = body := takeWhile_append_of_endsUrl hbody h
  have hprefix : start.isPrefixOf? (start ++ (body ++ after)) = some (body ++ after) :=
    List.isPrefixOf?_eq_some_iff_append_eq.mpr rfl
  refine List.findSome?_isSome_iff.mpr ⟨start, hstart, ?_⟩
  rw [Url.whole, hform, List.append_assoc, hprefix, Option.bind_some, htake]
  cases body with
  | nil => exact absurd rfl hne
  | cons c body => rfl

/-- **What is found at a place** is a URL as long as it can be. -/
theorem urlAt?_eq_some_iff {s whole : List Char} :
    urlAt? s = some whole ↔ ∃ (u : Url) (after : List Char), u.whole = whole ∧
      s = u.whole ++ after ∧ EndsUrl after := by
  refine ⟨exists_url_of_urlAt?, ?_⟩
  rintro ⟨u, after, rfl, rfl, hends⟩
  obtain ⟨found, hfound⟩ := Option.isSome_iff_exists.mp (u.isSome_urlAt? hends)
  obtain ⟨v, after', rfl, htext, hends'⟩ := exists_url_of_urlAt? hfound
  -- the text has one longest beginning of characters of URLs
  have hsame : v.whole = u.whole := by
    rw [← takeWhile_append_of_endsUrl v.isUrlChar_of_mem hends', ← htext,
      takeWhile_append_of_endsUrl u.isUrlChar_of_mem hends]
  rw [hfound, hsame]

/-! ## Cuts at URLs -/

/-- A URL stands in a text behind `before`, at a word boundary and as long as it can be; `read` is
what came before the text. -/
def UrlAt (read text before : List Char) (u : Url) : Prop :=
  ∃ after, text = before ++ (u.whole ++ after) ∧
    isWordBoundary (read ++ before).getLast? u.whole.head? = true ∧ EndsUrl after

/-- The stretches of a line that is cut at its URLs. -/
def spansOf : Cut Url → List Span
  | .last gap => [.plain gap]
  | .find gap u rest => .plain gap :: .url u.linked :: spansOf rest

/-- A cut that the search for URLs follows, from a place behind `read` on. -/
structure FindsUrls (read text : List Char) (cut : Cut Url) : Prop where
  text_eq : text = cut.join id Url.linked
  spans_eq : ∀ plain, spansFrom read.getLast? plain text = spansOf (cut.prepend plain.reverse)
  found : ∀ before u after, cut.Stands Url.linked before u after → UrlAt read text before u
  covers : ∀ before v, UrlAt read text before v →
    ∃ front u after skipped, cut.Stands Url.linked front u after ∧ before = front ++ skipped ∧
      u.whole = skipped ++ v.whole

/-- **A URL is found at a place** when it stands there. -/
theorem found_eq_some_iff {read text whole : List Char} {c : Char} :
    (if isWordBoundary read.getLast? (some c) then urlAt? (c :: text) else none) = some whole ↔
      ∃ u : Url, u.whole = whole ∧ UrlAt read (c :: text) [] u := by
  have hhead : ∀ (u : Url) after, c :: text = u.whole ++ after → u.whole.head? = some c := by
    intro u after htext
    rw [← List.head?_append_of_ne_nil _ u.whole_ne_nil, ← htext, List.head?_cons]
  rw [Option.ite_none_right_eq_some, urlAt?_eq_some_iff]
  constructor
  · rintro ⟨hboundary, u, after, hwhole, htext, hends⟩
    exact ⟨u, hwhole, after, htext, by rwa [hhead u after htext, List.append_nil], hends⟩
  · rintro ⟨u, hwhole, after, htext, hboundary, hends⟩
    rw [hhead u after htext, List.append_nil] at hboundary
    exact ⟨hboundary, u, after, hwhole, htext, hends⟩

theorem spansFrom_of_not_urlAt {read text : List Char} {c : Char}
    (hnone : ∀ u, ¬ UrlAt read (c :: text) [] u) (plain : List Char) :
    spansFrom read.getLast? plain (c :: text) = spansFrom (some c) (c :: plain) text := by
  have hfound :
      (if isWordBoundary read.getLast? (some c) then urlAt? (c :: text) else none) = none :=
    Option.eq_none_iff_forall_ne_some.mpr fun whole hwhole =>
      let ⟨u, _, hat⟩ := found_eq_some_iff.mp hwhole
      hnone u hat
  rw [spansFrom, hfound]

theorem spansFrom_of_urlAt {read text : List Char} {u : Url}
    (hat : UrlAt read (u.whole ++ text) [] u) (plain : List Char) :
    spansFrom read.getLast? plain (u.whole ++ text) =
      .plain plain.reverse :: .url u.linked ::
        spansFrom u.whole.getLast? u.trailer.reverse text := by
  obtain ⟨c, rest, hcons⟩ : ∃ c rest, u.whole ++ text = c :: rest :=
    List.exists_cons_of_ne_nil (by simp [u.whole_ne_nil])
  have hdrop := drop_length_sub_one u.whole_ne_nil hcons
  rw [hcons] at hat
  rw [hcons, spansFrom, found_eq_some_iff.mpr ⟨u, rfl, hat⟩]
  simp only [u.dropEndWhile_whole, u.drop_linked, hdrop]

theorem FindsUrls.nil (read : List Char) : FindsUrls read [] (.last []) where
  text_eq := rfl
  spans_eq := by
    intro plain
    simp [spansFrom, spansOf, Cut.prepend]
  found := by simp [Cut.Stands]
  covers := by
    rintro before v ⟨after, hnil, -⟩
    simp [v.whole_ne_nil] at hnil

/-- A character at which no URL begins. -/
theorem FindsUrls.prepend {read text : List Char} {c : Char} {cut : Cut Url}
    (h : FindsUrls (read ++ [c]) text cut) (hnone : ∀ u, ¬ UrlAt read (c :: text) [] u) :
    FindsUrls read (c :: text) (cut.prepend [c]) where
  text_eq := by rw [Cut.join_prepend, ← h.text_eq, List.singleton_append]
  spans_eq := by
    intro plain
    rw [spansFrom_of_not_urlAt hnone, Cut.prepend_prepend, ← List.reverse_cons, ← h.spans_eq,
      List.getLast?_concat]
  found := by
    intro before u after hstands
    obtain ⟨more, rfl, hmore⟩ := Cut.stands_prepend.mp hstands
    obtain ⟨after, rfl, hboundary, hends⟩ := h.found more u after hmore
    exact ⟨after, rfl, by rwa [← List.append_assoc], hends⟩
  covers := by
    rintro before v ⟨after, htext, hboundary, hends⟩
    cases before with
    | nil => exact absurd ⟨after, htext, hboundary, hends⟩ (hnone v)
    | cons d before =>
      obtain ⟨rfl, rfl⟩ := List.cons.inj htext
      obtain ⟨front, u, after', skipped, hstands, rfl, hwhole⟩ :=
        h.covers before v ⟨after, rfl, by simpa using hboundary, hends⟩
      refine ⟨c :: front, u, after', skipped, ?_, rfl, hwhole⟩
      exact Cut.stands_prepend.mpr ⟨front, rfl, hstands⟩

/-- A URL that is found: the search goes on behind its punctuation, the text in front of it. -/
theorem FindsUrls.find {read text : List Char} {u : Url} {cut : Cut Url}
    (h : FindsUrls (read ++ u.whole) text cut) (hat : UrlAt read (u.whole ++ text) [] u) :
    FindsUrls read (u.whole ++ text) (.find [] u (cut.prepend u.trailer)) where
  text_eq := by
    rw [Cut.join, Cut.join_prepend, ← h.text_eq, Url.whole, List.append_assoc]
    rfl
  spans_eq := by
    intro plain
    have hlast : (read ++ u.whole).getLast? = u.whole.getLast? :=
      List.getLast?_append_of_ne_nil _ u.whole_ne_nil
    have hrest := h.spans_eq u.trailer.reverse
    rw [hlast, List.reverse_reverse] at hrest
    rw [spansFrom_of_urlAt hat, hrest, Cut.prepend, spansOf, List.append_nil]
  found := by
    rintro before v after (⟨rfl, rfl, -⟩ | ⟨more, rfl, hstands⟩)
    · exact hat
    · obtain ⟨more, rfl, hmore⟩ := Cut.stands_prepend.mp hstands
      obtain ⟨after, rfl, hboundary, hends⟩ := h.found more v after hmore
      exact ⟨after, by simp [Url.whole], by simpa [Url.whole] using hboundary, hends⟩
  covers := by
    rintro before v ⟨after, htext, hboundary, hends⟩
    obtain ⟨more, rfl, hmore⟩ | ⟨tail, hwhole, htail⟩ := List.append_eq_append_iff.mp htext
    · obtain ⟨front, w, after', skipped, hstands, rfl, hw⟩ :=
        h.covers more v ⟨after, hmore, by rwa [List.append_assoc], hends⟩
      refine ⟨u.whole ++ front, w, after', skipped, Or.inr ⟨u.trailer ++ front, by simp [Url.whole],
        Cut.stands_prepend.mpr ⟨front, rfl, hstands⟩⟩, by simp, hw⟩
    · -- it begins inside of the URL that is found, and both are as long as they can be
      have hsame : v.whole = tail := by
        obtain ⟨_, hafter, -, hends'⟩ := hat
        obtain rfl := List.append_cancel_left hafter
        have htail' : ∀ c ∈ tail, isUrlChar c = true := fun c hc =>
          u.isUrlChar_of_mem c (by simp [hwhole, hc])
        rw [← takeWhile_append_of_endsUrl v.isUrlChar_of_mem hends, htail,
          takeWhile_append_of_endsUrl htail' hends']
      exact ⟨[], u, _, before, Or.inl ⟨rfl, rfl, rfl⟩, rfl, by rw [hsame, ← hwhole]⟩

/-- **Every line has a cut that the search follows**, from each place on. -/
theorem exists_findsUrls (read text : List Char) : ∃ cut, FindsUrls read text cut := by
  -- a URL is several characters long, so the induction is on the length of the text
  induction hlen : text.length using Nat.strongRecOn generalizing read text with
  | ind n ih =>
    cases text with
    | nil => exact ⟨_, .nil read⟩
    | cons c rest =>
      by_cases hfound : ∃ u, UrlAt read (c :: rest) [] u
      · obtain ⟨u, hat⟩ := hfound
        obtain ⟨after, htext, -⟩ := id hat
        rw [List.nil_append] at htext
        have hshorter : after.length < n := by
          have hpos := List.length_pos_iff.mpr u.whole_ne_nil
          rw [← hlen, htext, List.length_append]
          omega
        obtain ⟨cut, hcut⟩ := ih after.length hshorter (read ++ u.whole) after rfl
        rw [htext] at hat ⊢
        exact ⟨_, hcut.find hat⟩
      · obtain ⟨cut, hcut⟩ := ih rest.length (by simp [← hlen]) (read ++ [c]) rest rfl
        exact ⟨_, hcut.prepend (not_exists.mp hfound)⟩

/-! ## The scan over byte offsets -/

/-- The byte ranges of the URLs found from a place on, the punctuation at their ends included. -/
def urlRanges (before : Option Char) (offset : Nat) (s : List Char) : List (Nat × Nat) :=
  match s with
  | [] => []
  | c :: rest =>
    let found := if isWordBoundary before (some c) then urlAt? (c :: rest) else none
    match found with
    | none => urlRanges (some c) (offset + c.utf8Size) rest
    | some whole =>
      (offset, offset + byteLength whole) ::
        urlRanges whole.getLast? (offset + byteLength whole) (rest.drop (whole.length - 1))
termination_by s.length
decreasing_by
  · simp
  · simp only [List.length_drop, List.length_cons]; omega

/-- How far a line is written. -/
structure UrlScan where
  /-- The byte offset up to which the line is written. -/
  last : Nat := 0
  /-- The stretches written so far. -/
  done : List Span := []

/-- One more URL; none if one of the slices is not within the line. -/
def UrlScan.step? (line : List Char) (s : UrlScan) (range : Nat × Nat) : Option UrlScan := do
  let gap ← slice? line s.last range.1
  let whole ← slice? line range.1 range.2
  let url := dropEndWhile isUrlTrailer whole
  some ⟨range.1 + byteLength url, s.done ++ [.plain gap, .url url]⟩

/-- The text behind the last URL. -/
def UrlScan.finish? (line : List Char) (s : UrlScan) : Option (List Span) := do
  let rest ← slice? line s.last (byteLength line)
  some (s.done ++ [.plain rest])

/-- A line of a paragraph in HTML, rendered by offsets. -/
def lineHtmlByOffsets? (line : List Char) : Option (List Char) := do
  let s ← (urlRanges none 0 line).foldlM (UrlScan.step? line) {}
  let stretches ← s.finish? line
  some (stretches.flatMap Plain.spanHtml)

/-- **One step of the scan succeeds.** -/
theorem UrlScan.step?_eq {line front gap whole after : List Char}
    (h : line = front ++ (gap ++ (whole ++ after))) (done : List Span) :
    UrlScan.step? line ⟨byteLength front, done⟩
        (byteLength (front ++ gap), byteLength (front ++ gap) + byteLength whole) =
      some ⟨byteLength (front ++ gap) + byteLength (dropEndWhile isUrlTrailer whole),
        done ++ [.plain gap, .url (dropEndWhile isUrlTrailer whole)]⟩ := by
  have hgap : slice? line (byteLength front) (byteLength (front ++ gap)) = some gap :=
    slice?_eq_some_iff.mpr ⟨front, whole ++ after, h, rfl, (byteLength_append ..).symm⟩
  have hwhole : slice? line (byteLength (front ++ gap))
      (byteLength (front ++ gap) + byteLength whole) = some whole :=
    slice?_eq_some_iff.mpr ⟨front ++ gap, after, by rw [h, List.append_assoc], rfl, rfl⟩
  simp only [UrlScan.step?, hgap, hwhole, Option.bind_eq_bind, Option.bind_some]

/-- **The whole scan succeeds**, with the stretches of the line. -/
theorem scan_spansFrom (line : List Char) (before : Option Char) (plain s : List Char) :
    ∀ front done, line = front ++ (plain.reverse ++ s) →
      ((urlRanges before (byteLength (front ++ plain.reverse)) s).foldlM (UrlScan.step? line)
        ⟨byteLength front, done⟩).bind (UrlScan.finish? line) =
          some (done ++ spansFrom before plain s) := by
  fun_induction spansFrom before plain s with
  | case1 before plain =>
    intro front done hline
    have hrest : slice? line (byteLength front) (byteLength line) = some plain.reverse :=
      slice?_eq_some_iff.mpr
        ⟨front, [], hline, rfl, by rw [hline, List.append_nil, byteLength_append]⟩
    simp [urlRanges, UrlScan.finish?, hrest]
  | case2 before plain c rest found hfound ih =>
    intro front done hline
    have hsize : byteLength (front ++ plain.reverse) + c.utf8Size =
        byteLength (front ++ (c :: plain).reverse) := by
      simp [byteLength_append, byteLength, Nat.add_assoc]
    simp only [found, dite_eq_ite] at hfound
    simp only [urlRanges, hfound, hsize]
    exact ih front done (by simp [hline])
  | case3 before plain c rest found whole hfound url trailer ih =>
    intro front done hline
    simp only [found, dite_eq_ite] at hfound
    obtain ⟨⟨after, hafter⟩, hne, -⟩ := urlAt?_spec (Option.ite_none_right_eq_some.mp hfound).2
    have hwhole : url ++ trailer = whole :=
      List.prefix_iff_eq_append.mp (dropEndWhile_isPrefix isUrlTrailer whole)
    have hsize : byteLength (front ++ plain.reverse) + byteLength whole =
        byteLength (front ++ plain.reverse ++ url ++ trailer.reverse.reverse) := by
      rw [← hwhole]
      simp [byteLength_append, Nat.add_assoc]
    have hcut : line = front ++ (plain.reverse ++ (whole ++ after)) := by rw [hline, hafter]
    have hrest : line = front ++ plain.reverse ++ url ++
        (trailer.reverse.reverse ++ rest.drop (whole.length - 1)) := by
      rw [hcut, drop_length_sub_one hne hafter, ← hwhole]
      simp
    have hstep := UrlScan.step?_eq hcut done
    rw [hsize, ← byteLength_append] at hstep
    simp only [urlRanges, hfound, hsize, List.foldlM_cons, hstep, Option.bind_eq_bind,
      Option.bind_some]
    rw [ih _ _ hrest]
    simp [url]

theorem lineHtmlByOffsets?_eq (line : List Char) :
    lineHtmlByOffsets? line = some (Plain.lineHtml line) := by
  have hscan := scan_spansFrom line none [] line [] [] rfl
  obtain ⟨s, hs, hstretches⟩ := Option.bind_eq_some_iff.mp hscan
  have hs' : (urlRanges none 0 line).foldlM (UrlScan.step? line) {} = some s := hs
  simp only [lineHtmlByOffsets?, hs', hstretches, Option.bind_eq_bind, Option.bind_some]
  rfl

/-! ## Lines -/

/-- A cut of a line at its URLs. -/
structure CutsAtUrls (line : List Char) (cut : Cut Url) : Prop where
  line_eq : line = cut.join id Url.linked
  /-- What stands in the cut is a URL of the line. -/
  found : ∀ before u after, cut.Stands Url.linked before u after → UrlAt [] line before u
  /-- The punctuation at the end of a URL is left to the text behind it. -/
  returned : ∀ before u after, cut.Stands Url.linked before u after → u.trailer <+: after
  /-- Every URL of the line is one of the cut, or the end of one. -/
  covers : ∀ before v, UrlAt [] line before v →
    ∃ front u after skipped, cut.Stands Url.linked front u after ∧ before = front ++ skipped ∧
      u.whole = skipped ++ v.whole

theorem FindsUrls.cutsAtUrls {line : List Char} {cut : Cut Url} (h : FindsUrls [] line cut) :
    CutsAtUrls line cut where
  line_eq := h.text_eq
  found := h.found
  returned := by
    intro before u after hstands
    obtain ⟨rest, hline, -⟩ := h.found before u after hstands
    rw [h.text_eq, hstands.join_eq, Url.whole, List.append_assoc] at hline
    exact ⟨rest, (List.append_cancel_left (List.append_cancel_left hline)).symm⟩
  covers := h.covers

theorem flatMap_spanHtml_spansOf (cut : Cut Url) :
    (spansOf cut).flatMap Plain.spanHtml =
      cut.join (fun gap => Html.escapeText (convertQuotes gap)) Url.link := by
  induction cut with
  | last gap => exact List.flatMap_singleton ..
  | find gap u rest ih =>
    rw [spansOf, List.flatMap_cons, List.flatMap_cons, ih]
    rfl

/-- **The URLs of a line are linked, and nothing else.** Every line is cut at its URLs, and gaps and
URLs together are the line. A URL of the cut stands in the line at a word boundary and is as long as
it can be, less the punctuation at its end, which is left to the text behind it; every URL of the
line is one of the cut or the end of one. In the HTML the gaps are escaped, with their quotes
converted, and a URL is a link with the URL itself, escaped, as target and label; the mark behind
its scheme is still there. Cutting by byte offsets gives the same, as all slices are within the
line. -/
theorem lineHtml_links_the_urls (line : List Char) :
    ∃ cut : Cut Url, CutsAtUrls line cut ∧
      Plain.lineHtml line =
        cut.join (fun gap => Html.escapeText (convertQuotes gap)) Url.link ∧
      (∀ before u after, cut.Stands Url.linked before u after →
        "://".toList <:+: u.linked ∧ "://".toList <:+: Html.escapeText u.linked) ∧
      lineHtmlByOffsets? line = some (Plain.lineHtml line) := by
  obtain ⟨cut, hcut⟩ := exists_findsUrls [] line
  refine ⟨cut, hcut.cutsAtUrls, ?_, fun _ u _ _ => ⟨u.mark_infix_linked, u.mark_infix_escapeText⟩,
    lineHtmlByOffsets?_eq line⟩
  have hspans : spans line = spansOf (cut.prepend []) := hcut.spans_eq []
  rw [Plain.lineHtml, hspans, flatMap_spanHtml_spansOf]
  cases cut <;> rfl

-- punctuation behind a URL, and a scheme that ends a longer word
example : Plain.lineHtml "(ftp://a?), xhttp://z".toList =
    "(<a href=\"ftp://a\">ftp://a</a>?), xhttp://z".toList := by decide +kernel

end DocPress.Comment
