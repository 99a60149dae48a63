import DocPress.Comment.Link
import DocPress.Proofs.Comment.Words

/-!
# URLs in lines of text

* `LinkTarget` — a text that begins with the scheme of a URL and holds no white space and no quote.
* `urlAt?_spec` — a URL that is found is a beginning of the text, and a link target even without the
  punctuation at its end.
* `spansFrom_spec` — the URLs of a line are link targets, and converting quotes between them shows
  the same as converting them in the whole line.
-/

namespace DocPress.Comment

open DocPress.Text

/-- A text begins with the scheme of a URL. -/
def HasScheme (s : List Char) : Prop := ∃ start ∈ urlStarts, start <+: s

/-- A text that can be linked: it has a scheme and holds neither white space nor quotes. -/
structure LinkTarget (s : List Char) : Prop where
  scheme : HasScheme s
  notWhite : ∀ c ∈ s, isWhite c = false
  notQuote : ∀ c ∈ s, isQuoteChar c = false

theorem isUrlChar_notWhite {c : Char} (h : isUrlChar c = true) : isWhite c = false := by
  simp only [isUrlChar, Bool.and_eq_true, Bool.not_eq_true'] at h
  exact h.1

theorem isUrlChar_notQuote {c : Char} (h : isUrlChar c = true) : isQuoteChar c = false := by
  rw [isQuoteChar, Bool.or_eq_false_iff, beq_eq_false_iff_ne, beq_eq_false_iff_ne]
  constructor
  · rintro rfl
    exact absurd h (by decide)
  · rintro rfl
    exact absurd h (by decide)

/-- The characters of the schemes may stand in a URL, and none ends a sentence at the last place. -/
theorem urlStarts_spec : ∀ start ∈ urlStarts, (∀ c ∈ start, isUrlChar c = true) ∧
    ∃ front, start = front ++ ['/'] := by
  intro start hstart
  simp only [urlStarts, List.mem_cons, List.not_mem_nil, or_false] at hstart
  rcases hstart with rfl | rfl | rfl | rfl
  · exact ⟨List.all_eq_true.mp (by decide), "http:/".toList, rfl⟩
  · exact ⟨List.all_eq_true.mp (by decide), "https:/".toList, rfl⟩
  · exact ⟨List.all_eq_true.mp (by decide), "ftp:/".toList, rfl⟩
  · exact ⟨List.all_eq_true.mp (by decide), "file:/".toList, rfl⟩

theorem dropEndWhile_isPrefix (p : Char → Bool) (s : List Char) : dropEndWhile p s <+: s := by
  rw [dropEndWhile, ← List.reverse_suffix, List.reverse_reverse]
  exact List.dropWhile_suffix p

/-- Dropping at the end stops at a character that is kept. -/
theorem dropEndWhile_append {p : Char → Bool} {c : Char} (hc : p c = false)
    (front back : List Char) :
    dropEndWhile p (front ++ [c] ++ back) = front ++ [c] ++ dropEndWhile p back := by
  have hkeep : (front ++ [c]).reverse.dropWhile p = (front ++ [c]).reverse := by
    simp [hc]
  rw [dropEndWhile, List.reverse_append, List.dropWhile_append, dropEndWhile]
  split
  · rename_i hempty
    rw [List.isEmpty_iff.mp hempty, hkeep]
    simp
  · simp

/-- **A URL that is found** begins the text; without the punctuation at its end it is a target. -/
theorem urlAt?_spec {s whole : List Char} (h : urlAt? s = some whole) :
    whole <+: s ∧ whole ≠ [] ∧ (∀ c ∈ whole, isUrlChar c = true) ∧
      LinkTarget (dropEndWhile isUrlTrailer whole) := by
  obtain ⟨start, hstart, hfound⟩ := List.exists_of_findSome?_eq_some h
  obtain ⟨rest, hrest, hbody⟩ := Option.bind_eq_some_iff.mp hfound
  obtain ⟨hchars, front, hfront⟩ := urlStarts_spec start hstart
  obtain rfl := List.isPrefixOf?_eq_some_iff_append_eq.mp hrest
  have hbody' : start ++ rest.takeWhile isUrlChar = whole := by
    split at hbody
    · cases hbody
    · exact Option.some.inj hbody
  subst hbody'
  have hall : ∀ c ∈ start ++ rest.takeWhile isUrlChar, isUrlChar c = true := by
    intro c hc
    rcases List.mem_append.mp hc with hc | hc
    · exact hchars c hc
    · exact List.all_eq_true.mp (List.all_takeWhile ..) c hc
  have hurl := (dropEndWhile_isPrefix isUrlTrailer (start ++ rest.takeWhile isUrlChar)).subset
  refine ⟨?_, by simp [hfront], hall, ⟨start, hstart, ?_⟩,
    fun c hc => isUrlChar_notWhite (hall c (hurl hc)),
    fun c hc => isUrlChar_notQuote (hall c (hurl hc))⟩
  · rw [List.prefix_append_right_inj]
    exact List.takeWhile_prefix _
  · rw [hfront, dropEndWhile_append (by decide)]
    exact List.prefix_append _ _

/-! ## Spans of a line -/

/-- What a span shows: URLs keep their text. -/
def Span.shown : Span → List Char
  | .plain text => convertQuotes text
  | .url text => text

/-- **The spans of a line**: the URLs are targets, and the spans show the line with its quotes
converted, since no digraph reaches into a URL. -/
theorem spansFrom_spec (before : Option Char) (plain s : List Char) :
    (∀ url, Span.url url ∈ spansFrom before plain s → LinkTarget url) ∧
      (spansFrom before plain s).flatMap Span.shown = convertQuotes (plain.reverse ++ s) := by
  fun_induction spansFrom before plain s with
  | case1 before plain => simp [Span.shown]
  | case2 before plain c rest found hfound ih =>
    refine ⟨ih.1, ?_⟩
    rw [ih.2, List.reverse_cons, List.append_assoc]
    rfl
  | case3 before plain c rest found whole hfound url trailer ih =>
    have hurl? : urlAt? (c :: rest) = some whole := by
      simp only [found] at hfound
      split at hfound
      · exact hfound
      · cases hfound
    obtain ⟨⟨after, hafter⟩, hne, hchars, htarget⟩ := urlAt?_spec hurl?
    -- the place reached is behind the URL and the punctuation at its end
    have hdrop := drop_length_sub_one hne hafter
    have hwhole : url ++ trailer = whole :=
      List.prefix_iff_eq_append.mp (dropEndWhile_isPrefix isUrlTrailer whole)
    have hquote : ∀ x ∈ (url ++ (trailer ++ after)).head?, isQuoteChar x = false := by
      rw [← List.append_assoc, hwhole, List.head?_append_of_ne_nil _ hne]
      exact fun x hx => isUrlChar_notQuote (hchars x (List.mem_of_head? hx))
    obtain ⟨htargets, hshown⟩ := ih
    refine ⟨fun u hu => ?_, ?_⟩
    · simp only [List.mem_cons, reduceCtorEq, false_or, Span.url.injEq] at hu
      rcases hu with rfl | hu
      · exact htarget
      · exact htargets u hu
    · rw [List.flatMap_cons, List.flatMap_cons, hshown, List.reverse_reverse, hdrop, Span.shown,
        Span.shown, ← hafter, ← hwhole, List.append_assoc, convertQuotes_append hquote,
        convertQuotes_append_left htarget.notQuote]

/-- The URLs of a line are targets. -/
theorem linkTarget_of_mem_spans {line url : List Char} (h : Span.url url ∈ spans line) :
    LinkTarget url :=
  (spansFrom_spec none [] line).1 url h

/-- The spans of a line show the line with its quotes converted. -/
theorem flatMap_shown_spans (line : List Char) :
    (spans line).flatMap Span.shown = convertQuotes line :=
  (spansFrom_spec none [] line).2

end DocPress.Comment
