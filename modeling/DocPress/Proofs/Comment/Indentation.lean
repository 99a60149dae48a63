import DocPress.Comment.Indentation
import DocPress.Proofs.Text.Words

/-!
# The common indentation

* `commonIndent_isPrefix` — every line that is not blank begins with the common indentation.
* `isPrefix_commonIndent` — it is the longest such indentation; `eq_nil_of_common_unindent` — once it
  is taken away, the lines share none.
* `isPreformatted` — a line that is indented deeper; `isIndented_drop` — such a line is still
  indented when the common indentation is taken away.
* `commonIndent_congr` — blank lines have no say in it.
-/

namespace DocPress.Comment

open DocPress.Text

theorem commonStart_isPrefix (s t : List Char) : commonStart s t <+: s ∧ commonStart s t <+: t := by
  induction s generalizing t with
  | nil => simp [commonStart]
  | cons a s ih =>
    cases t with
    | nil => simp [commonStart]
    | cons b t =>
      rw [commonStart]
      split
      · rename_i hab
        subst hab
        simp [List.cons_prefix_cons, ih t]
      · simp

theorem foldl_commonStart_isPrefix (first : List Char) (rest : List (List Char)) :
    rest.foldl commonStart first <+: first ∧ ∀ s ∈ rest, rest.foldl commonStart first <+: s := by
  induction rest generalizing first with
  | nil => simp
  | cons s rest ih =>
    obtain ⟨hstart, hrest⟩ := ih (commonStart first s)
    obtain ⟨hfirst, hs⟩ := commonStart_isPrefix first s
    rw [List.foldl_cons]
    refine ⟨hstart.trans hfirst, fun t ht => ?_⟩
    rcases List.mem_cons.mp ht with rfl | ht
    · exact hstart.trans hs
    · exact hrest t ht

/-- The indentations of the lines that are not blank. -/
def indents (ls : List (List Char)) : List (List Char) :=
  ls.flatMap fun l => if isBlank l then [] else [indentOf l]

theorem indents_eq (ls : List (List Char)) :
    indents ls = (ls.filter fun l => !isBlank l).map indentOf := by
  induction ls with
  | nil => rfl
  | cons l ls ih =>
    rw [indents, List.flatMap_cons, ← indents, ih, List.filter_cons]
    cases isBlank l <;> rfl

/-- **Blank lines have no say** in the common indentation. -/
theorem commonIndent_congr {ls ms : List (List Char)} (h : indents ls = indents ms) :
    commonIndent ls = commonIndent ms := by
  rw [indents_eq, indents_eq] at h
  rw [commonIndent, commonIndent, h]

/-- **Every line that is not blank begins with the common indentation.** -/
theorem commonIndent_isPrefix {ls : List (List Char)} {l : List Char} (hl : l ∈ ls)
    (hblank : isBlank l = false) : commonIndent ls <+: indentOf l := by
  have hmem : indentOf l ∈ (ls.filter fun l => !isBlank l).map indentOf :=
    List.mem_map_of_mem (List.mem_filter.mpr ⟨hl, by simp [hblank]⟩)
  unfold commonIndent
  split
  · simp
  · rename_i first rest hind
    rw [hind] at hmem
    obtain ⟨hfirst, hrest⟩ := foldl_commonStart_isPrefix first rest
    rcases List.mem_cons.mp hmem with h | h
    · exact h ▸ hfirst
    · exact hrest _ h

theorem isPrefix_commonStart {v s t : List Char} (hs : v <+: s) (ht : v <+: t) :
    v <+: commonStart s t := by
  induction v generalizing s t with
  | nil => exact List.nil_prefix
  | cons c v ih =>
    obtain ⟨s', rfl⟩ := hs
    obtain ⟨t', rfl⟩ := ht
    rw [List.cons_append, List.cons_append, commonStart, if_pos rfl, List.cons_prefix_cons]
    exact ⟨rfl, ih (List.prefix_append ..) (List.prefix_append ..)⟩

/-- **The common indentation is the longest**: whatever spaces and tabs all lines begin with, blank
ones left aside, begin it. -/
theorem isPrefix_commonIndent {ls : List (List Char)} {v : List Char}
    (hv : ∀ c ∈ v, isIndentChar c = true) (hls : ∀ l ∈ ls, isBlank l = false → v <+: l)
    (htext : ∃ l ∈ ls, isBlank l = false) : v <+: commonIndent ls := by
  have hindent : ∀ i ∈ (ls.filter fun l => !isBlank l).map indentOf, v <+: i := by
    intro i hi
    obtain ⟨l, hl, rfl⟩ := List.mem_map.mp hi
    obtain ⟨hmem, hblank⟩ := List.mem_filter.mp hl
    obtain ⟨t, rfl⟩ := hls l hmem (by simpa using hblank)
    rw [indentOf, List.takeWhile_append_of_pos hv]
    exact List.prefix_append ..
  have hfold : ∀ (rest : List (List Char)) (first : List Char), v <+: first →
      (∀ i ∈ rest, v <+: i) → v <+: rest.foldl commonStart first := by
    intro rest
    induction rest with
    | nil => exact fun first hfirst _ => hfirst
    | cons i rest ih =>
      intro first hfirst hrest
      exact ih _ (isPrefix_commonStart hfirst (hrest i List.mem_cons_self))
        fun j hj => hrest j (List.mem_cons_of_mem i hj)
  unfold commonIndent
  split
  · rename_i hnil
    obtain ⟨l, hl, hblank⟩ := htext
    have hmem : l ∈ ls.filter fun l => !isBlank l := List.mem_filter.mpr ⟨hl, by simp [hblank]⟩
    rw [List.map_eq_nil_iff.mp hnil] at hmem
    cases hmem
  · rename_i first rest hcons
    rw [hcons] at hindent
    exact hfold rest first (hindent first List.mem_cons_self)
      fun i hi => hindent i (List.mem_cons_of_mem first hi)

theorem isWhite_of_isIndentChar {c : Char} (h : isIndentChar c = true) : isWhite c = true := by
  simp only [isIndentChar, Bool.or_eq_true, beq_iff_eq] at h
  rcases h with rfl | rfl
  · exact isWhite_space
  · exact isWhite_tab

theorem isBlank_indentOf (l : List Char) : isBlank (indentOf l) = true := by
  refine List.all_eq_true.mpr fun c hc => isWhite_of_isIndentChar ?_
  exact List.all_eq_true.mp (List.all_takeWhile ..) c hc

/-- A line that is not blank is its common indentation, which is white, and the rest. -/
theorem exists_eq_append_drop {ls : List (List Char)} {l : List Char} (hl : l ∈ ls)
    (hblank : isBlank l = false) :
    ∃ w, isBlank w = true ∧ l = w ++ l.drop (commonIndent ls).length := by
  have hpre := commonIndent_isPrefix hl hblank
  have hline : commonIndent ls <+: l := hpre.trans (List.takeWhile_prefix _)
  refine ⟨commonIndent ls, ?_, ?_⟩
  · obtain ⟨t, ht⟩ := hpre
    have hind := isBlank_indentOf l
    rw [← ht, isBlank_append, Bool.and_eq_true] at hind
    exact hind.1
  · obtain ⟨t, rfl⟩ := hline
    rw [List.drop_left]

theorem isBlank_drop_commonIndent {ls : List (List Char)} {l : List Char} (hl : l ∈ ls)
    (hblank : isBlank l = false) : isBlank (l.drop (commonIndent ls).length) = false := by
  obtain ⟨w, hw, hline⟩ := exists_eq_append_drop hl hblank
  rw [hline, isBlank_append, hw, Bool.true_and] at hblank
  exact hblank

/-- **Lines without their common indentation have none in common any more.** -/
theorem eq_nil_of_common_unindent {ls : List (List Char)} {w : List Char}
    (hw : ∀ c ∈ w, isIndentChar c = true)
    (hls : ∀ l ∈ unindent ls, isBlank l = false → w <+: l)
    (htext : ∃ l ∈ ls, isBlank l = false) : w = [] := by
  have hcommon : commonIndent ls ++ w <+: commonIndent ls := by
    refine isPrefix_commonIndent ?_ ?_ htext
    · obtain ⟨l, hl, hblank⟩ := htext
      intro c hc
      rcases List.mem_append.mp hc with hc | hc
      · exact List.all_eq_true.mp (List.all_takeWhile ..) c
          ((commonIndent_isPrefix hl hblank).subset hc)
      · exact hw c hc
    · intro l hl hblank
      have hdrop := hls _ (List.mem_map_of_mem hl)
      rw [hblank, if_neg (by simp)] at hdrop
      obtain ⟨t, ht⟩ := (commonIndent_isPrefix hl hblank).trans (List.takeWhile_prefix _)
      have hrest := hdrop (isBlank_drop_commonIndent hl hblank)
      rw [← ht, List.drop_left] at hrest
      rw [← ht]
      exact (List.prefix_append_right_inj _).mpr hrest
  have hlen := hcommon.length_le
  rw [List.length_append] at hlen
  exact List.eq_nil_of_length_eq_zero (by omega)

/-- A line that is indented deeper than the lines have in common stands in a preformatted block. -/
def isPreformatted (ls : List (List Char)) (l : List Char) : Bool :=
  !isBlank l && decide ((commonIndent ls).length < (indentOf l).length)

theorem isIndented_drop_iff {l : List Char} {n : Nat} (h : n ≤ (indentOf l).length) :
    isIndented (l.drop n) = decide (n < (indentOf l).length) := by
  induction l generalizing n with
  | nil =>
    have : n = 0 := by simpa [indentOf] using h
    subst this
    rfl
  | cons c l ih =>
    by_cases hc : isIndentChar c = true
    · have hind : indentOf (c :: l) = c :: indentOf l := by simp [indentOf, hc]
      rw [hind, List.length_cons] at h ⊢
      cases n with
      | zero => simp [isIndented, hc]
      | succ n =>
        rw [List.drop_succ_cons, ih (by omega)]
        simp
    · have hind : indentOf (c :: l) = [] := by simp [indentOf, hc]
      rw [hind] at h ⊢
      have : n = 0 := by simpa using h
      subst this
      simpa [isIndented] using hc

/-- **What is indented deeper is still indented** once the common indentation is taken away. -/
theorem isIndented_drop {ls : List (List Char)} {l : List Char} (hl : l ∈ ls)
    (hblank : isBlank l = false) :
    isIndented (l.drop (commonIndent ls).length) = isPreformatted ls l := by
  rw [isIndented_drop_iff (commonIndent_isPrefix hl hblank).length_le, isPreformatted, hblank]
  rfl

/-- A carriage return at the end of a line is no indentation. -/
theorem indentOf_dropReturn (l : List Char) : indentOf (dropReturn l) = indentOf l := by
  unfold dropReturn
  split
  · rename_i hr
    obtain ⟨l, rfl⟩ := List.getLast?_eq_some_iff.mp hr
    rw [List.dropLast_concat, indentOf, indentOf, List.takeWhile_append]
    split
    · rename_i hall
      rw [(List.takeWhile_prefix isIndentChar).eq_of_length hall,
        show List.takeWhile isIndentChar ['\r'] = [] by decide, List.append_nil]
    · rfl
  · rfl

end DocPress.Comment
