import DocPress.Comment.Layout
import DocPress.Proofs.Text.Words

/-!
# Words in the layout

Laying out blocks neither loses nor joins words, whatever the shape.

* `Block.shownWords` — the words of a block, its quotes converted unless it is preformatted.
* `Adds` — what writing words does to the current line. It is closed under writing more
  (`Adds.trans`), so one lemma for a single word carries over to lines and paragraphs.

Principal result: `words_layout` — the words of the layout are those of the blocks, in order.
-/

namespace DocPress.Comment

open DocPress.Text

/-- The words that a block shows. -/
def Block.shownWords : Block → List (List Char)
  | .para lines => lines.flatMap fun l => words (convertQuotes l)
  | .heading title => words (convertQuotes title)
  | .pre lines => lines.flatMap words

/-- Lines begin with white space only. -/
structure Shape.Blank (shape : Shape) : Prop where
  indent : isBlank shape.indent = true
  preIndent : isBlank shape.preIndent = true

/-- One space is due before the next word, except at the beginning of a line. -/
def Fill.Regular (fill : Fill) : Prop := fill.gap = if fill.column = 0 then 0 else 1

/-- Going on from `fill` to `next` writes `out`, which holds the words `ws`. -/
structure Adds (fill next : Fill) (out : List Char) (ws : List (List Char)) : Prop where
  regular : next.Regular
  words_out : words out = ws
  /-- What is written does not join the last word of the line. -/
  opens : fill.column ≠ 0 → Opens out
  /-- A line that was begun is not left. -/
  keeps : fill.column ≠ 0 → next.column ≠ 0
  /-- Nothing but white space is written if no line is begun. -/
  blank : next.column = 0 → isBlank out = true

theorem Adds.refl {fill : Fill} (h : fill.Regular) : Adds fill fill [] [] :=
  ⟨h, rfl, fun _ c hc => by simp at hc, id, fun _ => rfl⟩

/-- **Writing more**: the words of what is written one after the other are joined as lists. -/
theorem Adds.trans {fill next last : Fill} {out more : List Char} {ws vs : List (List Char)}
    (h₁ : Adds fill next out ws) (h₂ : Adds next last more vs) :
    Adds fill last (out ++ more) (ws ++ vs) where
  regular := h₂.regular
  words_out := by
    rw [← h₁.words_out, ← h₂.words_out]
    by_cases hcol : next.column = 0
    · exact words_append_of_closes (closes_of_isBlank (h₁.blank hcol)) more
    · exact words_append_of_opens (h₂.opens hcol) out
  opens := fun hcol => by
    have hout := h₁.opens hcol
    cases out with
    | nil => exact h₂.opens (h₁.keeps hcol)
    | cons c out => exact opens_cons (hout c rfl) (out ++ more)
  keeps := fun hcol => h₂.keeps (h₁.keeps hcol)
  blank := fun hcol => by
    have hnext : next.column = 0 := Classical.byContradiction fun h => h₂.keeps h hcol
    rw [isBlank_append, h₁.blank hnext, h₂.blank hcol]
    rfl

section
variable {shape : Shape}

/-- **One word** is written after a space, a line end or nothing at all, but at the beginning of a
line only. -/
theorem Fill.word_adds (hs : shape.Blank) {fill : Fill} (h : fill.Regular) {w : List Char}
    (hw : IsWord w) : Adds fill (fill.word shape w).1 (fill.word shape w).2 [w] := by
  have hlen : 0 < w.length := List.length_pos_iff.mpr hw.1
  have hwords : Text.words (shape.indent ++ w) = [w] := by
    rw [words_blank_append hs.indent, words_of_isWord hw]
  unfold Fill.word
  split
  · refine ⟨?_, ?_, fun _ => opens_cons isWhite_newline _, fun _ => ?_, fun hcol => ?_⟩
    · simp only [Fill.Regular]
      rw [if_neg (by omega)]
    · rw [words_cons_white isWhite_newline, hwords]
    · simp only; omega
    · simp only at hcol; omega
  · by_cases hcol : fill.column = 0
    · have hgap : fill.gap = 0 := by rw [h, if_pos hcol]
      simp only [hcol, hgap, ↓reduceIte, List.replicate_zero, List.append_nil]
      refine ⟨?_, hwords, fun hne => absurd hcol hne, fun _ => ?_, fun hzero => ?_⟩
      · simp only [Fill.Regular]
        rw [if_neg (by omega)]
      · simp only; omega
      · simp only at hzero; omega
    · have hgap : fill.gap = 1 := by rw [h, if_neg hcol]
      simp only [hcol, hgap, ↓reduceIte, List.replicate_one, List.nil_append, List.singleton_append]
      refine ⟨?_, ?_, fun _ => opens_cons isWhite_space w, fun _ => ?_, fun hzero => ?_⟩
      · simp only [Fill.Regular]
        rw [if_neg (by omega)]
      · rw [words_cons_white isWhite_space, words_of_isWord hw]
      · simp only; omega
      · simp only at hzero; omega

theorem Fill.words_adds (hs : shape.Blank) {fill : Fill} (h : fill.Regular) {ws : List (List Char)}
    (hws : ∀ w ∈ ws, IsWord w) : Adds fill (fill.words shape ws).1 (fill.words shape ws).2 ws := by
  induction ws generalizing fill with
  | nil => exact Adds.refl h
  | cons w ws ih =>
    have hword := Fill.word_adds hs h (hws w List.mem_cons_self)
    exact hword.trans (ih hword.regular fun v hv => hws v (List.mem_cons_of_mem _ hv))

theorem Fill.text_adds (hs : shape.Blank) {fill : Fill} (h : fill.Regular) (line : List Char) :
    Adds fill (fill.text shape line).1 (fill.text shape line).2 (Text.words (convertQuotes line)) := by
  -- the blank line that sets the text apart comes first, at the beginning of a line
  have hapart : Adds fill { fill with printed := true }
      (if fill.column = 0 ∧ fill.printed then ['\n'] else []) [] := by
    split
    · rename_i hcol
      exact ⟨h, rfl, fun hne => absurd hcol.1 hne, fun hne => absurd hcol.1 hne, fun _ => by decide⟩
    · exact ⟨h, rfl, fun _ c hc => by simp at hc, id, fun _ => rfl⟩
  have hreg : ({ fill with printed := true } : Fill).Regular := h
  exact hapart.trans (Fill.words_adds hs hreg fun w hw => isWord_of_mem_words hw)

theorem Fill.texts_adds (hs : shape.Blank) {fill : Fill} (h : fill.Regular)
    (lines : List (List Char)) :
    Adds fill (fill.texts shape lines).1 (fill.texts shape lines).2
      (lines.flatMap fun l => Text.words (convertQuotes l)) := by
  induction lines generalizing fill with
  | nil => exact Adds.refl h
  | cons line lines ih =>
    have hline := Fill.text_adds hs h line
    exact hline.trans (ih hline.regular)

/-! ## Blocks -/

/-- Nothing is on the current line. -/
def Fill.AtStart (fill : Fill) : Prop := fill.column = 0 ∧ fill.gap = 0

theorem Fill.AtStart.regular {fill : Fill} (h : fill.AtStart) : fill.Regular := by
  rw [Fill.Regular, if_pos h.1, h.2]

/-- Ending the line after some words leaves a text that no word reaches out of. -/
theorem Adds.flush {fill next : Fill} {out : List Char} {ws : List (List Char)}
    (h : Adds fill next out ws) :
    next.flush.1.AtStart ∧ Closes (out ++ next.flush.2) ∧ words (out ++ next.flush.2) = ws := by
  unfold Fill.flush
  split
  · rename_i hcol
    have hgap : next.gap = 0 := by rw [h.regular, if_pos hcol]
    rw [List.append_nil]
    exact ⟨⟨hcol, hgap⟩, closes_of_isBlank (h.blank hcol), h.words_out⟩
  · refine ⟨⟨rfl, rfl⟩, closes_concat isWhite_newline out, ?_⟩
    rw [words_concat_white isWhite_newline, h.words_out]

theorem words_preLines (hs : shape.Blank) (lines : List (List Char)) :
    words (lines.flatMap (preLine shape)) = lines.flatMap words := by
  have hline : ∀ l, words (if isBlank l then [] else shape.preIndent ++ l) = words l := by
    intro l
    split
    · rename_i hblank
      rw [words_blank hblank, words_nil]
    · exact words_blank_append hs.preIndent l
  have hlines := words_flatMap_newline (fun l => if isBlank l then [] else shape.preIndent ++ l) lines
  simp only [hline] at hlines
  exact hlines

theorem closes_preLines (lines : List (List Char)) :
    Closes ('\n' :: lines.flatMap (preLine shape)) := by
  rcases List.eq_nil_or_concat lines with rfl | ⟨front, l, rfl⟩
  · exact closes_concat isWhite_newline []
  · rw [List.concat_eq_append, List.flatMap_append, List.flatMap_singleton, preLine,
      ← List.append_assoc, ← List.cons_append]
    exact closes_concat isWhite_newline _

/-- **One block** is written from the beginning of a line to the beginning of another. -/
theorem Fill.block_words (hs : shape.Blank) {fill : Fill} (h : fill.AtStart) (b : Block) :
    (fill.block shape b).1.AtStart ∧ Closes (fill.block shape b).2 ∧
      Text.words (fill.block shape b).2 = b.shownWords := by
  cases b with
  | para lines => exact (Fill.texts_adds hs h.regular lines).flush
  | heading title =>
    obtain ⟨hstart, hcloses, hwords⟩ := (Fill.text_adds hs h.regular title).flush
    refine ⟨hstart, ?_, ?_⟩
    · exact closes_cons isWhite_newline hcloses
    · simp only [Fill.block]
      rw [words_cons_white isWhite_newline, hwords]
      rfl
  | pre lines =>
    refine ⟨h, closes_preLines lines, ?_⟩
    rw [Fill.block, words_cons_white isWhite_newline, words_preLines hs]
    rfl

/-- **The words of a layout are the words of its blocks, in order.** -/
theorem words_layout (hs : shape.Blank) (blocks : List Block) :
    words (layout shape blocks) = blocks.flatMap Block.shownWords := by
  suffices h : ∀ fill : Fill, fill.AtStart →
      Text.words (fill.blocks shape blocks) = blocks.flatMap Block.shownWords from
    h {} ⟨rfl, rfl⟩
  induction blocks with
  | nil => intro fill _; rfl
  | cons b blocks ih =>
    intro fill hfill
    obtain ⟨hstart, hcloses, hwords⟩ := Fill.block_words hs hfill b
    simp only [Fill.blocks, List.flatMap_cons]
    rw [words_append_of_closes hcloses, hwords, ih _ hstart]

end

end DocPress.Comment
