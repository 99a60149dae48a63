import DocPress.Proofs.Comment.Lines
import DocPress.Proofs.Comment.PlainBlocks

/-!
# The reference layout

What the layout of blocks reads like, said block by block and without a state that is carried on.

* `fillLines` — words filled into lines greedily.
* `Block.rows` — the lines of a block; `referenceRows` — the lines of a list of blocks.
* `Block.leading` — one empty line for each blank line that a paragraph begins with; `ledRows` — the
  lines of a list of blocks in which paragraphs may begin so.
* `Block.HasWord` — a paragraph or heading holds a word; `Block.StartsWithWord` — its first line does.

Principal results: `fillLines_spec` — filled lines hold all words, fit, and are ended only where the
next word does not fit; `Fill.block_rows` — one block is laid out as its lines;
`startsWithWord_of_mem_blocks` — no paragraph of a comment begins with a blank line;
`layout_eq_reference` — every list of blocks is laid out as its lines, and so is every comment;
`layout_ne_reference` — where it is not the reference: a paragraph that begins with a blank line, and
lines whose indentation is counted.
-/

namespace DocPress.Comment

open DocPress.Text

/-! ## Filling lines -/

/-- The columns that words take with one space between them. -/
def columns (ws : List (List Char)) : Nat := (List.intercalate [' '] ws).length

/-- Words filled into lines, the first of which is begun: a word goes on the current line if it fits
there behind a space, and begins another one otherwise. -/
def fillFrom (width : Nat) (line : List (List Char)) : List (List Char) → List (List (List Char))
  | [] => [line]
  | w :: ws =>
    if columns line + 1 + w.length ≤ width then fillFrom width (line ++ [w]) ws
    else line :: fillFrom width [w] ws

/-- Words filled into lines. -/
def fillLines (width : Nat) : List (List Char) → List (List (List Char))
  | [] => []
  | w :: ws => fillFrom width [w] ws

theorem flatten_fillFrom (width : Nat) (line ws : List (List Char)) :
    (fillFrom width line ws).flatten = line ++ ws := by
  induction ws generalizing line with
  | nil => simp [fillFrom]
  | cons w ws ih =>
    rw [fillFrom]
    split
    · rw [ih, List.append_assoc]
      rfl
    · rw [List.flatten_cons, ih]
      rfl

/-- The line that is begun goes on. -/
theorem exists_fillFrom_eq_cons (width : Nat) (line ws : List (List Char)) :
    ∃ us more, fillFrom width line ws = (line ++ us) :: more := by
  induction ws generalizing line with
  | nil => exact ⟨[], [], by simp [fillFrom]⟩
  | cons w ws ih =>
    rw [fillFrom]
    split
    · obtain ⟨us, more, h⟩ := ih (line ++ [w])
      exact ⟨w :: us, more, by rw [h, List.append_assoc]; rfl⟩
    · exact ⟨[], _, by rw [List.append_nil]⟩

theorem columns_concat_le (line : List (List Char)) (w : List Char) :
    columns (line ++ [w]) ≤ columns line + 1 + w.length := by
  by_cases hne : line = []
  · simp [hne, columns]
  · rw [columns, intercalate_space_concat hne, List.length_append, List.length_cons, columns]
    omega

theorem fits_of_mem_fillFrom {width : Nat} {line ws : List (List Char)}
    (h : columns line ≤ width ∨ ∃ w, line = [w]) :
    ∀ l ∈ fillFrom width line ws, columns l ≤ width ∨ ∃ w, l = [w] := by
  induction ws generalizing line with
  | nil => simpa [fillFrom] using h
  | cons w ws ih =>
    rw [fillFrom]
    split
    · rename_i hfits
      exact ih (.inl ((columns_concat_le line w).trans hfits))
    · intro l hl
      rcases List.mem_cons.mp hl with rfl | hl
      · exact h
      · exact ih (.inr ⟨w, rfl⟩) l hl

theorem isChain_fillFrom (width : Nat) (line ws : List (List Char)) :
    (fillFrom width line ws).IsChain fun l m => ∀ v ∈ m.head?, width < columns l + 1 + v.length := by
  induction ws generalizing line with
  | nil => exact .singleton _
  | cons w ws ih =>
    rw [fillFrom]
    split
    · exact ih (line ++ [w])
    · rename_i hfull
      refine (ih [w]).cons fun m hm v hv => ?_
      obtain ⟨us, more, h⟩ := exists_fillFrom_eq_cons width [w] ws
      rw [h] at hm
      obtain rfl := Option.some_inj.mp hm
      obtain rfl := Option.some_inj.mp hv
      omega

/-- **Filled lines** hold all words in order; each fits into the width or is a single word; and each is
ended only where the first word of the next does not fit. -/
theorem fillLines_spec (width : Nat) (ws : List (List Char)) :
    (fillLines width ws).flatten = ws ∧
    (∀ l ∈ fillLines width ws, columns l ≤ width ∨ ∃ w, l = [w]) ∧
    (fillLines width ws).IsChain fun l m => ∀ v ∈ m.head?, width < columns l + 1 + v.length := by
  cases ws with
  | nil => exact ⟨rfl, by simp [fillLines], .nil⟩
  | cons w ws =>
    exact ⟨flatten_fillFrom width [w] ws, fits_of_mem_fillFrom (.inr ⟨w, rfl⟩),
      isChain_fillFrom width [w] ws⟩

/-! ## The reference -/

/-- Text filled into lines, its quotes converted. -/
def filled (width : Nat) (text : List Char) : List Line :=
  (fillLines width (words (convertQuotes text))).map .running

/-- The empty line before a paragraph or heading that is not the first block. -/
def gapUnless (first : Bool) : List Line := if first then [] else [.gap]

/-- The lines of a block, which is the first one or not. -/
def Block.rows (width : Nat) (first : Bool) : Block → List Line
  | .para lines => gapUnless first ++ filled width (['\n'].intercalate lines)
  | .heading title => .gap :: (gapUnless first ++ filled width title)
  | .pre lines => .gap :: lines.map .verbatim

/-- The lines of a list of blocks. -/
def referenceRows (width : Nat) : Bool → List Block → List Line
  | _, [] => []
  | first, b :: more => b.rows width first ++ referenceRows width false more

/-- One empty line for each blank line that a paragraph begins with. -/
def Block.leading : Block → List Line
  | .para lines => List.replicate (lines.takeWhile isBlank).length .gap
  | _ => []

/-- The lines of a list of blocks, with those for blank lines that paragraphs begin with. -/
def ledRows (width : Nat) : Bool → List Block → List Line
  | _, [] => []
  | first, b :: more => b.leading ++ (b.rows width first ++ ledRows width false more)

/-- A paragraph or heading holds a word. -/
def Block.HasWord : Block → Prop
  | .para lines => words (['\n'].intercalate lines) ≠ []
  | .heading title => words title ≠ []
  | .pre _ => True

instance : DecidablePred Block.HasWord
  | .para lines => inferInstanceAs (Decidable (words (['\n'].intercalate lines) ≠ []))
  | .heading title => inferInstanceAs (Decidable (words title ≠ []))
  | .pre _ => inferInstanceAs (Decidable True)

theorem ledRows_eq_referenceRows {blocks : List Block} (h : ∀ b ∈ blocks, b.leading = [])
    (width : Nat) (first : Bool) : ledRows width first blocks = referenceRows width first blocks := by
  induction blocks generalizing first with
  | nil => rfl
  | cons b blocks ih =>
    rw [ledRows, referenceRows, h b List.mem_cons_self,
      ih (fun c hc => h c (List.mem_cons_of_mem b hc))]
    rfl

/-! ## Words on lines -/

section
variable {shape : Shape} {fill : Fill}

@[simp] theorem Fill.printed_word (w : List Char) : (fill.word shape w).1.printed = fill.printed := by
  unfold Fill.word
  split <;> rfl

@[simp] theorem Fill.printed_words (ws : List (List Char)) :
    (fill.words shape ws).1.printed = fill.printed := by
  induction ws generalizing fill with
  | nil => rfl
  | cons w ws ih => exact ih.trans (Fill.printed_word w)

@[simp] theorem Fill.printed_flush : fill.flush.1.printed = fill.printed := by
  unfold Fill.flush
  split <;> rfl

theorem Fill.words_cons (w : List Char) (ws : List (List Char)) :
    fill.words shape (w :: ws) = (((fill.word shape w).1.words shape ws).1,
      (fill.word shape w).2 ++ ((fill.word shape w).1.words shape ws).2) := rfl

theorem Fill.texts_cons (l : List Char) (ls : List (List Char)) :
    fill.texts shape (l :: ls) = (((fill.text shape l).1.texts shape ls).1,
      (fill.text shape l).2 ++ ((fill.text shape l).1.texts shape ls).2) := rfl

theorem Fill.words_append (us vs : List (List Char)) :
    fill.words shape (us ++ vs) = (((fill.words shape us).1.words shape vs).1,
      (fill.words shape us).2 ++ ((fill.words shape us).1.words shape vs).2) := by
  induction us generalizing fill with
  | nil => rfl
  | cons u us ih =>
    simp only [List.cons_append, Fill.words_cons, ih, List.append_assoc]

/-- **Words behind a line that is begun** fill it and further lines. -/
theorem Fill.words_fillFrom {line : List (List Char)} (h : fill.Holds shape line) (hne : line ≠ [])
    {ws : List (List Char)} (hws : ∀ w ∈ ws, IsWord w) :
    ∃ last, last ≠ [] ∧ (fill.words shape ws).1.Holds shape last ∧
      openText shape line ++ ((fill.words shape ws).2 ++ (fill.words shape ws).1.flush.2) =
        linesText shape ((fillFrom shape.width line ws).map .running) := by
  induction ws generalizing fill line with
  | nil =>
    refine ⟨line, hne, h, ?_⟩
    have hflush := (Fill.flush_holds h).2
    rw [lineOf, if_neg hne] at hflush
    exact hflush
  | cons w ws ih =>
    have hw := hws w List.mem_cons_self
    have hmore : ∀ v ∈ ws, IsWord v := fun v hv => hws v (List.mem_cons_of_mem w hv)
    rw [Fill.words_cons, fillFrom]
    by_cases hfits : columns line + 1 + w.length ≤ shape.width
    · rw [if_pos hfits]
      obtain ⟨hnext, hout⟩ := Fill.word_of_fits h hne hw hfits
      obtain ⟨last, hlast, hholds, htext⟩ := ih hnext (by simp) hmore
      refine ⟨last, hlast, hholds, ?_⟩
      rw [← htext, ← hout]
      simp only [List.append_assoc]
    · rw [if_neg hfits]
      obtain ⟨hnext, hout⟩ := Fill.word_of_full h hne hw (Nat.not_le.mp hfits)
      obtain ⟨last, hlast, hholds, htext⟩ := ih hnext (by simp) hmore
      refine ⟨last, hlast, hholds, ?_⟩
      have hcons : linesText shape ((line :: fillFrom shape.width [w] ws).map .running) =
          openText shape line ++ '\n' ::
            linesText shape ((fillFrom shape.width [w] ws).map .running) := by
        simp [linesText, openText, hne]
      rw [hcons, ← htext, hout]
      simp only [List.append_assoc, List.cons_append]

/-- Further lines of a paragraph go on with its words. -/
theorem Fill.texts_of_begun {line : List (List Char)} (h : fill.Holds shape line) (hne : line ≠ [])
    (hprinted : fill.printed = true) (lines : List (List Char)) :
    fill.texts shape lines = fill.words shape (lines.flatMap fun l => Text.words (convertQuotes l)) := by
  induction lines generalizing fill line with
  | nil => rfl
  | cons l lines ih =>
    have hcol : fill.column ≠ 0 := fun hzero => hne (h.column_eq_zero_iff.mp hzero)
    have htext : fill.text shape l = fill.words shape (Text.words (convertQuotes l)) := by
      have hsame : { fill with printed := true } = fill := by rw [← hprinted]
      simp only [Fill.text, hcol, false_and, if_false, List.nil_append, hsame]
    obtain ⟨last, hlast, hholds, -⟩ := Fill.words_fillFrom h hne
      fun w (hw : w ∈ Text.words (convertQuotes l)) => isWord_of_mem_words hw
    rw [Fill.texts_cons, htext, ih hholds hlast (by simpa using hprinted), List.flatMap_cons,
      Fill.words_append]

/-- Words from the beginning of a line on fill lines of their own. -/
theorem Fill.words_fillLines (h : fill.Holds shape []) {ws : List (List Char)} (hne : ws ≠ [])
    (hws : ∀ w ∈ ws, IsWord w) :
    ∃ last, last ≠ [] ∧ (fill.words shape ws).1.Holds shape last ∧
      (fill.words shape ws).2 ++ (fill.words shape ws).1.flush.2 =
        linesText shape ((fillLines shape.width ws).map .running) := by
  obtain ⟨w, ws, rfl⟩ := List.exists_cons_of_ne_nil hne
  obtain ⟨hnext, hout⟩ := Fill.word_of_start h (hws w List.mem_cons_self)
  obtain ⟨last, hlast, hholds, htext⟩ := Fill.words_fillFrom hnext (by simp)
    fun v hv => hws v (List.mem_cons_of_mem w hv)
  refine ⟨last, hlast, hholds, ?_⟩
  rw [fillLines, ← htext, Fill.words_cons, hout, List.append_assoc]

/-! ## Paragraphs -/

/-- A line of text at the beginning of a line: an empty line if something was written before, and its
words. -/
theorem Fill.text_of_start (h : fill.Holds shape []) (l : List Char) :
    fill.text shape l =
      ((({ fill with printed := true } : Fill).words shape (Text.words (convertQuotes l))).1,
        linesText shape (gapUnless !fill.printed) ++
          (({ fill with printed := true } : Fill).words shape (Text.words (convertQuotes l))).2) := by
  have hcol : fill.column = 0 := h.column_eq_zero_iff.mpr rfl
  cases hprinted : fill.printed with
  | false => simp [Fill.text, hcol, hprinted, gapUnless, linesText]
  | true => simp [Fill.text, hcol, hprinted, gapUnless, linesText, Line.chars]

/-- A paragraph that begins with a blank line: only an empty line is written for it. -/
theorem Fill.texts_of_blank (h : fill.Holds shape []) {l : List Char} (hblank : isBlank l = true)
    (lines : List (List Char)) :
    fill.texts shape (l :: lines) =
      ((({ fill with printed := true } : Fill).texts shape lines).1,
        linesText shape (gapUnless !fill.printed) ++
          (({ fill with printed := true } : Fill).texts shape lines).2) := by
  have hwords : Text.words (convertQuotes l) = [] := words_convertQuotes_eq_nil_iff.mpr hblank
  rw [Fill.texts_cons, Fill.text_of_start h, hwords]
  simp only [Fill.words, List.append_nil]

/-- A paragraph that begins with text: its words are written one after the other. -/
theorem Fill.texts_of_text (h : fill.Holds shape []) {l : List Char} (hblank : isBlank l = false)
    (lines : List (List Char)) :
    fill.texts shape (l :: lines) =
      ((({ fill with printed := true } : Fill).words shape
          ((l :: lines).flatMap fun l => Text.words (convertQuotes l))).1,
        linesText shape (gapUnless !fill.printed) ++
          (({ fill with printed := true } : Fill).words shape
            ((l :: lines).flatMap fun l => Text.words (convertQuotes l))).2) := by
  have hwords : Text.words (convertQuotes l) ≠ [] := by
    rw [ne_eq, words_convertQuotes_eq_nil_iff, hblank]
    simp
  obtain ⟨last, hlast, hholds, -⟩ := Fill.words_fillLines (Fill.holds_printed h) hwords
    fun w hw => isWord_of_mem_words hw
  rw [Fill.texts_cons, Fill.text_of_start h, Fill.texts_of_begun hholds hlast (by simp),
    List.flatMap_cons, Fill.words_append]
  simp only [List.append_assoc]

theorem isWord_of_mem_flatMap {lines : List (List Char)} {w : List Char}
    (h : w ∈ lines.flatMap fun l => words (convertQuotes l)) : IsWord w := by
  obtain ⟨l, -, hw⟩ := List.mem_flatMap.mp h
  exact isWord_of_mem_words hw

/-- The empty line for a blank line that a paragraph begins with, and those for the rest of it, are
the same ones in another order. -/
theorem linesText_gap_leading {l : List Char} (hblank : isBlank l = true) (lines : List (List Char))
    (first : Bool) (rows : List Line) :
    linesText shape (gapUnless first) ++
        linesText shape ((Block.para lines).leading ++ (gapUnless false ++ rows)) =
      linesText shape ((Block.para (l :: lines)).leading ++ (gapUnless first ++ rows)) := by
  have hgaps : gapUnless first ++ ((Block.para lines).leading ++ gapUnless false) =
      (Block.para (l :: lines)).leading ++ gapUnless first := by
    cases first <;>
      simp [Block.leading, gapUnless, hblank, List.replicate_succ, ← List.replicate_succ']
  rw [← linesText_append, ← List.append_assoc (Block.leading _), ← List.append_assoc, hgaps,
    List.append_assoc]

/-- **A paragraph** at the beginning of a line: an empty line for each blank line that it begins with,
the one that sets it apart, and its words filled into lines. -/
theorem Fill.texts_rows (h : fill.Holds shape []) {lines : List (List Char)}
    (hne : (lines.flatMap fun l => Text.words (convertQuotes l)) ≠ []) :
    (fill.texts shape lines).1.flush.1.Holds shape [] ∧
    (fill.texts shape lines).1.flush.1.printed = true ∧
    (fill.texts shape lines).2 ++ (fill.texts shape lines).1.flush.2 =
      linesText shape ((Block.para lines).leading ++ (gapUnless (!fill.printed) ++
        (fillLines shape.width (lines.flatMap fun l => Text.words (convertQuotes l))).map
          .running)) := by
  induction lines generalizing fill with
  | nil => exact absurd rfl hne
  | cons l lines ih =>
    cases hblank : isBlank l with
    | true =>
      have hwords : Text.words (convertQuotes l) = [] := words_convertQuotes_eq_nil_iff.mpr hblank
      rw [List.flatMap_cons, hwords, List.nil_append] at hne ⊢
      obtain ⟨hstart, hprinted, htext⟩ := ih (Fill.holds_printed h) hne
      rw [Fill.texts_of_blank h hblank]
      refine ⟨hstart, hprinted, ?_⟩
      rw [List.append_assoc, htext]
      exact linesText_gap_leading hblank lines _ _
    | false =>
      obtain ⟨last, -, hholds, htext⟩ := Fill.words_fillLines (Fill.holds_printed h) hne
        fun w hw => isWord_of_mem_flatMap hw
      rw [Fill.texts_of_text h hblank]
      refine ⟨(Fill.flush_holds hholds).1, by simp, ?_⟩
      have hleading : (Block.para (l :: lines)).leading = [] := by simp [Block.leading, hblank]
      rw [List.append_assoc, htext, hleading, List.nil_append, linesText_append]

/-! ## Blocks -/

/-- The words of lines that are joined are those of the lines, their quotes converted. -/
theorem words_convertQuotes_intercalate (lines : List (List Char)) :
    words (convertQuotes (['\n'].intercalate lines)) =
      lines.flatMap fun l => words (convertQuotes l) := by
  induction lines with
  | nil => rfl
  | cons l lines ih =>
    cases lines with
    | nil => simp
    | cons m lines =>
      have hnewline : ∀ c ∈ ['\n'], isQuoteChar c = false := by
        intro c hc
        rw [List.mem_singleton.mp hc]
        rfl
      rw [List.intercalate_cons_cons, List.append_assoc,
        convertQuotes_append (by simpa using hnewline), convertQuotes_append_left hnewline,
        List.singleton_append, words_append_white isWhite_newline, ih]
      rfl

theorem words_convertQuotes_ne_nil {s : List Char} (h : words s ≠ []) :
    words (convertQuotes s) ≠ [] := by
  rwa [ne_eq, words_convertQuotes_eq_nil_iff, ← words_eq_nil_iff]

/-- **One block** at the beginning of a line is laid out as its lines. -/
theorem Fill.block_rows (h : fill.Holds shape []) {b : Block} (hb : b.HasWord) :
    (fill.block shape b).1.Holds shape [] ∧ (fill.block shape b).1.printed = true ∧
      (fill.block shape b).2 =
        linesText shape (b.leading ++ b.rows shape.width (!fill.printed)) := by
  cases b with
  | para lines =>
    have hne := words_convertQuotes_ne_nil hb
    rw [words_convertQuotes_intercalate] at hne
    rw [Block.rows, filled, words_convertQuotes_intercalate]
    exact Fill.texts_rows h hne
  | heading title =>
    obtain ⟨last, -, hholds, htext⟩ := Fill.words_fillLines (Fill.holds_printed h)
      (words_convertQuotes_ne_nil hb) fun w hw => isWord_of_mem_words hw
    have hblock : fill.block shape (.heading title) = ((fill.text shape title).1.flush.1,
        '\n' :: ((fill.text shape title).2 ++ (fill.text shape title).1.flush.2)) := rfl
    rw [hblock, Fill.text_of_start h]
    refine ⟨(Fill.flush_holds hholds).1, by simp, ?_⟩
    rw [List.append_assoc, htext, ← linesText_append]
    rfl
  | pre lines =>
    refine ⟨Fill.holds_printed h, rfl, ?_⟩
    simp only [Fill.block, Block.leading, Block.rows, linesText, List.nil_append, List.flatMap_cons,
      List.flatMap_map, Line.chars]
    rfl

theorem Fill.blocks_rows (h : fill.Holds shape []) {blocks : List Block}
    (hblocks : ∀ b ∈ blocks, b.HasWord) :
    fill.blocks shape blocks = linesText shape (ledRows shape.width (!fill.printed) blocks) := by
  induction blocks generalizing fill with
  | nil => rfl
  | cons b blocks ih =>
    obtain ⟨hnext, hprinted, htext⟩ := Fill.block_rows h (hblocks b List.mem_cons_self)
    have hrest := ih hnext fun c hc => hblocks c (List.mem_cons_of_mem b hc)
    have hblocks : fill.blocks shape (b :: blocks) =
        (fill.block shape b).2 ++ (fill.block shape b).1.blocks shape blocks := rfl
    rw [hblocks, hrest, htext, hprinted, ledRows, ← linesText_append, List.append_assoc]
    rfl

end

/-! ## Whole comments -/

/-- The first line of a paragraph holds a word, and so does a heading. -/
def Block.StartsWithWord : Block → Prop
  | .para lines => ∃ l more, lines = l :: more ∧ isBlank l = false
  | .heading title => isBlank title = false
  | .pre _ => True

theorem Block.StartsWithWord.hasWord {b : Block} (h : b.StartsWithWord) : b.HasWord := by
  cases b with
  | para lines =>
    obtain ⟨l, more, rfl, hl⟩ := h
    rw [Block.HasWord, words_intercalate, List.flatMap_cons]
    simp [words_eq_nil_iff, hl]
  | heading title =>
    rw [Block.StartsWithWord] at h
    simp [Block.HasWord, words_eq_nil_iff, h]
  | pre lines => trivial

theorem Block.StartsWithWord.leading_eq_nil {b : Block} (h : b.StartsWithWord) : b.leading = [] := by
  cases b with
  | para lines =>
    obtain ⟨l, more, rfl, hl⟩ := h
    simp [Block.leading, hl]
  | heading title => rfl
  | pre lines => rfl

theorem Block.Sound.startsWithWord {b : Block} (h : b.Sound) : b.StartsWithWord := by
  cases b with
  | para lines =>
    obtain ⟨l, more, rfl⟩ := List.exists_cons_of_ne_nil h.1
    exact ⟨l, more, rfl, (h.2 l List.mem_cons_self).1⟩
  | heading title => exact h.1
  | pre lines => trivial

namespace Markdown

/-- All blocks so far start with a word. -/
def Lowering.StartWithWords (l : Lowering) : Prop := ∀ b ∈ l.done, b.StartsWithWord

theorem Lowering.StartWithWords.flush {l : Lowering} (h : l.StartWithWords) :
    l.flush.StartWithWords := by
  intro b hb
  simp only [Lowering.flush] at hb
  split at hb
  · exact h b hb
  · rename_i htext
    rcases List.mem_cons.mp hb with rfl | hb
    · simp only [Bool.or_eq_true, not_or, Bool.not_eq_true, isEmpty_trim] at htext
      exact ⟨_, [], rfl, by rw [isBlank_trim, htext.1]⟩
    · exact h b hb

theorem Lowering.StartWithWords.start {l : Lowering} (h : l.StartWithWords)
    (tag : DocPress.Markdown.Tag) : (l.start tag).StartWithWords := by
  cases tag with
  | codeBlock _ => exact h.flush
  | heading _ => exact h.flush
  | item => exact h.flush
  | _ => exact h

theorem Lowering.StartWithWords.stop {l : Lowering} (h : l.StartWithWords)
    (tag : DocPress.Markdown.Tag) : (l.stop tag).StartWithWords := by
  cases tag with
  | codeBlock _ =>
    rw [Lowering.stop]
    split
    · exact List.forall_mem_cons.mpr ⟨trivial, h⟩
    · exact h
  | heading _ =>
    intro b hb
    simp only [Lowering.stop] at hb
    split at hb
    · exact h b hb
    · rename_i htitle
      rcases List.mem_cons.mp hb with rfl | hb
      · rw [isEmpty_trim, Bool.not_eq_true] at htitle
        rw [Block.StartsWithWord, isBlank_trim, htitle]
      · exact h b hb
  | paragraph => exact h.flush
  | item => exact h.flush
  | tableHead => exact h.flush
  | tableRow => exact h.flush
  | _ => exact h

theorem Lowering.StartWithWords.event {l : Lowering} (h : l.StartWithWords)
    (e : DocPress.Markdown.Event) : (l.event e).StartWithWords := by
  have hput : ∀ s, (l.put s).StartWithWords := by
    intro s
    rw [Lowering.put]
    split <;> exact h
  cases e with
  | start tag => exact h.start tag
  | stop tag => exact h.stop tag
  | text s => exact hput s
  | code s => exact hput s
  | html s => exact hput s
  | inlineHtml s => exact hput s
  | _ => exact h

theorem startsWithWord_of_mem_blocks {comment : List Char} {b : Block} (h : b ∈ blocks comment) :
    b.StartsWithWord := by
  have hrun : ∀ events : List DocPress.Markdown.Event,
      (events.foldl Lowering.event {}).StartWithWords := fun events =>
    List.foldlRecOn events Lowering.event (fun _ hb => absurd hb List.not_mem_nil)
      fun _ hl e _ => hl.event e
  exact (hrun _).flush b (List.mem_reverse.mp h)

end Markdown

/-- **Every block of a comment starts with a word** or is preformatted. -/
theorem startsWithWord_of_mem_blocks {m : Markup} {comment : List Char} {b : Block}
    (h : b ∈ m.blocks comment) : b.StartsWithWord := by
  cases m with
  | plain =>
    rw [Markup.blocks, ← Plain.filterMap_block?_passages] at h
    obtain ⟨p, hp, hb⟩ := List.mem_filterMap.mp h
    obtain ⟨front, back, hfits⟩ := (Plain.sound_passages comment).exists_fits hp
    exact (hfits.sound hb).startsWithWord
  | markdown => exact Markdown.startsWithWord_of_mem_blocks h

/-- **The layout is the reference layout.** Blocks that hold words are laid out as their lines, with
an empty line more for each blank line that a paragraph begins with: so as the reference says if there
is none, as in the blocks of every comment. The words of its running lines are filled in order; each
such line fits or is a single word, and ends only where the next word does not fit. -/
theorem layout_eq_reference (shape : Shape) :
    (∀ blocks : List Block, (∀ b ∈ blocks, b.HasWord) →
      layout shape blocks = linesText shape (ledRows shape.width true blocks) ∧
      ((∀ b ∈ blocks, b.leading = []) →
        layout shape blocks = linesText shape (referenceRows shape.width true blocks))) ∧
    (∀ (m : Markup) (comment : List Char), m.text shape comment =
      linesText shape (referenceRows shape.width true (m.blocks comment))) ∧
    ∀ ws, (fillLines shape.width ws).flatten = ws ∧
      (∀ l ∈ fillLines shape.width ws, columns l ≤ shape.width ∨ ∃ w, l = [w]) ∧
      (fillLines shape.width ws).IsChain fun l m =>
        ∀ v ∈ m.head?, shape.width < columns l + 1 + v.length := by
  have hled : ∀ blocks : List Block, (∀ b ∈ blocks, b.HasWord) →
      layout shape blocks = linesText shape (ledRows shape.width true blocks) := fun blocks h =>
    Fill.blocks_rows ⟨rfl, rfl, fun hnil => absurd rfl hnil⟩ h
  refine ⟨fun blocks h => ⟨hled blocks h, fun hleading => ?_⟩, fun m comment => ?_,
    fillLines_spec shape.width⟩
  · rw [hled blocks h, ledRows_eq_referenceRows hleading]
  · have hstart : ∀ b ∈ m.blocks comment, b.StartsWithWord := fun b => startsWithWord_of_mem_blocks
    rw [Markup.text, hled _ fun b hb => (hstart b hb).hasWord,
      ledRows_eq_referenceRows fun b hb => (hstart b hb).leading_eq_nil]

/-- What the layout does not follow: the reference where a paragraph begins with a blank line, which is
laid out as an empty line more; and a reference for lines that keep to the width together with their
indentation, which leaves fewer columns for the words. -/
theorem layout_ne_reference :
    ((∀ b ∈ [Block.para [[], ['w']]], b.HasWord) ∧
      layout ⟨[' '], ['\t'], 7⟩ [.para [[], ['w']]] ≠
        linesText ⟨[' '], ['\t'], 7⟩ (referenceRows 7 true [.para [[], ['w']]])) ∧
    (∀ b ∈ [Block.para ["some text".toList]], b.HasWord) ∧
      layout ⟨"    ".toList, ['\t'], 9⟩ [.para ["some text".toList]] ≠
        linesText ⟨"    ".toList, ['\t'], 9⟩
          (referenceRows (9 - "    ".length) true [.para ["some text".toList]]) := by
  decide +kernel

/-- Text over a heading, preformatted lines and more text. -/
def recipe : List Block :=
  [.para ["mix ``flour''".toList, "and water".toList], .heading "Heat".toList,
    .pre ["oven".toList, [], " on".toList], .para ["wait".toList]]

theorem recipe_layout :
    (∀ b ∈ recipe, b.HasWord) ∧ (∀ b ∈ recipe, b.leading = []) ∧
    layout ⟨[' '], ['\t'], 7⟩ recipe =
      linesText ⟨[' '], ['\t'], 7⟩ (referenceRows 7 true recipe) ∧
    linesText ⟨[' '], ['\t'], 7⟩ (referenceRows 7 true recipe) =
      (" mix\n \u201Cflour\u201D\n and\n water\n" ++ "\n\n Heat\n" ++ "\n\toven\n\n\t on\n" ++
        "\n wait\n").toList := by
  have hword : ∀ b ∈ recipe, b.HasWord := by decide +kernel
  have hlength : ∀ b ∈ recipe, b.leading.length = 0 := by decide +kernel
  have hleading : ∀ b ∈ recipe, b.leading = [] := fun b hb =>
    List.length_eq_zero_iff.mp (hlength b hb)
  exact ⟨hword, hleading, ((layout_eq_reference _).1 recipe hword).2 hleading, by decide +kernel⟩

end DocPress.Comment
