import DocPress.Comment.Renderer
import DocPress.Proofs.Text.Words
import Mathlib.Data.List.Chain
import Mathlib.Data.List.Forall2

/-!
# Lines of the layout

The layout of a comment is a list of lines, group by group for its blocks: running lines of words with
one space between them, verbatim lines, and gaps that set blocks apart. A running line fits into the
width of the shape, unless it holds a single word, and is ended only where the next word does not fit.

* `Line`, `Line.chars`, `linesText` — lines, and the text that they make.
* `Fill.Holds` — the current line of a layout holds these words.
* `Lays` — what writing does to the lines. It is closed under writing more (`Lays.trans`), so one lemma
  for a single word carries over to paragraphs and headings.
* `Laid` — a group of lines is a block laid out.

Principal results: `Fill.word_of_start`, `Fill.word_of_fits`, `Fill.word_of_full` — one word begins a
line, goes on it or ends it; `Fill.exists_lays_word` — so it keeps to lines in each case;
`exists_laid_lines` — every layout is made of groups of such lines.
-/

namespace DocPress.Comment

open DocPress.Text

/-! ## Lines -/

/-- A line of a layout. -/
inductive Line where
  /-- Nothing, which sets blocks apart. -/
  | gap
  /-- Words of a paragraph or a heading. -/
  | running (words : List (List Char))
  /-- A preformatted line. -/
  | verbatim (text : List Char)

namespace Line

/-- The characters of a line. -/
def chars (shape : Shape) : Line → List Char
  | .gap => []
  | .running ws => shape.indent ++ List.intercalate [' '] ws
  | .verbatim l => if isBlank l then [] else shape.preIndent ++ l

/-- The words of a running line. -/
def runningWords : Line → List (List Char)
  | .running ws => ws
  | _ => []

/-- The text of a preformatted line. -/
def verbatimText : Line → List (List Char)
  | .verbatim l => [l]
  | _ => []

/-- A running line holds words, and fits into a width unless it holds a single one. -/
def Fits (width : Nat) : Line → Prop
  | .running ws => ws ≠ [] ∧ (∀ w ∈ ws, IsWord w) ∧
      (ws.length = 1 ∨ (List.intercalate [' '] ws).length ≤ width)
  | _ => True

/-- A running line is ended before another one only if the first word of that does not fit. -/
def Breaks (width : Nat) : Line → Line → Prop
  | .running ws, .running (v :: _) => width < (List.intercalate [' '] ws).length + 1 + v.length
  | _, _ => True

theorem breaks_gap (width : Nat) (line : Line) : Breaks width .gap line := trivial

/-- Only the first word of the next line matters. -/
theorem breaks_running_append {width : Nat} {line : Line} {ws : List (List Char)} (hne : ws ≠ [])
    (us : List (List Char)) :
    Breaks width line (.running (ws ++ us)) ↔ Breaks width line (.running ws) := by
  cases ws with
  | nil => exact absurd rfl hne
  | cons w ws => cases line <;> rfl

end Line

/-- Lines as text, each with its end. -/
def linesText (shape : Shape) (lines : List Line) : List Char :=
  lines.flatMap fun line => line.chars shape ++ ['\n']

theorem linesText_append (shape : Shape) (lines more : List Line) :
    linesText shape (lines ++ more) = linesText shape lines ++ linesText shape more :=
  List.flatMap_append

theorem intercalate_space_concat {ws : List (List Char)} (h : ws ≠ []) (w : List Char) :
    List.intercalate [' '] (ws ++ [w]) = List.intercalate [' '] ws ++ ' ' :: w := by
  induction ws with
  | nil => exact absurd rfl h
  | cons v ws ih =>
    cases ws with
    | nil => simp [List.intercalate, List.intersperse]
    | cons u ws =>
      have htail := ih (List.cons_ne_nil u ws)
      simp only [List.intercalate, List.cons_append, List.intersperse_cons_cons, List.flatten_cons,
        List.append_assoc] at htail ⊢
      rw [htail]

/-- What stands between words are spaces. -/
theorem mem_of_mem_intercalate_space {ws : List (List Char)} {c : Char}
    (h : c ∈ List.intercalate [' '] ws) : c = ' ' ∨ ∃ w ∈ ws, c ∈ w := by
  induction ws with
  | nil => cases h
  | cons w ws ih =>
    cases ws with
    | nil => exact .inr ⟨w, List.mem_cons_self, by simpa [List.intercalate] using h⟩
    | cons v ws =>
      have hsplit : List.intercalate [' '] (w :: v :: ws) =
          w ++ ' ' :: List.intercalate [' '] (v :: ws) := by simp [List.intercalate]
      rw [hsplit, List.mem_append, List.mem_cons] at h
      rcases h with h | h | h
      · exact .inr ⟨w, List.mem_cons_self, h⟩
      · exact .inl h
      · rcases ih h with hspace | ⟨u, hu, hc⟩
        · exact .inl hspace
        · exact .inr ⟨u, List.mem_cons_of_mem w hu, hc⟩

/-! ## The current line -/

/-- What the current line of a layout reads as long as it is not ended. -/
def openText (shape : Shape) (ws : List (List Char)) : List Char :=
  if ws = [] then [] else (Line.running ws).chars shape

/-- The current line of a layout holds these words. -/
structure Fill.Holds (shape : Shape) (fill : Fill) (ws : List (List Char)) : Prop where
  column : fill.column = (List.intercalate [' '] ws).length
  gap : fill.gap = if ws = [] then 0 else 1
  fits : ws ≠ [] → (Line.running ws).Fits shape.width

/-- Writing `out` after a current line of the words `ws` ends the lines `done` and leaves a current
line of the words `ws'`. The words `vs` are new. -/
structure Lays (shape : Shape) (ws : List (List Char)) (out : List Char) (done : List Line)
    (ws' vs : List (List Char)) : Prop where
  text : openText shape ws ++ out = linesText shape done ++ openText shape ws'
  fits : ∀ line ∈ done, line.Fits shape.width
  words : done.flatMap Line.runningWords ++ ws' = ws ++ vs
  verbatim : done.flatMap Line.verbatimText = []
  breaks : List.IsChain (Line.Breaks shape.width) (done ++ [.running ws'])
  /-- A line that is begun goes on. -/
  goesOn : ws ≠ [] → ∃ us rest, done ++ [.running ws'] = .running (ws ++ us) :: rest
  /-- As long as no line is begun there are only gaps. -/
  onlyGaps : ws' = [] → ∀ line ∈ done, line = .gap

section
variable {shape : Shape}

theorem Lays.refl (ws : List (List Char)) : Lays shape ws [] [] ws [] :=
  ⟨by simp [linesText], by simp, by simp, rfl, .singleton _, fun _ => ⟨[], [], by simp⟩, by simp⟩

/-- If no line is begun after writing more, none was before. -/
theorem Lays.eq_nil {ws ws' vs : List (List Char)} {out : List Char} {done : List Line}
    (h : Lays shape ws out done ws' vs) (hnil : ws' = []) : ws = [] := by
  by_contra hne
  obtain ⟨us, rest, hgoes⟩ := h.goesOn hne
  cases done with
  | nil =>
    obtain ⟨hrunning, -⟩ := List.cons_eq_cons.mp hgoes
    rw [hnil] at hrunning
    injection hrunning with hwords
    exact hne (List.append_eq_nil_iff.mp hwords.symm).1
  | cons line done =>
    have hgap := h.onlyGaps hnil line List.mem_cons_self
    have hrunning := (List.cons_eq_cons.mp hgoes).1
    rw [hgap] at hrunning
    cases hrunning

/-- **Writing more**: lines are ended one after the other. -/
theorem Lays.trans {ws ws' ws'' vs vs' : List (List Char)} {out more : List Char}
    {done done' : List Line} (h₁ : Lays shape ws out done ws' vs)
    (h₂ : Lays shape ws' more done' ws'' vs') :
    Lays shape ws (out ++ more) (done ++ done') ws'' (vs ++ vs') where
  text := by
    rw [← List.append_assoc, h₁.text, List.append_assoc, h₂.text, linesText_append,
      List.append_assoc]
  fits := by
    intro line hline
    rcases List.mem_append.mp hline with hline | hline
    · exact h₁.fits line hline
    · exact h₂.fits line hline
  words := by
    rw [List.flatMap_append, List.append_assoc, h₂.words, ← List.append_assoc, h₁.words,
      List.append_assoc]
  verbatim := by rw [List.flatMap_append, h₁.verbatim, h₂.verbatim, List.append_nil]
  breaks := by
    obtain ⟨hdone, -, hlast⟩ := List.isChain_append.mp h₁.breaks
    rw [List.append_assoc]
    refine List.isChain_append.mpr ⟨hdone, h₂.breaks, ?_⟩
    intro line hline next hnext
    by_cases hnil : ws' = []
    · rw [h₁.onlyGaps hnil line (List.mem_of_getLast? hline)]
      exact Line.breaks_gap _ _
    · -- the next line begins with the words that were on the current one
      obtain ⟨us, rest, hgoes⟩ := h₂.goesOn hnil
      rw [hgoes] at hnext
      obtain rfl := Option.some_inj.mp hnext
      exact (Line.breaks_running_append hnil us).mpr (hlast line hline _ rfl)
  goesOn := by
    intro hne
    obtain ⟨us, rest, hgoes⟩ := h₁.goesOn hne
    cases done with
    | nil =>
      obtain ⟨hrunning, -⟩ := List.cons_eq_cons.mp hgoes
      injection hrunning with hwords
      obtain ⟨us', rest', hgoes'⟩ := h₂.goesOn (by rw [hwords]; simp [hne])
      exact ⟨us ++ us', rest', by rw [List.nil_append, hgoes', hwords, List.append_assoc]⟩
    | cons line done =>
      obtain ⟨rfl, -⟩ := List.cons_eq_cons.mp hgoes
      exact ⟨us, done ++ done' ++ [.running ws''], rfl⟩
  onlyGaps := by
    intro hnil line hline
    rcases List.mem_append.mp hline with hline | hline
    · exact h₁.onlyGaps (h₂.eq_nil hnil) line hline
    · exact h₂.onlyGaps hnil line hline

/-- A gap is written at the beginning of a line. -/
theorem Lays.gap : Lays shape [] ['\n'] [.gap] [] [] :=
  ⟨rfl, by simp [Line.Fits], rfl, rfl, by simp [Line.breaks_gap], fun h => absurd rfl h, by simp⟩

theorem intercalate_ne_nil {ws : List (List Char)} (hne : ws ≠ []) (h : ∀ w ∈ ws, IsWord w) :
    List.intercalate [' '] ws ≠ [] := by
  cases ws with
  | nil => exact absurd rfl hne
  | cons w ws =>
    have hw := (h w List.mem_cons_self).1
    cases ws with
    | nil => simpa [List.intercalate] using hw
    | cons v ws => simp [List.intercalate, hw]

/-- The column tells whether a line is begun. -/
theorem Fill.Holds.column_eq_zero_iff {fill : Fill} {ws : List (List Char)}
    (h : fill.Holds shape ws) : fill.column = 0 ↔ ws = [] := by
  constructor
  · intro hcol
    by_contra hne
    rw [h.column, List.length_eq_zero_iff] at hcol
    exact intercalate_ne_nil hne (h.fits hne).2.1 hcol
  · rintro rfl
    rw [h.column]
    rfl

theorem Fill.holds_singleton {fill : Fill} {w : List Char} (hw : IsWord w)
    (hcol : fill.column = w.length) (hgap : fill.gap = 1) : fill.Holds shape [w] where
  column := by simpa [List.intercalate] using hcol
  gap := by simp [hgap]
  fits := fun _ => ⟨by simp, by simpa using hw, .inl rfl⟩

/-- A word begins a line. -/
theorem Fill.word_of_start {fill : Fill} (h : fill.Holds shape []) {w : List Char} (hw : IsWord w) :
    (fill.word shape w).1.Holds shape [w] ∧ (fill.word shape w).2 = openText shape [w] := by
  have hcol : fill.column = 0 := h.column_eq_zero_iff.mpr rfl
  have hgap : fill.gap = 0 := h.gap
  rw [Fill.word, if_neg (by omega)]
  exact ⟨Fill.holds_singleton hw (by simp [hcol, hgap]) rfl,
    by simp [openText, Line.chars, List.intercalate, hcol, hgap]⟩

/-- A word that fits goes on the current line. -/
theorem Fill.word_of_fits {fill : Fill} {ws : List (List Char)} (h : fill.Holds shape ws)
    (hne : ws ≠ []) {w : List Char} (hw : IsWord w)
    (hfits : (List.intercalate [' '] ws).length + 1 + w.length ≤ shape.width) :
    (fill.word shape w).1.Holds shape (ws ++ [w]) ∧
      openText shape ws ++ (fill.word shape w).2 = openText shape (ws ++ [w]) := by
  have hcol : fill.column ≠ 0 := fun hzero => hne (h.column_eq_zero_iff.mp hzero)
  have hgap : fill.gap = 1 := by rw [h.gap, if_neg hne]
  have hlength : (List.intercalate [' '] (ws ++ [w])).length =
      fill.column + fill.gap + w.length := by
    rw [intercalate_space_concat hne, List.length_append, List.length_cons, h.column, hgap]
    omega
  have hroom : fill.column + fill.gap + w.length ≤ shape.width := by
    rw [h.column, hgap]
    exact hfits
  rw [Fill.word, if_neg (by omega)]
  refine ⟨⟨hlength.symm, by simp, fun _ => ⟨by simp, ?_, .inr ?_⟩⟩, ?_⟩
  · intro v hv
    rcases List.mem_append.mp hv with hv | hv
    · exact (h.fits hne).2.1 v hv
    · exact List.mem_singleton.mp hv ▸ hw
  · rw [hlength]
    exact hroom
  · simp [openText, hne, Line.chars, intercalate_space_concat hne, hcol, hgap]

/-- A word that does not fit ends the current line and begins another. -/
theorem Fill.word_of_full {fill : Fill} {ws : List (List Char)} (h : fill.Holds shape ws)
    (hne : ws ≠ []) {w : List Char} (hw : IsWord w)
    (hfull : shape.width < (List.intercalate [' '] ws).length + 1 + w.length) :
    (fill.word shape w).1.Holds shape [w] ∧
      (fill.word shape w).2 = '\n' :: openText shape [w] := by
  have hcol : fill.column ≠ 0 := fun hzero => hne (h.column_eq_zero_iff.mp hzero)
  have hgap : fill.gap = 1 := by rw [h.gap, if_neg hne]
  have hover : shape.width < fill.column + fill.gap + w.length := by
    rw [h.column, hgap]
    exact hfull
  rw [Fill.word, if_pos ⟨by omega, hover⟩]
  exact ⟨Fill.holds_singleton hw rfl rfl, by simp [openText, Line.chars, List.intercalate]⟩

/-- **One word** goes on the current line if it fits there, and begins another one otherwise. -/
theorem Fill.exists_lays_word {fill : Fill} {ws : List (List Char)} (h : fill.Holds shape ws)
    {w : List Char} (hw : IsWord w) :
    ∃ done ws', (fill.word shape w).1.Holds shape ws' ∧
      Lays shape ws (fill.word shape w).2 done ws' [w] := by
  by_cases hne : ws = []
  · subst hne
    obtain ⟨hnext, hout⟩ := Fill.word_of_start h hw
    refine ⟨[], [w], hnext, ?_, by simp, rfl, rfl, .singleton _, fun hne => absurd rfl hne, by simp⟩
    rw [hout]
    rfl
  by_cases hfull : shape.width < (List.intercalate [' '] ws).length + 1 + w.length
  · obtain ⟨hnext, hout⟩ := Fill.word_of_full h hne hw hfull
    refine ⟨[.running ws], [w], hnext, ?_, ?_, ?_, rfl, ?_, ?_, by simp⟩
    · simp [hout, openText, hne, linesText]
    · intro line hline
      obtain rfl := List.mem_singleton.mp hline
      exact h.fits hne
    · simp [Line.runningWords]
    · exact .cons_cons hfull (.singleton _)
    · exact fun _ => ⟨[], [.running [w]], by simp⟩
  · obtain ⟨hnext, hout⟩ := Fill.word_of_fits h hne hw (Nat.not_lt.mp hfull)
    exact ⟨[], ws ++ [w], hnext, hout, by simp, rfl, rfl, .singleton _, fun _ => ⟨[w], [], rfl⟩,
      by simp⟩

theorem Fill.exists_lays_words {fill : Fill} {ws : List (List Char)} (h : fill.Holds shape ws)
    {vs : List (List Char)} (hvs : ∀ v ∈ vs, IsWord v) :
    ∃ done ws', (fill.words shape vs).1.Holds shape ws' ∧
      Lays shape ws (fill.words shape vs).2 done ws' vs := by
  induction vs generalizing fill ws with
  | nil => exact ⟨[], ws, h, Lays.refl ws⟩
  | cons v vs ih =>
    obtain ⟨done, ws', hnext, hlays⟩ := Fill.exists_lays_word h (hvs v List.mem_cons_self)
    obtain ⟨more, ws'', hlast, hrest⟩ := ih hnext fun u hu => hvs u (List.mem_cons_of_mem _ hu)
    exact ⟨done ++ more, ws'', hlast, hlays.trans hrest⟩

theorem Fill.holds_printed {fill : Fill} {ws : List (List Char)} (h : fill.Holds shape ws) :
    ({ fill with printed := true } : Fill).Holds shape ws := ⟨h.column, h.gap, h.fits⟩

theorem Fill.exists_lays_text {fill : Fill} {ws : List (List Char)} (h : fill.Holds shape ws)
    (line : List Char) :
    ∃ done ws', (fill.text shape line).1.Holds shape ws' ∧
      Lays shape ws (fill.text shape line).2 done ws' (Text.words (convertQuotes line)) := by
  obtain ⟨done, ws', hnext, hlays⟩ :=
    Fill.exists_lays_words (Fill.holds_printed h) fun w (hw : w ∈ Text.words (convertQuotes line)) =>
      isWord_of_mem_words hw
  unfold Fill.text
  split
  · -- a gap sets the text apart from what was written, at the beginning of a line
    rename_i hcol
    obtain rfl := h.column_eq_zero_iff.mp hcol.1
    exact ⟨.gap :: done, ws', hnext, Lays.gap.trans hlays⟩
  · exact ⟨done, ws', hnext, hlays⟩

theorem Fill.exists_lays_texts {fill : Fill} {ws : List (List Char)} (h : fill.Holds shape ws)
    (lines : List (List Char)) :
    ∃ done ws', (fill.texts shape lines).1.Holds shape ws' ∧
      Lays shape ws (fill.texts shape lines).2 done ws'
        (lines.flatMap fun l => Text.words (convertQuotes l)) := by
  induction lines generalizing fill ws with
  | nil => exact ⟨[], ws, h, Lays.refl ws⟩
  | cons line lines ih =>
    obtain ⟨done, ws', hnext, hlays⟩ := Fill.exists_lays_text h line
    obtain ⟨more, ws'', hlast, hrest⟩ := ih hnext
    exact ⟨done ++ more, ws'', hlast, hlays.trans hrest⟩

/-- The line that ends with these words, if any. -/
def lineOf (ws : List (List Char)) : List Line := if ws = [] then [] else [.running ws]

/-- Ending the current line leaves an empty one. -/
theorem Fill.flush_holds {fill : Fill} {ws : List (List Char)} (h : fill.Holds shape ws) :
    fill.flush.1.Holds shape [] ∧ openText shape ws ++ fill.flush.2 = linesText shape (lineOf ws) := by
  unfold Fill.flush
  split
  · rename_i hcol
    obtain rfl := h.column_eq_zero_iff.mp hcol
    exact ⟨h, rfl⟩
  · rename_i hcol
    have hne : ws ≠ [] := fun hnil => hcol (h.column_eq_zero_iff.mpr hnil)
    exact ⟨⟨rfl, rfl, fun hnil => absurd rfl hnil⟩, by simp [openText, hne, lineOf, linesText]⟩

/-! ## Blocks -/

/-- The words of a paragraph or a heading. -/
def Block.runningWords : Block → List (List Char)
  | .para lines => lines.flatMap fun l => words (convertQuotes l)
  | .heading title => words (convertQuotes title)
  | .pre _ => []

/-- The lines of a preformatted block. -/
def Block.verbatimLines : Block → List (List Char)
  | .pre lines => lines
  | _ => []

/-- A group of lines is a block laid out: its words on running lines that fit and are ended only where
the next word does not, or its lines verbatim. -/
structure Laid (shape : Shape) (b : Block) (lines : List Line) : Prop where
  words : lines.flatMap Line.runningWords = b.runningWords
  verbatim : lines.flatMap Line.verbatimText = b.verbatimLines
  fits : ∀ line ∈ lines, line.Fits shape.width
  breaks : List.IsChain (Line.Breaks shape.width) lines

/-- Words that were written are a block laid out once the current line is ended. -/
theorem Lays.laid {b : Block} {ws : List (List Char)} {out : List Char} {done : List Line}
    (h : Lays shape [] out done ws b.runningWords) (hb : b.verbatimLines = [])
    (hfits : ws ≠ [] → (Line.running ws).Fits shape.width) : Laid shape b (done ++ lineOf ws) := by
  have hwords : done.flatMap Line.runningWords ++ ws = b.runningWords := h.words
  by_cases hnil : ws = []
  · rw [lineOf, if_pos hnil, List.append_nil]
    refine ⟨?_, by rw [h.verbatim, hb], h.fits, (List.isChain_append.mp h.breaks).1⟩
    rw [← hwords, hnil, List.append_nil]
  · rw [lineOf, if_neg hnil]
    refine ⟨?_, ?_, ?_, h.breaks⟩
    · rw [← hwords, List.flatMap_append]
      simp [Line.runningWords]
    · rw [List.flatMap_append, h.verbatim, hb]
      rfl
    · intro line hline
      rcases List.mem_append.mp hline with hline | hline
      · exact h.fits line hline
      · exact List.mem_singleton.mp hline ▸ hfits hnil

/-- **One block** makes a group of lines, and begins and ends at the beginning of a line. -/
theorem Fill.exists_laid_block {fill : Fill} (h : fill.Holds shape []) (b : Block) :
    ∃ lines, (fill.block shape b).1.Holds shape [] ∧
      (fill.block shape b).2 = linesText shape lines ∧ Laid shape b lines := by
  cases b with
  | para texts =>
    obtain ⟨done, ws, hnext, hlays⟩ := Fill.exists_lays_texts h texts
    obtain ⟨hend, hflush⟩ := Fill.flush_holds hnext
    refine ⟨done ++ lineOf ws, hend, ?_, hlays.laid rfl hnext.fits⟩
    have htext : (fill.texts shape texts).2 = linesText shape done ++ openText shape ws := hlays.text
    rw [linesText_append, ← hflush, ← List.append_assoc, ← htext]
    rfl
  | heading title =>
    obtain ⟨done, ws, hnext, hlays⟩ := Fill.exists_lays_text h title
    obtain ⟨hend, hflush⟩ := Fill.flush_holds hnext
    refine ⟨.gap :: done ++ lineOf ws, hend, ?_, (Lays.gap.trans hlays).laid rfl hnext.fits⟩
    have htext : (fill.text shape title).2 = linesText shape done ++ openText shape ws := hlays.text
    rw [linesText_append, ← hflush, ← List.append_assoc]
    change '\n' :: ((fill.text shape title).2 ++ _) = '\n' :: (linesText shape done ++ _) ++ _
    rw [htext]
    rfl
  | pre texts =>
    refine ⟨.gap :: texts.map .verbatim, Fill.holds_printed h, ?_, ?_, ?_, ?_, ?_⟩
    · simp only [Fill.block, linesText, List.flatMap_cons, List.flatMap_map, Line.chars]
      rfl
    · simp [Line.runningWords, Block.runningWords, List.flatMap_map]
    · simp [Line.verbatimText, Block.verbatimLines, List.flatMap_map]
    · simp [Line.Fits]
    · have hpairs : (texts.map Line.verbatim).Pairwise (Line.Breaks shape.width) := by
        rw [List.pairwise_map]
        exact List.pairwise_of_forall fun _ _ => trivial
      exact hpairs.isChain.cons fun _ _ => Line.breaks_gap _ _

theorem Fill.exists_laid_blocks {fill : Fill} (h : fill.Holds shape []) (blocks : List Block) :
    ∃ groups, fill.blocks shape blocks = linesText shape groups.flatten ∧
      List.Forall₂ (Laid shape) blocks groups := by
  induction blocks generalizing fill with
  | nil => exact ⟨[], rfl, .nil⟩
  | cons b blocks ih =>
    obtain ⟨lines, hnext, htext, hlaid⟩ := Fill.exists_laid_block h b
    obtain ⟨groups, hrest, hgroups⟩ := ih hnext
    refine ⟨lines :: groups, ?_, .cons hlaid hgroups⟩
    rw [Fill.blocks, List.flatten_cons, linesText_append, ← htext, ← hrest]

/-- **Every layout is made of lines**, a group for each block, and running lines fit. -/
theorem exists_laid_lines (shape : Shape) (blocks : List Block) :
    ∃ groups, layout shape blocks = linesText shape groups.flatten ∧
      List.Forall₂ (Laid shape) blocks groups :=
  Fill.exists_laid_blocks ⟨rfl, rfl, fun hnil => absurd rfl hnil⟩ blocks

theorem fits_of_mem_flatten {blocks : List Block} {groups : List (List Line)}
    (h : List.Forall₂ (Laid shape) blocks groups) {line : Line} (hline : line ∈ groups.flatten) :
    line.Fits shape.width := by
  induction h with
  | nil => cases hline
  | cons hlaid _ ih =>
    rcases List.mem_append.mp hline with hline | hline
    · exact hlaid.fits line hline
    · exact ih hline

end

end DocPress.Comment
