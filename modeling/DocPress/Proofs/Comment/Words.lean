import DocPress.Comment.Renderer
import DocPress.Proofs.Comment.Indentation
import DocPress.Proofs.Comment.Layout
import DocPress.Proofs.Text.Replace
import Mathlib.Data.List.TakeWhile

/-!
# Words of plain comments

A plain comment goes through lines, two rounds of unindenting, blocks and the layout, and none of
them touches a word but for its quotes.

* `convertQuotes_append`, `convertQuotes_append_left` — quotes are converted in parts.
* `blocksFrom_shownWords` — the blocks of some lines show the words of these lines, in order.
* `curled` — a comment with the quotes of its running text converted.

Principal result: `words_text_eq_words_curled` — the words of the rendered text.
-/

namespace DocPress.Comment

open DocPress.Text

/-! ## Quotes -/

/-- Whether a character may belong to a quote digraph. -/
def isQuoteChar (c : Char) : Bool := c == '\x60' || c == '\x27'

theorem isQuoteChar_of_isWhite {c : Char} (h : isWhite c = true) : isQuoteChar c = false := by
  rw [isQuoteChar, Bool.or_eq_false_iff, beq_eq_false_iff_ne, beq_eq_false_iff_ne]
  constructor
  · rintro rfl
    exact absurd h (by decide)
  · rintro rfl
    exact absurd h (by decide)

theorem not_mem_of_isQuoteChar {s : List Char} (h : ∀ c ∈ s, isQuoteChar c = false) :
    '\x60' ∉ s ∧ '\x27' ∉ s :=
  ⟨fun hc => absurd (h _ hc) (by decide), fun hc => absurd (h _ hc) (by decide)⟩

/-- A text without quote characters is kept, whatever follows. -/
theorem convertQuotes_append_left {a : List Char} (ha : ∀ c ∈ a, isQuoteChar c = false)
    (t : List Char) : convertQuotes (a ++ t) = a ++ convertQuotes t := by
  obtain ⟨hback, happ⟩ := not_mem_of_isQuoteChar ha
  unfold convertQuotes
  rw [show "\x60\x60".toList = ['\x60', '\x60'] from rfl,
    show "''".toList = ['\x27', '\x27'] from rfl]
  rw [replaceAll_append_of_head hback, replaceAll_append_of_head happ]

/-- **Quotes are converted in parts**: no digraph reaches across a place before a character that is
no quote. -/
theorem convertQuotes_append {t : List Char} (ht : ∀ c ∈ t.head?, isQuoteChar c = false)
    (s : List Char) : convertQuotes (s ++ t) = convertQuotes s ++ convertQuotes t := by
  cases t with
  | nil => simp [show convertQuotes [] = [] from rfl]
  | cons c t =>
    have hc := ht c rfl
    rw [isQuoteChar, Bool.or_eq_false_iff, beq_eq_false_iff_ne, beq_eq_false_iff_ne] at hc
    obtain ⟨hback, happ⟩ := hc
    unfold convertQuotes
    rw [show "\x60\x60".toList = ['\x60', '\x60'] from rfl,
      show "''".toList = ['\x27', '\x27'] from rfl]
    have hfirst : ¬ ['\x60', '\x60'] <+: c :: t := by
      rw [List.cons_prefix_cons]
      exact fun h => hback h.1.symm
    rw [replaceAll_append (by simp [hback]), replaceAll_cons hfirst, replaceAll_append (by simp [happ])]

theorem convertQuotes_nil : convertQuotes [] = [] := rfl

theorem convertQuotes_blank {b : List Char} (hb : isBlank b = true) : convertQuotes b = b := by
  have h := convertQuotes_append_left (a := b)
    (fun c hc => isQuoteChar_of_isWhite (List.all_eq_true.mp hb c hc)) []
  rwa [List.append_nil, convertQuotes_nil, List.append_nil] at h

/-- A text that begins with no white space begins with none once a pattern is replaced by a character
that is none. -/
theorem exists_replaceAll_eq_cons {pattern : List Char} {r c : Char} (hr : isWhite r = false)
    (hc : isWhite c = false) (t : List Char) :
    ∃ d u, replaceAll pattern [r] (c :: t) = d :: u ∧ isWhite d = false := by
  rw [replaceAll, replaceFrom]
  split
  · exact ⟨r, _, rfl, hr⟩
  · exact ⟨c, _, rfl, hc⟩

theorem isBlank_convertQuotes (s : List Char) : isBlank (convertQuotes s) = isBlank s := by
  cases hs : isBlank s with
  | true => rw [convertQuotes_blank hs, hs]
  | false =>
    -- the first character that is not white stays or becomes a quote
    obtain ⟨b, c, t, rfl, hb, hc⟩ := exists_eq_append_of_not_isBlank hs
    have hb' : ∀ x ∈ b, isQuoteChar x = false := fun x hx =>
      isQuoteChar_of_isWhite (List.all_eq_true.mp hb x hx)
    obtain ⟨d, u, hfirst, hd⟩ :=
      @exists_replaceAll_eq_cons "\x60\x60".toList '\u201C' c (by decide) hc t
    obtain ⟨e, v, hsecond, he⟩ :=
      @exists_replaceAll_eq_cons "''".toList '\u201D' d (by decide) hd u
    rw [convertQuotes_append_left hb', convertQuotes, hfirst, hsecond, isBlank_append, isBlank_cons,
      he, Bool.false_and, Bool.and_false]

theorem words_convertQuotes_eq_nil_iff {s : List Char} :
    words (convertQuotes s) = [] ↔ isBlank s = true := by
  rw [words_eq_nil_iff, isBlank_convertQuotes]

theorem words_convertQuotes_blank_append {b : List Char} (hb : isBlank b = true) (s : List Char) :
    words (convertQuotes (b ++ s)) = words (convertQuotes s) := by
  rw [convertQuotes_append_left
    (fun c hc => isQuoteChar_of_isWhite (List.all_eq_true.mp hb c hc)), words_blank_append hb]

theorem words_convertQuotes_append_blank {b : List Char} (hb : isBlank b = true) (s : List Char) :
    words (convertQuotes (s ++ b)) = words (convertQuotes s) := by
  have hhead : ∀ c ∈ b.head?, isQuoteChar c = false := fun c hc =>
    isQuoteChar_of_isWhite (List.all_eq_true.mp hb c (List.mem_of_head? hc))
  rw [convertQuotes_append hhead, convertQuotes_blank hb, words_append_blank hb]

/-- A text is its trimmed form between white space. -/
theorem exists_eq_trim (s : List Char) :
    ∃ b b', isBlank b = true ∧ isBlank b' = true ∧ s = b ++ (trim s ++ b') := by
  have hend : ∀ t : List Char, ∃ b', isBlank b' = true ∧ t = trimEnd t ++ b' := by
    intro t
    refine ⟨(t.reverse.takeWhile isWhite).reverse, ?_, ?_⟩
    · simp [isBlank]
    · rw [trimEnd, dropEndWhile, ← List.reverse_append, List.takeWhile_append_dropWhile,
        List.reverse_reverse]
  obtain ⟨b', hb', htrim⟩ := hend (trimStart s)
  refine ⟨s.takeWhile isWhite, b', by simp [isBlank], hb', ?_⟩
  rw [trim, ← htrim, trimStart, List.takeWhile_append_dropWhile]

theorem words_convertQuotes_trim (s : List Char) :
    words (convertQuotes (trim s)) = words (convertQuotes s) := by
  obtain ⟨b, b', hb, hb', hs⟩ := exists_eq_trim s
  calc words (convertQuotes (trim s))
      = words (convertQuotes (b ++ (trim s ++ b'))) := by
        rw [words_convertQuotes_blank_append hb, words_convertQuotes_append_blank hb']
    _ = words (convertQuotes s) := by rw [← hs]

/-! ## Blocks -/

/-- The words that a line shows when only its own indentation decides whether it is preformatted. -/
def lineWords (l : List Char) : List (List Char) :=
  if isIndented l then words l else words (convertQuotes l)

theorem lineWords_blank {l : List Char} (h : isBlank l = true) : lineWords l = [] := by
  rw [lineWords, convertQuotes_blank h, words_blank h]
  exact ite_self _

theorem closePara_shownWords (para : List (List Char)) :
    (Plain.closePara para).flatMap Block.shownWords =
      para.reverse.flatMap fun l => words (convertQuotes l) := by
  unfold Plain.closePara
  split
  · rename_i hempty
    rw [List.isEmpty_iff.mp hempty]
    rfl
  · simp [Block.shownWords]

/-- Taking away the common indentation of a line touches none of its words. -/
theorem words_drop_commonIndent {ls : List (List Char)} {l : List Char} (hl : l ∈ ls)
    (hblank : isBlank l = false) : words (l.drop (commonIndent ls).length) = words l := by
  obtain ⟨w, hw, hline⟩ := exists_eq_append_drop hl hblank
  calc words (l.drop (commonIndent ls).length)
      = words (w ++ l.drop (commonIndent ls).length) := (words_blank_append hw _).symm
    _ = words l := by rw [← hline]

theorem words_convertQuotes_drop_commonIndent {ls : List (List Char)} {l : List Char}
    (hl : l ∈ ls) (hblank : isBlank l = false) :
    words (convertQuotes (l.drop (commonIndent ls).length)) = words (convertQuotes l) := by
  obtain ⟨w, hw, hline⟩ := exists_eq_append_drop hl hblank
  calc words (convertQuotes (l.drop (commonIndent ls).length))
      = words (convertQuotes (w ++ l.drop (commonIndent ls).length)) :=
        (words_convertQuotes_blank_append hw _).symm
    _ = words (convertQuotes l) := by rw [← hline]

/-- Taking away the common indentation touches no word. -/
theorem flatMap_words_unindent (ls : List (List Char)) :
    (unindent ls).flatMap words = ls.flatMap words := by
  rw [unindent, List.flatMap_map]
  refine List.flatMap_congr fun l hl => ?_
  cases hblank : isBlank l with
  | true => rw [if_pos rfl, words_nil, words_blank hblank]
  | false => exact words_drop_commonIndent hl hblank

/-- **A preformatted run** is a beginning of the lines and holds blank and indented lines only. -/
theorem preRun_spec (ls : List (List Char)) :
    Plain.preRun ls <+: ls ∧ ∀ l ∈ Plain.preRun ls, isBlank l = true ∨ isIndented l = true := by
  have hrun : Plain.preRun ls <+: ls.takeWhile fun l => isBlank l || isIndented l := by
    rw [Plain.preRun, Plain.dropEndBlanks, ← List.reverse_suffix, List.reverse_reverse]
    exact List.dropWhile_suffix _
  refine ⟨hrun.trans (List.takeWhile_prefix _), fun l hl => ?_⟩
  have hall := List.all_eq_true.mp (List.all_takeWhile (l := ls) ..) l (hrun.subset hl)
  simpa using hall

theorem preRun_ne_nil {line : List Char} (hblank : isBlank line = false)
    (hind : isIndented line = true) (rest : List (List Char)) :
    Plain.preRun (line :: rest) ≠ [] := by
  intro hnil
  rw [Plain.preRun, Plain.dropEndBlanks, List.reverse_eq_nil_iff, List.dropWhile_eq_nil_iff] at hnil
  have := hnil line (by simp [hind])
  rw [hblank] at this
  cases this

/-- What follows a preformatted run is what the blocks go on with. -/
theorem preRun_append_drop {line : List Char} (hblank : isBlank line = false)
    (hind : isIndented line = true) (rest : List (List Char)) :
    Plain.preRun (line :: rest) ++ rest.drop ((Plain.preRun (line :: rest)).length - 1) =
      line :: rest := by
  obtain ⟨after, hafter⟩ := (preRun_spec (line :: rest)).1
  rw [drop_length_sub_one (preRun_ne_nil hblank hind rest) hafter, hafter]

theorem title?_eq_some {line title : List Char} (h : title? line = some title) :
    title = trim line := by
  simp only [title?] at h
  split at h
  · exact (Option.some.inj h).symm
  · cases h

/-- **A heading** is its line, trimmed, and a blank line follows it. -/
theorem headingAt?_eq_some {flow : Plain.Flow} {line title : List Char} {rest : List (List Char)}
    (h : Plain.headingAt? flow line rest = some title) :
    title = trim line ∧ ∃ blank more, rest = blank :: more ∧ isBlank blank = true := by
  unfold Plain.headingAt? at h
  split at h
  · rename_i blank next more
    split at h
    · rename_i hcond
      simp only [Bool.and_eq_true] at hcond
      exact ⟨title?_eq_some h, blank, next :: more, rfl, hcond.1.1.2⟩
    · cases h
  · cases h

/-- **The blocks of some lines show the words of these lines, in order**, after those of the open
paragraph. -/
theorem blocksFrom_shownWords (flow : Plain.Flow) (ls : List (List Char)) :
    (Plain.blocksFrom flow ls).flatMap Block.shownWords =
      (flow.para.reverse.flatMap fun l => words (convertQuotes l)) ++ ls.flatMap lineWords := by
  fun_induction Plain.blocksFrom flow ls with
  | case1 flow => rw [closePara_shownWords]; simp
  | case2 flow line rest hblank ih =>
    rw [List.flatMap_append, closePara_shownWords, ih, List.flatMap_cons, lineWords_blank hblank]
    rfl
  | case3 flow line rest hblank hind run ih =>
    have hcut := preRun_append_drop (by simpa using hblank) hind rest
    have hrun : run.flatMap words = run.flatMap lineWords := by
      refine List.flatMap_congr fun l hl => ?_
      rcases (preRun_spec (line :: rest)).2 l hl with h | h
      · rw [lineWords_blank h, words_blank h]
      · rw [lineWords, if_pos h]
    rw [List.flatMap_append, closePara_shownWords, List.flatMap_cons, ih, Block.shownWords,
      flatMap_words_unindent, hrun]
    simp only [List.reverse_nil, List.flatMap_nil, List.nil_append]
    rw [← List.flatMap_append, hcut]
  | case4 flow line rest hblank hind title htitle ih =>
    obtain ⟨rfl, blank, more, rfl, hblank'⟩ := headingAt?_eq_some htitle
    rw [List.flatMap_append, closePara_shownWords, List.flatMap_cons, ih, Block.shownWords,
      words_convertQuotes_trim, List.flatMap_cons, List.flatMap_cons, lineWords_blank hblank',
      lineWords, if_neg hind]
    rfl
  | case5 flow line rest hblank hind htitle ih =>
    rw [ih, List.flatMap_cons, lineWords, if_neg hind]
    simp

/-! ## Whole comments -/

/-- The lines, each with its quotes converted unless it is preformatted. -/
def curlLines (ls : List (List Char)) : List (List Char) :=
  ls.map fun l => if isPreformatted ls l then l else convertQuotes l

/-- A comment with the quotes of its running text converted. -/
def curled (comment : List Char) : List Char :=
  ['\n'].intercalate (curlLines (comment.splitOn '\n'))

/-- Taking away the common indentation leaves each line the words that it shows. -/
theorem flatMap_lineWords_unindent (ls : List (List Char)) :
    (unindent ls).flatMap lineWords = (curlLines ls).flatMap words := by
  rw [unindent, curlLines, List.flatMap_map, List.flatMap_map]
  refine List.flatMap_congr fun l hl => ?_
  cases hblank : isBlank l with
  | true =>
    rw [convertQuotes_blank hblank, ite_self, words_blank hblank]
    rfl
  | false =>
    rw [if_neg (by simp), lineWords, isIndented_drop hl hblank]
    split
    · exact words_drop_commonIndent hl hblank
    · exact words_convertQuotes_drop_commonIndent hl hblank

theorem commonIndent_lines (comment : List Char) :
    commonIndent (lines comment) = commonIndent (comment.splitOn '\n') := by
  refine commonIndent_congr (flatMap_lines (fun l => ?_) rfl comment)
  rw [isBlank_dropReturn, indentOf_dropReturn]

theorem words_convertQuotes_dropReturn (l : List Char) :
    words (convertQuotes (dropReturn l)) = words (convertQuotes l) := by
  obtain ⟨w, hw, hl⟩ := exists_eq_dropReturn l
  calc words (convertQuotes (dropReturn l))
      = words (convertQuotes (dropReturn l ++ w)) := (words_convertQuotes_append_blank hw _).symm
    _ = words (convertQuotes l) := by rw [← hl]

/-- **The blocks of a comment show its words**, with the quotes of its running text converted. -/
theorem shownWords_blocks (comment : List Char) :
    (Plain.blocks comment).flatMap Block.shownWords = words (curled comment) := by
  rw [Plain.blocks, blocksFrom_shownWords, flatMap_lineWords_unindent, curled, words_intercalate,
    curlLines, curlLines, List.flatMap_map, List.flatMap_map]
  simp only [isPreformatted, commonIndent_lines, List.reverse_nil, List.flatMap_nil,
    List.nil_append]
  refine flatMap_lines (fun l => ?_) rfl comment
  rw [isBlank_dropReturn, indentOf_dropReturn]
  split
  · exact words_dropReturn l
  · exact words_convertQuotes_dropReturn l

theorem Renderer.shape_blank (r : Renderer) : r.shape.Blank :=
  ⟨by simp [Renderer.shape, isBlank, isWhite_space], by show isBlank ['\t'] = true; decide⟩

/-- A comment without digraphs has no quotes to convert. -/
theorem curled_eq_self {comment : List Char} (hback : ¬ "\x60\x60".toList <:+: comment)
    (happ : ¬ "''".toList <:+: comment) : curled comment = comment := by
  have hlines : curlLines (comment.splitOn '\n') = comment.splitOn '\n' := by
    rw [curlLines]
    refine (List.map_congr_left fun l hl => ?_).trans (List.map_id _)
    have hinfix := infix_of_mem_splitOn hl
    have hconv : convertQuotes l = l := by
      rw [convertQuotes, replaceAll_eq_self (fun h => hback (h.trans hinfix)),
        replaceAll_eq_self (fun h => happ (h.trans hinfix))]
    rw [hconv, ite_self]
    rfl
  rw [curled, hlines, List.intercalate_splitOn]

/-- **Rendering a plain comment as text loses, doubles and moves no word**, for every indentation
and width: the words of the text are those of the comment with the quotes of its running text
converted, and those of the comment itself if it holds no digraph. -/
theorem words_text_eq_words_curled (indent width : Nat) (comment : String) :
    words ((Renderer.mk .plain indent width).text comment).toList = words (curled comment.toList) ∧
    (¬ "\x60\x60".toList <:+: comment.toList → ¬ "''".toList <:+: comment.toList →
      words ((Renderer.mk .plain indent width).text comment).toList = words comment.toList) := by
  have hwords : words ((Renderer.mk .plain indent width).text comment).toList =
      words (curled comment.toList) := by
    rw [Renderer.text, String.toList_ofList, Markup.text, words_layout (Renderer.shape_blank _),
      Markup.blocks, shownWords_blocks]
  refine ⟨hwords, fun hback happ => ?_⟩
  rw [hwords, curled_eq_self hback happ]

end DocPress.Comment
