import DocPress.Proofs.Comment.Words

/-!
# Passages of plain comments

The blocks of a comment do not say which lines they come from. A passage does: it is a blank line, or
the lines behind one block.

* `Passage` — a stretch of lines; `Passage.lines`, `Passage.block?` — its lines and its block.
* `passagesFrom` — the passages of the lines from a place on, cut as `blocksFrom` cuts them.
* `SetOff` — what stands before a heading; `Passage.Fits` — a passage between those before and those
  after it; `Sound` — each of a list of passages fits.
* `Flow.After` — what the flags of the flow say of the passages before a place.

Principal results: `flatMap_lines_passagesFrom` — every line is in exactly one passage;
`filterMap_block?_passagesFrom` — the blocks of the passages are those of the comment;
`sound_passagesFrom` — each passage fits.
-/

namespace DocPress.Comment.Plain

open DocPress.Text

/-! ## Passages -/

/-- A stretch of the lines of a comment: a blank line or the lines of one block. -/
inductive Passage where
  | blank (line : List Char)
  | para (lines : List (List Char))
  /-- A heading, with the blank line that follows it. -/
  | heading (line gap : List Char)
  | pre (run : List (List Char))
  deriving DecidableEq, Repr

/-- The lines of a passage. -/
def Passage.lines : Passage → List (List Char)
  | .blank line => [line]
  | .para lines => lines
  | .heading line gap => [line, gap]
  | .pre run => run

/-- The block that a passage makes. -/
def Passage.block? : Passage → Option Block
  | .blank _ => none
  | .para lines => some (.para lines)
  | .heading line _ => some (.heading (trim line))
  | .pre run => some (.pre (unindent run))

/-- The open paragraph as a passage, if there is one. -/
def closePassage (para : List (List Char)) : List Passage :=
  if para.isEmpty then [] else [.para para.reverse]

/-- The passages of the lines from a place on. -/
def passagesFrom (flow : Flow) (lines : List (List Char)) : List Passage :=
  match lines with
  | [] => closePassage flow.para
  | line :: rest =>
    if isBlank line then
      closePassage flow.para ++ .blank line ::
        passagesFrom { flow with para := [], afterBlank := true } rest
    else if isIndented line then
      let run := preRun (line :: rest)
      closePassage flow.para ++ .pre run ::
        passagesFrom { flow with para := [], afterHeading := false } (rest.drop (run.length - 1))
    else
      match headingAt? flow line rest with
      | some _ =>
        closePassage flow.para ++ .heading line (rest.headD []) ::
          passagesFrom { flow with para := [], afterHeading := true } (rest.drop 1)
      | none =>
        passagesFrom { para := line :: flow.para, afterBlank := false, afterHeading := false } rest
termination_by lines.length
decreasing_by
  · simp
  · simp only [List.length_drop, List.length_cons]; omega
  · simp only [List.length_drop, List.length_cons]; omega
  · simp

/-- The passages of a comment, whose lines have lost their common indentation. -/
def passages (comment : List Char) : List Passage := passagesFrom {} (unindent (Text.lines comment))

theorem lines_closePassage (para : List (List Char)) :
    (closePassage para).flatMap Passage.lines = para.reverse := by
  unfold closePassage
  split
  · rename_i hempty
    rw [List.isEmpty_iff.mp hempty]
    rfl
  · simp [Passage.lines]

theorem block?_closePassage (para : List (List Char)) :
    (closePassage para).filterMap Passage.block? = closePara para := by
  unfold closePassage closePara
  split <;> rfl

/-- **A line is a heading** exactly if it reads like one, follows a blank line and no heading by the
flags, and is followed by a blank line and unindented text. -/
theorem headingAt?_eq_some_iff {flow : Flow} {line title : List Char} {rest : List (List Char)} :
    headingAt? flow line rest = some title ↔
      flow.afterBlank = true ∧ flow.afterHeading = false ∧ title? line = some title ∧
      ∃ blank next more, rest = blank :: next :: more ∧ isBlank blank = true ∧
        isBlank next = false ∧ isIndented next = false := by
  unfold headingAt?
  split
  · rename_i blank next more
    constructor
    · intro h
      split at h
      · rename_i hcond
        simp only [Bool.and_eq_true, Bool.not_eq_true'] at hcond
        obtain ⟨⟨⟨⟨hafter, hheading⟩, hblank⟩, hnext⟩, hind⟩ := hcond
        exact ⟨hafter, hheading, h, blank, next, more, rfl, hblank, hnext, hind⟩
      · cases h
    · rintro ⟨hafter, hheading, htitle, b, n, m, hrest, hblank, hnext, hind⟩
      cases hrest
      rw [if_pos (by simp [hafter, hheading, hblank, hnext, hind]), htitle]
  · rename_i hshort
    simp only [reduceCtorEq, false_iff, not_and, not_exists]
    rintro - - - blank next more rfl
    exact absurd rfl (hshort blank next more)

/-- **Every line is in exactly one passage**, in order. -/
theorem flatMap_lines_passagesFrom (flow : Flow) (ls : List (List Char)) :
    (passagesFrom flow ls).flatMap Passage.lines = flow.para.reverse ++ ls := by
  fun_induction passagesFrom flow ls with
  | case1 flow => rw [lines_closePassage, List.append_nil]
  | case2 flow line rest hblank ih =>
    rw [List.flatMap_append, lines_closePassage, List.flatMap_cons, ih]
    rfl
  | case3 flow line rest hblank hind run ih =>
    rw [List.flatMap_append, lines_closePassage, List.flatMap_cons, ih, Passage.lines,
      List.reverse_nil, List.nil_append, preRun_append_drop (by simpa using hblank) hind rest]
  | case4 flow line rest hblank hind title htitle ih =>
    obtain ⟨-, -, -, blank, next, more, rfl, -⟩ := headingAt?_eq_some_iff.mp htitle
    rw [List.flatMap_append, lines_closePassage, List.flatMap_cons, ih]
    rfl
  | case5 flow line rest hblank hind htitle ih =>
    rw [ih, List.reverse_cons, List.append_assoc]
    rfl

/-- **The blocks of the passages are those of the comment.** -/
theorem filterMap_block?_passagesFrom (flow : Flow) (ls : List (List Char)) :
    (passagesFrom flow ls).filterMap Passage.block? = blocksFrom flow ls := by
  fun_induction passagesFrom flow ls with
  | case1 flow => rw [block?_closePassage, blocksFrom]
  | case2 flow line rest hblank ih =>
    rw [List.filterMap_append, block?_closePassage, blocksFrom, if_pos hblank, ← ih]
    rfl
  | case3 flow line rest hblank hind run ih =>
    rw [List.filterMap_append, block?_closePassage, blocksFrom, if_neg hblank, if_pos hind]
    simp only [List.filterMap_cons, Passage.block?]
    rw [← ih]
  | case4 flow line rest hblank hind title htitle ih =>
    obtain rfl := (headingAt?_eq_some htitle).1
    rw [List.filterMap_append, block?_closePassage, blocksFrom, if_neg hblank, if_neg hind, htitle,
      ← ih]
    rfl
  | case5 flow line rest hblank hind htitle ih =>
    rw [ih, blocksFrom, if_neg hblank, if_neg hind, htitle]

/-! ## Preformatted runs -/

/-- A preformatted run holds blank and indented lines, and begins and ends with text. -/
structure IsRun (run : List (List Char)) : Prop where
  lines : ∀ l ∈ run, isBlank l = true ∨ isIndented l = true
  first : ∃ l, run.head? = some l ∧ isBlank l = false
  last : ∃ l, run.getLast? = some l ∧ isBlank l = false

theorem head?_dropWhile_eq_false {α : Type} {p : α → Bool} {xs : List α} {x : α}
    (h : x ∈ (xs.dropWhile p).head?) : p x = false := by
  have hnot := List.head?_dropWhile_not p xs
  rw [h] at hnot
  exact hnot

/-- Taking the blank lines from the end leaves text there, and they are all that is taken. -/
theorem dropEndBlanks_spec (ls : List (List Char)) :
    (∀ l ∈ (dropEndBlanks ls).getLast?, isBlank l = false) ∧
    ∃ blanks, ls = dropEndBlanks ls ++ blanks ∧ ∀ l ∈ blanks, isBlank l = true := by
  constructor
  · intro l hl
    rw [dropEndBlanks, List.getLast?_reverse] at hl
    exact head?_dropWhile_eq_false hl
  · refine ⟨(ls.reverse.takeWhile isBlank).reverse, ?_, ?_⟩
    · rw [dropEndBlanks, ← List.reverse_append, List.takeWhile_append_dropWhile, List.reverse_reverse]
    · intro l hl
      exact List.all_eq_true.mp (List.all_takeWhile ..) l (List.mem_reverse.mp hl)

theorem isRun_preRun {line : List Char} (hblank : isBlank line = false)
    (hind : isIndented line = true) (rest : List (List Char)) : IsRun (preRun (line :: rest)) where
  lines := (preRun_spec (line :: rest)).2
  first := by
    obtain ⟨l, run, hrun⟩ := List.exists_cons_of_ne_nil (preRun_ne_nil hblank hind rest)
    obtain ⟨more, hmore⟩ := (preRun_spec (line :: rest)).1
    rw [hrun] at hmore ⊢
    obtain ⟨rfl, -⟩ := List.cons_eq_cons.mp hmore
    exact ⟨l, rfl, hblank⟩
  last := by
    have hne := preRun_ne_nil hblank hind rest
    refine ⟨_, List.getLast?_eq_some_getLast hne, ?_⟩
    exact (dropEndBlanks_spec _).1 _ (List.getLast?_eq_some_getLast hne)

/-- **Blank lines and then unindented text, or nothing, follow a preformatted run.** -/
theorem exists_rest_preRun {line : List Char} (hblank : isBlank line = false)
    (hind : isIndented line = true) (rest : List (List Char)) :
    ∃ blanks more, rest.drop ((preRun (line :: rest)).length - 1) = blanks ++ more ∧
      (∀ l ∈ blanks, isBlank l = true) ∧
      ∀ l ∈ more.head?, isBlank l = false ∧ isIndented l = false := by
  obtain ⟨-, blanks, hrun, hblanks⟩ :=
    dropEndBlanks_spec ((line :: rest).takeWhile fun l => isBlank l || isIndented l)
  refine ⟨blanks, (line :: rest).dropWhile fun l => isBlank l || isIndented l, ?_, hblanks,
    fun l hl => by simpa using head?_dropWhile_eq_false hl⟩
  have hcut : preRun (line :: rest) ++
      (blanks ++ (line :: rest).dropWhile fun l => isBlank l || isIndented l) = line :: rest := by
    rw [← List.append_assoc, preRun, ← hrun, List.takeWhile_append_dropWhile]
  exact List.append_cancel_left ((preRun_append_drop hblank hind rest).trans hcut.symm)

/-! ## Passages that fit -/

/-- What stands before a heading: a blank line, or a preformatted block behind one. -/
def SetOff (before : List Passage) : Prop :=
  (∃ front line, before = front ++ [.blank line]) ∨
    ∃ front line run, before = front ++ [.blank line, .pre run]

/-- A line between the passages before it and those after its blank line is a heading. -/
structure Heads (before : List Passage) (line gap : List Char) (after : List Passage) : Prop where
  title : title? line = some (trim line)
  text : isBlank line = false ∧ isIndented line = false
  gap : isBlank gap = true
  setOff : SetOff before
  first : ∀ title, (before.filterMap Passage.block?).getLast? ≠ some (.heading title)
  followed : ∃ lines more, after = .para lines :: more

/-- A passage fits between those before and those after it. -/
def Passage.Fits (before after : List Passage) : Passage → Prop
  | .blank line => isBlank line = true
  | .para lines => lines ≠ [] ∧ ∀ l ∈ lines, isBlank l = false ∧ isIndented l = false
  | .heading line gap => Heads before line gap after
  | .pre run => IsRun run ∧ ∀ lines, (after.filterMap Passage.block?).head? ≠ some (.pre lines)

/-- Each of the passages behind `before` fits. -/
def Sound (before ps : List Passage) : Prop :=
  ∀ front p back, ps = front ++ p :: back → p.Fits (before ++ front) back

theorem Sound.nil (before : List Passage) : Sound before [] := by
  intro front p back h
  simp at h

theorem Sound.cons {before ps : List Passage} {p : Passage} (hp : p.Fits before ps)
    (hps : Sound (before ++ [p]) ps) : Sound before (p :: ps) := by
  intro front q back h
  cases front with
  | nil =>
    obtain ⟨rfl, rfl⟩ := List.cons_eq_cons.mp h
    rwa [List.append_nil]
  | cons f front =>
    obtain ⟨rfl, htail⟩ := List.cons_eq_cons.mp h
    have hq := hps front q back htail
    rwa [List.append_assoc, List.singleton_append] at hq

/-- Lines of running text. -/
def AreText (lines : List (List Char)) : Prop :=
  ∀ l ∈ lines, isBlank l = false ∧ isIndented l = false

theorem Sound.closePassage_append {before ps : List Passage} {para : List (List Char)}
    (hpara : AreText para) (hps : Sound (before ++ closePassage para) ps) :
    Sound before (closePassage para ++ ps) := by
  unfold closePassage at hps ⊢
  split at hps
  · rename_i hempty
    rwa [if_pos hempty, List.nil_append, ← List.append_nil before]
  · rename_i hne
    rw [if_neg hne]
    refine Sound.cons ⟨by simpa using hne, ?_⟩ hps
    exact fun l hl => hpara l (List.mem_reverse.mp hl)

/-! ## What comes next -/

/-- An open paragraph comes first. -/
theorem exists_para_passagesFrom {flow : Flow} (h : flow.para ≠ []) (ls : List (List Char)) :
    ∃ lines more, passagesFrom flow ls = .para lines :: more := by
  fun_induction passagesFrom flow ls with
  | case1 flow => exact ⟨flow.para.reverse, [], by simp [closePassage, h]⟩
  | case2 flow line rest hblank ih => exact ⟨flow.para.reverse, _, by simp [closePassage, h]; rfl⟩
  | case3 flow line rest hblank hind run ih =>
    exact ⟨flow.para.reverse, _, by simp [closePassage, h]; rfl⟩
  | case4 flow line rest hblank hind title htitle ih =>
    exact ⟨flow.para.reverse, _, by simp [closePassage, h]; rfl⟩
  | case5 flow line rest hblank hind htitle ih => exact ih (by simp)

/-- Behind a heading, unindented text begins a paragraph. -/
theorem exists_para_afterHeading {flow : Flow} (h : flow.afterHeading = true) {line : List Char}
    (hblank : isBlank line = false) (hind : isIndented line = false) (rest : List (List Char)) :
    ∃ lines more, passagesFrom flow (line :: rest) = .para lines :: more := by
  have hnone : headingAt? flow line rest = none := by
    refine Option.eq_none_iff_forall_ne_some.mpr fun title htitle => ?_
    have hfirst := (headingAt?_eq_some_iff.mp htitle).2.1
    rw [h] at hfirst
    cases hfirst
  rw [passagesFrom, if_neg (by simp [hblank]), if_neg (by simp [hind]), hnone]
  exact exists_para_passagesFrom (by simp) rest

/-- Blank lines and unindented text do not begin with a preformatted block. -/
theorem head?_blocks_ne_pre {flow : Flow} (h : flow.para = []) {blanks more : List (List Char)}
    (hblanks : ∀ l ∈ blanks, isBlank l = true)
    (hmore : ∀ l ∈ more.head?, isBlank l = false ∧ isIndented l = false) (lines : List (List Char)) :
    ((passagesFrom flow (blanks ++ more)).filterMap Passage.block?).head? ≠ some (.pre lines) := by
  induction blanks generalizing flow with
  | nil =>
    cases more with
    | nil => simp [passagesFrom, closePassage, h]
    | cons line more =>
      obtain ⟨hblank, hind⟩ := hmore line rfl
      rw [List.nil_append, passagesFrom, if_neg (by simp [hblank]), if_neg (by simp [hind])]
      split
      · simp [closePassage, h, Passage.block?]
      · obtain ⟨ls, ps, hpara⟩ := @exists_para_passagesFrom
          { para := line :: flow.para, afterBlank := false, afterHeading := false } (by simp) more
        simp [hpara, Passage.block?]
  | cons line blanks ih =>
    rw [List.cons_append, passagesFrom, if_pos (hblanks line List.mem_cons_self)]
    simp only [closePassage, h, List.isEmpty_nil, if_true, List.nil_append, List.filterMap_cons,
      Passage.block?]
    exact ih rfl fun l hl => hblanks l (List.mem_cons_of_mem line hl)

/-! ## Runs of the flow -/

/-- What the flags of the flow say of the passages before a place and the lines behind it. -/
structure Flow.After (flow : Flow) (before : List Passage) (lines : List (List Char)) : Prop where
  para : AreText flow.para
  setOff : flow.afterBlank = true → flow.afterHeading = false → flow.para = [] ∧ SetOff before
  first : flow.afterHeading = false → flow.para = [] →
    ∀ title, (before.filterMap Passage.block?).getLast? ≠ some (.heading title)
  text : flow.afterHeading = true →
    ∃ line rest, lines = line :: rest ∧ isBlank line = false ∧ isIndented line = false
  /-- Text behind a preformatted block is not indented. -/
  pre : flow.para = [] → (∃ front run, before = front ++ [.pre run]) →
    ∀ l ∈ lines.head?, isBlank l = false → isIndented l = false

section
variable {flow : Flow} {before : List Passage} {line : List Char} {rest : List (List Char)}

/-- A heading is followed by text at once. -/
theorem Flow.After.afterHeading_eq_false (h : flow.After before (line :: rest))
    (hline : isBlank line = true ∨ isIndented line = true) : flow.afterHeading = false := by
  by_contra hne
  obtain ⟨l, more, hcons, hblank, hind⟩ := h.text (by simpa using hne)
  obtain ⟨rfl, -⟩ := List.cons_eq_cons.mp hcons
  simp [hblank, hind] at hline

theorem Flow.After.getLast?_ne_heading {ls : List (List Char)} (h : flow.After before ls)
    (hheading : flow.afterHeading = false) (title : List Char) :
    ((before ++ closePassage flow.para).filterMap Passage.block?).getLast? ≠
      some (.heading title) := by
  by_cases hpara : flow.para = []
  · simpa [closePassage, hpara] using h.first hheading hpara title
  · simp [closePassage, hpara, Passage.block?]

/-- **A blank line** closes the open paragraph and sets off what follows. -/
theorem Flow.After.blank (h : flow.After before (line :: rest)) (hblank : isBlank line = true) :
    Flow.After { flow with para := [], afterBlank := true }
      (before ++ closePassage flow.para ++ [.blank line]) rest where
  para := by simp [AreText]
  setOff := fun _ _ => ⟨rfl, .inl ⟨_, line, rfl⟩⟩
  first := by
    intro hheading _ title
    rw [List.filterMap_append]
    simpa only [List.filterMap_cons, Passage.block?, List.filterMap_nil, List.append_nil] using
      h.getLast?_ne_heading hheading title
  text := by simp [h.afterHeading_eq_false (.inl hblank)]
  pre := by
    rintro - ⟨front, run, heq⟩
    exact absurd (List.append_inj' heq rfl).2 (by simp)

/-- **A preformatted run** closes the open paragraph. It leaves the flag for blank lines as it was, so
what was set off before the run counts as set off behind it. -/
theorem Flow.After.run (h : flow.After before (line :: rest)) (hblank : isBlank line = false)
    (hind : isIndented line = true) {run after : List (List Char)}
    (hafter : ∀ l ∈ after.head?, isBlank l = false → isIndented l = false) :
    Flow.After { flow with para := [], afterHeading := false }
      (before ++ closePassage flow.para ++ [.pre run]) after where
  para := by simp [AreText]
  setOff := by
    intro hset _
    obtain ⟨hpara, hoff⟩ := h.setOff hset (h.afterHeading_eq_false (.inr hind))
    refine ⟨rfl, .inr ?_⟩
    rcases hoff with ⟨front, l, rfl⟩ | ⟨front, l, run', hbefore⟩
    · exact ⟨front, l, run, by simp [closePassage, hpara]⟩
    · -- two runs do not follow each other: the first would not have ended
      have hend := h.pre hpara ⟨front ++ [.blank l], run', by simp [hbefore]⟩ line rfl hblank
      rw [hind] at hend
      cases hend
  first := by simp [Passage.block?]
  text := by simp
  pre := fun _ _ => hafter

/-- **A heading** closes the open paragraph, and text follows it. -/
theorem Flow.After.heading {gap next : List Char} {more : List (List Char)}
    (hblank : isBlank next = false) (hind : isIndented next = false) :
    Flow.After { flow with para := [], afterHeading := true }
      (before ++ closePassage flow.para ++ [.heading line gap]) (next :: more) where
  para := by simp [AreText]
  setOff := by simp
  first := by simp
  text := fun _ => ⟨next, more, rfl, hblank, hind⟩
  pre := by
    rintro - ⟨front, run, heq⟩
    exact absurd (List.append_inj' heq rfl).2 (by simp)

/-- **A line of text** goes on with the open paragraph. -/
theorem Flow.After.text_line (h : flow.After before (line :: rest)) (hblank : isBlank line = false)
    (hind : isIndented line = false) :
    Flow.After { para := line :: flow.para, afterBlank := false, afterHeading := false } before rest
    where
  para := by
    intro l hl
    rcases List.mem_cons.mp hl with rfl | hl
    · exact ⟨hblank, hind⟩
    · exact h.para l hl
  setOff := by simp
  first := by simp
  text := by simp
  pre := by simp

end

/-- **Each passage fits**, whatever the lines are. -/
theorem sound_passagesFrom {flow : Flow} {before : List Passage} {ls : List (List Char)}
    (h : flow.After before ls) : Sound before (passagesFrom flow ls) := by
  fun_induction passagesFrom flow ls generalizing before with
  | case1 flow =>
    rw [← List.append_nil (closePassage flow.para)]
    exact Sound.closePassage_append h.para (Sound.nil _)
  | case2 flow line rest hblank ih =>
    exact Sound.closePassage_append h.para (Sound.cons hblank (ih (h.blank hblank)))
  | case3 flow line rest hblank hind run =>
    rename_i ih
    have htext : isBlank line = false := by simpa using hblank
    obtain ⟨blanks, more, hrest, hblanks, hmore⟩ := exists_rest_preRun htext hind rest
    refine Sound.closePassage_append h.para (Sound.cons ⟨isRun_preRun htext hind rest, ?_⟩ (ih ?_))
    · rw [hrest]
      exact head?_blocks_ne_pre rfl hblanks hmore
    · refine h.run htext hind fun l hl hl' => ?_
      rw [hrest] at hl
      cases blanks with
      | nil => exact (hmore l hl).2
      | cons b blanks =>
        obtain rfl : b = l := by simpa using hl
        rw [hblanks b List.mem_cons_self] at hl'
        cases hl'
  | case4 flow line rest hblank hind title htitle ih =>
    obtain ⟨hset, hfirst, htitle', gap, next, more, rfl, hgap, hnext⟩ :=
      headingAt?_eq_some_iff.mp htitle
    obtain ⟨hpara, hoff⟩ := h.setOff hset hfirst
    refine Sound.closePassage_append h.para (Sound.cons ?_ (ih (Flow.After.heading hnext.1 hnext.2)))
    refine ⟨?_, ⟨by simpa using hblank, by simpa using hind⟩, hgap, ?_, ?_, ?_⟩
    · rw [htitle', title?_eq_some htitle']
    · simpa [closePassage, hpara] using hoff
    · exact h.getLast?_ne_heading hfirst
    · exact exists_para_afterHeading rfl hnext.1 hnext.2 more
  | case5 flow line rest hblank hind htitle ih =>
    exact ih (h.text_line (by simpa using hblank) (by simpa using hind))

end DocPress.Comment.Plain
