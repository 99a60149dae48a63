import DocPress.Proofs.Comment.Passages
import DocPress.Proofs.Comment.Spans
import Mathlib.Data.List.DropRight

/-!
# The blocks of plain comments

What kind of list the blocks of a plain comment are, and where its headings come from.

* `trimmedText` — the lines that are not blank, trimmed.
* `Block.Sound` — a paragraph of running text, a heading, or preformatted lines without common
  indentation.

Principal results: `blocks_sound_and_complete` — the blocks hold all text in order, each is sound, no
two preformatted ones are neighbours, and a paragraph follows each heading;
`heading_between_blanks_unless_behind_pre` — a heading stands between blank lines, unless it stands
right behind a preformatted block that follows one; `heading_not_behind_blank` is such a heading.
-/

namespace DocPress.Comment

open DocPress.Text

/-! ## Text that is not blank -/

/-- The lines that are not blank, trimmed. -/
def trimmedText (ls : List (List Char)) : List (List Char) :=
  (ls.filter fun l => !isBlank l).map trim

theorem trimmedText_append (ls ms : List (List Char)) :
    trimmedText (ls ++ ms) = trimmedText ls ++ trimmedText ms := by
  simp [trimmedText]

theorem trimmedText_cons_of_blank {l : List Char} (h : isBlank l = true) (ls : List (List Char)) :
    trimmedText (l :: ls) = trimmedText ls := by
  simp [trimmedText, h]

theorem trimmedText_cons_of_text {l : List Char} (h : isBlank l = false) (ls : List (List Char)) :
    trimmedText (l :: ls) = trim l :: trimmedText ls := by
  simp [trimmedText, h]

theorem trim_blank_append {b : List Char} (hb : isBlank b = true) (s : List Char) :
    trim (b ++ s) = trim s := by
  rw [trim, trim, trimStart, trimStart, List.dropWhile_append_of_pos (List.all_eq_true.mp hb)]

theorem isBlank_trim (s : List Char) : isBlank (trim s) = isBlank s := by
  obtain ⟨b, b', hb, hb', hs⟩ := exists_eq_trim s
  calc isBlank (trim s)
      = isBlank (b ++ (trim s ++ b')) := by simp [isBlank_append, hb, hb']
    _ = isBlank s := by rw [← hs]

/-- A trimmed text does not begin with white space. -/
theorem isWhite_of_trim_eq_cons {s t : List Char} {c : Char} (h : trim s = c :: t) :
    isWhite c = false := by
  obtain ⟨u, hu⟩ : trim s <+: trimStart s := dropEndWhile_isPrefix isWhite (trimStart s)
  have hhead : c ∈ (s.dropWhile isWhite).head? := by
    rw [← trimStart, ← hu, h]
    rfl
  exact Plain.head?_dropWhile_eq_false hhead

theorem isEmpty_trim (s : List Char) : (trim s).isEmpty = isBlank s := by
  rw [← isBlank_trim]
  cases htrim : trim s with
  | nil => rfl
  | cons c t => rw [isBlank_cons, isWhite_of_trim_eq_cons htrim, Bool.false_and, List.isEmpty_cons]

theorem trimStart_trim (s : List Char) : trimStart (trim s) = trim s := by
  cases htrim : trim s with
  | nil => rfl
  | cons c t => rw [trimStart, List.dropWhile_cons_of_neg (by simp [isWhite_of_trim_eq_cons htrim])]

theorem trim_trim (s : List Char) : trim (trim s) = trim s := by
  rw [trim, trimStart_trim, trim, trimEnd, dropEndWhile, trimEnd, dropEndWhile, List.reverse_reverse,
    List.dropWhile_idempotent]

/-- Taking away the common indentation changes no text but its indentation. -/
theorem trimmedText_unindent (ls : List (List Char)) : trimmedText (unindent ls) = trimmedText ls := by
  suffices h : ∀ ms, (∀ l ∈ ms, l ∈ ls) → trimmedText
      (ms.map fun l => if isBlank l then [] else l.drop (commonIndent ls).length) = trimmedText ms from
    h ls fun _ => id
  intro ms hms
  induction ms with
  | nil => rfl
  | cons l ms ih =>
    have htail := ih fun m hm => hms m (List.mem_cons_of_mem l hm)
    have hl := hms l List.mem_cons_self
    rw [List.map_cons]
    cases hblank : isBlank l with
    | true =>
      rw [if_pos rfl, trimmedText_cons_of_blank rfl, htail, trimmedText_cons_of_blank hblank]
    | false =>
      obtain ⟨w, hw, hline⟩ := exists_eq_append_drop hl hblank
      have htrim : trim (l.drop (commonIndent ls).length) = trim l :=
        calc trim (l.drop (commonIndent ls).length)
            = trim (w ++ l.drop (commonIndent ls).length) := (trim_blank_append hw _).symm
          _ = trim l := by rw [← hline]
      rw [if_neg (by simp), trimmedText_cons_of_text (isBlank_drop_commonIndent hl hblank), htail,
        trimmedText_cons_of_text hblank, htrim]

/-! ## Sound blocks -/

/-- The lines of a block. -/
def Block.lines : Block → List (List Char)
  | .para lines => lines
  | .heading title => [title]
  | .pre lines => lines

/-- A paragraph is made of running text; a heading is text that reads like one; preformatted lines
begin and end with text, have empty lines for blank ones and share no indentation. -/
def Block.Sound : Block → Prop
  | .para lines => lines ≠ [] ∧ ∀ l ∈ lines, isBlank l = false ∧ isIndented l = false
  | .heading title => isBlank title = false ∧ isTitle title = true
  | .pre lines =>
    (∃ l, lines.head? = some l ∧ isBlank l = false) ∧
    (∃ l, lines.getLast? = some l ∧ isBlank l = false) ∧
    (∀ l ∈ lines, isBlank l = true → l = []) ∧
    ∀ w, (∀ c ∈ w, isIndentChar c = true) → (∀ l ∈ lines, isBlank l = false → w <+: l) → w = []

theorem isTitle_of_title? {line title : List Char} (h : title? line = some title) :
    isTitle title = true := by
  simp only [title?] at h
  split at h
  · rename_i htitle
    cases h
    exact htitle
  · cases h

namespace Plain

theorem IsRun.sound {run : List (List Char)} (h : IsRun run) : (Block.pre (unindent run)).Sound := by
  have hkeep : ∀ l ∈ run, isBlank l = false →
      isBlank (if isBlank l then [] else l.drop (commonIndent run).length) = false := by
    intro l hl hblank
    rw [if_neg (by simp [hblank])]
    exact isBlank_drop_commonIndent hl hblank
  obtain ⟨first, hfirst, hfirst'⟩ := h.first
  obtain ⟨last, hlast, hlast'⟩ := h.last
  have hmem := List.mem_of_head? hfirst
  refine ⟨⟨_, ?_, hkeep first hmem hfirst'⟩,
    ⟨_, ?_, hkeep last (List.mem_of_getLast? hlast) hlast'⟩, ?_, ?_⟩
  · rw [unindent, List.head?_map, hfirst, Option.map_some]
  · rw [unindent, List.getLast?_map, hlast, Option.map_some]
  · intro m hm hblank
    obtain ⟨l, hl, rfl⟩ := List.mem_map.mp hm
    cases hl' : isBlank l with
    | true => rfl
    | false => rw [hkeep l hl hl'] at hblank; cases hblank
  · exact fun w hw hls => eq_nil_of_common_unindent hw hls ⟨first, hmem, hfirst'⟩

section
variable {before after : List Passage} {p : Passage}

/-- **A passage that fits makes a sound block.** -/
theorem Passage.Fits.sound (h : p.Fits before after) {b : Block} (hb : p.block? = some b) :
    b.Sound := by
  cases p with
  | blank line => cases hb
  | para lines => cases hb; exact h
  | heading line gap =>
    cases hb
    exact ⟨by rw [isBlank_trim, h.text.1], isTitle_of_title? h.title⟩
  | pre run => cases hb; exact h.1.sound

/-- **The block of a passage holds its text.** -/
theorem Passage.Fits.trimmedText_block? (h : p.Fits before after) :
    trimmedText (p.block?.toList.flatMap Block.lines) = trimmedText p.lines := by
  cases p with
  | blank line => exact (trimmedText_cons_of_blank h []).symm
  | para lines => simp [Passage.block?, Block.lines, Passage.lines]
  | heading line gap =>
    have hline := h.text.1
    have htrim : isBlank (trim line) = false := by rw [isBlank_trim, hline]
    simp only [Passage.block?, Option.toList_some, List.flatMap_singleton, Block.lines, Passage.lines]
    rw [trimmedText_cons_of_text htrim, trim_trim, trimmedText_cons_of_text hline,
      trimmedText_cons_of_blank h.gap]
  | pre run =>
    simp only [Passage.block?, Option.toList_some, List.flatMap_singleton, Block.lines, Passage.lines]
    exact trimmedText_unindent run

end

theorem Sound.exists_fits {before ps : List Passage} (h : Sound before ps) {p : Passage}
    (hp : p ∈ ps) : ∃ front back, p.Fits front back := by
  obtain ⟨front, back, rfl⟩ := List.append_of_mem hp
  exact ⟨before ++ front, back, h front p back rfl⟩

theorem trimmedText_blocks {ps : List Passage}
    (h : ∀ p ∈ ps, ∃ front back, p.Fits front back) :
    trimmedText ((ps.filterMap Passage.block?).flatMap Block.lines) =
      trimmedText (ps.flatMap Passage.lines) := by
  induction ps with
  | nil => rfl
  | cons p ps ih =>
    obtain ⟨front, back, hp⟩ := h p List.mem_cons_self
    have htail := ih fun q hq => h q (List.mem_cons_of_mem p hq)
    have hhead := hp.trimmedText_block?
    rw [List.flatMap_cons, trimmedText_append, ← htail, ← hhead, ← trimmedText_append,
      ← List.flatMap_append]
    cases hb : p.block? with
    | none => rw [List.filterMap_cons_none hb]; rfl
    | some b => rw [List.filterMap_cons_some hb]; rfl

/-- A place in the list of blocks is one in the list of passages. -/
theorem exists_passage_of_blocks {ps : List Passage} {front back : List Block} {b : Block}
    (h : ps.filterMap Passage.block? = front ++ b :: back) :
    ∃ before p after, ps = before ++ p :: after ∧ p.block? = some b ∧
      after.filterMap Passage.block? = back := by
  obtain ⟨ps₁, ps₂, rfl, -, hback⟩ := List.filterMap_eq_append_iff.mp h
  obtain ⟨nones, p, after, rfl, -, hp, hafter⟩ := List.filterMap_eq_cons_iff.mp hback
  exact ⟨ps₁ ++ nones, p, after, by rw [List.append_assoc], hp, hafter⟩

/-! ## Whole comments -/

theorem sound_passages (comment : List Char) : Sound [] (passages comment) := by
  refine sound_passagesFrom ⟨?_, ?_, ?_, ?_, ?_⟩
  · simp [AreText]
  · simp
  · simp
  · simp
  · simp

theorem filterMap_block?_passages (comment : List Char) :
    (passages comment).filterMap Passage.block? = blocks comment :=
  filterMap_block?_passagesFrom {} _

theorem flatMap_lines_passages (comment : List Char) :
    (passages comment).flatMap Passage.lines = unindent (Text.lines comment) :=
  flatMap_lines_passagesFrom {} _

/-- **The blocks of a comment are sound and complete.** Their text is that of the comment, line by
line and in order; each of them is sound; no two preformatted ones are neighbours; and a paragraph
follows each heading. -/
theorem blocks_sound_and_complete (comment : List Char) :
    trimmedText ((blocks comment).flatMap Block.lines) = trimmedText (Text.lines comment) ∧
    (∀ b ∈ blocks comment, b.Sound) ∧
    (∀ front run run' back, blocks comment ≠ front ++ .pre run :: .pre run' :: back) ∧
    ∀ front title back, blocks comment = front ++ .heading title :: back →
      ∃ lines more, back = .para lines :: more := by
  have hsound := sound_passages comment
  simp only [← filterMap_block?_passages]
  refine ⟨?_, ?_, ?_, ?_⟩
  · rw [trimmedText_blocks fun p hp => hsound.exists_fits hp, flatMap_lines_passages,
      trimmedText_unindent]
  · intro b hb
    obtain ⟨p, hp, hpb⟩ := List.mem_filterMap.mp hb
    obtain ⟨front, back, hfits⟩ := hsound.exists_fits hp
    exact hfits.sound hpb
  · intro front run run' back hsplit
    obtain ⟨before, p, after, hps, hp, hafter⟩ := exists_passage_of_blocks hsplit
    have hfits := hsound before p after hps
    cases p with
    | pre lines => exact hfits.2 run' (by rw [hafter]; rfl)
    | _ => cases hp
  · intro front title back hsplit
    obtain ⟨before, p, after, hps, hp, hafter⟩ := exists_passage_of_blocks hsplit
    have hfits := hsound before p after hps
    cases p with
    | heading line gap =>
      obtain ⟨lines, more, rfl⟩ := hfits.followed
      exact ⟨lines, _, hafter.symm⟩
    | _ => cases hp

/-! ## Headings -/

/-- The last of the lines of some passages is blank. -/
def endsBlank (ps : List Passage) : Bool := (ps.flatMap Passage.lines).getLast?.any isBlank

/-- A heading is an unindented line that reads like one; a blank line and then unindented text follow
it, and the block before it is no heading. -/
structure StandsAlone (front : List Passage) (line gap : List Char) (back : List Passage) : Prop where
  title : title? line = some (trim line)
  unindented : isIndented line = false
  gap : isBlank gap = true
  next : ∃ next more, back.flatMap Passage.lines = next :: more ∧ isBlank next = false ∧
    isIndented next = false
  first : ∀ title, (front.filterMap Passage.block?).getLast? ≠ some (.heading title)

theorem endsBlank_concat {ps : List Passage} {p : Passage} (hp : p.lines ≠ []) :
    endsBlank (ps ++ [p]) = p.lines.getLast?.any isBlank := by
  rw [endsBlank, List.flatMap_append, List.flatMap_singleton, List.getLast?_append_of_ne_nil _ hp]

theorem Heads.standsAlone {front back : List Passage} {line gap : List Char}
    (h : Heads front line gap back) (hback : Sound (front ++ [.heading line gap]) back) :
    StandsAlone front line gap back := by
  obtain ⟨lines, more, rfl⟩ := h.followed
  obtain ⟨hne, htext⟩ := hback [] _ more rfl
  obtain ⟨next, rest, rfl⟩ := List.exists_cons_of_ne_nil hne
  exact ⟨h.title, h.text.2, h.gap, ⟨next, _, rfl, htext next List.mem_cons_self⟩, h.first⟩

theorem Sound.of_append {before ps qs : List Passage} (h : Sound before (ps ++ qs)) :
    Sound (before ++ ps) qs := by
  intro front p back hqs
  have hfits := h (ps ++ front) p back (by rw [hqs, List.append_assoc])
  rwa [← List.append_assoc] at hfits

theorem endsBlank_of_blank {before front back : List Passage} {line : List Char}
    (h : Sound before (front ++ .blank line :: back)) : endsBlank (front ++ [.blank line]) = true := by
  have hblank : isBlank line = true := h front (.blank line) back rfl
  rw [endsBlank_concat (by simp [Passage.lines])]
  simpa [Passage.lines] using hblank

theorem endsBlank_of_pre {before front back : List Passage} {run : List (List Char)}
    (h : Sound before (front ++ .pre run :: back)) : endsBlank (front ++ [.pre run]) = false := by
  obtain ⟨hrun, -⟩ := h front (.pre run) back rfl
  obtain ⟨l, hl, hblank⟩ := hrun.last
  have hne : (Passage.pre run).lines ≠ [] := by
    rintro (rfl : run = [])
    cases hl
  rw [endsBlank_concat hne, Passage.lines, hl]
  simpa using hblank

/-- **A heading stands between blank lines, unless it stands right behind a preformatted block.** The
passages are the lines of the comment, and make its blocks. Each heading among them stands alone; the
line before it is blank exactly if no preformatted block ends there; and if one does, it follows a
blank line itself. -/
theorem heading_between_blanks_unless_behind_pre (comment : List Char) :
    (passages comment).flatMap Passage.lines = unindent (Text.lines comment) ∧
    (passages comment).filterMap Passage.block? = blocks comment ∧
    ∀ front line gap back, passages comment = front ++ .heading line gap :: back →
      StandsAlone front line gap back ∧
      (endsBlank front = true ↔ ∀ rest run, front ≠ rest ++ [.pre run]) ∧
      ∀ rest run, front = rest ++ [.pre run] → endsBlank rest = true := by
  refine ⟨flatMap_lines_passages comment, filterMap_block?_passages comment, ?_⟩
  intro front line gap back hsplit
  have hsound := sound_passages comment
  have hheads : Heads front line gap back := hsound front _ back hsplit
  rw [hsplit] at hsound
  refine ⟨hheads.standsAlone ?_, ?_⟩
  · rw [List.append_cons] at hsound
    exact hsound.of_append
  rcases hheads.setOff with ⟨rest, l, rfl⟩ | ⟨rest, l, run, rfl⟩
  · -- a blank line stands before the heading
    have hother : ∀ rest' run, rest ++ [.blank l] ≠ rest' ++ [.pre run] := by
      intro rest' run heq
      exact absurd (List.append_inj' heq rfl).2 (by simp)
    rw [List.append_assoc] at hsound
    refine ⟨iff_of_true (endsBlank_of_blank hsound) hother, ?_⟩
    exact fun rest' run heq => absurd heq (hother rest' run)
  · -- a preformatted block does, and the blank line before that
    have hblank : endsBlank (rest ++ [.blank l]) = true := by
      rw [List.append_assoc] at hsound
      exact endsBlank_of_blank hsound
    have hfront : rest ++ [.blank l, .pre run] = rest ++ [.blank l] ++ [.pre run] := by simp
    rw [hfront] at hsound ⊢
    rw [List.append_assoc] at hsound
    refine ⟨iff_of_false (by rw [endsBlank_of_pre hsound]; simp) fun h => h _ run rfl, ?_⟩
    intro rest' run' heq
    rw [← (List.append_inj' heq rfl).1]
    exact hblank

theorem title_stands_alone :
    passages "Intro.\n\nTitle\n\nBody.".toList =
      [.para ["Intro.".toList], .blank []] ++
        .heading "Title".toList [] :: [.para ["Body.".toList]] ∧
    StandsAlone [.para ["Intro.".toList], .blank []] "Title".toList [] [.para ["Body.".toList]] := by
  have h : passages "Intro.\n\nTitle\n\nBody.".toList =
      [.para ["Intro.".toList], .blank []] ++
        .heading "Title".toList [] :: [.para ["Body.".toList]] := by decide +kernel
  exact ⟨h, ((heading_between_blanks_unless_behind_pre _).2.2 _ _ _ _ h).1⟩

/-- A comment whose heading stands right behind preformatted lines. -/
def codeThenTitle : List Char := "Intro.\n\n\tcode\nTitle\n\nBody.".toList

/-- **The line before a heading need not be blank.** -/
theorem heading_not_behind_blank :
    ∃ front line gap back, passages codeThenTitle = front ++ .heading line gap :: back ∧
      endsBlank front = false :=
  ⟨[.para ["Intro.".toList], .blank [], .pre ["\tcode".toList]], "Title".toList, [],
    [.para ["Body.".toList]], by decide +kernel, by decide +kernel⟩

end Plain

end DocPress.Comment
