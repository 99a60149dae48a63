import DocPress.Text.Lines
import DocPress.Text.White

/-!
# Words of a text

How the words of a text follow from those of its parts. Words never reach across white space, so a
text may be cut at any place next to some.

* `words_append_white` — a cut at a white character; the rest follows from it.
* `Opens`, `Closes` — a text that no word reaches into, or out of; `words_append_of_opens` and
  `words_append_of_closes` — the words of what is joined there.
* `words_intercalate`, `flatMap_lines` — the words of a text are those of its lines, in order.
-/

namespace DocPress.Text

/-! ## Single characters -/

theorem isWhite_newline : isWhite '\n' = true := by decide
theorem isWhite_space : isWhite ' ' = true := by decide
theorem isWhite_tab : isWhite '\t' = true := by decide

/-! ## Cutting at white space -/

theorem words_nil : words [] = [] := rfl

/-- **Words are cut at white space.** -/
theorem words_append_white {w : Char} (hw : isWhite w = true) (s t : List Char) :
    words (s ++ w :: t) = words s ++ words t := by
  unfold words
  rw [List.splitOnP_append_cons s t hw, List.filter_append]

theorem words_cons_white {w : Char} (hw : isWhite w = true) (t : List Char) :
    words (w :: t) = words t := by
  simpa [words_nil] using words_append_white hw [] t

theorem words_concat_white {w : Char} (hw : isWhite w = true) (s : List Char) :
    words (s ++ [w]) = words s := by
  rw [words_append_white hw, words_nil, List.append_nil]

theorem isBlank_cons (c : Char) (s : List Char) :
    isBlank (c :: s) = (isWhite c && isBlank s) := rfl

theorem isBlank_append (s t : List Char) : isBlank (s ++ t) = (isBlank s && isBlank t) := by
  simp [isBlank]

theorem words_blank_append {b : List Char} (hb : isBlank b = true) (t : List Char) :
    words (b ++ t) = words t := by
  induction b with
  | nil => rfl
  | cons c b ih =>
    rw [isBlank_cons, Bool.and_eq_true] at hb
    rw [List.cons_append, words_cons_white hb.1, ih hb.2]

theorem words_append_blank {b : List Char} (hb : isBlank b = true) (s : List Char) :
    words (s ++ b) = words s := by
  cases b with
  | nil => rw [List.append_nil]
  | cons c b =>
    rw [isBlank_cons, Bool.and_eq_true] at hb
    have hnil : words b = [] := by simpa [words_nil] using words_blank_append hb.2 []
    rw [words_append_white hb.1, hnil, List.append_nil]

theorem words_blank {b : List Char} (hb : isBlank b = true) : words b = [] := by
  simpa [words_nil] using words_blank_append hb []

/-- No word reaches into the text from before it. -/
def Opens (t : List Char) : Prop := ∀ c ∈ t.head?, isWhite c = true

/-- No word reaches out of the text into what follows it. -/
def Closes (s : List Char) : Prop := ∀ c ∈ s.getLast?, isWhite c = true

theorem words_append_of_opens {t : List Char} (h : Opens t) (s : List Char) :
    words (s ++ t) = words s ++ words t := by
  cases t with
  | nil => rw [List.append_nil, words_nil, List.append_nil]
  | cons w t =>
    have hw : isWhite w = true := h w rfl
    rw [words_append_white hw, words_cons_white hw]

theorem words_append_of_closes {s : List Char} (h : Closes s) (t : List Char) :
    words (s ++ t) = words s ++ words t := by
  rcases List.eq_nil_or_concat s with rfl | ⟨s, w, rfl⟩
  · rfl
  · have hw : isWhite w = true := h w (by simp)
    rw [List.concat_eq_append, List.append_assoc, List.singleton_append, words_append_white hw,
      words_concat_white hw]

theorem closes_of_isBlank {s : List Char} (h : isBlank s = true) : Closes s := by
  intro c hc
  exact List.all_eq_true.mp h c (List.mem_of_getLast? hc)

theorem closes_concat {w : Char} (hw : isWhite w = true) (s : List Char) : Closes (s ++ [w]) := by
  intro c hc
  simp only [List.getLast?_concat, Option.mem_some_iff] at hc
  exact hc ▸ hw

theorem closes_cons {w : Char} (hw : isWhite w = true) {s : List Char} (h : Closes s) :
    Closes (w :: s) := by
  cases s with
  | nil => exact closes_concat hw []
  | cons c s =>
    intro x hx
    rw [List.getLast?_cons_cons] at hx
    exact h x hx

theorem opens_cons {w : Char} (hw : isWhite w = true) (t : List Char) : Opens (w :: t) := by
  intro c hc
  simp only [List.head?_cons, Option.mem_some_iff] at hc
  exact hc ▸ hw

/-! ## Words themselves -/

/-- A text that is one word. -/
def IsWord (w : List Char) : Prop := w ≠ [] ∧ ∀ c ∈ w, isWhite c = false

theorem words_of_isWord {w : List Char} (h : IsWord w) : words w = [w] := by
  rw [words, List.splitOnP_eq_singleton h.2]
  simp [h.1]

theorem isWord_of_mem_words {s w : List Char} (h : w ∈ words s) : IsWord w := by
  obtain ⟨hw, hne⟩ := List.mem_filter.mp h
  refine ⟨by simpa using hne, ?_⟩
  clear h hne
  induction s generalizing w with
  | nil =>
    rw [List.splitOnP_nil, List.mem_singleton] at hw
    subst hw
    simp
  | cons c s ih =>
    rw [List.splitOnP_cons_eq_if_modifyHead] at hw
    split at hw
    · rcases List.mem_cons.mp hw with rfl | hw
      · simp
      · exact ih hw
    · rename_i hc
      obtain ⟨r, rs, hrs⟩ := List.exists_cons_of_ne_nil (List.splitOnP_ne_nil isWhite s)
      rw [hrs, List.modifyHead_cons] at hw
      rcases List.mem_cons.mp hw with rfl | hw
      · intro x hx
        rcases List.mem_cons.mp hx with rfl | hx
        · simpa using hc
        · exact ih (by simp [hrs]) x hx
      · exact ih (by simp [hrs, hw])

/-- A text that is not blank has a first character that is not white. -/
theorem exists_eq_append_of_not_isBlank {s : List Char} (h : isBlank s = false) :
    ∃ b c t, s = b ++ c :: t ∧ isBlank b = true ∧ isWhite c = false := by
  induction s with
  | nil => cases h
  | cons x s ih =>
    cases hx : isWhite x with
    | false => exact ⟨[], x, s, rfl, rfl, hx⟩
    | true =>
      rw [isBlank_cons, hx, Bool.true_and] at h
      obtain ⟨b, c, t, rfl, hb, hc⟩ := ih h
      exact ⟨x :: b, c, t, rfl, by rw [isBlank_cons, hx, hb]; rfl, hc⟩

/-- A text has no words exactly if it is blank. -/
theorem words_eq_nil_iff {s : List Char} : words s = [] ↔ isBlank s = true := by
  refine ⟨fun h => ?_, words_blank⟩
  induction s with
  | nil => rfl
  | cons c s ih =>
    cases hc : isWhite c with
    | true =>
      rw [words_cons_white hc] at h
      rw [isBlank_cons, hc, ih h]
      rfl
    | false =>
      obtain ⟨r, rs, hrs⟩ := List.exists_cons_of_ne_nil (List.splitOnP_ne_nil isWhite s)
      rw [words, List.splitOnP_cons_eq_if_modifyHead, if_neg (by simp [hc]), hrs,
        List.modifyHead_cons, List.filter_cons_of_pos (by simp)] at h
      cases h

/-- A map of characters that keeps white space apart maps the words. -/
theorem words_map {f : Char → Char} (hf : ∀ c, isWhite (f c) = isWhite c) (s : List Char) :
    words (s.map f) = (words s).map (List.map f) := by
  suffices h : (s.map f).splitOnP isWhite = (s.splitOnP isWhite).map (List.map f) by
    rw [words, h, words, List.filter_map]
    congr 2
    funext w
    simp
  induction s with
  | nil => rfl
  | cons c s ih =>
    rw [List.map_cons, List.splitOnP_cons_eq_if_modifyHead, List.splitOnP_cons_eq_if_modifyHead,
      hf, ih]
    split
    · rfl
    · obtain ⟨r, rs, hrs⟩ := List.exists_cons_of_ne_nil (List.splitOnP_ne_nil isWhite s)
      rw [hrs]
      rfl

/-! ## Lines -/

theorem words_flatMap_newline (f : List Char → List Char) (ls : List (List Char)) :
    words (ls.flatMap fun l => f l ++ ['\n']) = ls.flatMap fun l => words (f l) := by
  induction ls with
  | nil => rfl
  | cons l ls ih =>
    rw [List.flatMap_cons, words_append_of_closes (closes_concat isWhite_newline _), ih,
      words_concat_white isWhite_newline, List.flatMap_cons]

theorem words_intercalate (ls : List (List Char)) :
    words (['\n'].intercalate ls) = ls.flatMap words := by
  induction ls with
  | nil => rfl
  | cons l ls ih =>
    cases ls with
    | nil => simp
    | cons m ls =>
      rw [List.intercalate_cons_cons, List.append_assoc, List.singleton_append,
        words_append_white isWhite_newline, ih]
      rfl

theorem infix_of_mem_splitOn {s l : List Char} (h : l ∈ s.splitOn '\n') : l <:+: s := by
  suffices hjoin : ∀ ls : List (List Char), l ∈ ls → l <:+: ['\n'].intercalate ls by
    have := hjoin _ h
    rwa [List.intercalate_splitOn] at this
  intro ls hl
  induction ls with
  | nil => cases hl
  | cons x ls ih =>
    cases ls with
    | nil =>
      rw [List.mem_singleton] at hl
      subst hl
      simp
    | cons y ls =>
      rw [List.intercalate_cons_cons]
      rcases List.mem_cons.mp hl with rfl | hl
      · rw [List.append_assoc]
        exact (List.prefix_append _ _).isInfix
      · exact (ih hl).trans (List.suffix_append _ _).isInfix

/-- A line is what is left of it without a carriage return at its end, and white space. -/
theorem exists_eq_dropReturn (l : List Char) : ∃ w, isBlank w = true ∧ l = dropReturn l ++ w := by
  unfold dropReturn
  split
  · rename_i h
    obtain ⟨l, rfl⟩ := List.getLast?_eq_some_iff.mp h
    exact ⟨['\r'], by decide, by rw [List.dropLast_concat]⟩
  · exact ⟨[], rfl, (List.append_nil l).symm⟩

theorem words_dropReturn (l : List Char) : words (dropReturn l) = words l := by
  obtain ⟨w, hw, hl⟩ := exists_eq_dropReturn l
  calc words (dropReturn l)
      = words (dropReturn l ++ w) := (words_append_blank hw _).symm
    _ = words l := by rw [← hl]

theorem isBlank_dropReturn (l : List Char) : isBlank (dropReturn l) = isBlank l := by
  obtain ⟨w, hw, hl⟩ := exists_eq_dropReturn l
  calc isBlank (dropReturn l)
      = isBlank (dropReturn l ++ w) := by rw [isBlank_append, hw, Bool.and_true]
    _ = isBlank l := by rw [← hl]

/-- What is collected from the lines of a text is collected from the pieces between its line feeds,
if neither a carriage return at the end of a piece nor an empty piece matters. -/
theorem flatMap_lines {α : Type} {h : List Char → List α} (hreturn : ∀ l, h (dropReturn l) = h l)
    (hnil : h [] = []) (s : List Char) : (lines s).flatMap h = (s.splitOn '\n').flatMap h := by
  unfold lines
  generalize s.splitOn '\n' = pieces
  induction pieces with
  | nil => rfl
  | cons piece pieces ih =>
    cases pieces with
    | nil =>
      rw [linesOfPieces]
      split
      · rename_i hempty
        rw [List.isEmpty_iff.mp hempty]
        simp [hnil]
      · rfl
    | cons next pieces =>
      rw [linesOfPieces, List.flatMap_cons, ih, hreturn]
      rfl

end DocPress.Text
