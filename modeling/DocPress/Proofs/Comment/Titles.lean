import DocPress.Comment.Heading
import DocPress.Proofs.Declaration.Offsets
import DocPress.Proofs.Text.Replace

/-!
# Lines that read like headings

What a heading may hold is a condition on all places of a line at once. It can also be checked by two
scans over byte offsets, one for apostrophes and one for periods: each looks for the next mark, cuts
the text behind it, judges what stands there and goes on in the rest. A cut can fail, and a scan need
not end.

* `Followed` — each occurrence of a mark is followed as it should be.
* `ReadsLikeTitle` — the conditions on a heading.
* `markScan?` — a scan with a limit on its rounds; `titleByScans?` — the heading of a line, found so.

Principal results: `apostrophesFit_iff`, `periodsFit_iff` — the two checks are conditions on all
places; `markScan?_append` — one round of a scan succeeds; `Judges.exists_markScan?` — a scan ends, and
tells whether the condition holds; `title?_eq_some_iff_readsLikeTitle` — which lines are headings.
-/

namespace DocPress.Comment

open DocPress.Text DocPress.Text.Utf8 DocPress.Declaration

/-! ## Conditions on all places -/

/-- What stands behind each occurrence of a mark is good. -/
def Followed (mark : Char) (Good : List Char → Prop) (s : List Char) : Prop :=
  ∀ before after, s = before ++ mark :: after → Good after

theorem followed_nil (mark : Char) (Good : List Char → Prop) : Followed mark Good [] := by
  intro before after h
  cases before <;> cases h

theorem followed_cons {mark c : Char} {Good : List Char → Prop} {s : List Char} :
    Followed mark Good (c :: s) ↔ (c = mark → Good s) ∧ Followed mark Good s := by
  constructor
  · intro h
    refine ⟨?_, fun before after heq => h (c :: before) after (by rw [heq, List.cons_append])⟩
    rintro rfl
    exact h [] s rfl
  · rintro ⟨hhead, htail⟩ before after heq
    cases before with
    | nil =>
      obtain ⟨rfl, rfl⟩ := List.cons.inj heq
      exact hhead rfl
    | cons b before => exact htail before after (List.cons.inj heq).2

theorem followed_of_not_mem {mark : Char} {s : List Char} (h : mark ∉ s) (Good : List Char → Prop) :
    Followed mark Good s := by
  rintro before after rfl
  exact absurd (List.mem_append_right before List.mem_cons_self) h

/-- The first occurrence of a mark, and those behind it. -/
theorem followed_append {mark : Char} {Good : List Char → Prop} {before : List Char}
    (h : mark ∉ before) (after : List Char) :
    Followed mark Good (before ++ mark :: after) ↔ Good after ∧ Followed mark Good after := by
  induction before with
  | nil => simp [followed_cons]
  | cons c before ih =>
    rw [List.mem_cons, not_or] at h
    rw [List.cons_append, followed_cons, ih h.2]
    simp [Ne.symm h.1]

/-- A possessive ending: an `s`, and then a space or the end. -/
def EndsPossessive (after : List Char) : Prop :=
  ∃ rest, after = 's' :: rest ∧ ∀ c ∈ rest.head?, c = ' '

/-- A word goes on: there is a next character, and it is no space. -/
def GoesOn (after : List Char) : Prop := ∃ c rest, after = c :: rest ∧ c ≠ ' '

theorem endsPossessive_cons {c : Char} {rest : List Char} :
    EndsPossessive (c :: rest) ↔ c = 's' ∧ ∀ d ∈ rest.head?, d = ' ' := by
  simp [EndsPossessive]

theorem apostrophesFit_iff (s : List Char) :
    apostrophesFit s = true ↔ Followed '\x27' EndsPossessive s := by
  fun_induction apostrophesFit s with
  | case1 => simp [followed_nil]
  | case2 rest ih =>
    -- the `s` behind an apostrophe is none itself, so it may be passed over
    have hs : ('s' : Char) ≠ '\x27' := by decide
    rw [followed_cons, followed_cons, endsPossessive_cons, ← ih]
    simp [hs, Option.all_eq_true]
  | case3 c rest hother ih =>
    rw [followed_cons, ← ih, Bool.and_eq_true, bne_iff_ne]
    refine and_congr_left fun _ => ⟨fun hne heq => absurd heq hne, ?_⟩
    rintro hgood rfl
    obtain ⟨tail, rfl, -⟩ := hgood rfl
    exact hother tail rfl rfl

theorem periodsFit_iff (s : List Char) : periodsFit s = true ↔ Followed '.' GoesOn s := by
  induction s with
  | nil => simp [periodsFit, followed_nil]
  | cons c s ih =>
    rw [periodsFit, followed_cons, ← ih]
    cases s <;> simp [GoesOn, or_iff_not_imp_left]

/-- The conditions on a heading: it begins with an upper-case character and ends with a letter or
number, holds none of the characters that headings do not hold, has apostrophes only in possessive
endings, and periods only inside words. -/
structure ReadsLikeTitle (title : List Char) : Prop where
  nonempty : title ≠ []
  first : ∃ c, title.head? = some c ∧ isUppercase c = true
  last : ∃ c, title.getLast? = some c ∧ isAlphanumeric c = true
  plain : ∀ c ∈ title, c ∉ nonTitleChars
  apostrophes : Followed '\x27' EndsPossessive title
  periods : Followed '.' GoesOn title

theorem isTitle_iff (s : List Char) : isTitle s = true ↔ ReadsLikeTitle s := by
  simp only [isTitle, Bool.and_eq_true, Option.any_eq_true, apostrophesFit_iff, periodsFit_iff]
  constructor
  · rintro ⟨⟨⟨⟨hfirst, hlast⟩, hplain⟩, happ⟩, hper⟩
    refine ⟨?_, hfirst, hlast, by simpa using hplain, happ, hper⟩
    rintro rfl
    obtain ⟨c, hc, -⟩ := hfirst
    cases hc
  · intro h
    exact ⟨⟨⟨⟨h.first, h.last⟩, by simpa using h.plain⟩, h.apostrophes⟩, h.periods⟩

/-! ## Scans over byte offsets -/

/-- The byte position of the first occurrence of a character. -/
def firstAt? (mark : Char) (s : List Char) : Option Nat :=
  if mark ∈ s then some (byteLength (s.takeWhile fun c => c != mark)) else none

/-- Looks for one mark after the other, and goes on in the text that is left behind each; none if a
cut is not at a character boundary, or the rounds do not suffice. -/
def markScan? (mark : Char) (left? : List Char → Option (List Char)) : Nat → List Char → Option Bool
  | 0, _ => none
  | rounds + 1, rest =>
    match firstAt? mark rest with
    | none => some true
    | some i => do
      let after ← slice? rest (i + 1) (byteLength rest)
      match left? after with
      | none => some false
      | some left => markScan? mark left? rounds left

/-- What is left behind the possessive ending after an apostrophe. -/
def behindPossessive? : List Char → Option (List Char)
  | 's' :: rest => if rest.head?.any (· != ' ') then none else some rest
  | _ => none

/-- What is left behind a period inside a word. -/
def behindPeriod? (after : List Char) : Option (List Char) :=
  if after.isEmpty || after.head? == some ' ' then none else some after

/-- The heading that a line is, found by scans; none if a scan fails. -/
def titleByScans? (line : List Char) : Option (Option (List Char)) :=
  let title := trim line
  if title.head?.any isUppercase && title.getLast?.any isAlphanumeric &&
      title.all (fun c => !nonTitleChars.contains c) then do
    let apostrophes ← markScan? '\x27' behindPossessive? (title.length + 1) title
    if apostrophes then
      let periods ← markScan? '.' behindPeriod? (title.length + 1) title
      some (if periods then some title else none)
    else some none
  else some none

/-- A way to go on behind a mark tells whether the text there is good, and leaves out no mark that is
followed by something else. -/
structure Judges (mark : Char) (left? : List Char → Option (List Char)) (Good : List Char → Prop) :
    Prop where
  single : mark.utf8Size = 1
  refused : ∀ after, left? after = none → ¬ Good after
  good : ∀ after left, left? after = some left → Good after
  rest : ∀ after left, left? after = some left → (Followed mark Good after ↔ Followed mark Good left)
  shorter : ∀ after left, left? after = some left → left.length ≤ after.length

section
variable {mark : Char} {left? : List Char → Option (List Char)} {Good : List Char → Prop}

/-- **One round of a scan succeeds**: the cut behind a mark is at a character boundary. -/
theorem markScan?_append (hmark : mark.utf8Size = 1) {before : List Char} (h : mark ∉ before)
    (after : List Char) (rounds : Nat) :
    markScan? mark left? (rounds + 1) (before ++ mark :: after) =
      match left? after with
      | none => some false
      | some left => markScan? mark left? rounds left := by
  have hfirst : firstAt? mark (before ++ mark :: after) = some (byteLength before) := by
    rw [firstAt?, if_pos (by simp), takeWhile_bne h]
  have hcut : slice? (before ++ mark :: after) (byteLength before + 1)
      (byteLength (before ++ mark :: after)) = some after := by
    refine slice?_eq_some_iff.mpr ⟨before ++ [mark], [], by simp, ?_, ?_⟩ <;>
      simp [byteLength_append, byteLength, hmark, Nat.add_assoc]
  simp only [markScan?, hfirst, hcut, Option.bind_eq_bind, Option.bind_some]

/-- **A scan ends**, after at most one round for each character, and tells whether each mark is
followed as it should be. -/
theorem Judges.exists_markScan? (h : Judges mark left? Good) {rounds : Nat} {s : List Char}
    (hrounds : s.length < rounds) :
    ∃ outcome, markScan? mark left? rounds s = some outcome ∧
      (outcome = true ↔ Followed mark Good s) := by
  induction rounds generalizing s with
  | zero => omega
  | succ rounds ih =>
    by_cases hmem : mark ∈ s
    · obtain ⟨before, after, rfl, hbefore⟩ := List.eq_append_cons_of_mem hmem
      rw [markScan?_append h.single hbefore, followed_append hbefore]
      cases hleft : left? after with
      | none => exact ⟨false, rfl, by simp [h.refused after hleft]⟩
      | some left =>
        -- what is left is shorter than the text, at least by the mark
        have hshorter := h.shorter after left hleft
        rw [List.length_append, List.length_cons] at hrounds
        obtain ⟨outcome, hscan, houtcome⟩ := ih (s := left) (by omega)
        refine ⟨outcome, hscan, ?_⟩
        rw [houtcome, h.rest after left hleft]
        exact (and_iff_right (h.good after left hleft)).symm
    · have hfirst : firstAt? mark s = none := if_neg hmem
      refine ⟨true, by simp only [markScan?, hfirst], ?_⟩
      simp [followed_of_not_mem hmem]

end

theorem behindPossessive?_eq_some_iff {after left : List Char} :
    behindPossessive? after = some left ↔ after = 's' :: left ∧ ∀ c ∈ left.head?, c = ' ' := by
  unfold behindPossessive?
  split
  · rename_i rest
    rw [Option.ite_none_left_eq_some, Option.some.injEq, List.cons.injEq]
    constructor
    · rintro ⟨hhead, rfl⟩
      exact ⟨⟨rfl, rfl⟩, by simpa [Option.any_eq_false] using hhead⟩
    · rintro ⟨⟨-, rfl⟩, hhead⟩
      exact ⟨by simpa [Option.any_eq_false] using hhead, rfl⟩
  · rename_i hother
    simp only [reduceCtorEq, false_iff, not_and]
    exact fun heq => absurd heq (hother left)

theorem behindPeriod?_eq_some_iff {after left : List Char} :
    behindPeriod? after = some left ↔ GoesOn after ∧ left = after := by
  rw [behindPeriod?, Option.ite_none_left_eq_some, Option.some.injEq, @eq_comm _ after]
  refine and_congr_left fun _ => ?_
  cases after <;> simp [GoesOn]

theorem judges_apostrophes : Judges '\x27' behindPossessive? EndsPossessive where
  single := by decide
  refused := by
    rintro after hnone ⟨left, hafter, hleft⟩
    rw [behindPossessive?_eq_some_iff.mpr ⟨hafter, hleft⟩] at hnone
    cases hnone
  good after left h := ⟨left, behindPossessive?_eq_some_iff.mp h⟩
  rest := by
    intro after left h
    obtain ⟨rfl, -⟩ := behindPossessive?_eq_some_iff.mp h
    rw [followed_cons]
    simp
  shorter := by
    intro after left h
    obtain ⟨rfl, -⟩ := behindPossessive?_eq_some_iff.mp h
    exact Nat.le_succ _

theorem judges_periods : Judges '.' behindPeriod? GoesOn where
  single := by decide
  refused := by
    intro after hnone hgood
    rw [behindPeriod?_eq_some_iff.mpr ⟨hgood, rfl⟩] at hnone
    cases hnone
  good after left h := (behindPeriod?_eq_some_iff.mp h).1
  rest after left h := by rw [(behindPeriod?_eq_some_iff.mp h).2]
  shorter after left h := Nat.le_of_eq (congrArg _ (behindPeriod?_eq_some_iff.mp h).2)

/-- **The scans find the same headings**: they end, and every cut is at a character boundary. -/
theorem titleByScans?_eq (line : List Char) : titleByScans? line = some (title? line) := by
  have hlength : (trim line).length < (trim line).length + 1 := Nat.lt_succ_self _
  obtain ⟨app, happ, happ'⟩ := judges_apostrophes.exists_markScan? hlength
  obtain ⟨per, hper, hper'⟩ := judges_periods.exists_markScan? hlength
  rw [← apostrophesFit_iff, ← Bool.eq_iff_iff] at happ'
  rw [← periodsFit_iff, ← Bool.eq_iff_iff] at hper'
  simp only [titleByScans?, happ, hper, Option.bind_eq_bind, Option.bind_some, title?, isTitle,
    ← happ', ← hper']
  split
  · rename_i hends
    rw [hends]
    cases app <;> cases per <;> rfl
  · rename_i hends
    rw [Bool.not_eq_true] at hends
    rw [hends]
    rfl

/-- **Which lines are headings.** A line is one exactly if, trimmed, it is not empty, begins with an
upper-case character, ends with a letter or number, holds no character that headings do not hold,
each apostrophe in it is followed by an `s` and that by a space or the end, and each period by a
character other than a space; the heading is the trimmed line. Looking for the marks one after the
other gives the same: both scans end, and every cut is at a character boundary. -/
theorem title?_eq_some_iff_readsLikeTitle (line title : List Char) :
    (title? line = some title ↔ title = trim line ∧ ReadsLikeTitle title) ∧
      titleByScans? line = some (title? line) := by
  refine ⟨?_, titleByScans?_eq line⟩
  have hchoice : title? line = if isTitle (trim line) then some (trim line) else none := rfl
  rw [hchoice, Option.ite_none_right_eq_some, Option.some.injEq, isTitle_iff]
  constructor
  · rintro ⟨hreads, rfl⟩
    exact ⟨rfl, hreads⟩
  · rintro ⟨rfl, hreads⟩
    exact ⟨hreads, rfl⟩

-- a possessive ending and a period inside a word; an apostrophe elsewhere
example : title? "  Go's os.Exit ".toList = some "Go's os.Exit".toList ∧
    title? "Don't Panic".toList = none := by decide +kernel

end DocPress.Comment
