import DocPress.Breadcrumb
import DocPress.Proofs.Declaration.Offsets
import DocPress.Proofs.Text.Replace
import Mathlib.Data.List.TakeDrop
import Mathlib.Data.List.TakeWhile

/-!
# Trails by byte offsets

A trail can also be walked by byte offsets into the import path: one offset for the place reached and
one for the next slash, counted from there. Cutting out a label is then an operation that can fail.

* `walk?`, `trailByOffsets?` — the walk, `none` where a cut is not at character boundaries.
* `crumbsOf` — the trail of a list of labels and a last one; `labels` — the labels of a trail.

Principal results: `walk?_segment` — one step of the walk succeeds wherever a slash follows the
label; `walk?_eq_steps` — so does a walk of any length, with the crumbs of `steps`;
`exists_trail_eq_crumbsOf` — a trail is that of labels which, joined with slashes, are the path.
-/

namespace DocPress.Breadcrumb

open DocPress.Text DocPress.Text.Utf8 DocPress.Declaration

/-! ## The walk -/

/-- The byte position of the first slash of a text. -/
def slashAt? (s : List Char) : Option Nat :=
  if '/' ∈ s then some (byteLength (s.takeWhile fun c => c != '/')) else none

/-- The crumbs from a byte offset on, if the next slash is as far from there as is given; at most
`n` slashes are passed. -/
def walk? (text : List Char) : Nat → Nat → Option Nat → Option (List Crumb)
  | 0, _, some (_ + 1) => none
  | n + 1, start, some (size + 1) => do
    let stop := start + (size + 1)
    let label ← slice? text start stop
    let path ← slice? text 0 stop
    let rest ← slice? text (stop + 1) (byteLength text)
    let more ← walk? text n (stop + 1) (slashAt? rest)
    some (.segment label path :: more)
  | _, start, _ => do
    let label ← slice? text start (byteLength text)
    some [.current label]

/-- The first slash at which a path is cut: the one that the byte at the root's end is. -/
def rootSlash? (text : List Char) (rootLength : Nat) : Option Nat :=
  if rootLength = 0 then slashAt? text
  else if (encode text)[rootLength]? = some (UInt8.ofNat '/'.toNat) then some rootLength
  else none

/-- The trail of an import path, walked by offsets. -/
def trailByOffsets? (path : String) (rootLength : Nat) : Option (List Crumb) := do
  let text := path.toList
  let crumbs ← walk? text (text.length + 1) 0 (rootSlash? text rootLength)
  some (if rootLength = 0 then .standard :: crumbs else crumbs)

/-! ## Steps of a path -/

/-- A path with a slash begins with the step before its first slash. -/
theorem firstStep?_append {step : List Char} (h : '/' ∉ step) (after : List Char) :
    firstStep? (step ++ '/' :: after) = if step = [] then none else some (step, after) := by
  have hspan : (step ++ '/' :: after).span (fun c => c != '/') = (step, '/' :: after) := by
    rw [List.span_eq_takeWhile_dropWhile, takeWhile_bne h, dropWhile_bne h]
  rw [firstStep?, hspan]
  cases step <;> rfl

theorem firstStep?_of_not_mem {rest : List Char} (h : '/' ∉ rest) : firstStep? rest = none := by
  have hspan : rest.span (fun c => c != '/') = (rest, []) := by
    rw [List.span_eq_takeWhile_dropWhile, List.takeWhile_eq_self_iff.mpr (bne_of_not_mem h),
      List.dropWhile_eq_nil_iff.mpr (bne_of_not_mem h)]
  rw [firstStep?, hspan]

theorem slashAt?_append {step : List Char} (h : '/' ∉ step) (after : List Char) :
    slashAt? (step ++ '/' :: after) = some (byteLength step) := by
  rw [slashAt?, if_pos (by simp), takeWhile_bne h]

/-- More steps than the path can have make no difference. -/
theorem stepsFrom_of_le {n m : Nat} {walked rest : List Char} (hn : rest.length ≤ n)
    (hm : rest.length ≤ m) : stepsFrom n walked rest = stepsFrom m walked rest := by
  induction n generalizing m walked rest with
  | zero =>
    obtain rfl : rest = [] := List.length_eq_zero_iff.mp (Nat.le_zero.mp hn)
    cases m <;> rfl
  | succ n ih =>
    cases m with
    | zero =>
      obtain rfl : rest = [] := List.length_eq_zero_iff.mp (Nat.le_zero.mp hm)
      rfl
    | succ m =>
      by_cases hslash : '/' ∈ rest
      · obtain ⟨step, after, rfl, hstep⟩ := List.eq_append_cons_of_mem hslash
        rw [List.length_append, List.length_cons] at hn hm
        rw [stepsFrom, stepsFrom, firstStep?_append hstep]
        split
        · rfl
        · rename_i found
          split at found
          · cases found
          · obtain ⟨rfl, rfl⟩ := Prod.mk.inj (Option.some.inj found)
            exact congrArg _ (ih (by omega) (by omega))
      · rw [stepsFrom, stepsFrom, firstStep?_of_not_mem hslash]

theorem steps_of_firstStep?_none {walked rest : List Char} (h : firstStep? rest = none) :
    steps walked rest = [.current rest] := by
  rw [steps, stepsFrom_of_le (Nat.le_refl _) (Nat.le_succ _), stepsFrom, h]

theorem steps_append {walked step : List Char} (h : '/' ∉ step) (hne : step ≠ [])
    (after : List Char) :
    steps walked (step ++ '/' :: after) =
      .segment step (walked ++ step) :: steps (walked ++ step ++ ['/']) after := by
  have hlen : after.length ≤ (step ++ '/' :: after).length := by simp; omega
  rw [steps, stepsFrom_of_le (Nat.le_refl _) (Nat.le_succ _), stepsFrom, firstStep?_append h,
    if_neg hne]
  simp only
  rw [stepsFrom_of_le hlen (Nat.le_refl _), steps]

/-! ## One step of the walk -/

/-- The rest of a text from a byte offset on. -/
theorem slice?_rest {text front rest : List Char} (h : text = front ++ rest) :
    slice? text (byteLength front) (byteLength text) = some rest := by
  refine slice?_eq_some_iff.mpr ⟨front, [], by rw [h, List.append_nil], rfl, ?_⟩
  rw [h, byteLength_append]

/-- The walk ends where no step follows. -/
theorem walk?_current {text front rest : List Char} (h : text = front ++ rest) (n : Nat)
    {next : Option Nat} (hnext : next = none ∨ next = some 0) :
    walk? text n (byteLength front) next = some [.current rest] := by
  have hslice := slice?_rest h
  rcases hnext with rfl | rfl <;> cases n <;>
    simp only [walk?, hslice, Option.bind_eq_bind, Option.bind_some]

/-- **One step of the walk succeeds** wherever a slash follows the label: all its cuts are at
character boundaries. -/
theorem walk?_segment {text front label rest : List Char}
    (h : text = front ++ (label ++ '/' :: rest)) (hne : label ≠ []) (n : Nat) :
    walk? text (n + 1) (byteLength front) (some (byteLength label)) =
      (walk? text n (byteLength (front ++ label ++ ['/'])) (slashAt? rest)).map
        (Crumb.segment label (front ++ label) :: ·) := by
  obtain ⟨size, hsize⟩ : ∃ size, byteLength label = size + 1 := by
    cases label with
    | nil => exact absurd rfl hne
    | cons c label =>
      have hpos := c.utf8Size_pos
      exact ⟨c.utf8Size + byteLength label - 1, by simp only [byteLength]; omega⟩
  have hslash : byteLength ['/'] = 1 := by decide
  have hstop : byteLength front + (size + 1) + 1 = byteLength (front ++ label ++ ['/']) := by
    simp only [byteLength_append, hslash]
    omega
  have hlabel : slice? text (byteLength front) (byteLength front + (size + 1)) = some label :=
    slice?_eq_some_iff.mpr ⟨front, '/' :: rest, h, rfl, by omega⟩
  have hpath : slice? text 0 (byteLength front + (size + 1)) = some (front ++ label) := by
    refine slice?_eq_some_iff.mpr ⟨[], '/' :: rest, by rw [h]; simp, rfl, ?_⟩
    rw [byteLength_append]
    omega
  have hrest : slice? text (byteLength (front ++ label ++ ['/'])) (byteLength text) = some rest :=
    slice?_rest (by rw [h]; simp)
  rw [hsize]
  simp only [walk?, hlabel, hpath, hstop, hrest, Option.bind_eq_bind, Option.bind_some]
  cases walk? text n (byteLength (front ++ label ++ ['/'])) (slashAt? rest) <;> rfl

/-! ## A whole walk -/

/-- **A walk of any length succeeds**, and gives the crumbs of the steps that are left. -/
theorem walk?_eq_steps {text front rest : List Char} (h : text = front ++ rest) {n : Nat}
    (hn : rest.length ≤ n) :
    walk? text n (byteLength front) (slashAt? rest) = some (steps front rest) := by
  induction n generalizing front rest with
  | zero =>
    obtain rfl : rest = [] := List.length_eq_zero_iff.mp (Nat.le_zero.mp hn)
    exact walk?_current h 0 (Or.inl rfl)
  | succ n ih =>
    by_cases hslash : '/' ∈ rest
    · obtain ⟨step, after, rfl, hstep⟩ := List.eq_append_cons_of_mem hslash
      rw [slashAt?_append hstep]
      by_cases hne : step = []
      · subst hne
        rw [steps_of_firstStep?_none (firstStep?_append hstep after)]
        exact walk?_current h (n + 1) (Or.inr rfl)
      · rw [List.length_append, List.length_cons] at hn
        rw [walk?_segment h hne, ih (by rw [h]; simp) (by omega), steps_append hstep hne]
        rfl
    · rw [steps_of_firstStep?_none (firstStep?_of_not_mem hslash), slashAt?, if_neg hslash]
      exact walk?_current h (n + 1) (Or.inl rfl)

/-- **The two trails agree**: the walk by offsets never fails. -/
theorem trailByOffsets?_eq (path : String) (rootLength : Nat) :
    trailByOffsets? path rootLength = some (trail path rootLength) := by
  have hslashByte : (encode path.toList)[rootLength]? = some (UInt8.ofNat '/'.toNat) ↔ _ :=
    getElem?_encode_eq_some_iff (by decide)
  rw [trailByOffsets?, trail, trailOf]
  by_cases hzero : rootLength = 0
  · have hwalk : walk? path.toList (path.toList.length + 1) 0 (slashAt? path.toList) =
        some (steps [] path.toList) := walk?_eq_steps (List.nil_append _).symm (Nat.le_succ _)
    simp only [rootSlash?, hzero, if_true, hwalk, Option.bind_eq_bind, Option.bind_some]
  · simp only [rootSlash?, if_neg hzero]
    split
    · -- the byte at the root's end is a slash, so the root ends at a character boundary
      rename_i hbyte
      obtain ⟨root, rest, hsplit⟩ := hslashByte.mp hbyte
      obtain ⟨htext, hlen⟩ := splitAtByte?_eq_some_iff.mp hsplit
      have hne : root ≠ [] := by
        rintro rfl
        exact hzero hlen.symm
      have htext' : path.toList = [] ++ (root ++ '/' :: rest) := htext
      have hstep := walk?_segment htext' hne path.toList.length
      have hrest : rest.length ≤ path.toList.length := by rw [htext]; simp; omega
      rw [hlen, walk?_eq_steps (by rw [htext]; simp) hrest] at hstep
      simp only [hsplit]
      rw [show byteLength [] = 0 from rfl] at hstep
      rw [hstep]
      rfl
    · rename_i hbyte
      have hwalk : walk? path.toList (path.toList.length + 1) 0 none =
          some [.current path.toList] := walk?_current (List.nil_append _).symm _ (Or.inl rfl)
      rw [hwalk]
      simp only [Option.bind_eq_bind, Option.bind_some]
      split
      · rename_i root rest hsplit
        exact absurd (hslashByte.mpr ⟨root, rest, hsplit⟩) hbyte
      · rfl

/-! ## Labels -/

/-- The label of a crumb. -/
def Crumb.label? : Crumb → Option (List Char)
  | .standard => none
  | .segment label _ => some label
  | .current label => some label

/-- The labels of a trail. -/
def labels (crumbs : List Crumb) : List (List Char) := crumbs.filterMap Crumb.label?

/-- The path of a crumb that leads to an ancestor. -/
def Crumb.path? : Crumb → Option (List Char)
  | .segment _ path => some path
  | _ => none

/-- The paths that a trail leads through. -/
def paths (crumbs : List Crumb) : List (List Char) := crumbs.filterMap Crumb.path?

/-- Labels, each with the slash after it. -/
def slashed (ls : List (List Char)) : List Char := ls.flatMap fun l => l ++ ['/']

/-- The trail of labels and a last label, below a part of the path already walked. -/
def crumbsOf (walked : List Char) : List (List Char) → List Char → List Crumb
  | [], last => [.current last]
  | l :: ls, last => .segment l (walked ++ l) :: crumbsOf (walked ++ l ++ ['/']) ls last

theorem slashed_cons (l : List Char) (ls : List (List Char)) :
    slashed (l :: ls) = l ++ '/' :: slashed ls := by
  simp [slashed]

theorem intercalate_concat (ls : List (List Char)) (last : List Char) :
    List.intercalate ['/'] (ls ++ [last]) = slashed ls ++ last := by
  induction ls with
  | nil => simp [slashed]
  | cons l ls ih =>
    obtain ⟨next, more, hmore⟩ : ∃ next more, ls ++ [last] = next :: more := by
      cases ls with
      | nil => exact ⟨last, [], rfl⟩
      | cons next ls => exact ⟨next, ls ++ [last], rfl⟩
    rw [hmore] at ih
    rw [List.cons_append, hmore, List.intercalate_cons_cons, ih, slashed_cons]
    simp

theorem labels_crumbsOf (walked : List Char) (ls : List (List Char)) (last : List Char) :
    labels (crumbsOf walked ls last) = ls ++ [last] := by
  induction ls generalizing walked with
  | nil => rfl
  | cons l ls ih => exact congrArg (l :: ·) (ih _)

/-- The path after `k` further steps is what was walked, and the labels up to there. -/
theorem getElem?_paths_crumbsOf {walked path : List Char} {ls : List (List Char)} {last : List Char}
    {k : Nat} (h : (paths (crumbsOf walked ls last))[k]? = some path) :
    k < ls.length ∧ path = walked ++ List.intercalate ['/'] (ls.take (k + 1)) ∧
      path ++ ['/'] <+: walked ++ slashed ls := by
  induction ls generalizing walked k with
  | nil =>
    have hpaths : paths (crumbsOf walked [] last) = [] := rfl
    rw [hpaths] at h
    cases h
  | cons l ls ih =>
    have hpaths : paths (crumbsOf walked (l :: ls) last) =
        (walked ++ l) :: paths (crumbsOf (walked ++ l ++ ['/']) ls last) := rfl
    rw [hpaths] at h
    cases k with
    | zero =>
      obtain rfl : walked ++ l = path := Option.some.inj h
      refine ⟨by simp, by simp, ?_⟩
      rw [slashed_cons]
      exact ⟨slashed ls, by simp⟩
    | succ k =>
      obtain ⟨hk, hpath, hprefix⟩ := ih h
      refine ⟨Nat.succ_lt_succ hk, ?_, ?_⟩
      · cases ls with
        | nil => cases hk
        | cons next ls =>
          rw [hpath, List.take_succ_cons (i := k + 1), List.take_succ_cons,
            List.intercalate_cons_cons]
          simp
      · rw [slashed_cons]
        simpa using hprefix

theorem crumbsOf_spec (walked : List Char) (ls : List (List Char)) (last : List Char) :
    .standard ∉ crumbsOf walked ls last ∧ ∃ front, crumbsOf walked ls last = front ++ [.current last] ∧
      ∀ l, .current l ∉ front := by
  induction ls generalizing walked with
  | nil => exact ⟨by simp [crumbsOf], [], rfl, by simp⟩
  | cons l ls ih =>
    obtain ⟨hstandard, front, hfront, hcurrent⟩ := ih (walked ++ l ++ ['/'])
    refine ⟨?_, .segment l (walked ++ l) :: front, ?_, ?_⟩
    · rw [crumbsOf, List.mem_cons, not_or]
      exact ⟨by simp, hstandard⟩
    · rw [crumbsOf, hfront]
      rfl
    · simpa using hcurrent

theorem exists_steps_eq_crumbsOf (walked rest : List Char) :
    ∃ ls last, steps walked rest = crumbsOf walked ls last ∧ rest = slashed ls ++ last := by
  -- each step is shorter than what it is taken from, so the induction is on the length
  induction hlen : rest.length using Nat.strongRecOn generalizing walked rest with
  | ind n ih =>
    by_cases hslash : '/' ∈ rest
    · obtain ⟨step, after, rfl, hstep⟩ := List.eq_append_cons_of_mem hslash
      by_cases hne : step = []
      · subst hne
        exact ⟨[], _, steps_of_firstStep?_none (firstStep?_append hstep after), rfl⟩
      · rw [List.length_append, List.length_cons] at hlen
        obtain ⟨ls, last, hsteps, hafter⟩ :=
          ih after.length (by omega) (walked ++ step ++ ['/']) after rfl
        refine ⟨step :: ls, last, ?_, ?_⟩
        · rw [steps_append hstep hne, hsteps, crumbsOf]
        · rw [slashed_cons, List.append_assoc, List.cons_append, ← hafter]
    · exact ⟨[], rest, steps_of_firstStep?_none (firstStep?_of_not_mem hslash), rfl⟩

/-- **A trail is that of labels which, joined with slashes, are the path**, after the index of the
standard packages if the root is empty. -/
theorem exists_trail_eq_crumbsOf (path : String) (rootLength : Nat) :
    ∃ ls last, path.toList = slashed ls ++ last ∧
      trail path rootLength =
        (if rootLength = 0 then [Crumb.standard] else []) ++ crumbsOf [] ls last := by
  rw [trail, trailOf]
  by_cases hzero : rootLength = 0
  · obtain ⟨ls, last, hsteps, hpath⟩ := exists_steps_eq_crumbsOf [] path.toList
    exact ⟨ls, last, hpath, by rw [if_pos hzero, if_pos hzero, hsteps]; rfl⟩
  · rw [if_neg hzero, if_neg hzero]
    split
    · rename_i root rest hsplit
      obtain ⟨htext, _⟩ := splitAtByte?_eq_some_iff.mp hsplit
      obtain ⟨ls, last, hsteps, hrest⟩ := exists_steps_eq_crumbsOf (root ++ ['/']) rest
      refine ⟨root :: ls, last, ?_, by rw [hsteps]; rfl⟩
      rw [htext, slashed_cons, List.append_assoc, List.cons_append, ← hrest]
    · exact ⟨[], path.toList, rfl, rfl⟩

/-- **A trail never cuts a character and loses nothing.** For every import path and length of the
root, the walk by byte offsets succeeds and gives the trail; the trail ends with its one crumb for
the page itself; its labels, joined with slashes, are the path; the path of each ancestor is the join
of the labels up to it, and is followed by a slash in the import path; and the index of the standard
packages stands first and once if the root is empty, and nowhere otherwise. -/
theorem trail_rejoins_at_boundaries (path : String) (rootLength : Nat) :
    trailByOffsets? path rootLength = some (trail path rootLength) ∧
    (∃ front label, trail path rootLength = front ++ [.current label] ∧ ∀ l, .current l ∉ front) ∧
    List.intercalate ['/'] (labels (trail path rootLength)) = path.toList ∧
    (∀ k ancestor, (paths (trail path rootLength))[k]? = some ancestor →
      ancestor = List.intercalate ['/'] ((labels (trail path rootLength)).take (k + 1)) ∧
        ancestor ++ ['/'] <+: path.toList) ∧
    (rootLength = 0 ↔ .standard ∈ trail path rootLength) ∧
    (rootLength = 0 → ∃ rest, trail path rootLength = .standard :: rest ∧ .standard ∉ rest) := by
  obtain ⟨ls, last, hpath, htrail⟩ := exists_trail_eq_crumbsOf path rootLength
  obtain ⟨hstandard, front, hfront, hcurrent⟩ := crumbsOf_spec [] ls last
  obtain ⟨start, hstart⟩ :
      ∃ start, start = if rootLength = 0 then [Crumb.standard] else [] := ⟨_, rfl⟩
  rw [← hstart] at htrail
  have hstartLabels : labels start = [] ∧ paths start = [] ∧ ∀ l, .current l ∉ start := by
    rw [hstart]
    split <;> exact ⟨rfl, rfl, by simp⟩
  have hlabels : labels (trail path rootLength) = ls ++ [last] := by
    rw [htrail, labels, List.filterMap_append, ← labels, ← labels, hstartLabels.1, labels_crumbsOf]
    rfl
  have hpaths : paths (trail path rootLength) = paths (crumbsOf [] ls last) := by
    rw [htrail, paths, List.filterMap_append, ← paths, ← paths, hstartLabels.2.1]
    rfl
  refine ⟨trailByOffsets?_eq path rootLength, ⟨start ++ front, last, ?_, ?_⟩, ?_, ?_, ?_, ?_⟩
  · rw [htrail, hfront, List.append_assoc]
  · intro l hl
    rcases List.mem_append.mp hl with hl | hl
    · exact hstartLabels.2.2 l hl
    · exact hcurrent l hl
  · rw [hlabels, intercalate_concat, hpath]
  · intro k ancestor hk
    rw [hpaths] at hk
    obtain ⟨hlt, hjoin, hprefix⟩ := getElem?_paths_crumbsOf hk
    refine ⟨?_, ?_⟩
    · rw [hlabels, List.take_append_of_le_length hlt, hjoin, List.nil_append]
    · rw [hpath]
      exact hprefix.trans (List.prefix_append _ _)
  · rw [htrail, hstart, List.mem_append]
    split
    · rename_i hzero
      simp [hzero]
    · rename_i hzero
      simp [hzero, hstandard]
  · intro hzero
    refine ⟨crumbsOf [] ls last, ?_, hstandard⟩
    rw [htrail, hstart, if_pos hzero]
    rfl

end DocPress.Breadcrumb
