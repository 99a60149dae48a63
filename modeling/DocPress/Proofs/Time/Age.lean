import DocPress.Proofs.Text.Replace
import DocPress.Time.Age
import Mathlib.Data.Int.Basic

/-!
# Ages and what they say

An age is told as a whole number of the greatest unit that fits into it. This module says what an age
told in words lets its reader conclude about the time that has passed.

* `AgeUnit.nanos` — the length of a unit in nanoseconds.
* `Measures` — a number of nanoseconds measured by the greatest unit that fits.
* `Denotes` — the age that a text stands for, read off its words.
* `tableText` — the same ages by a table of nine rows.

Principal results: `exists_measures` — whatever lasts a second or more is measured, and told so;
`Measures.le_of_le` — measured ages grow with time; `Denotes.unique` — a text stands for one age only;
`describe_eq_tableText` — the table agrees; `age_tells_greatest_unit` puts them together.
-/

namespace DocPress.Time

/-! ## Measuring -/

/-- The length of a unit in nanoseconds. -/
def AgeUnit.nanos (u : AgeUnit) : Int := u.seconds * nanosPerSecond

/-- **A number of nanoseconds is measured**: the unit is the greatest that fits, and the count is how
often it fits as a whole. -/
structure Measures (nanos : Int) (u : AgeUnit) (count : Nat) : Prop where
  mem : u ∈ ageUnits
  fits : u.nanos ≤ nanos
  greatest : ∀ v ∈ ageUnits, v.nanos ≤ nanos → v.nanos ≤ u.nanos
  count_eq : (count : Int) = nanos / u.nanos

theorem seconds_pos {u : AgeUnit} (h : u ∈ ageUnits) : 0 < u.seconds := by
  revert u
  simp [ageUnits]

theorem nanos_pos {u : AgeUnit} (h : u ∈ ageUnits) : 0 < u.nanos := by
  have hpos := seconds_pos h
  unfold AgeUnit.nanos nanosPerSecond
  omega

/-- The units are listed by length, the greatest first. -/
theorem ageUnits_sorted : ageUnits.Pairwise fun u v => v.seconds < u.seconds := by
  simp [ageUnits]

theorem eq_of_nanos_eq {u v : AgeUnit} (hu : u ∈ ageUnits) (hv : v ∈ ageUnits)
    (h : u.nanos = v.nanos) : u = v := by
  have hseconds : u.seconds = v.seconds := by
    unfold AgeUnit.nanos nanosPerSecond at h
    omega
  have hinj : ∀ u ∈ ageUnits, ∀ v ∈ ageUnits, u.seconds = v.seconds → u = v := by simp [ageUnits]
  exact hinj u hu v hv hseconds

/-- A unit fits into the whole seconds of an age exactly if it fits into the age. -/
theorem seconds_le_iff (u : AgeUnit) (nanos : Int) :
    (u.seconds : Int) ≤ nanos / nanosPerSecond ↔ u.nanos ≤ nanos :=
  Int.le_ediv_iff_mul_le (by decide)

/-- Counting a unit in whole seconds loses nothing. -/
theorem seconds_ediv (u : AgeUnit) (nanos : Int) :
    nanos / nanosPerSecond / u.seconds = nanos / u.nanos := by
  rw [Int.ediv_ediv_of_nonneg (by decide), AgeUnit.nanos, Int.mul_comm]

theorem describe_of_lt {nanos : Int} (h : nanos < nanosPerSecond) : describe nanos = "just now" := by
  have hnone : ageUnits.find? (fun u => decide ((u.seconds : Int) ≤ nanos / nanosPerSecond)) = none := by
    rw [List.find?_eq_none]
    intro u hu hfits
    have hnanos := (seconds_le_iff u nanos).mp (of_decide_eq_true hfits)
    have hpos := seconds_pos hu
    unfold AgeUnit.nanos at hnanos
    unfold nanosPerSecond at h hnanos
    omega
  simp only [describe, hnone]

/-- **What lasts a second or more is measured, and told so.** -/
theorem exists_measures {nanos : Int} (h : nanosPerSecond ≤ nanos) :
    ∃ u count, Measures nanos u count ∧ describe nanos = countText count u := by
  have hsecond : (⟨"second", 1⟩ : AgeUnit).nanos ≤ nanos := by
    simpa [AgeUnit.nanos] using h
  cases hfind : ageUnits.find? fun u => decide ((u.seconds : Int) ≤ nanos / nanosPerSecond) with
  | none =>
    rw [List.find?_eq_none] at hfind
    refine absurd ((seconds_le_iff ⟨"second", 1⟩ nanos).mpr hsecond) ?_
    simpa using hfind ⟨"second", 1⟩ (by simp [ageUnits])
  | some u =>
    obtain ⟨hfits, before, after, hunits, hbefore⟩ := List.find?_eq_some_iff_append.mp hfind
    have hmem : u ∈ ageUnits := List.mem_of_find?_eq_some hfind
    have hnanos : u.nanos ≤ nanos := (seconds_le_iff u nanos).mp (of_decide_eq_true hfits)
    have hnonneg : 0 ≤ nanos / nanosPerSecond := by
      have := of_decide_eq_true hfits
      omega
    refine ⟨u, (nanos / nanosPerSecond).toNat / u.seconds, ⟨hmem, hnanos, ?_, ?_⟩, ?_⟩
    · -- the units before do not fit, and those behind are shorter
      intro v hv hfitsv
      rw [hunits, List.mem_append, List.mem_cons] at hv
      rcases hv with hv | rfl | hv
      · have hnot := hbefore v hv
        have hyes := (seconds_le_iff v nanos).mpr hfitsv
        simp [hyes] at hnot
      · exact Int.le_refl _
      · have hsorted := ageUnits_sorted
        rw [hunits, List.pairwise_append, List.pairwise_cons] at hsorted
        have hlt := hsorted.2.1.1 v hv
        unfold AgeUnit.nanos nanosPerSecond
        omega
    · rw [← seconds_ediv, Int.natCast_ediv, Int.toNat_of_nonneg hnonneg]
    · simp only [describe, hfind]

section
variable {nanos : Int} {u : AgeUnit} {count : Nat} (h : Measures nanos u count)
include h

theorem Measures.mul_le : count * u.nanos ≤ nanos := by
  rw [h.count_eq, Int.mul_comm]
  exact Int.mul_ediv_self_le (Int.ne_of_gt (nanos_pos h.mem))

theorem Measures.lt_mul : nanos < (count + 1) * u.nanos := by
  rw [h.count_eq]
  exact Int.lt_ediv_add_one_mul_self nanos (nanos_pos h.mem)

theorem Measures.one_le : 1 ≤ count := by
  have hone : (1 : Int) ≤ nanos / u.nanos := by
    rw [Int.le_ediv_iff_mul_le (nanos_pos h.mem), Int.one_mul]
    exact h.fits
  have hcount := h.count_eq
  omega

theorem Measures.nanosPerSecond_le : nanosPerSecond ≤ nanos := by
  have hpos := seconds_pos h.mem
  have hfits := h.fits
  unfold AgeUnit.nanos at hfits
  unfold nanosPerSecond at hfits ⊢
  omega

/-- A number of nanoseconds is measured in one way only. -/
theorem Measures.unique {v : AgeUnit} {other : Nat} (h' : Measures nanos v other) :
    u = v ∧ count = other := by
  have hle := h.greatest v h'.mem h'.fits
  have hge := h'.greatest u h.mem h.fits
  obtain rfl := eq_of_nanos_eq h.mem h'.mem (Int.le_antisymm hge hle)
  have hcount := h.count_eq.trans h'.count_eq.symm
  exact ⟨rfl, by omega⟩

theorem Measures.describe_eq : describe nanos = countText count u := by
  obtain ⟨v, other, hmeasures, hdescribe⟩ := exists_measures h.nanosPerSecond_le
  obtain ⟨rfl, rfl⟩ := h.unique hmeasures
  exact hdescribe

/-- **Measured ages grow with time.** -/
theorem Measures.le_of_le {nanos' : Int} {v : AgeUnit} {other : Nat} (h' : Measures nanos' v other)
    (hle : nanos ≤ nanos') : count * u.nanos ≤ other * v.nanos := by
  by_cases hfits : v.nanos ≤ nanos
  · -- the same unit fits into both, so the counts decide
    have hle' := h'.greatest u h.mem (Int.le_trans h.fits hle)
    obtain rfl := eq_of_nanos_eq h.mem h'.mem (Int.le_antisymm hle' (h.greatest v h'.mem hfits))
    rw [h.count_eq, h'.count_eq]
    have hpos := nanos_pos h.mem
    exact Int.mul_le_mul_of_nonneg_right (Int.ediv_le_ediv hpos hle) (Int.le_of_lt hpos)
  · -- a greater unit fits into the later age only, and one of it is more than the earlier age
    have hone : 1 * v.nanos ≤ other * v.nanos := by
      have := h'.one_le
      exact Int.mul_le_mul_of_nonneg_right (by omega) (Int.le_of_lt (nanos_pos h'.mem))
    have hmul := h.mul_le
    omega

end

/-! ## Reading ages -/

/-- **The age in seconds that a text stands for**, as its words say. -/
inductive Denotes : String → Nat → Prop where
  | now : Denotes "just now" 0
  | one {u : AgeUnit} (hu : u ∈ ageUnits) : Denotes ("one " ++ u.name ++ " ago") u.seconds
  | many (n : Nat) {u : AgeUnit} (hu : u ∈ ageUnits) :
      Denotes (toString n ++ " " ++ u.name ++ "s ago") (n * u.seconds)

/-- The first character of a count is a digit. -/
theorem exists_toString_eq (n : Nat) (s : String) :
    ∃ d rest, (toString n ++ s).toList = d :: rest ∧ d.isDigit = true := by
  obtain ⟨d, rest, hdigits⟩ := List.exists_cons_of_ne_nil (Nat.toDigits_ne_nil (n := n) (b := 10))
  refine ⟨d, rest ++ s.toList, ?_, ?_⟩
  · rw [String.toList_append, Nat.toString_eq_ofList_toDigits, String.toList_ofList, hdigits]
    rfl
  · exact Nat.isDigit_of_mem_toDigits (by decide) (by decide) (hdigits ▸ List.mem_cons_self)

theorem toString_append_ne {n : Nat} {s t : String} {c : Char} (ht : t.toList.head? = some c)
    (hc : c.isDigit = false) : toString n ++ s ≠ t := by
  intro heq
  obtain ⟨d, rest, hcons, hd⟩ := exists_toString_eq n s
  rw [heq] at hcons
  rw [hcons, List.head?_cons, Option.some.injEq] at ht
  rw [ht, hc] at hd
  cases hd

/-- The blank behind a count tells where it ends. -/
theorem toString_blank_inj {n n' : Nat} {s s' : String}
    (h : toString n ++ " " ++ s = toString n' ++ " " ++ s') : n = n' ∧ s = s' := by
  have hlist : ∀ (k : Nat) (t : String),
      (toString k ++ " " ++ t).toList = Nat.toDigits 10 k ++ ' ' :: t.toList := by
    intro k t
    simp
  have hblank : ∀ k, ' ' ∉ Nat.toDigits 10 k := by
    intro k hmem
    cases Nat.isDigit_of_mem_toDigits (by decide) (by decide) hmem
  have hchars := congrArg String.toList h
  rw [hlist, hlist] at hchars
  have hdigits := congrArg (List.takeWhile (· != ' ')) hchars
  rw [Text.takeWhile_bne (hblank n), Text.takeWhile_bne (hblank n')] at hdigits
  rw [hdigits, List.append_cancel_left_eq, List.cons.injEq] at hchars
  refine ⟨?_, String.toList_inj.mp hchars.2⟩
  rw [← Nat.ofDigitChars_ten_toDigits (n := n), hdigits, Nat.ofDigitChars_ten_toDigits]

theorem eq_of_name_eq {u v : AgeUnit} (hu : u ∈ ageUnits) (hv : v ∈ ageUnits) (h : u.name = v.name) :
    u = v := by
  have hinj : ∀ u ∈ ageUnits, ∀ v ∈ ageUnits, u.name = v.name → u = v := by simp [ageUnits]
  exact hinj u hu v hv h

theorem many_inj {n n' : Nat} {u v : AgeUnit} (hu : u ∈ ageUnits) (hv : v ∈ ageUnits)
    (h : toString n ++ " " ++ u.name ++ "s ago" = toString n' ++ " " ++ v.name ++ "s ago") :
    n = n' ∧ u = v := by
  rw [String.append_left_inj] at h
  obtain ⟨hcount, hname⟩ := toString_blank_inj h
  exact ⟨hcount, eq_of_name_eq hu hv hname⟩

theorem many_ne_one (n : Nat) (u v : AgeUnit) :
    toString n ++ " " ++ u.name ++ "s ago" ≠ "one " ++ v.name ++ " ago" := by
  rw [String.append_assoc, String.append_assoc]
  exact toString_append_ne (c := 'o') (by simp) rfl

theorem many_ne_now (n : Nat) (u : AgeUnit) :
    toString n ++ " " ++ u.name ++ "s ago" ≠ "just now" := by
  rw [String.append_assoc, String.append_assoc]
  exact toString_append_ne (c := 'j') (by simp) rfl

theorem one_ne_now (u : AgeUnit) : "one " ++ u.name ++ " ago" ≠ "just now" := by
  intro h
  have hhead := congrArg (fun s => s.toList.head?) h
  simp at hhead

theorem one_inj {u v : AgeUnit} (hu : u ∈ ageUnits) (hv : v ∈ ageUnits)
    (h : "one " ++ u.name ++ " ago" = "one " ++ v.name ++ " ago") : u = v := by
  rw [String.append_left_inj, String.append_right_inj] at h
  exact eq_of_name_eq hu hv h

/-- **A text stands for one age only.** -/
theorem Denotes.unique {text text' : String} {a b : Nat} (ha : Denotes text a) (hb : Denotes text' b)
    (h : text = text') : a = b := by
  cases ha with
  | now =>
    cases hb with
    | now => rfl
    | one => exact absurd h.symm (one_ne_now _)
    | many => exact absurd h.symm (many_ne_now _ _)
  | one hu =>
    cases hb with
    | now => exact absurd h (one_ne_now _)
    | one hv => rw [one_inj hu hv h]
    | many => exact absurd h.symm (many_ne_one _ _ _)
  | many n hu =>
    cases hb with
    | now => exact absurd h (many_ne_now _ _)
    | one => exact absurd h (many_ne_one _ _ _)
    | many n' hv =>
      obtain ⟨rfl, rfl⟩ := many_inj hu hv h
      rfl

/-! ## Ages in words -/

theorem countText_one (u : AgeUnit) : countText 1 u = "one " ++ u.name ++ " ago" := rfl

theorem countText_many {n : Nat} (h : n ≠ 1) (u : AgeUnit) :
    countText n u = toString n ++ " " ++ u.name ++ "s ago" := if_neg h

/-- A count in words stands for so many of its unit. -/
theorem denotes_countText (n : Nat) {u : AgeUnit} (hu : u ∈ ageUnits) :
    Denotes (countText n u) (n * u.seconds) := by
  by_cases h : n = 1
  · subst h
    rw [countText_one, Nat.one_mul]
    exact .one hu
  · rw [countText_many h]
    exact .many n hu

theorem countText_ne_now (n : Nat) (u : AgeUnit) : countText n u ≠ "just now" := by
  by_cases h : n = 1
  · subst h
    exact one_ne_now u
  · rw [countText_many h]
    exact many_ne_now n u

theorem describe_eq_now_iff (nanos : Int) : describe nanos = "just now" ↔ nanos < nanosPerSecond := by
  constructor
  · intro h
    by_contra hle
    obtain ⟨u, n, -, hdescribe⟩ := exists_measures (Int.not_lt.mp hle)
    exact countText_ne_now n u (hdescribe.symm.trans h)
  · exact describe_of_lt

/-- The words for a measured age: one of the unit is told as such, any other count as a number. -/
theorem countText_eq_iff (n : Nat) (u : AgeUnit) :
    (countText n u = "one " ++ u.name ++ " ago" ↔ n = 1) ∧
    (countText n u = toString n ++ " " ++ u.name ++ "s ago" ↔ n ≠ 1) := by
  by_cases h : n = 1
  · subst h
    rw [countText_one]
    exact ⟨by simp, by simpa using (many_ne_one 1 u u).symm⟩
  · rw [countText_many h]
    exact ⟨by simpa [h] using many_ne_one n u u, by simp [h]⟩

/-- A number stands before a unit only if it is more than one. -/
theorem two_le_of_describe {nanos : Int} {n : Nat} {u : AgeUnit} (hu : u ∈ ageUnits)
    (h : describe nanos = toString n ++ " " ++ u.name ++ "s ago") : 2 ≤ n := by
  by_cases hlt : nanos < nanosPerSecond
  · rw [describe_of_lt hlt] at h
    exact absurd h.symm (many_ne_now n u)
  · obtain ⟨v, count, hmeasures, hdescribe⟩ := exists_measures (Int.not_lt.mp hlt)
    have hone := hmeasures.one_le
    rw [hdescribe] at h
    by_cases hcount : count = 1
    · subst hcount
      exact absurd h.symm (many_ne_one n u v)
    · rw [countText_many hcount] at h
      obtain ⟨rfl, -⟩ := many_inj hmeasures.mem hu h
      omega

theorem exists_denotes (nanos : Int) : ∃ a, Denotes (describe nanos) a := by
  by_cases hlt : nanos < nanosPerSecond
  · rw [describe_of_lt hlt]
    exact ⟨0, .now⟩
  · obtain ⟨u, n, hmeasures, hdescribe⟩ := exists_measures (Int.not_lt.mp hlt)
    rw [hdescribe]
    exact ⟨_, denotes_countText n hmeasures.mem⟩

/-- **The age told never decreases as time passes.** -/
theorem denoted_le_of_le {nanos nanos' : Int} (hle : nanos ≤ nanos') {a b : Nat}
    (ha : Denotes (describe nanos) a) (hb : Denotes (describe nanos') b) : a ≤ b := by
  by_cases hlt : nanos < nanosPerSecond
  · rw [describe_of_lt hlt] at ha
    rw [ha.unique .now rfl]
    exact Nat.zero_le b
  · have hlt' : ¬ nanos' < nanosPerSecond := by omega
    obtain ⟨u, n, hmeasures, hdescribe⟩ := exists_measures (Int.not_lt.mp hlt)
    obtain ⟨u', n', hmeasures', hdescribe'⟩ := exists_measures (Int.not_lt.mp hlt')
    rw [ha.unique (denotes_countText n hmeasures.mem) hdescribe,
      hb.unique (denotes_countText n' hmeasures'.mem) hdescribe']
    have hnanos := hmeasures.le_of_le hmeasures' hle
    unfold AgeUnit.nanos at hnanos
    rw [← Int.mul_assoc, ← Int.mul_assoc] at hnanos
    have hseconds := Int.le_of_mul_le_mul_right hnanos (by decide)
    exact_mod_cast hseconds

/-! ## The table -/

/-- **The table of ages**: nine rows, each with its lower bound and without its upper one, and counts
cut off. -/
def tableText (nanos : Int) : String :=
  let second : Int := nanosPerSecond
  let minute := 60 * second
  let hour := 60 * minute
  let day := 24 * hour
  if nanos < second then "just now"
  else if nanos < 2 * second then "one second ago"
  else if nanos < minute then toString (nanos.tdiv second) ++ " seconds ago"
  else if nanos < 2 * minute then "one minute ago"
  else if nanos < hour then toString (nanos.tdiv minute) ++ " minutes ago"
  else if nanos < 2 * hour then "one hour ago"
  else if nanos < day then toString (nanos.tdiv hour) ++ " hours ago"
  else if nanos < 2 * day then "one day ago"
  else toString (nanos.tdiv day) ++ " days ago"

/-- The two rows of a unit, for ages into which no greater unit fits. -/
theorem describe_eq_rows (nanos : Int) {u : AgeUnit} (hu : u ∈ ageUnits) (hfits : u.nanos ≤ nanos)
    (hothers : ∀ v ∈ ageUnits, v.nanos ≤ u.nanos ∨ nanos < v.nanos) :
    describe nanos = if nanos < 2 * u.nanos then "one " ++ u.name ++ " ago"
      else toString (nanos.tdiv u.nanos) ++ (" " ++ u.name ++ "s ago") := by
  have hpos := nanos_pos hu
  have hnonneg : 0 ≤ nanos := by omega
  have hcount : (((nanos / u.nanos).toNat : Nat) : Int) = nanos / u.nanos :=
    Int.toNat_of_nonneg (Int.ediv_nonneg hnonneg (Int.le_of_lt hpos))
  have hgreatest : ∀ v ∈ ageUnits, v.nanos ≤ nanos → v.nanos ≤ u.nanos := by
    intro v hv hle
    have := hothers v hv
    omega
  have hmeasures : Measures nanos u (nanos / u.nanos).toNat := ⟨hu, hfits, hgreatest, hcount⟩
  rw [hmeasures.describe_eq]
  split
  · rename_i hlt
    have htwo : nanos / u.nanos < 2 := (Int.ediv_lt_iff_lt_mul hpos).mpr hlt
    have hone : (nanos / u.nanos).toNat = 1 := by
      have := hmeasures.one_le
      omega
    rw [hone, countText_one]
  · rename_i hge
    have htwo : 2 ≤ nanos / u.nanos := (Int.le_ediv_iff_mul_le hpos).mpr (Int.not_lt.mp hge)
    rw [countText_many (by omega), Int.tdiv_eq_ediv_of_nonneg hnonneg, ← hcount]
    simp only [String.append_assoc]
    rfl

/-- **The table agrees with the greatest unit**, at the bounds of its rows too. -/
theorem describe_eq_tableText (nanos : Int) : describe nanos = tableText nanos := by
  have hsecond : (⟨"second", 1⟩ : AgeUnit).nanos = nanosPerSecond := rfl
  have hminute : (⟨"minute", 60⟩ : AgeUnit).nanos = 60 * nanosPerSecond := rfl
  have hhour : (⟨"hour", 3600⟩ : AgeUnit).nanos = 60 * (60 * nanosPerSecond) := rfl
  have hday : (⟨"day", 86400⟩ : AgeUnit).nanos = 24 * (60 * (60 * nanosPerSecond)) := rfl
  have hpos : (0 : Int) < nanosPerSecond := by decide
  simp only [tableText]
  by_cases h₁ : nanos < nanosPerSecond
  · rw [describe_of_lt h₁, if_pos h₁]
  rw [if_neg h₁]
  by_cases h₂ : nanos < 60 * nanosPerSecond
  · have hrows := describe_eq_rows nanos (u := ⟨"second", 1⟩) (by simp [ageUnits]) (by omega)
      (by simp [ageUnits, hsecond, hminute, hhour, hday]; omega)
    rw [hrows, hsecond, if_pos h₂]
    rfl
  rw [if_neg (by omega), if_neg h₂]
  by_cases h₃ : nanos < 60 * (60 * nanosPerSecond)
  · have hrows := describe_eq_rows nanos (u := ⟨"minute", 60⟩) (by simp [ageUnits]) (by omega)
      (by simp [ageUnits, hsecond, hminute, hhour, hday]; omega)
    rw [hrows, hminute, if_pos h₃]
    rfl
  rw [if_neg (by omega), if_neg h₃]
  by_cases h₄ : nanos < 24 * (60 * (60 * nanosPerSecond))
  · have hrows := describe_eq_rows nanos (u := ⟨"hour", 3600⟩) (by simp [ageUnits]) (by omega)
      (by simp [ageUnits, hsecond, hminute, hhour, hday]; omega)
    rw [hrows, hhour, if_pos h₄]
    rfl
  rw [if_neg (by omega), if_neg h₄]
  have hrows := describe_eq_rows nanos (u := ⟨"day", 86400⟩) (by simp [ageUnits]) (by omega)
    (by simp [ageUnits, hsecond, hminute, hhour, hday]; omega)
  rw [hrows, hday]
  rfl

/-- **An age tells the greatest unit that fits.** For all instants: less than a second, and what lies
ahead, is told as `just now`, and nothing else is. Otherwise the unit named is the greatest that fits
into the time passed, and the count is how often it fits as a whole: one is told as such, and any other
count as a number, which is never zero or one. The time passed is the age told or more, but less than
that and one unit. A text stands for one age only, and the age told never decreases as the time passed
grows. The table of nine rows gives the same texts. -/
theorem age_tells_greatest_unit (t now : Instant) :
    (age t now = "just now" ↔ now.nanosSince t < nanosPerSecond) ∧
    (nanosPerSecond ≤ now.nanosSince t → ∃ u ∈ ageUnits, ∃ n : Nat,
      u.nanos ≤ now.nanosSince t ∧
      (∀ v ∈ ageUnits, v.nanos ≤ now.nanosSince t → v.nanos ≤ u.nanos) ∧
      (n : Int) = now.nanosSince t / u.nanos ∧
      (age t now = "one " ++ u.name ++ " ago" ↔ n = 1) ∧
      (age t now = toString n ++ " " ++ u.name ++ "s ago" ↔ n ≠ 1) ∧
      n * u.nanos ≤ now.nanosSince t ∧ now.nanosSince t < (n + 1) * u.nanos ∧
      Denotes (age t now) (n * u.seconds)) ∧
    (∀ n, ∀ u ∈ ageUnits, age t now = toString n ++ " " ++ u.name ++ "s ago" → 2 ≤ n) ∧
    (∃! a, Denotes (age t now) a) ∧
    (∀ t' now', now.nanosSince t ≤ now'.nanosSince t' →
      ∀ a b, Denotes (age t now) a → Denotes (age t' now') b → a ≤ b) ∧
    age t now = tableText (now.nanosSince t) := by
  unfold age
  refine ⟨describe_eq_now_iff _, ?_, fun n u hu => two_le_of_describe hu, ?_,
    fun t' now' hle a b => denoted_le_of_le hle, describe_eq_tableText _⟩
  · intro hle
    obtain ⟨u, n, hmeasures, hdescribe⟩ := exists_measures hle
    rw [hdescribe]
    exact ⟨u, hmeasures.mem, n, hmeasures.fits, hmeasures.greatest, hmeasures.count_eq,
      (countText_eq_iff n u).1, (countText_eq_iff n u).2, hmeasures.mul_le, hmeasures.lt_mul,
      denotes_countText n hmeasures.mem⟩
  · obtain ⟨a, ha⟩ := exists_denotes (now.nanosSince t)
    exact ⟨a, ha, fun b hb => hb.unique ha rfl⟩

/-- Two minutes less a nanosecond are told as one minute, a nanosecond later as two, and the ages told
are in that order. -/
theorem two_minutes_age :
    age ⟨0, 0, 0⟩ ⟨0, 119, 999999999⟩ = "one minute ago" ∧ age ⟨0, 0, 0⟩ ⟨0, 120, 0⟩ = "2 minutes ago" ∧
    ∀ a b, Denotes "one minute ago" a → Denotes "2 minutes ago" b → a ≤ b := by
  obtain ⟨-, -, -, -, hmono, hbefore⟩ := age_tells_greatest_unit ⟨0, 0, 0⟩ ⟨0, 119, 999999999⟩
  obtain ⟨-, -, -, -, -, hafter⟩ := age_tells_greatest_unit ⟨0, 0, 0⟩ ⟨0, 120, 0⟩
  have hone : tableText (Instant.nanosSince ⟨0, 119, 999999999⟩ ⟨0, 0, 0⟩) = "one minute ago" := by
    decide
  have htwo : tableText (Instant.nanosSince ⟨0, 120, 0⟩ ⟨0, 0, 0⟩) = "2 minutes ago" := by decide
  rw [hone] at hbefore
  rw [htwo] at hafter
  refine ⟨hbefore, hafter, ?_⟩
  have hle := hmono ⟨0, 0, 0⟩ ⟨0, 120, 0⟩ (by decide)
  rwa [hbefore, hafter] at hle

end DocPress.Time
