import DocPress.Proofs.Time.Calendar
import DocPress.Time.Instant
import Mathlib.Data.List.TakeWhile

/-!
# Timestamps read back

* `Instant.IsMoment` — a second of a day and nanoseconds within it; only the second 59 of a minute
  has the nanoseconds of a leap second.
* `Instant.year` — the year of an instant in universal time.
* `readNumber?_padded`, `readDate?_written`, `readFraction?_written`, `readTime?_written` — each part
  of a timestamp is read back from what is written of it, whatever follows.

Principal results: `parse?_text` — a moment of the years 0 to 9999 is read back from its timestamp;
`isMoment_of_parse?` — whatever timestamp is read, offset and leap second included, is a moment.
-/

namespace DocPress.Time

/-! ## Moments -/

/-- The second and the nanoseconds are those of a day, a leap second included. -/
structure Instant.IsMoment (t : Instant) : Prop where
  second_lt : t.second < secondsPerDay
  nano_lt : t.nano < 2 * nanosPerSecond
  leap : nanosPerSecond ≤ t.nano → t.second % 60 = 59

/-- The year of an instant in universal time. -/
def Instant.year (t : Instant) : Int := (dateOfDay t.day).year

/-! ## Digits -/

theorem toNat_of_isDigit {c : Char} (h : c.isDigit = true) : 48 ≤ c.toNat ∧ c.toNat ≤ 57 := by
  simp only [Char.isDigit, Bool.and_eq_true, decide_eq_true_eq] at h
  exact ⟨h.1, h.2⟩

theorem isWhite_of_isDigit {c : Char} (h : c.isDigit = true) : Text.isWhite c = false := by
  obtain ⟨hlow, hhigh⟩ := toNat_of_isDigit h
  rw [Bool.eq_false_iff, Text.isWhite, Text.inRanges]
  intro hany
  obtain ⟨r, hr, hin⟩ := List.any_eq_true.mp hany
  simp only [Bool.and_eq_true, decide_eq_true_eq] at hin
  have hall : ∀ r ∈ Text.whiteRanges, r.2 < 48 ∨ 57 < r.1 := by decide
  rcases hall r hr with h | h <;> omega

theorem ofDigitChars_lt {s : List Char} (h : ∀ c ∈ s, c.isDigit = true) :
    Nat.ofDigitChars 10 s 0 < 10 ^ s.length := by
  induction s with
  | nil => simp
  | cons c s ih =>
    have hrest := ih fun x hx => h x (List.mem_cons_of_mem _ hx)
    have hc := (toNat_of_isDigit (h c List.mem_cons_self)).2
    have hzero : '0'.toNat = 48 := rfl
    rw [Nat.ofDigitChars_cons, Nat.ofDigitChars_eq_ofDigitChars_zero, List.length_cons, Nat.pow_succ]
    have hdigit : 10 * 0 + (c.toNat - '0'.toNat) ≤ 9 := by omega
    have := Nat.mul_le_mul_left (10 ^ s.length) hdigit
    omega

/-! ## Numbers of a fixed width -/

theorem isDigit_of_mem_padded {width n : Nat} {c : Char} (h : c ∈ padded width n) :
    c.isDigit = true := by
  rcases List.mem_append.mp h with h | h
  · rw [List.eq_of_mem_replicate h]
    rfl
  · exact Nat.isDigit_of_mem_toDigits (by decide) (by decide) h

theorem length_padded {width n : Nat} (hwidth : 0 < width) (h : n < 10 ^ width) :
    (padded width n).length = width := by
  have hle := (Nat.length_toDigits_le_iff (by decide : 1 < 10) hwidth).mpr h
  simp only [padded, List.length_append, List.length_replicate]
  omega

theorem ofDigitChars_padded (width n : Nat) : Nat.ofDigitChars 10 (padded width n) 0 = n := by
  rw [padded, Nat.ofDigitChars_append, Nat.ofDigitChars_replicate_zero, Nat.mul_zero,
    Nat.ofDigitChars_ten_toDigits]

/-- A padded number begins with a digit. -/
theorem padded_eq_cons (width n : Nat) :
    ∃ d rest, padded width n = d :: rest ∧ d.isDigit = true := by
  have hne : padded width n ≠ [] := by simp [padded, Nat.toDigits_ne_nil]
  obtain ⟨d, rest, heq⟩ := List.exists_cons_of_ne_nil hne
  exact ⟨d, rest, heq, isDigit_of_mem_padded (heq ▸ List.mem_cons_self)⟩

theorem takeWhile_padded (width n : Nat) :
    (padded width n).takeWhile Char.isDigit = padded width n :=
  List.takeWhile_eq_self_iff.mpr fun _ hc => isDigit_of_mem_padded hc

theorem readNumber?_padded {width n : Nat} (hwidth : 0 < width) (h : n < 10 ^ width)
    (rest : List Char) : readNumber? width (padded width n ++ rest) = some (n, rest) := by
  have hlength := length_padded hwidth h
  have htake : ((padded width n ++ rest).take width).takeWhile Char.isDigit = padded width n := by
    rw [List.take_left' hlength, takeWhile_padded]
  unfold readNumber?
  rw [htake]
  obtain ⟨d, more, heq, _⟩ := padded_eq_cons width n
  split
  · rename_i hnil
    rw [heq] at hnil
    cases hnil
  · rw [ofDigitChars_padded, List.drop_left]

theorem trimStart_padded (width n : Nat) (rest : List Char) :
    Text.trimStart (padded width n ++ rest) = padded width n ++ rest := by
  obtain ⟨d, more, heq, hd⟩ := padded_eq_cons width n
  rw [heq, Text.trimStart, List.cons_append, List.dropWhile_cons_of_neg]
  rw [isWhite_of_isDigit hd]
  exact Bool.false_ne_true

theorem readPadded?_padded {width n : Nat} (hwidth : 0 < width) (h : n < 10 ^ width)
    (rest : List Char) : readPadded? width (padded width n ++ rest) = some (n, rest) := by
  rw [readPadded?, trimStart_padded, readNumber?_padded hwidth h]

theorem readMark?_cons {mark : Char} (h : Text.isWhite mark = false) (rest : List Char) :
    readMark? mark (mark :: rest) = some rest := by
  simp [readMark?, Text.trimStart, h]

/-! ## Dates -/

theorem readYear?_written {year : Int} (h : 0 ≤ year ∧ year ≤ 9999) (rest : List Char) :
    readYear? (yearText year ++ rest) = some (year, rest) := by
  rw [yearText, if_pos h, readYear?, trimStart_padded]
  have hread : readNumber? 4 (padded 4 year.toNat ++ rest) = some (year.toNat, rest) :=
    readNumber?_padded (by decide) (by omega) rest
  obtain ⟨d, more, heq, hd⟩ := padded_eq_cons 4 year.toNat
  rw [heq, List.cons_append] at hread ⊢
  split
  · rename_i hsign
    rw [(List.cons.inj hsign).1] at hd
    cases hd
  · rename_i hsign
    rw [(List.cons.inj hsign).1] at hd
    cases hd
  · rw [hread]
    simp [Int.toNat_of_nonneg h.1]

theorem readDate?_written {d : Date} (hyear : 0 ≤ d.year ∧ d.year ≤ 9999) (hmonth : d.month < 100)
    (hday : d.day < 100) (hvalid : d.isValid = true) (rest : List Char) :
    readDate? (yearText d.year ++ ('-' :: (padded 2 d.month ++ ('-' :: (padded 2 d.day ++ rest))))) =
      some (d, rest) := by
  have hmark : Text.isWhite '-' = false := by decide
  have hrange : isYearInRange d.year = true := by
    simp only [isYearInRange, Bool.and_eq_true, decide_eq_true_eq]
    omega
  simp only [readDate?, readYear?_written hyear, readMark?_cons hmark,
    readPadded?_padded (by decide : 0 < 2) hmonth, readPadded?_padded (by decide : 0 < 2) hday,
    Option.bind_eq_bind, Option.bind_some, hrange, hvalid, Bool.and_self, if_true]

/-! ## Times -/

/-- Digits of a fraction stand for nanoseconds by their place. -/
theorem readFraction?_padded {width n : Nat} (hwidth : 0 < width ∧ width ≤ 9) (h : n < 10 ^ width)
    {mark : Char} (hmark : mark.isDigit = false) (rest : List Char) :
    readFraction? ('.' :: (padded width n ++ mark :: rest)) =
      some (n * Nat.pow 10 (9 - width), mark :: rest) := by
  have hlength := length_padded hwidth.1 h
  have htake : ((padded width n ++ mark :: rest).take 9).takeWhile Char.isDigit =
      padded width n := by
    rw [List.take_append, hlength, List.take_of_length_le (by omega),
      List.takeWhile_append_of_pos fun _ hc => isDigit_of_mem_padded hc]
    cases hmore : 9 - width with
    | zero => simp
    | succ k => simp [hmark]
  have hread : readNumber? 9 (padded width n ++ mark :: rest) = some (n, mark :: rest) := by
    unfold readNumber?
    rw [htake]
    obtain ⟨d, more, heq, _⟩ := padded_eq_cons width n
    split
    · rename_i hnil
      rw [heq] at hnil
      cases hnil
    · rw [ofDigitChars_padded, List.drop_left]
  have hdrop : (padded width n ++ mark :: rest).dropWhile Char.isDigit = mark :: rest := by
    rw [List.dropWhile_append_of_pos fun _ hc => isDigit_of_mem_padded hc,
      List.dropWhile_cons_of_neg (by rw [hmark]; exact Bool.false_ne_true)]
  simp only [readFraction?, htake, hread, hlength, hdrop, Option.bind_eq_bind, Option.bind_some]

/-- **The shortest fraction loses nothing.** -/
theorem readFraction?_written {nano : Nat} (h : nano < nanosPerSecond) {mark : Char}
    (hmark : mark.isDigit = false) (hdot : mark ≠ '.') (rest : List Char) :
    readFraction? (fractionText nano ++ mark :: rest) = some (nano, mark :: rest) := by
  rw [nanosPerSecond] at h
  unfold fractionText
  split
  · rename_i hzero
    subst hzero
    rw [List.nil_append, readFraction?]
    intro more heq
    exact hdot (List.cons.inj heq).1
  · split
    · rename_i hmilli
      rw [List.cons_append, readFraction?_padded (by decide) (by omega) hmark]
      congr 2
      show nano / 1000000 * 1000000 = nano
      omega
    · split
      · rename_i hmicro
        rw [List.cons_append, readFraction?_padded (by decide) (by omega) hmark]
        congr 2
        show nano / 1000 * 1000 = nano
        omega
      · rw [List.cons_append, readFraction?_padded (by decide) (by omega) hmark]
        congr 2
        show nano * 1 = nano
        omega

/-- **A time of day is read back**, in a leap second too: it is written as second 60. -/
theorem readTime?_written {t : Instant} (h : t.IsMoment) {mark : Char}
    (hmark : mark.isDigit = false) (hdot : mark ≠ '.') (rest : List Char) :
    readTime? (padded 2 (t.second / 3600) ++ (':' :: (padded 2 (t.second / 60 % 60) ++
      (':' :: (padded 2 (t.second % 60 + t.nano / nanosPerSecond) ++
        (fractionText (t.nano % nanosPerSecond) ++ mark :: rest)))))) =
      some ((t.second, t.nano), mark :: rest) := by
  obtain ⟨hsecond, hnano, hleap⟩ := h
  have hcolon : Text.isWhite ':' = false := by decide
  simp only [secondsPerDay, nanosPerSecond] at hsecond hnano hleap ⊢
  have hnano' : t.nano % 1000000000 < 1000000000 := Nat.mod_lt _ (by decide)
  have hfraction := readFraction?_written hnano' hmark hdot rest
  simp only [readTime?, readPadded?_padded (by decide : 0 < 2) (by omega : t.second / 3600 < 10 ^ 2),
    readPadded?_padded (by decide : 0 < 2) (by omega : t.second / 60 % 60 < 10 ^ 2),
    readPadded?_padded (by decide : 0 < 2) (by omega : t.second % 60 + t.nano / 1000000000 < 10 ^ 2),
    readMark?_cons hcolon, hfraction, Option.bind_eq_bind, Option.bind_some, nanosPerSecond]
  have hvalid : (decide (t.second / 3600 < 24) && decide (t.second / 60 % 60 < 60) &&
      decide (t.second % 60 + t.nano / 1000000000 ≤ 60)) = true := by
    simp only [Bool.and_eq_true, decide_eq_true_eq]
    omega
  rw [if_pos hvalid]
  by_cases hsixty : t.second % 60 + t.nano / 1000000000 = 60
  · rw [if_pos hsixty]
    congr 3 <;> omega
  · rw [if_neg hsixty]
    congr 3 <;> omega

/-! ## Timestamps -/

/-- A moment of the years 0 to 9999 is read back from the characters of its timestamp. -/
theorem parseText?_chars {t : Instant} (h : t.IsMoment) (hyear : 0 ≤ t.year ∧ t.year ≤ 9999) :
    parseText? t.chars = some t := by
  have hdate := readDate?_written hyear (month_dateOfDay_lt t.day) (day_dateOfDay_lt t.day)
    (isValid_dateOfDay t.day)
  have htime := readTime?_written h (by decide : 'Z'.isDigit = false) (by decide : 'Z' ≠ '.') []
  have hzone : readOffset? (Text.trimStart ['Z']) = some (0, []) := rfl
  have hsecond := h.second_lt
  simp only [Instant.chars, List.append_assoc, List.cons_append]
  simp only [parseText?, hdate, htime, hzone, Option.bind_eq_bind, Option.bind_some,
    dayNumber_dateOfDay]
  rw [if_pos (by rfl : Text.isBlank [] = true), ofLocal]
  simp only [secondsPerDay, Option.some.injEq] at hsecond ⊢
  cases t with
  | mk day second nano =>
    simp only [Instant.mk.injEq, and_true] at hsecond ⊢
    omega

/-- **A timestamp is read back.** -/
theorem parse?_text {t : Instant} (h : t.IsMoment) (hyear : 0 ≤ t.year ∧ t.year ≤ 9999) :
    Instant.parse? t.text = some t := by
  rw [Instant.parse?, Instant.text, String.toList_ofList, parseText?_chars h hyear]

/-! ## What is read -/

theorem readFraction?_lt {s rest : List Char} {nano : Nat}
    (h : readFraction? s = some (nano, rest)) : nano < nanosPerSecond := by
  unfold readFraction? at h
  split at h
  · rename_i more
    obtain ⟨⟨n, after⟩, hread, hsome⟩ := Option.bind_eq_some_iff.mp h
    simp only [Option.some.injEq, Prod.mk.injEq] at hsome
    obtain ⟨rfl, _⟩ := hsome
    unfold readNumber? at hread
    split at hread
    · cases hread
    · simp only [Option.some.injEq, Prod.mk.injEq] at hread
      obtain ⟨rfl, _⟩ := hread
      have hlt := ofDigitChars_lt (s := (more.take 9).takeWhile Char.isDigit) fun c hc =>
        List.mem_takeWhile_imp hc
      have hle : ((more.take 9).takeWhile Char.isDigit).length ≤ 9 :=
        Nat.le_trans (List.takeWhile_sublist _).length_le (List.length_take_le 9 more)
      generalize (more.take 9).takeWhile Char.isDigit = digits at hlt hle
      calc Nat.ofDigitChars 10 digits 0 * Nat.pow 10 (9 - digits.length)
          < 10 ^ digits.length * 10 ^ (9 - digits.length) :=
            Nat.mul_lt_mul_of_pos_right hlt (Nat.pow_pos (by decide))
        _ = 10 ^ 9 := by rw [← Nat.pow_add, Nat.add_sub_cancel' hle]
  · simp only [Option.some.injEq, Prod.mk.injEq] at h
    rw [← h.1]
    decide

/-- A leap second that is read follows second 59 of its minute. -/
theorem readTime?_spec {s rest : List Char} {second nano : Nat}
    (h : readTime? s = some ((second, nano), rest)) :
    nano < 2 * nanosPerSecond ∧ (nanosPerSecond ≤ nano → second % 60 = 59) := by
  simp only [readTime?, Option.bind_eq_bind, Option.bind_eq_some_iff] at h
  obtain ⟨⟨hour, _⟩, _, _, _, ⟨minute, _⟩, _, _, _, ⟨sec, _⟩, _, ⟨fraction, _⟩, hfraction, h⟩ := h
  have hlt := readFraction?_lt hfraction
  simp only [nanosPerSecond] at hlt ⊢
  split at h
  · rename_i hvalid
    simp only [Bool.and_eq_true, decide_eq_true_eq] at hvalid
    split at h
    · simp only [Option.some.injEq, Prod.mk.injEq, nanosPerSecond] at h
      omega
    · simp only [Option.some.injEq, Prod.mk.injEq] at h
      omega
  · cases h

/-- The size of an offset is a number of minutes. -/
theorem readOffsetSize?_minutes {s rest : List Char} {size : Nat}
    (h : readOffsetSize? s = some (size, rest)) : 60 ∣ size := by
  unfold readOffsetSize? at h
  split at h
  · split at h
    · split at h
      · dsimp only at h
        split at h
        · simp only [Option.some.injEq, Prod.mk.injEq] at h
          omega
        · cases h
      · cases h
    · cases h
  · cases h

theorem readOffset?_minutes {s rest : List Char} {offset : Int}
    (h : readOffset? s = some (offset, rest)) : 60 ∣ offset := by
  have hzero : ∀ {t : List Char}, some ((0 : Int), t) = some (offset, rest) → 60 ∣ offset := by
    intro t h0
    simp only [Option.some.injEq, Prod.mk.injEq] at h0
    omega
  have hsize : ∀ (signed : Nat → Int), (∀ n, signed n = n ∨ signed n = -n) → ∀ {t : List Char},
      (readOffsetSize? t).map (fun r => (signed r.1, r.2)) = some (offset, rest) →
      60 ∣ offset := by
    intro signed hsigned t hmap
    obtain ⟨⟨n, after⟩, hread, heq⟩ := Option.map_eq_some_iff.mp hmap
    have hminutes := readOffsetSize?_minutes hread
    simp only [Prod.mk.injEq] at heq
    rcases hsigned n with hn | hn <;> omega
  unfold readOffset? at h
  split at h
  · exact hzero h
  · exact hzero h
  · exact hsize _ (fun n => Or.inl rfl) h
  · exact hsize _ (fun n => Or.inr rfl) h
  · exact hsize _ (fun n => Or.inr rfl) h
  · split at h
    · exact hzero h
    · cases h
  · cases h

/-- An offset of whole minutes keeps the second of the minute, so a leap second stays one. -/
theorem isMoment_ofLocal {second nano : Nat} {offset : Int} (hnano : nano < 2 * nanosPerSecond)
    (hleap : nanosPerSecond ≤ nano → second % 60 = 59) (hoffset : 60 ∣ offset) (day : Int) :
    (ofLocal day second nano offset).IsMoment := by
  refine ⟨?_, hnano, fun hle => ?_⟩
  · simp only [ofLocal, secondsPerDay]
    omega
  · have hsixty := hleap hle
    simp only [ofLocal, secondsPerDay]
    omega

/-- **Whatever is read is a moment.** -/
theorem isMoment_of_parse? {s : String} {t : Instant} (h : Instant.parse? s = some t) :
    t.IsMoment := by
  have htail : ∀ (day : Int) (s : List Char), ((readTime? s).bind fun time =>
      (readOffset? (Text.trimStart time.2)).bind fun zone =>
        if Text.isBlank zone.2 then some (ofLocal day time.1.1 time.1.2 zone.1) else none) =
      some t → t.IsMoment := by
    intro day s h
    obtain ⟨⟨⟨second, nano⟩, _⟩, htime, h⟩ := Option.bind_eq_some_iff.mp h
    obtain ⟨⟨offset, _⟩, hoffset, h⟩ := Option.bind_eq_some_iff.mp h
    obtain ⟨hnano, hleap⟩ := readTime?_spec htime
    split at h
    · simp only [Option.some.injEq] at h
      subst h
      exact isMoment_ofLocal hnano hleap (readOffset?_minutes hoffset) day
    · cases h
  rw [Instant.parse?, parseText?] at h
  obtain ⟨⟨date, after⟩, _, h⟩ := Option.bind_eq_some_iff.mp h
  dsimp only at h
  split at h
  · exact htail (dayNumber date) _ h
  · exact htail (dayNumber date) _ h
  · exact htail (dayNumber date) _ h
  · cases h

end DocPress.Time
