import DocPress.Json.Parser
import DocPress.Json.Printer
import DocPress.Proofs.Basic
import Mathlib.Data.List.Basic
import Mathlib.Data.List.TakeDrop
import Mathlib.Data.List.TakeWhile

/-!
# JSON text read back

* `Json.IsExact` — integers are of 64 bits, there are no numbers with a fraction, and every part has
  a value.
* `stringUnits?_escaped`, `joinUnits?_toNat` — a string is read back from its escaped text.
* `number?_int` — an integer is read back from its digits, if no digit, point or exponent follows.
* `value?_chars`, `items?_chars`, `fields?_chars` — values are read back, whatever follows them.

Principal result: `parse?_text` — the text of an exact value is read back as this value.
-/

namespace DocPress.Json

/-! ## Strings -/

/-- The code unit of exactly four digits. -/
def fourDigits? : List Char → Option Nat
  | [a, b, c, d] => hexUnit? a b c d
  | _ => none

/-- The code units of a control character's escape. -/
theorem hexUnit?_control : ∀ n < 0x20, ∃ a b c d,
    List.replicate (4 - (Nat.toDigits 16 n).length) '0' ++ Nat.toDigits 16 n = [a, b, c, d] ∧
      hexUnit? a b c d = some n := by
  have hall : ∀ n < 0x20, fourDigits?
      (List.replicate (4 - (Nat.toDigits 16 n).length) '0' ++ Nat.toDigits 16 n) = some n := by
    decide +kernel
  intro n hn
  have h := hall n hn
  unfold fourDigits? at h
  split at h
  · rename_i a b c d heq
    exact ⟨a, b, c, d, heq, h⟩
  · cases h

/-- An escape of a backslash and one mark is one code unit. -/
theorem stringUnits?_shortEscape {c mark : Char} (h : (c, mark) ∈ shortEscapes) (rest : List Char) :
    stringUnits? ('\\' :: mark :: rest) =
      (stringUnits? rest).map fun p => (c.toNat :: p.1, p.2) := by
  have hall : ∀ p ∈ shortEscapes, stringUnits? ('\\' :: p.2 :: rest) =
      (stringUnits? rest).map fun q => (p.1.toNat :: q.1, q.2) := by
    cases hrest : stringUnits? rest <;> simp [shortEscapes, stringUnits?, simpleEscape?, hrest]
  exact hall _ h

/-- One escaped character is one code unit. -/
theorem stringUnits?_escapeChar (c : Char) (rest : List Char) :
    stringUnits? (escapeChar c ++ rest) =
      (stringUnits? rest).map fun p => (c.toNat :: p.1, p.2) := by
  unfold escapeChar
  split
  · rename_i mark hmark
    exact stringUnits?_shortEscape (mem_of_lookup hmark) rest
  · rename_i hnone
    split
    · rename_i hcontrol
      obtain ⟨a, b, c', d, heq, hunit⟩ := hexUnit?_control c.toNat hcontrol
      cases hrest : stringUnits? rest <;> simp [heq, stringUnits?, hunit, hrest]
    · rename_i hcontrol
      have hquote : c ≠ '\x22' := by rintro rfl; cases hnone
      have hback : c ≠ '\\' := by rintro rfl; cases hnone
      rw [List.singleton_append, stringUnits?.eq_def]
      split
      · simp_all
      · simp_all
      · simp_all
      · rename_i heq
        cases heq
        cases stringUnits? rest <;> simp [hquote, hback, hcontrol]

theorem stringUnits?_escaped (s rest : List Char) :
    stringUnits? (s.flatMap escapeChar ++ '\x22' :: rest) = some (s.map Char.toNat, rest) := by
  induction s with
  | nil => simp [stringUnits?]
  | cons c s ih =>
    rw [List.flatMap_cons, List.append_assoc, stringUnits?_escapeChar, ih]
    rfl

/-- No character is half of a surrogate pair. -/
theorem isUnit_toNat (c : Char) : isHighUnit c.toNat = false ∧ isLowUnit c.toNat = false := by
  have hvalid : c.toNat < 0xD800 ∨ (0xDFFF < c.toNat ∧ c.toNat < 0x110000) := c.valid
  simp only [isHighUnit, isLowUnit, Bool.and_eq_false_iff, decide_eq_false_iff_not]
  omega

theorem joinUnits?_toNat (s : List Char) : joinUnits? (s.map Char.toNat) = some s := by
  induction s with
  | nil => rfl
  | cons c s ih =>
    obtain ⟨hhigh, hlow⟩ := isUnit_toNat c
    cases s with
    | nil => simp [joinUnits?, hhigh, hlow, Char.ofNat_toNat]
    | cons d s =>
      rw [List.map_cons] at ih
      simp [joinUnits?, hhigh, hlow, ih, Char.ofNat_toNat]

/-! ## Numbers -/

/-- What may follow a number: no digit, point or exponent. -/
def EndsNumber (rest : List Char) : Prop :=
  ∀ c ∈ rest.head?, c.isDigit = false ∧ c ≠ '.' ∧ c ≠ 'e' ∧ c ≠ 'E'

theorem head?_toDigits_ne {n : Nat} (h : 0 < n) : (Nat.toDigits 10 n).head? ≠ some '0' := by
  have hdigits : ∀ d < 10, 0 < d → Nat.digitChar d ≠ '0' := by decide
  induction n using Nat.strongRecOn with
  | ind n ih =>
    by_cases hn : n < 10
    · rw [Nat.toDigits_of_lt_base hn, List.head?_cons]
      exact fun heq => hdigits n hn h (Option.some.inj heq)
    · have hrest := ih (n / 10) (by omega) (by omega)
      obtain ⟨d, more, hcons⟩ := List.exists_cons_of_ne_nil
        (Nat.toDigits_ne_nil (n := n / 10) (b := 10))
      rw [Nat.toDigits_of_base_le (by decide) (by omega), hcons]
      rwa [hcons] at hrest

/-- No leading zero is written. -/
theorem toDigits_no_leading_zero (n : Nat) :
    ((Nat.toDigits 10 n).isEmpty ||
      ((Nat.toDigits 10 n).head? == some '0' && decide (1 < (Nat.toDigits 10 n).length))) = false := by
  have hempty : (Nat.toDigits 10 n).isEmpty = false := by
    simp [Nat.toDigits_ne_nil]
  rw [hempty, Bool.false_or]
  rcases Nat.eq_zero_or_pos n with rfl | hn
  · rfl
  · rw [beq_eq_false_iff_ne.mpr (head?_toDigits_ne hn), Bool.false_and]

theorem le_ofDigitChars (s : List Char) (n : Nat) : n ≤ Nat.ofDigitChars 10 s n := by
  rw [Nat.ofDigitChars_eq_ofDigitChars_zero]
  have := Nat.le_mul_of_pos_left n (Nat.pow_pos (n := s.length) (by decide : 0 < 10))
  omega

/-- Digits whose number fits are all taken into the significand. -/
theorem foldl_wholePart (s : List Char) (n : Nat) (h : Nat.ofDigitChars 10 s n ≤ maxUnsigned) :
    s.foldl (fun (significand, dropped) d =>
      let next := significand * 10 + (d.toNat - 0x30)
      if dropped = 0 && next ≤ maxUnsigned then (next, 0) else (significand, dropped + 1)) (n, 0) =
        (Nat.ofDigitChars 10 s n, 0) := by
  induction s generalizing n with
  | nil => rfl
  | cons d s ih =>
    have hnext : n * 10 + (d.toNat - 0x30) = 10 * n + (d.toNat - '0'.toNat) := by
      rw [Nat.mul_comm]
      rfl
    rw [Nat.ofDigitChars_cons] at h ⊢
    have hle : n * 10 + (d.toNat - 0x30) ≤ maxUnsigned := by
      rw [hnext]
      exact Nat.le_trans (le_ofDigitChars s _) h
    rw [List.foldl_cons]
    simp only [hle, decide_true, Bool.and_self, if_true]
    rw [hnext]
    exact ih _ h

theorem wholePart_toDigits {n : Nat} (h : n ≤ maxUnsigned) :
    wholePart (Nat.toDigits 10 n) = (n, 0) := by
  have hdigits : Nat.ofDigitChars 10 (Nat.toDigits 10 n) 0 = n := Nat.ofDigitChars_ten_toDigits
  rw [wholePart, foldl_wholePart _ 0 (by rw [hdigits]; exact h), hdigits]

theorem span_toDigits (n : Nat) {rest : List Char} (h : EndsNumber rest) :
    (Nat.toDigits 10 n ++ rest).span Char.isDigit = (Nat.toDigits 10 n, rest) := by
  have hdigit : ∀ c ∈ Nat.toDigits 10 n, c.isDigit = true := fun c hc =>
    Nat.isDigit_of_mem_toDigits (by decide) (by decide) hc
  rw [List.span_eq_takeWhile_dropWhile, List.takeWhile_append_of_pos hdigit,
    List.dropWhile_append_of_pos hdigit]
  cases rest with
  | nil => simp
  | cons c rest => simp [(h c rfl).1]

theorem fraction?_of_ends {rest : List Char} (h : EndsNumber rest) :
    fraction? rest = some (none, rest) := by
  unfold fraction?
  split
  · exact absurd rfl (h '.' rfl).2.1
  · rfl

theorem exponent?_of_ends {rest : List Char} (h : EndsNumber rest) :
    exponent? rest = some (none, rest) := by
  cases rest with
  | nil => rfl
  | cons c rest => simp [exponent?, (h c rfl).2.2.1, (h c rfl).2.2.2]

/-- What digits after an optional sign are read as. -/
theorem number?_digits (n : Nat) {rest : List Char} (h : EndsNumber rest) :
    number? (Nat.toDigits 10 n ++ rest) =
      some (NumberText.value ⟨false, Nat.toDigits 10 n, none, none⟩, rest) ∧
    number? ('-' :: (Nat.toDigits 10 n ++ rest)) =
      some (NumberText.value ⟨true, Nat.toDigits 10 n, none, none⟩, rest) := by
  have hspan := span_toDigits n h
  constructor
  · obtain ⟨d, more, hcons⟩ := List.exists_cons_of_ne_nil (Nat.toDigits_ne_nil (n := n) (b := 10))
    have hd : d ≠ '-' := by
      rintro rfl
      have := Nat.isDigit_of_mem_toDigits (c := '-') (by decide) (by decide)
        (hcons ▸ List.mem_cons_self : '-' ∈ Nat.toDigits 10 n)
      cases this
    unfold number?
    split
    rename_i sign after hsign
    split at hsign
    · rename_i heq
      rw [hcons, List.cons_append] at heq
      exact absurd (List.cons.inj heq).1 hd
    · cases hsign
      simp only [hspan, toDigits_no_leading_zero, Bool.false_eq_true, if_false,
        fraction?_of_ends h, exponent?_of_ends h, Option.bind_eq_bind, Option.bind_some]
  · simp only [number?, hspan, toDigits_no_leading_zero, Bool.false_eq_true, if_false,
      fraction?_of_ends h, exponent?_of_ends h, Option.bind_eq_bind, Option.bind_some]

/-- **An integer of 64 bits is read back.** -/
theorem number?_int {n : Int} (hrange : -0x8000000000000000 ≤ n ∧ n ≤ 0xFFFFFFFFFFFFFFFF)
    {rest : List Char} (h : EndsNumber rest) :
    number? ((toString n).toList ++ rest) = some (.int n, rest) := by
  cases n with
  | ofNat m =>
    rw [Int.ofNat_eq_natCast] at hrange ⊢
    have hm : m ≤ maxUnsigned := by
      rw [maxUnsigned]
      omega
    have htext : (toString (m : Int)).toList = Nat.toDigits 10 m := by
      show (Nat.repr m).toList = _
      rw [Nat.repr_eq_ofList_toDigits, String.toList_ofList]
    rw [htext, (number?_digits m h).1]
    simp [NumberText.value, wholePart_toDigits hm]
  | negSucc m =>
    have hm : m + 1 ≤ maxUnsigned ∧ ¬ 0x8000000000000000 < m + 1 := by
      rw [maxUnsigned]
      omega
    have htext : (toString (Int.negSucc m)).toList = '-' :: Nat.toDigits 10 (m + 1) := by
      show ("-" ++ Nat.repr (m + 1)).toList = _
      simp [Nat.repr_eq_ofList_toDigits]
    rw [htext, List.cons_append, (number?_digits (m + 1) h).2]
    simp [NumberText.value, wholePart_toDigits hm.1, hm.2, Int.negSucc_eq]

/-! ## Values -/

mutual

/-- Whether a value is exact: integers are of 64 bits, no number has a fraction, and every part has
a value. -/
def IsExact : Json → Prop
  | .int n => -0x8000000000000000 ≤ n ∧ n ≤ 0xFFFFFFFFFFFFFFFF
  | .float _ => False
  | .arr items => AllExact items
  | .obj fields => AllFieldsExact fields
  | .unreadable => False
  | _ => True

/-- Whether all items are exact. -/
def AllExact : List Json → Prop
  | [] => True
  | x :: rest => x.IsExact ∧ AllExact rest

/-- Whether the values of all fields are exact. -/
def AllFieldsExact : List (String × Json) → Prop
  | [] => True
  | (_, x) :: rest => x.IsExact ∧ AllFieldsExact rest

end

/-- The items of a list with what separates and closes them. -/
def itemsText : List Json → List Char
  | [] => []
  | x :: rest => x.chars ++ itemChars rest

/-- The fields of an object with what separates and closes them. -/
def fieldsText : List (String × Json) → List Char
  | [] => []
  | (name, x) :: rest => stringText name ++ ':' :: (x.chars ++ fieldChars rest)

theorem skipBlanks_cons {c : Char} (h : c ≠ ' ' ∧ c ≠ '\n' ∧ c ≠ '\t' ∧ c ≠ '\r')
    (rest : List Char) : skipBlanks (c :: rest) = c :: rest :=
  List.dropWhile_cons_of_neg (by simp [h.1, h.2.1, h.2.2.1, h.2.2.2])

theorem endsNumber_itemChars (xs : List Json) (rest : List Char) :
    EndsNumber (itemChars xs ++ rest) := by
  cases xs with
  | nil =>
    rw [itemChars]
    rintro _ ⟨rfl⟩
    decide
  | cons x xs =>
    rw [itemChars]
    rintro _ ⟨rfl⟩
    decide

theorem endsNumber_fieldChars (fs : List (String × Json)) (rest : List Char) :
    EndsNumber (fieldChars fs ++ rest) := by
  cases fs with
  | nil =>
    rw [fieldChars]
    rintro _ ⟨rfl⟩
    decide
  | cons f fs =>
    rw [fieldChars]
    rintro _ ⟨rfl⟩
    decide

/-- The digits of an integer, perhaps after a sign, begin its text. -/
theorem toString_int_eq_cons (n : Int) :
    ∃ c rest, (toString n).toList = c :: rest ∧ (c.isDigit = true ∨ c = '-') := by
  cases n with
  | ofNat m =>
    obtain ⟨d, more, hcons⟩ := List.exists_cons_of_ne_nil (Nat.toDigits_ne_nil (n := m) (b := 10))
    refine ⟨d, more, ?_, Or.inl ?_⟩
    · show (Nat.repr m).toList = _
      rw [Nat.repr_eq_ofList_toDigits, String.toList_ofList, hcons]
    · exact Nat.isDigit_of_mem_toDigits (by decide) (by decide)
        (hcons ▸ List.mem_cons_self : d ∈ Nat.toDigits 10 m)
  | negSucc m =>
    refine ⟨'-', (Nat.repr (m + 1)).toList, ?_, Or.inr rfl⟩
    show ("-" ++ Nat.repr (m + 1)).toList = _
    simp

theorem ne_of_digit_or_dash {c d : Char} (hc : c.isDigit = true ∨ c = '-')
    (hd : d.isDigit = false) (hdash : d ≠ '-') : c ≠ d := by
  rintro rfl
  rcases hc with hc | hc
  · rw [hc] at hd
    cases hd
  · exact hdash hc

theorem value?_number {c : Char} (hc : c.isDigit = true ∨ c = '-') (fuel : Nat)
    (rest : List Char) : value? (fuel + 1) (c :: rest) = number? (c :: rest) := by
  have hne := fun d => ne_of_digit_or_dash (d := d) hc
  rw [value?, skipBlanks_cons ⟨hne _ rfl (by decide), hne _ rfl (by decide), hne _ rfl (by decide),
    hne _ rfl (by decide)⟩]
  simp [hne '[' rfl (by decide), hne '\x7b' rfl (by decide), hne '\x22' rfl (by decide),
    hne 'n' rfl (by decide), hne 't' rfl (by decide), hne 'f' rfl (by decide)]

/-- Whether a character can begin a value: it is no blank and closes nothing. -/
def Opens (c : Char) : Prop :=
  (c ≠ ' ' ∧ c ≠ '\n' ∧ c ≠ '\t' ∧ c ≠ '\r') ∧ c ≠ ']' ∧ c ≠ '\x7d'

instance (c : Char) : Decidable (Opens c) := inferInstanceAs (Decidable (_ ∧ _))

theorem chars_eq_cons : ∀ x : Json, x.IsExact → ∃ c rest, x.chars = c :: rest ∧ Opens c
  | .null, _ => ⟨'n', _, rfl, by decide⟩
  | .bool true, _ => ⟨'t', _, rfl, by decide⟩
  | .bool false, _ => ⟨'f', _, rfl, by decide⟩
  | .int n, _ => by
    obtain ⟨c, rest, heq, hc⟩ := toString_int_eq_cons n
    refine ⟨c, rest, heq, ?_⟩
    have hne := fun d => ne_of_digit_or_dash (d := d) hc
    exact ⟨⟨hne _ rfl (by decide), hne _ rfl (by decide), hne _ rfl (by decide),
      hne _ rfl (by decide)⟩, hne _ rfl (by decide), hne _ rfl (by decide)⟩
  | .str _, _ => ⟨'\x22', _, rfl, by decide⟩
  | .arr [], _ => ⟨'[', _, rfl, by decide⟩
  | .arr (x :: xs), _ => ⟨'[', _, by rw [chars], by decide⟩
  | .obj [], _ => ⟨'\x7b', _, rfl, by decide⟩
  | .obj ((_, x) :: fs), _ => ⟨'\x7b', _, by rw [chars], by decide⟩

theorem itemChars_of_ne_nil {xs : List Json} (h : xs ≠ []) : itemChars xs = ',' :: itemsText xs := by
  cases xs with
  | nil => exact absurd rfl h
  | cons x xs => rw [itemChars, itemsText]

theorem fieldChars_of_ne_nil {fs : List (String × Json)} (h : fs ≠ []) :
    fieldChars fs = ',' :: fieldsText fs := by
  cases fs with
  | nil => exact absurd rfl h
  | cons f fs => rw [fieldChars, fieldsText]

theorem length_itemsText_lt (xs : List Json) : (itemsText xs).length < (itemChars xs).length := by
  by_cases h : xs = []
  · subst h
    simp [itemsText, itemChars]
  · simp [itemChars_of_ne_nil h]

theorem length_fieldsText_lt (fs : List (String × Json)) :
    (fieldsText fs).length < (fieldChars fs).length := by
  by_cases h : fs = []
  · subst h
    simp [fieldsText, fieldChars]
  · simp [fieldChars_of_ne_nil h]

theorem word?_append (word : String) (value : Json) (rest : List Char) :
    word? word value (word.toList ++ rest) = some (value, rest) := by
  rw [word?, List.isPrefixOf?_eq_some_iff_append_eq.mpr rfl, Option.map_some]

mutual

/-- A value is read back, whatever follows it that cannot be part of a number. -/
theorem value?_chars : ∀ (x : Json) (fuel : Nat) (rest : List Char), x.IsExact →
    2 * x.chars.length ≤ fuel → EndsNumber rest → value? fuel (x.chars ++ rest) = some (x, rest)
  | .null, fuel + 1, rest, _, _, _ => by
    simpa [chars, value?, skipBlanks] using word?_append "null" .null rest
  | .bool true, fuel + 1, rest, _, _, _ => by
    simpa [chars, value?, skipBlanks] using word?_append "true" (.bool true) rest
  | .bool false, fuel + 1, rest, _, _, _ => by
    simpa [chars, value?, skipBlanks] using word?_append "false" (.bool false) rest
  | .int n, fuel + 1, rest, hexact, _, hrest => by
    rw [IsExact] at hexact
    obtain ⟨c, more, heq, hc⟩ := toString_int_eq_cons n
    rw [chars, ← number?_int hexact hrest, heq, List.cons_append, value?_number hc]
  | .str s, fuel + 1, rest, _, _, _ => by
    simp [chars, stringText, value?, skipBlanks, stringUnits?_escaped, joinUnits?_toNat]
  | .arr [], fuel + 1, rest, _, _, _ => by
    simp [chars, value?, skipBlanks]
  | .arr (x :: xs), fuel + 1, rest, hexact, hfuel, _ => by
    rw [IsExact] at hexact
    have hitems := items?_chars (x :: xs) fuel rest (List.cons_ne_nil x xs) hexact (by
      simp only [chars, itemsText, List.length_cons] at hfuel ⊢
      omega)
    obtain ⟨c, more, heq, hblank, hclose, _⟩ := chars_eq_cons x hexact.1
    rw [itemsText, heq, List.cons_append, List.cons_append] at hitems
    rw [chars, heq, List.cons_append, List.cons_append, List.cons_append, value?,
      skipBlanks_cons (by decide)]
    simp only [skipBlanks_cons hblank]
    split
    · rename_i hbracket
      exact absurd (List.cons.inj hbracket).1 hclose
    · rw [hitems]
      rfl
  | .obj [], fuel + 1, rest, _, _, _ => by
    simp [chars, value?, skipBlanks]
  | .obj ((name, x) :: fs), fuel + 1, rest, hexact, hfuel, _ => by
    rw [IsExact] at hexact
    have hfields := fields?_chars ((name, x) :: fs) fuel rest (List.cons_ne_nil _ fs) hexact (by
      simp only [chars, fieldsText, List.length_cons] at hfuel ⊢
      omega)
    simp only [fieldsText, stringText, List.cons_append, List.append_assoc, List.nil_append]
      at hfields
    simp only [chars, stringText, List.cons_append, List.append_assoc, List.nil_append]
    rw [value?, skipBlanks_cons (by decide)]
    simp [skipBlanks_cons, hfields]
  | x, 0, rest, hexact, hfuel, _ => by
    obtain ⟨c, more, heq, _⟩ := chars_eq_cons x hexact
    simp [heq] at hfuel

/-- Items are read back up to the closing bracket. -/
theorem items?_chars : ∀ (xs : List Json) (fuel : Nat) (rest : List Char), xs ≠ [] →
    AllExact xs → 2 * (itemsText xs).length ≤ fuel →
    items? fuel (itemsText xs ++ rest) = some (xs, rest)
  | [], _, _, hne, _, _ => absurd rfl hne
  | x :: xs, fuel, rest, _, hexact, hfuel => by
    have hlength := length_itemsText_lt xs
    rw [itemsText, List.length_append] at hfuel
    obtain ⟨fuel, rfl⟩ : ∃ k, fuel = k + 1 := ⟨fuel - 1, by omega⟩
    have hx := value?_chars x fuel (itemChars xs ++ rest) hexact.1 (by omega)
      (endsNumber_itemChars xs rest)
    have hxs := fun hne => items?_chars xs fuel rest hne hexact.2 (by omega)
    rw [itemsText, List.append_assoc, items?, hx]
    by_cases hne : xs = []
    · subst hne
      simp [itemChars, skipBlanks]
    · rw [itemChars_of_ne_nil hne, List.cons_append]
      simp [skipBlanks_cons, hxs hne]

/-- Fields are read back up to the closing brace. -/
theorem fields?_chars : ∀ (fs : List (String × Json)) (fuel : Nat) (rest : List Char), fs ≠ [] →
    AllFieldsExact fs → 2 * (fieldsText fs).length ≤ fuel →
    fields? fuel (fieldsText fs ++ rest) = some (fs, rest)
  | [], _, _, hne, _, _ => absurd rfl hne
  | (name, x) :: fs, fuel, rest, _, hexact, hfuel => by
    have hlength := length_fieldsText_lt fs
    simp only [fieldsText, List.length_append, List.length_cons] at hfuel
    obtain ⟨fuel, rfl⟩ : ∃ k, fuel = k + 1 := ⟨fuel - 1, by omega⟩
    have hx := value?_chars x fuel (fieldChars fs ++ rest) hexact.1 (by omega)
      (endsNumber_fieldChars fs rest)
    have hfs := fun hne => fields?_chars fs fuel rest hne hexact.2 (by omega)
    have hname := stringUnits?_escaped name.toList (':' :: (x.chars ++ (fieldChars fs ++ rest)))
    simp only [fieldsText, stringText, List.cons_append, List.append_assoc, List.nil_append]
    rw [fields?, skipBlanks_cons (by decide)]
    simp only [hname, joinUnits?_toNat, ne_eq, not_true_eq_false, if_false, Option.bind_eq_bind,
      Option.bind_some, skipBlanks_cons (show ':' ≠ ' ' ∧ ':' ≠ '\n' ∧ ':' ≠ '\t' ∧ ':' ≠ '\r' by decide),
      hx, String.ofList_toList]
    by_cases hne : fs = []
    · subst hne
      simp [fieldChars, skipBlanks]
    · rw [fieldChars_of_ne_nil hne, List.cons_append]
      simp [skipBlanks_cons, hfs hne]

end

/-! ## Texts -/

/-- **The text of an exact value is read back.** -/
theorem parse?_text {x : Json} (h : x.IsExact) : parse? x.text = some x := by
  have hread := value?_chars x (2 * x.chars.length + 2) [] h (by omega) (by intro c hc; cases hc)
  rw [List.append_nil] at hread
  rw [parse?, text, String.toList_ofList, parseText?, hread]
  rfl

end DocPress.Json
