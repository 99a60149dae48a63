import DocPress.Text.Replace
import Mathlib.Data.List.Basic

/-!
# Replacing in parts

Where a text may be cut so that a pattern is replaced in each part alone.

* `takeWhile_bne`, `dropWhile_bne` — a text cut at the first occurrence of a character.
* `drop_length_sub_one` — where a scan goes on after it has found something.
* `replaceAll_match` — at an occurrence of the pattern.
* `replaceAll_append_of_head` — after a text without the first character of the pattern.
* `replaceAll_append` — before a character that the pattern does not hold, since no occurrence
  reaches across it.
* `replaceAll_eq_self` — a text without the pattern is kept.
-/

namespace DocPress.Text

/-! ## Beginnings of texts -/

/-- Whether a text begins with `p` does not depend on what follows a character outside `p`. -/
theorem prefix_append_iff {p t : List Char} (ht : ∀ c ∈ t.head?, c ∉ p) (s : List Char) :
    p <+: s ++ t ↔ p <+: s := by
  induction s generalizing p with
  | nil =>
    cases p with
    | nil => simp
    | cons a p =>
      cases t with
      | nil => rfl
      | cons c t =>
        have hc : c ≠ a := fun h => ht c rfl (h ▸ List.mem_cons_self)
        simp [List.cons_prefix_cons, Ne.symm hc]
  | cons b s ih =>
    cases p with
    | nil => simp
    | cons a p =>
      have ht' : ∀ c ∈ t.head?, c ∉ p := fun c hc hp => ht c hc (List.mem_cons_of_mem _ hp)
      rw [List.cons_append, List.cons_prefix_cons, List.cons_prefix_cons, ih ht']

theorem bne_of_not_mem {d : Char} {s : List Char} (h : d ∉ s) : ∀ c ∈ s, (c != d) = true := by
  intro c hc
  rw [bne_iff_ne]
  rintro rfl
  exact h hc

/-- What stands before the first occurrence of a character. -/
theorem takeWhile_bne {d : Char} {s : List Char} (h : d ∉ s) (t : List Char) :
    (s ++ d :: t).takeWhile (fun c => c != d) = s := by
  rw [List.takeWhile_append_of_pos (bne_of_not_mem h)]
  simp

/-- What begins with the first occurrence of a character. -/
theorem dropWhile_bne {d : Char} {s : List Char} (h : d ∉ s) (t : List Char) :
    (s ++ d :: t).dropWhile (fun c => c != d) = d :: t := by
  rw [List.dropWhile_append_of_pos (bne_of_not_mem h)]
  simp

/-- After a beginning `p` of the text, counted from behind the first character. -/
theorem drop_length_sub_one {α : Type} {p after s : List α} {c : α} (hne : p ≠ [])
    (h : p ++ after = c :: s) : s.drop (p.length - 1) = after := by
  cases p with
  | nil => exact absurd rfl hne
  | cons a p =>
    obtain ⟨rfl, rfl⟩ := List.cons.inj h
    exact List.drop_left

/-! ## Replacement -/

variable {pattern replacement : List Char}

theorem replaceFrom_skip (s t : List Char) :
    replaceFrom pattern replacement s.length (s ++ t) = replaceAll pattern replacement t := by
  induction s with
  | nil => rfl
  | cons c s ih => rw [List.length_cons, List.cons_append, replaceFrom, ih]

/-- An occurrence at the beginning is replaced. -/
theorem replaceAll_match (hne : pattern ≠ []) (t : List Char) :
    replaceAll pattern replacement (pattern ++ t) =
      replacement ++ replaceAll pattern replacement t := by
  cases pattern with
  | nil => exact absurd rfl hne
  | cons p ps =>
    have hp : (p :: ps).isPrefixOf (p :: (ps ++ t)) = true := by simp [List.isPrefixOf_iff_prefix]
    rw [replaceAll, List.cons_append, replaceFrom, if_pos hp]
    exact congrArg _ (replaceFrom_skip ps t)

/-- A character at which no occurrence begins is kept. -/
theorem replaceAll_cons {c : Char} {t : List Char} (h : ¬ pattern <+: c :: t) :
    replaceAll pattern replacement (c :: t) = c :: replaceAll pattern replacement t := by
  rw [← List.isPrefixOf_iff_prefix] at h
  rw [replaceAll, replaceFrom, if_neg h]
  rfl

/-- A text without the first character of the pattern is kept, whatever follows. -/
theorem replaceAll_append_of_head {p : Char} {ps s : List Char} (h : p ∉ s) (t : List Char) :
    replaceAll (p :: ps) replacement (s ++ t) = s ++ replaceAll (p :: ps) replacement t := by
  induction s with
  | nil => rfl
  | cons c s ih =>
    have hno : ¬ p :: ps <+: c :: (s ++ t) := by
      rw [List.cons_prefix_cons]
      rintro ⟨rfl, _⟩
      exact h List.mem_cons_self
    rw [List.cons_append, replaceAll_cons hno, ih (fun hs => h (List.mem_cons_of_mem _ hs))]
    rfl

/-- A text without the pattern is kept. -/
theorem replaceAll_eq_self {s : List Char} (h : ¬ pattern <:+: s) :
    replaceAll pattern replacement s = s := by
  induction s with
  | nil => rfl
  | cons c s ih =>
    have hs : ¬ pattern <:+: s := fun hs => h (hs.trans (List.suffix_cons c s).isInfix)
    rw [replaceAll_cons (fun hp => h hp.isInfix), ih hs]

/-- **Replacement in parts**: no occurrence reaches across a place before a character that the
pattern does not hold. -/
theorem replaceAll_append {t : List Char} (ht : ∀ c ∈ t.head?, c ∉ pattern) (s : List Char) :
    replaceAll pattern replacement (s ++ t) =
      replaceAll pattern replacement s ++ replaceAll pattern replacement t := by
  -- generalised over the rest of an occurrence that lies wholly in `s`
  suffices h : ∀ skip, skip ≤ s.length → replaceFrom pattern replacement skip (s ++ t) =
      replaceFrom pattern replacement skip s ++ replaceFrom pattern replacement 0 t from
    h 0 (Nat.zero_le _)
  induction s with
  | nil =>
    intro skip hskip
    obtain rfl : skip = 0 := by simpa using hskip
    rfl
  | cons c s ih =>
    intro skip hskip
    cases skip with
    | succ skip =>
      rw [List.cons_append, replaceFrom, replaceFrom]
      exact ih skip (by simpa using hskip)
    | zero =>
      have hiff : pattern.isPrefixOf (c :: (s ++ t)) = pattern.isPrefixOf (c :: s) := by
        rw [Bool.eq_iff_iff, List.isPrefixOf_iff_prefix, List.isPrefixOf_iff_prefix]
        exact prefix_append_iff ht (c :: s)
      rw [List.cons_append, replaceFrom, replaceFrom, hiff]
      split
      · rename_i hp
        have hlen := (List.isPrefixOf_iff_prefix.mp hp).length_le
        rw [List.length_cons] at hlen
        rw [ih (pattern.length - 1) (by omega), List.append_assoc]
      · rw [ih 0 (Nat.zero_le _), List.cons_append]

end DocPress.Text
