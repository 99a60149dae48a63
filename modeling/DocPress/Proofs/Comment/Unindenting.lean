import DocPress.Proofs.Comment.Indentation
import DocPress.Proofs.Declaration.Offsets
import Mathlib.Data.List.Forall2

/-!
# Lines without their common indentation

The common indentation can also be found and taken away byte by byte: the indentation shared so far is
cut to the bytes it has in common with that of the next line, and as many bytes as are left in the end
are taken from each line. The cuts are then operations that can fail.

* `indentBytes`, `sharedBytes` — the bytes of an indentation, and those that two of them share.
* `shareIndent?` — one line; `unindentByBytes?` — all of them, `none` where a cut fails.

Principal results: `shareIndent?_eq` — one line never fails, and leaves what both indentations begin
with; `foldlM_shareIndent?` — so do any number of lines; `unindentByBytes?_eq` — the lines are those of
`unindent`; `unindent_takes_longest_common_indent` — what these are.
-/

namespace DocPress.Comment

open DocPress.Text DocPress.Text.Utf8 DocPress.Declaration

/-! ## Indentation by bytes -/

/-- The number of bytes of a line's indentation. -/
def indentBytes (line : List Char) : Nat :=
  byteLength line - byteLength (line.dropWhile isIndentChar)

/-- The number of bytes that two texts begin with alike. -/
def sharedBytes (s t : List Char) : Nat :=
  (((encode s).zip (encode t)).takeWhile fun p => p.1 == p.2).length

/-- The indentation shared so far, and with one more line; none if a cut is not within its text. -/
def shareIndent? (shared : Option (List Char)) (line : List Char) : Option (Option (List Char)) := do
  let indent ← slice? line 0 (indentBytes line)
  match shared with
  | none => some (some indent)
  | some s => (slice? s 0 (sharedBytes s indent)).map some

/-- A line without its first bytes; none if there are not as many, or a character is cut. -/
def dropBytes? (n : Nat) (line : List Char) : Option (List Char) :=
  (splitAtByte? n line).map Prod.snd

/-- The lines without their common indentation, found and taken away byte by byte. -/
def unindentByBytes? (lines : List (List Char)) : Option (List (List Char)) := do
  let shared ← (lines.filter fun l => !isBlank l).foldlM shareIndent? none
  let size := (shared.map byteLength).getD 0
  lines.mapM fun l => if isBlank l then some [] else dropBytes? size l

/-- A text of spaces and tabs. -/
def IsIndent (s : List Char) : Prop := ∀ c ∈ s, isIndentChar c = true

theorem IsIndent.of_isPrefix {s t : List Char} (h : IsIndent t) (hst : s <+: t) : IsIndent s :=
  fun c hc => h c (hst.subset hc)

theorem isIndent_indentOf (line : List Char) : IsIndent (indentOf line) :=
  List.all_eq_true.mp (List.all_takeWhile ..)

theorem IsIndent.toNat_lt {s : List Char} (h : IsIndent s) : ∀ c ∈ s, c.toNat < 128 := by
  intro c hc
  have hblank := h c hc
  simp only [isIndentChar, Bool.or_eq_true, beq_iff_eq] at hblank
  rcases hblank with rfl | rfl <;> decide

theorem slice?_isPrefix {s part : List Char} (h : part <+: s) :
    slice? s 0 (byteLength part) = some part := by
  obtain ⟨rest, rfl⟩ := h
  exact slice?_eq_some_iff.mpr ⟨[], rest, rfl, rfl, Nat.zero_add _⟩

theorem indentBytes_eq (line : List Char) : indentBytes line = byteLength (indentOf line) := by
  have hline : byteLength line =
      byteLength (indentOf line) + byteLength (line.dropWhile isIndentChar) := by
    rw [← byteLength_append, indentOf, List.takeWhile_append_dropWhile]
  rw [indentBytes, hline, Nat.add_sub_cancel]

/-- Two indentations begin with as many bytes alike as characters. -/
theorem sharedBytes_eq {s t : List Char} (hs : IsIndent s) (ht : IsIndent t) :
    sharedBytes s t = byteLength (commonStart s t) := by
  induction s generalizing t with
  | nil => simp [sharedBytes, encode, commonStart, byteLength]
  | cons a s ih =>
    cases t with
    | nil => simp [sharedBytes, encode, commonStart, byteLength]
    | cons b t =>
      have ha := hs.toNat_lt a List.mem_cons_self
      have hb := ht.toNat_lt b List.mem_cons_self
      have hbytes : UInt8.ofNat a.toNat = UInt8.ofNat b.toNat ↔ a = b := by
        refine ⟨fun h => Char.toNat_inj.mp ?_, fun h => by rw [h]⟩
        have hmod := congrArg UInt8.toNat h
        rw [UInt8.toNat_ofNat', UInt8.toNat_ofNat'] at hmod
        omega
      have htail := ih (fun c hc => hs c (List.mem_cons_of_mem a hc))
        (t := t) (fun c hc => ht c (List.mem_cons_of_mem b hc))
      rw [sharedBytes] at htail ⊢
      rw [encode_cons, encode_cons, utf8EncodeChar_ascii ha, utf8EncodeChar_ascii hb, commonStart,
        List.singleton_append, List.singleton_append, List.zip_cons_cons, List.takeWhile_cons]
      by_cases hab : a = b
      · rw [if_pos hab, if_pos (beq_iff_eq.mpr (hbytes.mpr hab)), List.length_cons, htail, byteLength,
          utf8Size_ascii ha, Nat.add_comm]
      · rw [if_neg hab, if_neg (by simpa using fun h => hab (hbytes.mp h))]
        rfl

/-! ## One line, and all lines -/

theorem slice?_indentBytes (line : List Char) :
    slice? line 0 (indentBytes line) = some (indentOf line) := by
  rw [indentBytes_eq]
  exact slice?_isPrefix (List.takeWhile_prefix _)

theorem shareIndent?_none (line : List Char) :
    shareIndent? none line = some (some (indentOf line)) := by
  simp only [shareIndent?, slice?_indentBytes, Option.bind_eq_bind, Option.bind_some]

/-- **One line never fails**, and leaves the beginning that both indentations have in common. -/
theorem shareIndent?_eq {s : List Char} (hs : IsIndent s) (line : List Char) :
    shareIndent? (some s) line = some (some (commonStart s (indentOf line))) := by
  have hcut : slice? s 0 (sharedBytes s (indentOf line)) = some (commonStart s (indentOf line)) := by
    rw [sharedBytes_eq hs (isIndent_indentOf line)]
    exact slice?_isPrefix (commonStart_isPrefix s (indentOf line)).1
  simp only [shareIndent?, slice?_indentBytes, hcut, Option.bind_eq_bind, Option.bind_some,
    Option.map_some]

theorem foldlM_shareIndent? {first : List Char} (hfirst : IsIndent first)
    (lines : List (List Char)) :
    lines.foldlM shareIndent? (some first) =
      some (some ((lines.map indentOf).foldl commonStart first)) := by
  induction lines generalizing first with
  | nil => rfl
  | cons line lines ih =>
    have hnext : IsIndent (commonStart first (indentOf line)) :=
      hfirst.of_isPrefix (commonStart_isPrefix first (indentOf line)).1
    rw [List.foldlM_cons, shareIndent?_eq hfirst, Option.bind_eq_bind, Option.bind_some, ih hnext]
    rfl

/-- **All lines together leave the common indentation.** -/
theorem exists_shared (lines : List (List Char)) :
    ∃ shared, (lines.filter fun l => !isBlank l).foldlM shareIndent? none = some shared ∧
      (shared.map byteLength).getD 0 = byteLength (commonIndent lines) := by
  unfold commonIndent
  cases lines.filter fun l => !isBlank l with
  | nil => exact ⟨none, rfl, rfl⟩
  | cons first rest =>
    refine ⟨some ((rest.map indentOf).foldl commonStart (indentOf first)), ?_, rfl⟩
    rw [List.foldlM_cons, shareIndent?_none, Option.bind_eq_bind, Option.bind_some,
      foldlM_shareIndent? (isIndent_indentOf first)]

/-- A line that is not blank is the common indentation and what `unindent` leaves of it. -/
theorem eq_commonIndent_append_drop {lines : List (List Char)} {l : List Char} (hl : l ∈ lines)
    (hblank : isBlank l = false) :
    l = commonIndent lines ++ l.drop (commonIndent lines).length :=
  (List.prefix_iff_eq_append.mp
    ((commonIndent_isPrefix hl hblank).trans (List.takeWhile_prefix _))).symm

theorem mapM_eq_some_map {α β : Type} {f : α → Option β} {g : α → β} {xs : List α}
    (h : ∀ x ∈ xs, f x = some (g x)) : xs.mapM f = some (xs.map g) := by
  induction xs with
  | nil => rfl
  | cons x xs ih =>
    rw [List.mapM_cons, h x List.mem_cons_self, ih fun y hy => h y (List.mem_cons_of_mem x hy)]
    rfl

/-- **Byte by byte the lines are the same**: no cut fails. -/
theorem unindentByBytes?_eq (lines : List (List Char)) :
    unindentByBytes? lines = some (unindent lines) := by
  obtain ⟨shared, hshared, hsize⟩ := exists_shared lines
  have hdrop : ∀ l ∈ lines,
      (if isBlank l then some [] else dropBytes? (byteLength (commonIndent lines)) l) =
        some (if isBlank l then [] else l.drop (commonIndent lines).length) := by
    intro l hl
    cases hblank : isBlank l with
    | true => rfl
    | false =>
      have hcut : splitAtByte? (byteLength (commonIndent lines)) l =
          some (commonIndent lines, l.drop (commonIndent lines).length) :=
        splitAtByte?_eq_some_iff.mpr ⟨eq_commonIndent_append_drop hl hblank, rfl⟩
      simp only [Bool.false_eq_true, if_false, dropBytes?, hcut, Option.map_some]
  simp only [unindentByBytes?, hshared, hsize, Option.bind_eq_bind, Option.bind_some]
  exact mapM_eq_some_map hdrop

/-! ## What is taken away -/

/-- Without text there is no common indentation. -/
theorem commonIndent_of_blank {lines : List (List Char)} (h : ∀ l ∈ lines, isBlank l = true) :
    commonIndent lines = [] := by
  have hnil : lines.filter (fun l => !isBlank l) = [] :=
    List.filter_eq_nil_iff.mpr fun l hl => by simp [h l hl]
  rw [commonIndent, hnil]
  rfl

theorem isIndent_commonIndent (lines : List (List Char)) : IsIndent (commonIndent lines) := by
  by_cases htext : ∃ l ∈ lines, isBlank l = false
  · obtain ⟨l, hl, hblank⟩ := htext
    exact (isIndent_indentOf l).of_isPrefix (commonIndent_isPrefix hl hblank)
  · rw [commonIndent_of_blank (by simpa using htext)]
    exact fun c hc => nomatch hc

theorem isBlank_unindented {lines : List (List Char)} {l : List Char} (hl : l ∈ lines) :
    isBlank (if isBlank l then [] else l.drop (commonIndent lines).length) = isBlank l := by
  cases hblank : isBlank l with
  | true => rfl
  | false => exact isBlank_drop_commonIndent hl hblank

theorem commonIndent_unindent (lines : List (List Char)) : commonIndent (unindent lines) = [] := by
  by_cases htext : ∃ l ∈ lines, isBlank l = false
  · refine eq_nil_of_common_unindent (isIndent_commonIndent _) ?_ htext
    intro l hl hblank
    exact (commonIndent_isPrefix hl hblank).trans (List.takeWhile_prefix _)
  · refine commonIndent_of_blank fun m hm => ?_
    obtain ⟨l, hl, rfl⟩ := List.mem_map.mp hm
    rw [isBlank_unindented hl]
    simpa using fun hblank => htext ⟨l, hl, hblank⟩

/-- **A second time nothing is taken away.** -/
theorem unindent_unindent (lines : List (List Char)) :
    unindent (unindent lines) = unindent lines := by
  rw [unindent, commonIndent_unindent]
  simp only [unindent, List.map_map]
  refine List.map_congr_left fun l hl => ?_
  rw [Function.comp_apply, isBlank_unindented hl]
  cases isBlank l <;> rfl

/-- **The longest common indentation is taken away, and nothing else.** There is one text of spaces
and tabs with which every line that is not blank began, and what follows it is left; blank lines
become empty. If there is a line that is not blank, every text of spaces and tabs with which all of
these begin is the beginning of that one. Finding it and taking it away byte by byte gives the same,
as every cut is within its text, and a second time nothing is taken away. -/
theorem unindent_takes_longest_common_indent (lines : List (List Char)) :
    ∃ indent, (∀ c ∈ indent, c = ' ' ∨ c = '\t') ∧
      List.Forall₂ (fun line left =>
          (isBlank line = false → line = indent ++ left) ∧ (isBlank line = true → left = []))
        lines (unindent lines) ∧
      ((∃ line ∈ lines, isBlank line = false) →
        ∀ other, (∀ c ∈ other, c = ' ' ∨ c = '\t') →
          (∀ line ∈ lines, isBlank line = false → other <+: line) → other <+: indent) ∧
      unindentByBytes? lines = some (unindent lines) ∧
      unindent (unindent lines) = unindent lines := by
  have hchars : ∀ s, IsIndent s ↔ ∀ c ∈ s, c = ' ' ∨ c = '\t' := by
    simp [IsIndent, isIndentChar]
  refine ⟨commonIndent lines, (hchars _).mp (isIndent_commonIndent lines), ?_, ?_,
    unindentByBytes?_eq lines, unindent_unindent lines⟩
  · rw [unindent, List.forall₂_map_right_iff, List.forall₂_same]
    intro l hl
    refine ⟨fun hblank => ?_, fun hblank => if_pos hblank⟩
    rw [if_neg (by simp [hblank])]
    exact eq_commonIndent_append_drop hl hblank
  · intro htext other hother hlines
    exact isPrefix_commonIndent ((hchars other).mpr hother) hlines htext

-- tabs and spaces are told apart, and a line of other white space is blank
example : unindent ["\t  a".toList, "\xa0".toList, "\t\tb".toList] =
    ["  a".toList, [], "\tb".toList] := by decide +kernel

end DocPress.Comment
