import Mathlib.Data.List.Basic

/-!
# Texts cut at their finds

A search through a text leaves what it found and the gaps between.

* `Cut` — gaps and finds in turn, with a gap at both ends.
* `Cut.join` — the text of gaps and finds, each written in its own way; `Cut.gaps` — the gaps.
* `Cut.Stands` — a find, with what stands before and behind it.
* `Cut.prepend` — more text at the beginning.

Principal results: `Cut.Stands.join_eq` — a find with what stands around it is the whole text;
`Cut.exists_around_gap` — no find begins inside a gap.
-/

namespace DocPress.Text

/-- A text cut at its finds: gaps and finds in turn. -/
inductive Cut (α : Type) where
  | last (gap : List Char)
  | find (gap : List Char) (found : α) (rest : Cut α)
  deriving DecidableEq, Repr

namespace Cut

variable {α : Type}

/-- The text that gaps and finds make, each written in its own way. -/
def join (gapText : List Char → List Char) (foundText : α → List Char) : Cut α → List Char
  | .last gap => gapText gap
  | .find gap found rest => gapText gap ++ (foundText found ++ rest.join gapText foundText)

/-- The gaps of a cut. -/
def gaps : Cut α → List (List Char)
  | .last gap => [gap]
  | .find gap _ rest => gap :: rest.gaps

/-- A find of the cut stands between `before` and `after`. -/
def Stands (foundText : α → List Char) : Cut α → List Char → α → List Char → Prop
  | .last _, _, _, _ => False
  | .find gap found rest, before, a, after =>
    (before = gap ∧ a = found ∧ after = rest.join id foundText) ∨
      ∃ more, before = gap ++ (foundText found ++ more) ∧ rest.Stands foundText more a after

/-- More text in the first gap. -/
def prepend (text : List Char) : Cut α → Cut α
  | .last gap => .last (text ++ gap)
  | .find gap found rest => .find (text ++ gap) found rest

variable {foundText : α → List Char} {c : Cut α} {text before after : List Char} {a : α}

theorem join_prepend : (c.prepend text).join id foundText = text ++ c.join id foundText := by
  cases c <;> simp [prepend, join]

theorem prepend_prepend (front : List Char) :
    (c.prepend text).prepend front = c.prepend (front ++ text) := by
  cases c <;> simp [prepend]

/-- The finds behind more text. -/
theorem stands_prepend : (c.prepend text).Stands foundText before a after ↔
    ∃ more, before = text ++ more ∧ c.Stands foundText more a after := by
  cases c with
  | last gap => simp [prepend, Stands]
  | find gap found rest =>
    simp only [prepend, Stands]
    constructor
    · rintro (⟨rfl, rfl, rfl⟩ | ⟨more, rfl, h⟩)
      · exact ⟨gap, rfl, Or.inl ⟨rfl, rfl, rfl⟩⟩
      · exact ⟨_, by simp, Or.inr ⟨more, rfl, h⟩⟩
    · rintro ⟨_, rfl, ⟨rfl, rfl, rfl⟩ | ⟨more, rfl, h⟩⟩
      · exact Or.inl ⟨rfl, rfl, rfl⟩
      · exact Or.inr ⟨more, by simp, h⟩

/-- **A find with what stands around it is the whole text.** -/
theorem Stands.join_eq (h : c.Stands foundText before a after) :
    c.join id foundText = before ++ (foundText a ++ after) := by
  induction c generalizing before with
  | last gap => cases h
  | find gap found rest ih =>
    rcases h with ⟨rfl, rfl, rfl⟩ | ⟨more, rfl, h⟩
    · rfl
    · rw [join, ih h]
      simp

/-- **No find begins inside a gap.** -/
theorem exists_around_gap (hfound : ∀ a, foundText a ≠ []) {gap : List Char} (h : gap ∈ c.gaps) :
    ∃ front back, c.join id foundText = front ++ (gap ++ back) ∧
      ∀ inside rest, gap = inside ++ rest → rest ≠ [] →
        ∀ a after, ¬ c.Stands foundText (front ++ inside) a after := by
  induction c with
  | last first =>
    obtain rfl := List.mem_singleton.mp h
    exact ⟨[], [], by simp [join], fun _ _ _ _ _ _ hstands => hstands⟩
  | find first found rest ih =>
    rcases List.mem_cons.mp h with rfl | h
    · refine ⟨[], foundText found ++ rest.join id foundText, rfl, ?_⟩
      rintro inside more rfl hmore a after (⟨heq, -, -⟩ | ⟨further, heq, -⟩)
      · exact hmore (by simpa using heq)
      · have hlen := congrArg List.length heq
        have hpos := List.length_pos_iff.mpr hmore
        simp only [List.nil_append, List.length_append] at hlen
        omega
    · obtain ⟨front, back, hjoin, hinside⟩ := ih h
      refine ⟨first ++ (foundText found ++ front), back, by simp [join, hjoin], ?_⟩
      rintro inside more hgap hmore a after (⟨heq, -, -⟩ | ⟨further, heq, hstands⟩)
      · have hlen := congrArg List.length heq
        have hpos := List.length_pos_iff.mpr (hfound found)
        simp only [List.length_append] at hlen
        omega
      · have hfurther : further = front ++ inside := by simpa using heq.symm
        rw [hfurther] at hstands
        exact hinside inside more hgap hmore a after hstands

end Cut

end DocPress.Text
