import DocPress.Proofs.Examples.Anchors

/-!
# Owners that share an anchor

The anchor of an example shows one name of its owner. For a type or a function without receiver that
is its own; for a method it is joined to the receiver's by an underscore, and a star before the receiver
is left out. So different owners may share an anchor, and this module says which.

* `Owner.Joined` — the name that the anchors of an owner show; those of a package show none.
* `Owner.Clean` — no name in an owner holds a hyphen or NUL.

Principal results: `Owner.suffix_eq_iff` — the part of an anchor that names the owner is the joined
name; `anchor_eq_iff_joined` — anchors are equal exactly if the joined names and the names of the
examples are.
-/

namespace DocPress.Examples

/-! ## Joined names -/

/-- **The name that the anchors of an owner show**: that of a type, that of a function without
receiver, and that of a method behind its receiver and an underscore, where one star before the
receiver is left out. -/
inductive Owner.Joined : Owner → String → Prop where
  | type (name : String) : Joined (.type name) name
  | func (name : String) : Joined (.func "" name) name
  | value (recv name : String) (hrecv : recv ≠ "") (hstar : ¬ ['*'] <+: recv.toList) :
      Joined (.func recv name) (recv ++ "_" ++ name)
  | pointer (recv name : String) : Joined (.func ("*" ++ recv) name) (recv ++ "_" ++ name)

theorem receiverName_pointer (recv : String) : receiverName ("*" ++ recv).toList = recv.toList := by
  rw [String.toList_append]
  rfl

theorem receiverName_value {recv : List Char} (hstar : ¬ ['*'] <+: recv) : receiverName recv = recv := by
  unfold receiverName
  split
  · rename_i rest
    exact absurd (by simp) hstar
  · rfl

theorem Owner.suffix_method {recv : String} (hrecv : recv ≠ "") (name : String) :
    (Owner.func recv name).suffix = '_' :: (receiverName recv.toList ++ '_' :: name.toList) := by
  have hempty : recv.isEmpty = false := by simpa using hrecv
  simp [Owner.suffix, hempty]

/-- Behind its underscore, the part of an anchor that names the owner is the joined name. -/
theorem Owner.Joined.suffix_eq {o : Owner} {s : String} (h : o.Joined s) :
    o.suffix = '_' :: s.toList := by
  cases h with
  | type name => rfl
  | func name => rfl
  | value recv name hrecv hstar =>
    rw [Owner.suffix_method hrecv, receiverName_value hstar]
    simp
  | pointer recv name =>
    have hrecv : "*" ++ recv ≠ "" := by simp
    rw [Owner.suffix_method hrecv, receiverName_pointer]
    simp

/-- Every owner but a package has a joined name. -/
theorem Owner.exists_joined {o : Owner} (h : o ≠ .package) : ∃ s, o.Joined s := by
  cases o with
  | package => exact absurd rfl h
  | type name => exact ⟨name, .type name⟩
  | func recv name =>
    by_cases hrecv : recv = ""
    · subst hrecv
      exact ⟨name, .func name⟩
    · by_cases hstar : ['*'] <+: recv.toList
      · obtain ⟨rest, hrest⟩ := hstar
        have hpointer : recv = "*" ++ String.ofList rest := by
          apply String.toList_inj.mp
          simp [← hrest]
        rw [hpointer]
        exact ⟨_, .pointer (String.ofList rest) name⟩
      · exact ⟨_, .value recv name hrecv hstar⟩

/-- **Owners have the same part in their anchors exactly if both are packages or both have the same
joined name.** -/
theorem Owner.suffix_eq_iff (a b : Owner) :
    a.suffix = b.suffix ↔ a = .package ∧ b = .package ∨ ∃ s, a.Joined s ∧ b.Joined s := by
  constructor
  · intro h
    by_cases ha : a = .package
    · by_cases hb : b = .package
      · exact .inl ⟨ha, hb⟩
      · obtain ⟨s, hs⟩ := Owner.exists_joined hb
        rw [ha, hs.suffix_eq] at h
        cases h
    · obtain ⟨s, hs⟩ := Owner.exists_joined ha
      by_cases hb : b = .package
      · rw [hb, hs.suffix_eq] at h
        cases h
      · obtain ⟨t, ht⟩ := Owner.exists_joined hb
        rw [hs.suffix_eq, ht.suffix_eq] at h
        have hst : s = t := String.toList_inj.mp (List.cons.inj h).2
        exact .inr ⟨s, hs, hst ▸ ht⟩
  · rintro (⟨rfl, rfl⟩ | ⟨s, ha, hb⟩)
    · rfl
    · rw [ha.suffix_eq, hb.suffix_eq]

/-! ## Clean owners -/

/-- The names that stand in an owner. -/
def Owner.names : Owner → List String
  | .package => []
  | .type name => [name]
  | .func recv name => [recv, name]

/-- No name in an owner holds a hyphen or NUL. -/
def Owner.Clean (o : Owner) : Prop := ∀ s ∈ o.names, '-' ∉ s.toList ∧ '\x00' ∉ s.toList

/-- What stands in the owner's part of an anchor is an underscore or comes from one of its names. -/
theorem Owner.exists_of_mem_suffix {o : Owner} {c : Char} (h : c ∈ o.suffix) :
    c = '_' ∨ ∃ s ∈ o.names, c ∈ s.toList := by
  cases o with
  | package => cases h
  | type name =>
    rcases List.mem_cons.mp h with hc | hc
    · exact .inl hc
    · exact .inr ⟨name, by simp [Owner.names], hc⟩
  | func recv name =>
    have hstripped : ∀ s : List Char, c ∈ receiverName s → c ∈ s := by
      intro s hc
      unfold receiverName at hc
      split at hc
      · exact List.mem_cons_of_mem _ hc
      · exact hc
    by_cases hrecv : recv = ""
    · subst hrecv
      rcases List.mem_cons.mp h with hc | hc
      · exact .inl hc
      · exact .inr ⟨name, by simp [Owner.names], hc⟩
    · rw [Owner.suffix_method hrecv] at h
      simp only [List.mem_cons, List.mem_append] at h
      rcases h with hc | hc | hc | hc
      · exact .inl hc
      · exact .inr ⟨recv, by simp [Owner.names], hstripped _ hc⟩
      · exact .inl hc
      · exact .inr ⟨name, by simp [Owner.names], hc⟩

theorem Owner.Clean.clear {o : Owner} (h : o.Clean) : o.Clear := by
  constructor
  · intro hmem
    rcases Owner.exists_of_mem_suffix hmem with hc | ⟨s, hs, hc⟩
    · cases hc
    · exact (h s hs).1 hc
  · intro hmem
    rcases Owner.exists_of_mem_suffix hmem with hc | ⟨s, hs, hc⟩
    · cases hc
    · exact (h s hs).2 hc

/-- A pointer receiver and a value receiver of the same type have the same part in their anchors. -/
theorem Owner.suffix_pointer {recv : String} (hrecv : recv ≠ "") (hstar : ¬ ['*'] <+: recv.toList)
    (name : String) : (Owner.func ("*" ++ recv) name).suffix = (Owner.func recv name).suffix := by
  rw [(Joined.pointer recv name).suffix_eq, (Joined.value recv name hrecv hstar).suffix_eq]

/-- **Which anchors are equal.** For owners whose names hold no hyphen and no NUL, and examples whose
names hold no NUL: two anchors are equal exactly if the examples have the same name, and the owners are
both packages or both have the same joined name. Writing anchors in HTML never merges two of them, and a
method has the same anchors whether its receiver is a pointer or a value. -/
theorem anchor_eq_iff_joined (a b : Owner) (ha : a.Clean) (hb : b.Clean) (m n : String)
    (hm : '\x00' ∉ m.toList) (hn : '\x00' ∉ n.toList) :
    (anchor a m = anchor b n ↔
      m = n ∧ (a = .package ∧ b = .package ∨ ∃ s, a.Joined s ∧ b.Joined s)) ∧
    (anchor a m = anchor b n ↔ anchorText a m = anchorText b n) ∧
    ∀ recv name, recv ≠ "" → ¬ ['*'] <+: recv.toList →
      anchor (.func ("*" ++ recv) name) m = anchor (.func recv name) m := by
  refine ⟨?_, anchor_eq_iff_text ha.clear hb.clear hm hn, ?_⟩
  · rw [anchor_inj ha.clear hb.clear hm hn, Owner.suffix_eq_iff]
    exact and_comm
  · intro recv name hrecv hstar
    rw [anchor_eq, anchor_eq, anchorText, anchorText, Owner.suffix_pointer hrecv hstar]

/-- A method shares its anchors with a type of the joined name; names that differ only in how HTML is
written keep different anchors. -/
theorem method_shares_anchor_of_type :
    anchor (.func "*T" "M") "a-b" = anchor (.type "T_M") "a-b" ∧
    anchor (.type "T<x") "" ≠ anchor (.type "T&lt;x") "" := by
  have hmethod : (Owner.func "*T" "M").Clean := by simp [Owner.Clean, Owner.names]
  have htype : (Owner.type "T_M").Clean := by simp [Owner.Clean, Owner.names]
  have hraw : (Owner.type "T<x").Clean := by simp [Owner.Clean, Owner.names]
  have hwritten : (Owner.type "T&lt;x").Clean := by simp [Owner.Clean, Owner.names]
  constructor
  · refine (anchor_eq_iff_joined _ _ hmethod htype "a-b" "a-b" (by simp) (by simp)).1.mpr ⟨rfl, .inr ?_⟩
    exact ⟨"T_M", .pointer "T" "M", .type "T_M"⟩
  · intro h
    have htext := (anchor_eq_iff_joined _ _ hraw hwritten "" "" (by simp) (by simp)).2.1.mp h
    simp [anchorText, Owner.suffix] at htext

end DocPress.Examples
