import DocPress.Json.Parser
import DocPress.Proofs.Number.Binary64

/-!
# Parts of data that is read

* `Json.Part` — the parts of data: the data itself, the items of its lists and the values of its
  fields, at any depth.
* `Json.Readable` — every part has a value.
* `Json.InFormat` — all numbers with a fraction are numbers of the format.
* `Json.ReadsInFormat` — with some fuel, values, items and fields are read with numbers of the format.

Principal results: `NumberText.inFormat_value` — a number is read as one of the format;
`readsInFormat` — so are the numbers inside of values, with any fuel; `inFormat_of_parse?` — and those
of whole texts.
-/

namespace DocPress.Json

/-- The parts of data, itself included. -/
inductive Part (part : Json) : Json → Prop where
  | self : Part part part
  | item {items : List Json} {x : Json} (hx : x ∈ items) (h : Part part x) : Part part (.arr items)
  | field {fields : List (String × Json)} {f : String × Json} (hf : f ∈ fields) (h : Part part f.2) :
    Part part (.obj fields)

/-- Every part has a value. -/
def Readable (x : Json) : Prop := ¬ Part .unreadable x

/-- All numbers with a fraction are numbers of the format. -/
def InFormat (x : Json) : Prop := ∀ f, Part (.float f) x → f.magnitude.Canonical

theorem inFormat_arr {items : List Json} (h : ∀ x ∈ items, InFormat x) : InFormat (.arr items) := by
  rintro f (_ | ⟨hx, hpart⟩)
  exact h _ hx f hpart

theorem inFormat_obj {fields : List (String × Json)} (h : ∀ f ∈ fields, InFormat f.2) :
    InFormat (.obj fields) := by
  rintro f (_ | _ | ⟨hf, hpart⟩)
  exact h _ hf f hpart

theorem inFormat_float {x : Number.Binary64} (h : x.magnitude.Canonical) : InFormat (.float x) := by
  rintro f (_ | _)
  exact h

/-! ## Numbers -/

/-- A number in stages, as data: it is of the format, or there is no value. -/
theorem inFormat_ofStages? (negative : Bool) (significand : Nat) (power : Int) :
    InFormat (match Number.ofStages? negative significand power with
      | some x => .float x
      | none => .unreadable) := by
  split
  · rename_i hread
    exact inFormat_float (Number.canonical_of_ofStages? hread)
  · rintro _ ⟨⟩

/-- **A number is read as one of the format**, if it has a value. -/
theorem NumberText.inFormat_value (n : NumberText) : n.value.InFormat := by
  rw [NumberText.value]
  simp only
  split
  · split
    · exact inFormat_ofStages? _ _ _
    · split
      · rintro _ ⟨⟩
      · split
        · exact inFormat_ofStages? _ _ _
        · rintro _ ⟨⟩
  · exact inFormat_ofStages? _ _ _
  · exact inFormat_ofStages? _ _ _

theorem inFormat_of_number? {s t : List Char} {x : Json} (h : number? s = some (x, t)) :
    x.InFormat := by
  unfold number? at h
  -- with a sign and without one, the rest is read alike
  split at h
  all_goals
    simp only at h
    split at h
    · cases h
    · obtain ⟨⟨fraction, u⟩, -, h⟩ := Option.bind_eq_some_iff.mp h
      obtain ⟨⟨exponent, v⟩, -, h⟩ := Option.bind_eq_some_iff.mp h
      cases h
      exact NumberText.inFormat_value _

/-! ## Values -/

theorem eq_of_word? {word : String} {value x : Json} {s t : List Char}
    (h : word? word value s = some (x, t)) : x = value := by
  obtain ⟨rest, -, h⟩ := Option.map_eq_some_iff.mp h
  cases h
  rfl

/-- What is read with some fuel has numbers of the format. -/
structure ReadsInFormat (fuel : Nat) : Prop where
  value {s t : List Char} {x : Json} : value? fuel s = some (x, t) → x.InFormat
  items {s t : List Char} {xs : List Json} : items? fuel s = some (xs, t) → ∀ x ∈ xs, InFormat x
  fields {s t : List Char} {fs : List (String × Json)} :
    fields? fuel s = some (fs, t) → ∀ f ∈ fs, InFormat f.2

theorem ReadsInFormat.value_succ {fuel : Nat} (hfuel : ReadsInFormat fuel) {s t : List Char} {x : Json}
    (h : value? (fuel + 1) s = some (x, t)) : x.InFormat := by
  rw [value?] at h
  split at h
  · cases h
  · split at h
    · cases h
      exact inFormat_arr fun _ h => absurd h List.not_mem_nil
    · obtain ⟨⟨xs, u⟩, hitems, h⟩ := Option.map_eq_some_iff.mp h
      cases h
      exact inFormat_arr (hfuel.items hitems)
  · split at h
    · split at h
      · split at h
        · cases h
          exact inFormat_obj fun _ h => absurd h List.not_mem_nil
        · obtain ⟨⟨fs, u⟩, hfields, h⟩ := Option.map_eq_some_iff.mp h
          cases h
          exact inFormat_obj (hfuel.fields hfields)
      · cases h
    · split at h
      · obtain ⟨⟨units, u⟩, -, h⟩ := Option.map_eq_some_iff.mp h
        simp only at h
        split at h <;> cases h <;> rintro _ ⟨⟩
      · -- the three words and numbers
        split at h
        · cases eq_of_word? h
          rintro _ ⟨⟩
        · split at h
          · cases eq_of_word? h
            rintro _ ⟨⟩
          · split at h
            · cases eq_of_word? h
              rintro _ ⟨⟩
            · exact inFormat_of_number? h

theorem ReadsInFormat.items_succ {fuel : Nat} (hfuel : ReadsInFormat fuel) {s t : List Char}
    {xs : List Json} (h : items? (fuel + 1) s = some (xs, t)) : ∀ x ∈ xs, InFormat x := by
  rw [items?] at h
  obtain ⟨⟨x, u⟩, hvalue, h⟩ := Option.bind_eq_some_iff.mp h
  have hx := hfuel.value hvalue
  simp only at h
  split at h
  · obtain ⟨⟨rest, v⟩, hitems, h⟩ := Option.bind_eq_some_iff.mp h
    cases h
    exact List.forall_mem_cons.mpr ⟨hx, hfuel.items hitems⟩
  · cases h
    exact List.forall_mem_singleton.mpr hx
  · cases h

theorem ReadsInFormat.fields_succ {fuel : Nat} (hfuel : ReadsInFormat fuel) {s t : List Char}
    {fs : List (String × Json)} (h : fields? (fuel + 1) s = some (fs, t)) :
    ∀ f ∈ fs, InFormat f.2 := by
  rw [fields?] at h
  split at h
  · split at h
    · cases h
    · obtain ⟨⟨units, u⟩, -, h⟩ := Option.bind_eq_some_iff.mp h
      obtain ⟨name, -, h⟩ := Option.bind_eq_some_iff.mp h
      simp only at h
      split at h
      · obtain ⟨⟨x, v⟩, hvalue, h⟩ := Option.bind_eq_some_iff.mp h
        have hx := hfuel.value hvalue
        simp only at h
        split at h
        · split at h
          · obtain ⟨⟨rest, w⟩, hfields, h⟩ := Option.bind_eq_some_iff.mp h
            cases h
            exact List.forall_mem_cons.mpr ⟨hx, hfuel.fields hfields⟩
          · split at h
            · cases h
              exact List.forall_mem_singleton.mpr hx
            · cases h
        · cases h
      · cases h
  · cases h

/-- **With any fuel, values are read with numbers of the format.** -/
theorem readsInFormat (fuel : Nat) : ReadsInFormat fuel := by
  induction fuel with
  | zero => exact ⟨nofun, nofun, nofun⟩
  | succ fuel ih => exact ⟨ih.value_succ, ih.items_succ, ih.fields_succ⟩

/-- **A text is read with numbers of the format.** -/
theorem inFormat_of_parse? {text : String} {x : Json} (h : parse? text = some x) : x.InFormat := by
  rw [parse?, parseText?] at h
  split at h
  · rename_i hvalue
    split at h
    · cases h
      exact (readsInFormat _).value hvalue
    · cases h
  · cases h

end DocPress.Json
