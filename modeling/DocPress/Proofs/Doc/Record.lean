import DocPress.Doc.Record
import Mathlib.Data.List.Forall2
import Mathlib.Data.List.Nodup
import Mathlib.Data.List.Perm.Basic

/-!
# Spellings of records

A record with fields of given names can be spelled as an object, whose fields stand in any order and
among others of unknown names, or as the list of its values.

* `RecordForm` — the objects and lists that spell a record of given values.
* `RecordSpells` — the same, where the value of each field may itself be spelled in several ways.
* `ListSpells` — the lists that spell a list item by item.

Principal results: `RecordForm.fieldsOf?_eq` — the fields of a record are found in every form of it;
`entries?_of_spells` — a list is read from every spelling of it; `forall_of_entries?` — what is read
of a list has what its reader promises.
-/

namespace DocPress.Doc

/-! ## Forms of a record -/

/-- The forms of a record whose fields have these names and values. -/
inductive RecordForm (names : List String) (values : List Json) : Json → Prop where
  | object {fields unknown : List (String × Json)}
      (perm : fields.Perm (names.zip values ++ unknown)) (unknown_names : ∀ f ∈ unknown, f.1 ∉ names) :
      RecordForm names values (.obj fields)
  | list : RecordForm names values (.arr values)

/-- A record whose fields have these names, and values that satisfy these conditions. -/
def RecordSpells (names : List String) (conditions : List (Json → Prop)) (j : Json) : Prop :=
  ∃ values, List.Forall₂ (fun condition v => condition v) conditions values ∧
    RecordForm names values j

/-- A list whose items spell the items of another. -/
def ListSpells {α : Type} (Spells : α → Json → Prop) (xs : List α) (j : Json) : Prop :=
  ∃ items, j = .arr items ∧ List.Forall₂ Spells xs items

/-- Distinct names stand in one field each. -/
theorem length_filter_name_le {β : Type} {fields : List (String × β)}
    (hnodup : (fields.map Prod.fst).Nodup) (name : String) :
    (fields.filter fun f => f.1 == name).length ≤ 1 := by
  induction fields with
  | nil => simp
  | cons f fields ih =>
    obtain ⟨hf, hnodup⟩ := List.nodup_cons.mp hnodup
    rw [List.filter_cons]
    split
    · rename_i heq
      have hnone : fields.filter (fun f => f.1 == name) = [] := by
        rw [List.filter_eq_nil_iff]
        intro g hg hname
        have hsame : g.1 = f.1 := (beq_iff_eq.mp hname).trans (beq_iff_eq.mp heq).symm
        exact hf (hsame ▸ List.mem_map_of_mem hg)
      simp [hnone]
    · exact ih hnodup

/-- The value that a name has is that of the only field of this name. -/
theorem lookup_eq_of_mem {β : Type} {fields : List (String × β)} {name : String} {v : β}
    (honce : (fields.filter fun f => f.1 == name).length ≤ 1) (hmem : (name, v) ∈ fields) :
    fields.lookup name = some v := by
  induction fields with
  | nil => cases hmem
  | cons f fields ih =>
    rw [List.lookup_cons]
    split
    · rename_i heq
      rcases List.mem_cons.mp hmem with rfl | hmem
      · rfl
      · have hin : (name, v) ∈ fields.filter fun f => f.1 == name :=
          List.mem_filter.mpr ⟨hmem, beq_self_eq_true name⟩
        rw [List.filter_cons_of_pos (by rw [beq_iff_eq] at heq ⊢; exact heq.symm),
          List.length_cons] at honce
        have := List.length_pos_of_mem hin
        omega
    · rename_i hne
      have hf : (f.1 == name) = false := by
        rw [beq_eq_false_iff_ne] at hne ⊢
        exact hne.symm
      rw [List.filter_cons_of_neg (by rw [hf]; exact Bool.false_ne_true)] at honce
      refine ih honce ?_
      rcases List.mem_cons.mp hmem with rfl | hmem
      · exact absurd (beq_self_eq_true name) (by rw [hf]; exact Bool.false_ne_true)
      · exact hmem

/-- The order of fields does not matter for what a name stands for. -/
theorem lookup_eq_of_perm {β : Type} {fields fields' : List (String × β)}
    (hperm : fields'.Perm fields) (hnodup : (fields.map Prod.fst).Nodup) (name : String) :
    fields'.lookup name = fields.lookup name := by
  cases h : fields.lookup name with
  | some v =>
    refine lookup_eq_of_mem ?_ (hperm.mem_iff.mpr ?_)
    · rw [(hperm.filter _).length_eq]
      exact length_filter_name_le hnodup name
    · obtain ⟨before, after, rfl, _⟩ := List.lookup_eq_some_iff.mp h
      simp
  | none =>
    rw [List.lookup_eq_none_iff] at h ⊢
    exact fun f hf => h f (hperm.mem_iff.mp hf)

theorem map_lookup_zip {names : List String} {values : List Json}
    (hlength : values.length = names.length) {lookup : String → Option Json}
    (h : ∀ f ∈ names.zip values, lookup f.1 = some f.2) :
    names.map lookup = values.map some := by
  induction names generalizing values with
  | nil => simpa using hlength
  | cons n names ih =>
    cases values with
    | nil => simp at hlength
    | cons v values =>
      rw [List.map_cons, List.map_cons, h (n, v) List.mem_cons_self,
        ih (by simpa using hlength) fun f hf => h f (List.mem_cons_of_mem _ hf)]

/-- **The fields of a record are found in every form of it.** -/
theorem RecordForm.fieldsOf?_eq {names : List String} {values : List Json} {j : Json}
    (h : RecordForm names values j) (hnodup : names.Nodup)
    (hlength : values.length = names.length) : fieldsOf? names j = some (values.map some) := by
  cases h with
  | list => simp [fieldsOf?, hlength]
  | @object fields unknown hperm hunknown =>
    have honce : ∀ name ∈ names, (fields.filter fun f => f.1 == name).length ≤ 1 := by
      intro name hname
      have hnone : unknown.filter (fun f => f.1 == name) = [] := by
        rw [List.filter_eq_nil_iff]
        intro f hf heq
        exact hunknown f hf (beq_iff_eq.mp heq ▸ hname)
      rw [(hperm.filter _).length_eq, List.filter_append, hnone, List.append_nil]
      exact length_filter_name_le (by rwa [List.map_fst_zip (Nat.le_of_eq hlength.symm)]) name
    have hlookup : ∀ f ∈ names.zip values, fields.lookup f.1 = some f.2 := by
      intro f hf
      exact lookup_eq_of_mem (honce f.1 (List.of_mem_zip hf).1)
        (hperm.mem_iff.mpr (List.mem_append_left _ hf))
    rw [fieldsOf?, if_pos (by simpa using honce), map_lookup_zip hlength hlookup]

/-- The fields of an object with distinct names are found in any order of it. -/
theorem fieldsOf?_of_perm {fields fields' : List (String × Json)} (hperm : fields'.Perm fields)
    (hnodup : (fields.map Prod.fst).Nodup) (names : List String) :
    fieldsOf? names (.obj fields') = some (names.map fun name => fields.lookup name) := by
  have honce : ∀ name, (fields'.filter fun f => f.1 == name).length ≤ 1 := by
    intro name
    rw [(hperm.filter _).length_eq]
    exact length_filter_name_le hnodup name
  rw [fieldsOf?, if_pos (by simpa using fun name _ => honce name)]
  simp only [lookup_eq_of_perm hperm hnodup]

/-- A spelled record has values for its fields, which are found. -/
theorem RecordSpells.exists_values {names : List String} {conditions : List (Json → Prop)} {j : Json}
    (h : RecordSpells names conditions j) (hnodup : names.Nodup)
    (hlength : conditions.length = names.length) :
    ∃ values, List.Forall₂ (fun condition v => condition v) conditions values ∧
      fieldsOf? names j = some (values.map some) := by
  obtain ⟨values, hvalues, hform⟩ := h
  exact ⟨values, hvalues, hform.fieldsOf?_eq hnodup (hvalues.length_eq ▸ hlength)⟩

/-- An object with the fields of a record in any order, and others, spells it. -/
theorem RecordSpells.of_perm {names : List String} {conditions : List (Json → Prop)}
    {fields known unknown : List (String × Json)} (hperm : fields.Perm (known ++ unknown))
    (hnames : known.map Prod.fst = names) (hunknown : ∀ f ∈ unknown, f.1 ∉ names)
    (h : List.Forall₂ (fun condition f => condition f.2) conditions known) :
    RecordSpells names conditions (.obj fields) := by
  refine ⟨known.map Prod.snd, List.forall₂_map_right_iff.mpr h, .object ?_ hunknown⟩
  have hzip : (known.map Prod.fst).zip (known.map Prod.snd) = known := by
    rw [← List.unzip_fst, ← List.unzip_snd, List.zip_unzip]
  rwa [← hnames, hzip]

/-- The object of all fields in order spells a record. -/
theorem RecordSpells.of_fields {names : List String} {conditions : List (Json → Prop)}
    {fields : List (String × Json)} (hnames : fields.map Prod.fst = names)
    (h : List.Forall₂ (fun condition f => condition f.2) conditions fields) :
    RecordSpells names conditions (.obj fields) := by
  have hperm : fields.Perm (fields ++ []) := by rw [List.append_nil]
  exact .of_perm hperm hnames (by simp) h

/-! ## Fields -/

theorem text?_some (s : String) : text? (some (.str s)) = some s := by
  rw [text?, fieldOr?, string?]

theorem fieldOr?_some {α : Type} (default : α) (read? : Json → Option α) (v : Json) :
    fieldOr? default read? (some v) = read? v := by
  rw [fieldOr?]

theorem mapM_of_forall₂ {α : Type} {read? : Json → Option α} {Spells : α → Json → Prop}
    {xs : List α} {items : List Json} (h : List.Forall₂ Spells xs items)
    (hread : ∀ x ∈ xs, ∀ j, Spells x j → read? j = some x) : items.mapM read? = some xs := by
  induction h with
  | nil => rfl
  | @cons x v xs items hx _ ih =>
    rw [List.mapM_cons, hread x List.mem_cons_self v hx,
      ih fun y hy => hread y (List.mem_cons_of_mem _ hy)]
    rfl

/-- **A list is read from every spelling of it.** -/
theorem entries?_of_spells {α : Type} {read? : Json → Option α} {Spells : α → Json → Prop}
    {xs : List α} {j : Json} (h : ListSpells Spells xs j)
    (hread : ∀ x ∈ xs, ∀ v, Spells x v → read? v = some x) :
    entries? read? (some j) = some xs := by
  obtain ⟨items, rfl, hitems⟩ := h
  exact mapM_of_forall₂ hitems hread

/-- The list of the written items spells a list. -/
theorem ListSpells.of_map {α : Type} {Spells : α → Json → Prop} {write : α → Json} {xs : List α}
    (h : ∀ x ∈ xs, Spells x (write x)) : ListSpells Spells xs (.arr (xs.map write)) := by
  refine ⟨xs.map write, rfl, ?_⟩
  rw [List.forall₂_map_right_iff, List.forall₂_same]
  exact h

/-! ## What is read -/

theorem forall_of_mapM {α : Type} {read? : Json → Option α} {P : α → Prop}
    (hread : ∀ j x, read? j = some x → P x) {items : List Json} {xs : List α}
    (h : items.mapM read? = some xs) : ∀ x ∈ xs, P x := by
  induction items generalizing xs with
  | nil =>
    cases h
    simp
  | cons v items ih =>
    simp only [List.mapM_cons, Option.bind_eq_bind, Option.bind_eq_some_iff] at h
    obtain ⟨x, hx, rest, hrest, heq⟩ := h
    cases heq
    intro y hy
    rcases List.mem_cons.mp hy with rfl | hy
    · exact hread v y hx
    · exact ih hrest y hy

/-- What is read of a list has what its reader promises. -/
theorem forall_of_entries? {α : Type} {read? : Json → Option α} {P : α → Prop}
    (hread : ∀ j x, read? j = some x → P x) {field : Option Json} {xs : List α}
    (h : entries? read? field = some xs) : ∀ x ∈ xs, P x := by
  cases field with
  | none =>
    cases h
    simp
  | some j =>
    cases j with
    | arr items => exact forall_of_mapM hread h
    | _ => cases h

/-- What is read of a field has what its reader and its default promise. -/
theorem of_fieldOr? {α : Type} {read? : Json → Option α} {P : α → Prop} {default : α}
    (hdefault : P default) (hread : ∀ j x, read? j = some x → P x) {field : Option Json} {x : α}
    (h : fieldOr? default read? field = some x) : P x := by
  cases field with
  | none =>
    cases h
    exact hdefault
  | some j => exact hread j x h

end DocPress.Doc
