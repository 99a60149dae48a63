import DocPress.Proofs.Doc.Spelling
import DocPress.Template.Value

/-!
# Package documentation as template data

Data that a template hands to a helper was made a value, whose maps are ordered by their keys, and is
made data again. It comes back with the fields of its objects in another order, and so as another
spelling of what it stands for.

* `Value.returned` — data as it comes back.
* `Value.exists_returned_obj`, `Value.returned_arr` — what becomes of objects and lists.
* `Value.lookup_ofFields` — the entries of a map of data.

Principal results: `spells_returned` of each part of package documentation; for packages it holds also
with the kind of an item among the fields.
-/

namespace DocPress.Template.Value

open DocPress.Doc

/-! ## Maps of data -/

theorem insert_perm {key : String} {value : Value} {entries : List (String × Value)}
    (h : key ∉ entries.map Prod.fst) :
    (insert key value entries).Perm ((key, value) :: entries) := by
  induction entries with
  | nil => exact .refl _
  | cons e entries ih =>
    obtain ⟨k, v⟩ := e
    rw [List.map_cons, List.mem_cons, not_or] at h
    rw [insert, if_neg h.1]
    split
    · exact .refl _
    · exact ((ih h.2).cons (k, v)).trans (.swap (key, value) (k, v) entries)

/-- The map of distinct fields has them all as its entries. -/
theorem ofFields_perm (entries : List (String × Value)) (fields : List (String × Json))
    (h : (fields.map Prod.fst ++ entries.map Prod.fst).Nodup) :
    (ofFields entries fields).Perm (fields.map (fun f => (f.1, ofJson f.2)) ++ entries) := by
  induction fields generalizing entries with
  | nil =>
    rw [ofFields]
    exact .refl _
  | cons f fields ih =>
    obtain ⟨name, x⟩ := f
    rw [List.map_cons, List.cons_append] at h
    have hfresh : name ∉ entries.map Prod.fst := fun hmem =>
      (List.nodup_cons.mp h).1 (List.mem_append_right _ hmem)
    have hinsert : (insert name (ofJson x) entries).Perm ((name, ofJson x) :: entries) :=
      insert_perm hfresh
    have hnodup : (fields.map Prod.fst ++ (insert name (ofJson x) entries).map Prod.fst).Nodup :=
      (((hinsert.map Prod.fst).append_left (fields.map Prod.fst)).trans
        List.perm_middle).nodup_iff.mpr h
    rw [ofFields, List.map_cons, List.cons_append]
    exact ((ih _ hnodup).trans (hinsert.append_left _)).trans List.perm_middle

theorem lookup_map_snd {β γ : Type} (f : β → γ) (fields : List (String × β)) (name : String) :
    (fields.map fun e => (e.1, f e.2)).lookup name = (fields.lookup name).map f := by
  induction fields with
  | nil => rfl
  | cons e fields ih =>
    rw [List.map_cons, List.lookup_cons, List.lookup_cons, ih]
    split <;> rfl

/-- An entry of a map of distinct fields. -/
theorem lookup_ofFields {fields : List (String × Json)} (hnodup : (fields.map Prod.fst).Nodup)
    (name : String) : (ofFields [] fields).lookup name = (fields.lookup name).map ofJson := by
  have hperm := ofFields_perm [] fields (by simpa using hnodup)
  rw [List.append_nil] at hperm
  rw [lookup_eq_of_perm hperm (by simpa [List.map_map, Function.comp_def] using hnodup),
    lookup_map_snd]

theorem ofItems_eq (items : List Json) : ofItems items = items.map ofJson := by
  induction items with
  | nil => rw [ofItems, List.map_nil]
  | cons x items ih => rw [ofItems, ih, List.map_cons]

theorem toItems_eq (items : List Value) : toItems items = items.map toJson := by
  induction items with
  | nil => rw [toItems, List.map_nil]
  | cons x items ih => rw [toItems, ih, List.map_cons]

theorem toFields_eq (entries : List (String × Value)) :
    toFields entries = entries.map fun e => (e.1, e.2.toJson) := by
  induction entries with
  | nil => rw [toFields, List.map_nil]
  | cons e entries ih =>
    obtain ⟨key, x⟩ := e
    rw [toFields, ih, List.map_cons]

/-! ## Data that comes back -/

/-- Data made a value and made data again. -/
def returned (j : Json) : Json := (ofJson j).toJson

@[simp] theorem returned_str (s : String) : returned (.str s) = .str s := by
  simp [returned, ofJson, toJson]

@[simp] theorem returned_int (n : Int) : returned (.int n) = .int n := by
  simp [returned, ofJson, toJson]

@[simp] theorem returned_bool (b : Bool) : returned (.bool b) = .bool b := by
  simp [returned, ofJson, toJson]

@[simp] theorem returned_updatedJson (updated : Option Time.Instant) :
    returned (updatedJson updated) = updatedJson updated := by
  cases updated <;> simp [returned, updatedJson, ofJson, toJson]

@[simp] theorem returned_arr (items : List Json) :
    returned (.arr items) = .arr (items.map returned) := by
  simp [returned, ofJson, toJson, ofItems_eq, toItems_eq, Function.comp_def]

/-- **An object comes back with its fields in another order.** -/
theorem exists_returned_obj {fields : List (String × Json)}
    (hnodup : (fields.map Prod.fst).Nodup) :
    ∃ fields', returned (.obj fields) = .obj fields' ∧
      fields'.Perm (fields.map fun f => (f.1, returned f.2)) := by
  have hperm := ofFields_perm [] fields (by simpa using hnodup)
  rw [List.append_nil] at hperm
  refine ⟨toFields (ofFields [] fields), by simp [returned, ofJson, toJson], ?_⟩
  rw [toFields_eq]
  simpa [List.map_map, Function.comp_def, returned] using
    hperm.map fun e : String × Value => (e.1, e.2.toJson)

/-- A view of an object finds its fields, however they come back. -/
theorem fieldsOf?_returned {fields : List (String × Json)} (hnodup : (fields.map Prod.fst).Nodup)
    (names : List String) :
    fieldsOf? names (returned (.obj fields)) =
      some (names.map fun name => (fields.lookup name).map returned) := by
  obtain ⟨fields', heq, hperm⟩ := exists_returned_obj hnodup
  rw [heq, fieldsOf?_of_perm hperm (by simpa [List.map_map, Function.comp_def] using hnodup)]
  simp only [lookup_map_snd]

/-- A record comes back as a spelling of itself, also with unknown fields before its own. -/
theorem recordSpells_returned {names : List String} {conditions : List (Json → Prop)}
    {fields : List (String × Json)} (unknown : List (String × Json))
    (hnames : fields.map Prod.fst = names) (hnodup : (unknown.map Prod.fst ++ names).Nodup)
    (h : List.Forall₂ (fun condition f => condition (returned f.2)) conditions fields) :
    RecordSpells names conditions (returned (.obj (unknown ++ fields))) := by
  have hdistinct : ((unknown ++ fields).map Prod.fst).Nodup := by rwa [List.map_append, hnames]
  obtain ⟨fields', heq, hperm⟩ := exists_returned_obj hdistinct
  rw [heq]
  rw [List.map_append] at hperm
  refine .of_perm (hperm.trans List.perm_append_comm) ?_ ?_ ?_
  · rw [← hnames, List.map_map]
    rfl
  · intro f hf hmem
    obtain ⟨g, hg, rfl⟩ := List.mem_map.mp hf
    exact List.disjoint_of_nodup_append hnodup (List.mem_map_of_mem hg) hmem
  · exact List.forall₂_map_right_iff.mpr h

/-- A list comes back as a spelling of itself if its items do. -/
theorem listSpells_returned {α : Type} {Spells : α → Json → Prop} {write : α → Json} {xs : List α}
    (h : ∀ x, Spells x (returned (write x))) :
    ListSpells Spells xs (returned (.arr (xs.map write))) := by
  rw [returned_arr, List.map_map]
  exact .of_map fun x _ => h x

end DocPress.Template.Value

/-! ## The parts of package documentation -/

namespace DocPress.Doc

open DocPress.Template.Value

theorem Example.spells_returned (x : Example) : x.Spells (returned x.toJson) :=
  recordSpells_returned [] rfl (by decide) (by simp)

theorem Annotation.spells_returned (x : Annotation) : x.Spells (returned x.toJson) :=
  recordSpells_returned [] rfl (by decide) (by simp)

theorem Decl.spells_returned (x : Decl) : x.Spells (returned x.toJson) := by
  refine recordSpells_returned [] rfl (by decide) ?_
  exact .cons (returned_str _) (.cons (listSpells_returned Annotation.spells_returned) .nil)

theorem ValueEntry.spells_returned (x : ValueEntry) : x.Spells (returned x.toJson) := by
  refine recordSpells_returned [] rfl (by decide) ?_
  exact .cons x.decl.spells_returned (.cons (returned_str _) .nil)

theorem FuncEntry.spells_returned (x : FuncEntry) : x.Spells (returned x.toJson) := by
  refine recordSpells_returned [] rfl (by decide) ?_
  exact .cons (returned_str _) (.cons (returned_str _) (.cons (returned_str _)
    (.cons x.decl.spells_returned (.cons (returned_str _)
      (.cons (listSpells_returned Example.spells_returned) .nil)))))

theorem TypeEntry.spells_returned (x : TypeEntry) : x.Spells (returned x.toJson) := by
  refine recordSpells_returned [] rfl (by decide) ?_
  exact .cons (returned_str _) (.cons (returned_str _) (.cons x.decl.spells_returned
    (.cons (listSpells_returned ValueEntry.spells_returned)
      (.cons (listSpells_returned ValueEntry.spells_returned)
        (.cons (listSpells_returned FuncEntry.spells_returned)
          (.cons (listSpells_returned FuncEntry.spells_returned)
            (.cons (listSpells_returned Example.spells_returned) .nil)))))))

/-- A package comes back as a spelling of itself, its kind among the fields. -/
theorem Package.spells_returned (x : Package) : x.Spells (returned (Item.package x).toJson) := by
  refine recordSpells_returned [("kind", .str "package")] rfl (by decide) ?_
  exact .cons (returned_str _) (.cons (returned_str _) (.cons (returned_str _)
    (.cons (returned_str _) (.cons (returned_str _) (.cons (returned_str _) (.cons (returned_str _)
      (.cons (returned_bool _) (.cons (returned_updatedJson _) (.cons (returned_str _)
        (.cons (listSpells_returned ValueEntry.spells_returned)
          (.cons (listSpells_returned ValueEntry.spells_returned)
            (.cons (listSpells_returned FuncEntry.spells_returned)
              (.cons (listSpells_returned TypeEntry.spells_returned)
                (.cons (listSpells_returned Example.spells_returned)
                  (.cons (listSpells_returned returned_str)
                    (.cons (listSpells_returned returned_str) .nil))))))))))))))))

end DocPress.Doc
