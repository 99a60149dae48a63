import DocPress.Proofs.Template.Data
import DocPress.Template.Registry

/-!
# What helpers read of package documentation

Each helper that takes a record reads it anew from a value, through a view of its own: the paths of a
package, the owner of an example by its kind, the name of an example. The values are made of what is
written of the documentation, so the views have to find there what was written.

* `Package.decls` — all declarations of a package.
* `attribute?_ofJson` — the attributes of a value are the fields it was made of.
* `exists_returned_item` — an item comes back with its kind and its other fields.
* `readPackagePath?_returned`, `readExampleName?_returned`, `readOwner?_returned` — what the views
  find.
* `apply_decl`, `apply_examples`, `apply_exampleId`, … — the helpers on written documentation.

Principal result: `helpers_agree_with_documentation` — the helpers give for written documentation
what the functions behind them give for the documentation itself.
-/

namespace DocPress.Doc

/-! ## Declarations -/

/-- The declarations of a type: its own, and those of its parts. -/
def TypeEntry.decls (t : TypeEntry) : List Decl :=
  t.decl :: ((t.consts ++ t.vars).map ValueEntry.decl ++ (t.funcs ++ t.methods).map FuncEntry.decl)

/-- The declarations of a package. -/
def Package.decls (p : Package) : List Decl :=
  (p.consts ++ p.vars).map ValueEntry.decl ++ p.funcs.map FuncEntry.decl ++
    p.types.flatMap TypeEntry.decls

theorem TypeEntry.Fits.of_mem_decls {t : TypeEntry} (h : t.Fits) {d : Decl} (hd : d ∈ t.decls) :
    d.Fits := by
  simp only [TypeEntry.decls, List.mem_cons, List.mem_append, List.mem_map] at hd
  rcases hd with rfl | ⟨v, hv | hv, rfl⟩ | ⟨f, hf | hf, rfl⟩
  · exact h.decl
  · exact h.consts v hv
  · exact h.vars v hv
  · exact h.funcs f hf
  · exact h.methods f hf

theorem Package.Fits.of_mem_decls {p : Package} (h : p.Fits) {d : Decl} (hd : d ∈ p.decls) :
    d.Fits := by
  simp only [Package.decls, List.mem_append, List.mem_map, List.mem_flatMap] at hd
  rcases hd with (⟨v, hv | hv, rfl⟩ | ⟨f, hf, rfl⟩) | ⟨t, ht, hd⟩
  · exact h.consts v hv
  · exact h.vars v hv
  · exact h.funcs f hf
  · exact (h.types t ht).of_mem_decls hd

/-! ## Fields of items -/

/-- The fields of an item have distinct names, and none of them is that of the kind. -/
theorem Item.nodup_names (item : Item) :
    ((("kind", Json.str item.kind) :: item.fields).map Prod.fst).Nodup := by
  cases item with
  | package p => exact (by decide : ("kind" :: packageFields).Nodup)
  | type t =>
    exact (by decide : ["kind", "name", "doc", "decl", "consts", "vars", "funcs", "methods",
      "examples"].Nodup)
  | func f => exact (by decide : ["kind", "name", "recv", "doc", "decl", "url", "examples"].Nodup)

end DocPress.Doc

namespace DocPress.Template

open DocPress.Doc Value

/-! ## Views -/

/-- The attributes of a value are the fields that it was made of. -/
theorem attribute?_ofJson {fields : List (String × Json)} (hnodup : (fields.map Prod.fst).Nodup)
    (name : String) :
    (ofJson (.obj fields)).attribute? name = (fields.lookup name).map ofJson := by
  rw [ofJson, attribute?, lookup_ofFields hnodup]

theorem attribute?_exampleRef (r : ExampleRef) (name : String) :
    (ofJson r.toJson).attribute? name =
      ([("owner", r.owner.toJson), ("example", r.sample.toJson)].lookup name).map ofJson := by
  have hnodup : ["owner", "example"].Nodup := by decide
  rw [ExampleRef.toJson, attribute?_ofJson]
  exact hnodup

/-- An item comes back with its kind in one field, and with its other fields in some order. -/
theorem exists_returned_item (item : Item) : ∃ fields,
    returned item.toJson = .obj fields ∧
    (fields.filter fun f => f.1 == "kind") = [("kind", .str item.kind)] ∧
    (fields.filter fun f => f.1 != "kind").Perm (item.fields.map fun f => (f.1, returned f.2)) := by
  have hother : ∀ f ∈ item.fields.map fun f => (f.1, returned f.2), f.1 ≠ "kind" := by
    intro f hf heq
    obtain ⟨g, hg, rfl⟩ := List.mem_map.mp hf
    have hname : g.1 ∈ item.fields.map Prod.fst := List.mem_map_of_mem hg
    exact (List.nodup_cons.mp item.nodup_names).1 (heq ▸ hname)
  obtain ⟨fields, heq, hperm⟩ := exists_returned_obj item.nodup_names
  rw [List.map_cons, returned_str] at hperm
  refine ⟨fields, heq, ?_, ?_⟩
  · have hnone : (item.fields.map fun f => (f.1, returned f.2)).filter (fun f => f.1 == "kind") = [] :=
      List.filter_eq_nil_iff.mpr fun f hf => by simpa using hother f hf
    have hfilter := hperm.filter fun f => f.1 == "kind"
    rw [List.filter_cons_of_pos rfl, hnone] at hfilter
    exact List.perm_singleton.mp hfilter
  · have hall : (item.fields.map fun f => (f.1, returned f.2)).filter (fun f => f.1 != "kind") =
        item.fields.map fun f => (f.1, returned f.2) :=
      List.filter_eq_self.mpr fun f hf => by simpa using hother f hf
    have hfilter := hperm.filter fun f => f.1 != "kind"
    rwa [List.filter_cons_of_neg (by simp), hall] at hfilter

/-- The paths of a package are found among its fields. -/
theorem readPackagePath?_returned (p : Package) :
    readPackagePath? (returned (Item.package p).toJson) = some ⟨p.importPath, p.projectRoot⟩ := by
  have hfields := fieldsOf?_returned (Item.package p).nodup_names ["import_path", "project_root"]
  rw [readPackagePath?, Item.toJson, hfields]
  simp [Item.fields, Package.fields, List.lookup_cons, required?, Doc.string?, text?_some]

theorem readExampleName?_returned (x : Example) :
    readExampleName? (returned x.toJson) = some x.name := by
  have hnodup : ["name", "doc", "code", "output"].Nodup := by decide
  rw [readExampleName?, Example.toJson, fieldsOf?_returned]
  · simp [List.lookup_cons, text?_some]
  · exact hnodup

/-- The owner of an example is found behind its kind. -/
theorem readOwner?_returned (item : Item) :
    readOwner? (returned item.toJson) = some (Examples.Owner.ofItem item) := by
  obtain ⟨fields, heq, hkind, hperm⟩ := exists_returned_item item
  have hnodup : ((item.fields.map fun f => (f.1, returned f.2)).map Prod.fst).Nodup := by
    simpa [List.map_map, Function.comp_def] using (List.nodup_cons.mp item.nodup_names).2
  have hfields := fieldsOf?_of_perm hperm hnodup
  simp only [lookup_map_snd] at hfields
  rw [heq, readOwner?, hkind]
  cases item with
  | package p => rfl
  | type t =>
    simp [Item.kind, readOwnerKind?, readOwnerOf?, hfields, Item.fields, TypeEntry.fields,
      List.lookup_cons, required?, Doc.string?, Examples.Owner.ofItem]
  | func f =>
    simp [Item.kind, readOwnerKind?, readOwnerOf?, hfields, Item.fields, FuncEntry.fields,
      List.lookup_cons, required?, Doc.string?, text?_some, Examples.Owner.ofItem]

/-- Only its own kind is that of an item. -/
theorem hasKind_itemValue (kind : String) (item : Item) :
    hasKind kind (itemValue item) = (item.kind == kind) := by
  rw [itemValue, Item.toJson, ofJson, hasKind, lookup_ofFields item.nodup_names]
  simp [ofJson, Value.string?]

/-! ## Helpers -/

section Helpers

variable (s : Setting) (escapes : Bool)

theorem one_asRecord {α : Type} {read? : Json → Option α} {j : Json} {x : α}
    (h : read? (returned j) = some x) : one (asRecord read?) [ofJson j] = .ok x := by
  rw [returned] at h
  simp only [one, takeArg, asRecord, h]
  rfl

theorem two_asRecord {α β : Type} {first? : Json → Option α} {second? : Json → Option β} {i j : Json}
    {x : α} {y : β} (hx : first? (returned i) = some x) (hy : second? (returned j) = some y) :
    two (asRecord first?) (asRecord second?) [ofJson i, ofJson j] = .ok (x, y) := by
  rw [returned] at hx hy
  simp only [two, takeArg, asRecord, hx, Except.map, bind, Except.bind, hy]
  rfl

theorem apply_decl {d : Decl} (h : d.Fits) :
    Helper.decl.apply s escapes [ofJson d.toJson] = .ok (.safe (Declaration.html d)) := by
  rw [Helper.apply, one_asRecord (readDecl?_of_spells h d.spells_returned)]
  rfl

theorem apply_breadcrumbs (p : Package) :
    Helper.breadcrumbs.apply s escapes [itemValue (.package p)] =
      .ok (.safe (Breadcrumb.html p.importPath p.projectRootLength)) := by
  rw [Helper.apply, itemValue, one_asRecord (readPackagePath?_returned p)]
  rfl

theorem apply_commandName (p : Package) :
    Helper.commandName.apply s escapes [itemValue (.package p)] =
      .ok (.safe (ImportPath.commandName p.importPath)) := by
  rw [Helper.apply, itemValue, one_asRecord (readPackagePath?_returned p)]
  rfl

theorem apply_examples {p : Package} (hfits : p.Fits) (hdated : p.IsDated) :
    Helper.examples.apply s escapes [itemValue (.package p)] = .ok (examplesValue p) := by
  rw [Helper.apply, itemValue, one_asRecord (readPackage?_of_spells hfits hdated p.spells_returned)]
  rfl

theorem apply_relativeTime {t : Time.Instant} (hmoment : t.IsMoment)
    (hyear : 0 ≤ t.year ∧ t.year ≤ 9999) :
    Helper.relativeTime.apply s escapes [.str t.text] = .ok (.str (Time.age t s.now)) := by
  have hread : readInstant? (returned (.str t.text)) = some t := by
    rw [returned_str, readInstant?, Doc.string?, Option.bind_some, Time.parse?_text hmoment hyear]
  have hvalue : Value.str t.text = ofJson (.str t.text) := by rw [ofJson]
  rw [Helper.apply, hvalue, one_asRecord hread]
  rfl

theorem apply_exampleId (item : Item) (x : Example) :
    Helper.exampleId.apply s escapes [itemValue item, ofJson x.toJson] =
      .ok (.safe (Examples.anchor (Examples.Owner.ofItem item) x.name)) := by
  rw [Helper.apply, itemValue,
    two_asRecord (readOwner?_returned item) (readExampleName?_returned x)]
  rfl

theorem apply_isKind (item : Item) :
    Helper.isPackage.apply s escapes [itemValue item] = .ok (.bool (item.kind == "package")) ∧
    Helper.isType.apply s escapes [itemValue item] = .ok (.bool (item.kind == "type")) ∧
    Helper.isFunc.apply s escapes [itemValue item] = .ok (.bool (item.kind == "func")) := by
  simp only [← hasKind_itemValue]
  exact ⟨rfl, rfl, rfl⟩

/-- **The helpers agree with the documentation itself.** For every package, its update absent or in
the years 0 to 9999: the examples of the written package are the written examples; each of them has
an owner and a sample, whose anchor is that of the example; the declarations, the trail and the name
of the command are those of the package; and the tests of kinds tell the variants of items apart. -/
theorem helpers_agree_with_documentation {p : Package} (hfits : p.Fits) (hdated : p.IsDated) :
    Helper.examples.apply s escapes [itemValue (.package p)] =
      .ok (ofJson (.arr ((Examples.collect p).map ExampleRef.toJson))) ∧
    (∀ r ∈ Examples.collect p, ∃ owner sample,
      (ofJson r.toJson).attribute? "owner" = some owner ∧ owner = itemValue r.owner ∧
      (ofJson r.toJson).attribute? "example" = some sample ∧ sample = ofJson r.sample.toJson ∧
      Helper.exampleId.apply s escapes [owner, sample] = .ok (.safe (Examples.anchorOf r))) ∧
    (∀ d ∈ p.decls,
      Helper.decl.apply s escapes [ofJson d.toJson] = .ok (.safe (Declaration.html d))) ∧
    Helper.breadcrumbs.apply s escapes [itemValue (.package p)] =
      .ok (.safe (Breadcrumb.html p.importPath p.projectRootLength)) ∧
    Helper.commandName.apply s escapes [itemValue (.package p)] =
      .ok (.safe (ImportPath.commandName p.importPath)) ∧
    (∀ item : Item,
      Helper.isPackage.apply s escapes [itemValue item] = .ok (.bool (item matches .package _)) ∧
      Helper.isType.apply s escapes [itemValue item] = .ok (.bool (item matches .type _)) ∧
      Helper.isFunc.apply s escapes [itemValue item] = .ok (.bool (item matches .func _))) := by
  refine ⟨apply_examples s escapes hfits hdated, ?_, ?_, apply_breadcrumbs s escapes p,
    apply_commandName s escapes p, ?_⟩
  · intro r _
    exact ⟨itemValue r.owner, ofJson r.sample.toJson, attribute?_exampleRef r "owner", rfl,
      attribute?_exampleRef r "example", rfl, apply_exampleId s escapes r.owner r.sample⟩
  · intro d hd
    exact apply_decl s escapes (hfits.of_mem_decls hd)
  · intro item
    have hkind := apply_isKind s escapes item
    cases item <;> exact hkind

end Helpers

/-- A method with an annotated declaration and an example. -/
def tickMethod : FuncEntry where
  name := "Tick"
  recv := "*Clock"
  decl := { text := "func (c *Clock) Tick()", annotations := [⟨9, 14, "", "Clock"⟩] }
  examples := [{ name := "twice" }]

/-- A package with this method, updated in a leap second. -/
def clockPackage : Package where
  importPath := "time"
  updated := some ⟨736328, 86399, 1500000000⟩
  types := [{ name := "Clock", methods := [tickMethod] }]

theorem fits_clockPackage : clockPackage.Fits where
  updated := by
    rintro t ⟨rfl⟩
    exact ⟨by decide, by decide, by decide⟩
  consts := by simp [clockPackage]
  vars := by simp [clockPackage]
  funcs := by simp [clockPackage]
  types := by
    intro t ht
    obtain rfl := List.mem_singleton.mp ht
    refine ⟨Decl.fits_default, by simp, by simp, by simp, ?_⟩
    intro f hf
    obtain rfl := List.mem_singleton.mp hf
    intro a ha
    obtain rfl := List.mem_singleton.mp ha
    exact ⟨by decide, by decide⟩

theorem isDated_clockPackage : clockPackage.IsDated := by
  rintro t ⟨rfl⟩
  decide

/-- The anchor of the method's example is made of the parts that a template takes from it. -/
theorem clockPackage_anchor : clockPackage.Fits ∧ clockPackage.IsDated ∧ ∃ owner sample,
    (ofJson (ExampleRef.toJson ⟨.func tickMethod, { name := "twice" }⟩)).attribute? "owner" =
      some owner ∧
    (ofJson (ExampleRef.toJson ⟨.func tickMethod, { name := "twice" }⟩)).attribute? "example" =
      some sample ∧
    Helper.exampleId.apply ⟨{}, ⟨0, 0, 0⟩⟩ true [owner, sample] =
      .ok (.safe "_example_Clock_Tick-twice") := by
  obtain ⟨-, hanchors, -⟩ := helpers_agree_with_documentation ⟨{}, ⟨0, 0, 0⟩⟩ true
    fits_clockPackage isDated_clockPackage
  obtain ⟨owner, sample, howner, -, hsample, -, hanchor⟩ :=
    hanchors ⟨.func tickMethod, { name := "twice" }⟩ (by decide)
  have hname : Examples.anchorOf ⟨.func tickMethod, { name := "twice" }⟩ =
      "_example_Clock_Tick-twice" := by decide +kernel
  exact ⟨fits_clockPackage, isDated_clockPackage, owner, sample, howner, hsample, hname ▸ hanchor⟩

end DocPress.Template
