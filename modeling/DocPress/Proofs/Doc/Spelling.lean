import DocPress.Doc.Reader
import DocPress.Doc.Writer
import DocPress.Proofs.Doc.Record
import DocPress.Proofs.Time.Timestamp

/-!
# Spellings of package documentation

* `Spells` of each part — the JSON values that stand for it: at every level, an object with its
  fields in any order and unknown ones among them, or the list of its values.
* `Fits` of each part — positions are of 64 bits, and the time of an update is a moment.
* `Package.IsDated` — the update, if there is one, lies in the years 0 to 9999.

Principal results, for each of the seven parts: `spells_toJson` — what is written is a spelling;
`read…?_of_spells` — a part is read from every spelling of it; `fits_of_read…?` — what is read fits.
-/

namespace DocPress.Doc

/-! ## Examples -/

/-- The spellings of an example. -/
def Example.Spells (x : Example) : Json → Prop :=
  RecordSpells ["name", "doc", "code", "output"]
    [(· = .str x.name), (· = .str x.doc), (· = .str x.code), (· = .str x.output)]

theorem Example.spells_toJson (x : Example) : x.Spells x.toJson :=
  .of_fields rfl (by simp)

theorem readExample?_of_spells {x : Example} {j : Json} (h : x.Spells j) :
    readExample? j = some x := by
  obtain ⟨values, hvalues, hfields⟩ := h.exists_values (by decide) rfl
  rcases hvalues with _ | ⟨rfl, _ | ⟨rfl, _ | ⟨rfl, _ | ⟨rfl, _ | _⟩⟩⟩⟩
  simp [readExample?, hfields, text?_some]

/-! ## Declarations -/

/-- Both ends of an annotation are numbers of 64 bits. -/
structure Annotation.Fits (x : Annotation) : Prop where
  start_lt : x.start < 2 ^ 64
  stop_lt : x.stop < 2 ^ 64

/-- The spellings of an annotation. -/
def Annotation.Spells (x : Annotation) : Json → Prop :=
  RecordSpells ["pos", "end", "import_path", "name"]
    [(· = .int x.start), (· = .int x.stop), (· = .str x.importPath), (· = .str x.name)]

theorem Annotation.spells_toJson (x : Annotation) : x.Spells x.toJson :=
  .of_fields rfl (by simp)

theorem natural?_int {n : Nat} (h : n < 2 ^ 64) : natural? (.int n) = some n := by
  have hrange : 0 ≤ (n : Int) ∧ (n : Int) < 0x10000000000000000 := by omega
  simp only [natural?, if_pos hrange, Int.toNat_natCast]

theorem lt_of_natural? {j : Json} {n : Nat} (h : natural? j = some n) : n < 2 ^ 64 := by
  unfold natural? at h
  split at h
  · split at h
    · rename_i value hrange
      rw [← Option.some.inj h]
      omega
    · cases h
  · cases h

/-- An annotation from the fields of a record. -/
theorem readAnnotation?_of_fields {j : Json} {start stop path name : Option Json}
    (h : fieldsOf? ["pos", "end", "import_path", "name"] j = some [start, stop, path, name]) :
    readAnnotation? j = (fieldOr? 0 natural? start).bind fun start =>
      (fieldOr? 0 natural? stop).bind fun stop => (text? path).bind fun path =>
        (text? name).map fun name => ⟨start, stop, path, name⟩ := by
  simp only [readAnnotation?, h, Option.bind_eq_bind, Option.bind_some, Option.map_eq_bind]
  rfl

theorem readAnnotation?_of_spells {x : Annotation} {j : Json} (hfits : x.Fits) (h : x.Spells j) :
    readAnnotation? j = some x := by
  obtain ⟨values, hvalues, hfields⟩ := h.exists_values (by decide) rfl
  rcases hvalues with _ | ⟨rfl, _ | ⟨rfl, _ | ⟨rfl, _ | ⟨rfl, _ | _⟩⟩⟩⟩
  rw [readAnnotation?_of_fields hfields]
  simp only [fieldOr?_some, natural?_int hfits.start_lt, natural?_int hfits.stop_lt, text?_some,
    Option.bind_some, Option.map_some]

theorem fits_of_readAnnotation? (j : Json) (x : Annotation) (h : readAnnotation? j = some x) :
    x.Fits := by
  simp only [readAnnotation?, Option.bind_eq_bind, Option.bind_eq_some_iff] at h
  obtain ⟨fields, _, h⟩ := h
  split at h
  · simp only [Option.bind_eq_some_iff] at h
    obtain ⟨start, hstart, stop, hstop, _, _, _, _, h⟩ := h
    cases h
    exact ⟨of_fieldOr? (by decide) (fun _ _ => lt_of_natural?) hstart,
      of_fieldOr? (by decide) (fun _ _ => lt_of_natural?) hstop⟩
  · cases h

/-- All annotations of a declaration fit. -/
def Decl.Fits (x : Decl) : Prop := ∀ a ∈ x.annotations, a.Fits

/-- The spellings of a declaration. -/
def Decl.Spells (x : Decl) : Json → Prop :=
  RecordSpells ["text", "annotations"]
    [(· = .str x.text), ListSpells Annotation.Spells x.annotations]

theorem Decl.spells_toJson (x : Decl) : x.Spells x.toJson :=
  .of_fields rfl (by simpa using ListSpells.of_map fun a _ => a.spells_toJson)

theorem readDecl?_of_spells {x : Decl} {j : Json} (hfits : x.Fits) (h : x.Spells j) :
    readDecl? j = some x := by
  obtain ⟨values, hvalues, hfields⟩ := h.exists_values (by decide) rfl
  rcases hvalues with _ | ⟨rfl, _ | ⟨hannotations, _ | _⟩⟩
  simp [readDecl?, hfields, text?_some,
    entries?_of_spells hannotations fun a ha _ => readAnnotation?_of_spells (hfits a ha)]

theorem fits_of_readDecl? (j : Json) (x : Decl) (h : readDecl? j = some x) : x.Fits := by
  simp only [readDecl?, Option.bind_eq_bind, Option.bind_eq_some_iff] at h
  obtain ⟨fields, _, h⟩ := h
  split at h
  · simp only [Option.bind_eq_some_iff] at h
    obtain ⟨_, _, annotations, hannotations, h⟩ := h
    cases h
    exact forall_of_entries? fits_of_readAnnotation? hannotations
  · cases h

theorem Decl.fits_default : ({} : Decl).Fits := by
  intro a ha
  cases ha

/-! ## Values, functions and types -/

/-- The declaration of a group fits. -/
def ValueEntry.Fits (x : ValueEntry) : Prop := x.decl.Fits

/-- The spellings of a group of constants or variables. -/
def ValueEntry.Spells (x : ValueEntry) : Json → Prop :=
  RecordSpells ["decl", "doc"] [x.decl.Spells, (· = .str x.doc)]

theorem ValueEntry.spells_toJson (x : ValueEntry) : x.Spells x.toJson :=
  .of_fields rfl (by simpa using x.decl.spells_toJson)

theorem readValue?_of_spells {x : ValueEntry} {j : Json} (hfits : x.Fits) (h : x.Spells j) :
    readValue? j = some x := by
  obtain ⟨values, hvalues, hfields⟩ := h.exists_values (by decide) rfl
  rcases hvalues with _ | ⟨hdecl, _ | ⟨rfl, _ | _⟩⟩
  simp [readValue?, hfields, text?_some, fieldOr?_some, readDecl?_of_spells hfits hdecl]

theorem fits_of_readValue? (j : Json) (x : ValueEntry) (h : readValue? j = some x) : x.Fits := by
  simp only [readValue?, Option.bind_eq_bind, Option.bind_eq_some_iff] at h
  obtain ⟨fields, _, h⟩ := h
  split at h
  · simp only [Option.bind_eq_some_iff] at h
    obtain ⟨decl, hdecl, _, _, h⟩ := h
    cases h
    exact of_fieldOr? Decl.fits_default fits_of_readDecl? hdecl
  · cases h

/-- The declaration of a function fits. -/
def FuncEntry.Fits (x : FuncEntry) : Prop := x.decl.Fits

/-- The spellings of a function. -/
def FuncEntry.Spells (x : FuncEntry) : Json → Prop :=
  RecordSpells ["name", "recv", "doc", "decl", "url", "examples"]
    [(· = .str x.name), (· = .str x.recv), (· = .str x.doc), x.decl.Spells, (· = .str x.url),
     ListSpells Example.Spells x.examples]

theorem FuncEntry.spells_toJson (x : FuncEntry) : x.Spells x.toJson :=
  .of_fields rfl (by simpa [FuncEntry.fields] using
    ⟨x.decl.spells_toJson, ListSpells.of_map fun e _ => e.spells_toJson⟩)

theorem readFunc?_of_spells {x : FuncEntry} {j : Json} (hfits : x.Fits) (h : x.Spells j) :
    readFunc? j = some x := by
  obtain ⟨values, hvalues, hfields⟩ := h.exists_values (by decide) rfl
  rcases hvalues with _ | ⟨rfl, _ | ⟨rfl, _ | ⟨rfl, _ | ⟨hdecl, _ | ⟨rfl, _ | ⟨hexamples, _ | _⟩⟩⟩⟩⟩⟩
  simp [readFunc?, hfields, text?_some, fieldOr?_some, readDecl?_of_spells hfits hdecl,
    entries?_of_spells hexamples fun _ _ _ => readExample?_of_spells]

theorem fits_of_readFunc? (j : Json) (x : FuncEntry) (h : readFunc? j = some x) : x.Fits := by
  simp only [readFunc?, Option.bind_eq_bind, Option.bind_eq_some_iff] at h
  obtain ⟨fields, _, h⟩ := h
  split at h
  · simp only [Option.bind_eq_some_iff] at h
    obtain ⟨_, _, _, _, _, _, decl, hdecl, _, _, _, _, h⟩ := h
    cases h
    exact of_fieldOr? Decl.fits_default fits_of_readDecl? hdecl
  · cases h

/-- All declarations of a type fit. -/
structure TypeEntry.Fits (x : TypeEntry) : Prop where
  decl : x.decl.Fits
  consts : ∀ v ∈ x.consts, v.Fits
  vars : ∀ v ∈ x.vars, v.Fits
  funcs : ∀ f ∈ x.funcs, f.Fits
  methods : ∀ f ∈ x.methods, f.Fits

/-- The spellings of a type. -/
def TypeEntry.Spells (x : TypeEntry) : Json → Prop :=
  RecordSpells ["name", "doc", "decl", "consts", "vars", "funcs", "methods", "examples"]
    [(· = .str x.name), (· = .str x.doc), x.decl.Spells, ListSpells ValueEntry.Spells x.consts,
     ListSpells ValueEntry.Spells x.vars, ListSpells FuncEntry.Spells x.funcs,
     ListSpells FuncEntry.Spells x.methods, ListSpells Example.Spells x.examples]

theorem TypeEntry.spells_toJson (x : TypeEntry) : x.Spells x.toJson :=
  .of_fields rfl (by simpa [TypeEntry.fields] using
    ⟨x.decl.spells_toJson, ListSpells.of_map fun v _ => v.spells_toJson,
      ListSpells.of_map fun v _ => v.spells_toJson, ListSpells.of_map fun f _ => f.spells_toJson,
      ListSpells.of_map fun f _ => f.spells_toJson, ListSpells.of_map fun e _ => e.spells_toJson⟩)

theorem readType?_of_spells {x : TypeEntry} {j : Json} (hfits : x.Fits) (h : x.Spells j) :
    readType? j = some x := by
  obtain ⟨values, hvalues, hfields⟩ := h.exists_values (by decide) rfl
  rcases hvalues with _ | ⟨rfl, _ | ⟨rfl, _ | ⟨hdecl, _ | ⟨hconsts, _ | ⟨hvars, _ | ⟨hfuncs, _ |
    ⟨hmethods, _ | ⟨hexamples, _ | _⟩⟩⟩⟩⟩⟩⟩⟩
  simp [readType?, hfields, text?_some, fieldOr?_some, readDecl?_of_spells hfits.decl hdecl,
    entries?_of_spells hconsts fun v hv _ => readValue?_of_spells (hfits.consts v hv),
    entries?_of_spells hvars fun v hv _ => readValue?_of_spells (hfits.vars v hv),
    entries?_of_spells hfuncs fun f hf _ => readFunc?_of_spells (hfits.funcs f hf),
    entries?_of_spells hmethods fun f hf _ => readFunc?_of_spells (hfits.methods f hf),
    entries?_of_spells hexamples fun _ _ _ => readExample?_of_spells]

theorem fits_of_readType? (j : Json) (x : TypeEntry) (h : readType? j = some x) : x.Fits := by
  simp only [readType?, Option.bind_eq_bind, Option.bind_eq_some_iff] at h
  obtain ⟨fields, _, h⟩ := h
  split at h
  · simp only [Option.bind_eq_some_iff] at h
    obtain ⟨_, _, _, _, decl, hdecl, consts, hconsts, vars, hvars, funcs, hfuncs, methods, hmethods,
      _, _, h⟩ := h
    cases h
    exact ⟨of_fieldOr? Decl.fits_default fits_of_readDecl? hdecl,
      forall_of_entries? fits_of_readValue? hconsts, forall_of_entries? fits_of_readValue? hvars,
      forall_of_entries? fits_of_readFunc? hfuncs, forall_of_entries? fits_of_readFunc? hmethods⟩
  · cases h

/-! ## Packages -/

/-- All declarations of a package fit, and the time of its update is a moment. -/
structure Package.Fits (x : Package) : Prop where
  updated : ∀ t ∈ x.updated, t.IsMoment
  consts : ∀ v ∈ x.consts, v.Fits
  vars : ∀ v ∈ x.vars, v.Fits
  funcs : ∀ f ∈ x.funcs, f.Fits
  types : ∀ t ∈ x.types, t.Fits

/-- The update of a package, if there is one, lies in the years 0 to 9999. -/
def Package.IsDated (x : Package) : Prop := ∀ t ∈ x.updated, 0 ≤ t.year ∧ t.year ≤ 9999

/-- The spellings of a package. -/
def Package.Spells (x : Package) : Json → Prop :=
  RecordSpells packageFields
    [(· = .str x.importPath), (· = .str x.projectRoot), (· = .str x.projectName),
     (· = .str x.projectUrl), (· = .str x.name), (· = .str x.synopsis), (· = .str x.doc),
     (· = .bool x.isCommand), (· = updatedJson x.updated), (· = .str x.browseUrl),
     ListSpells ValueEntry.Spells x.consts, ListSpells ValueEntry.Spells x.vars,
     ListSpells FuncEntry.Spells x.funcs, ListSpells TypeEntry.Spells x.types,
     ListSpells Example.Spells x.examples, ListSpells (fun s j => j = .str s) x.imports,
     ListSpells (fun s j => j = .str s) x.errors]

theorem Package.spells_toJson (x : Package) : x.Spells x.toJson :=
  .of_fields rfl (by simpa [Package.fields] using
    ⟨ListSpells.of_map fun v _ => v.spells_toJson, ListSpells.of_map fun v _ => v.spells_toJson,
      ListSpells.of_map fun f _ => f.spells_toJson, ListSpells.of_map fun t _ => t.spells_toJson,
      ListSpells.of_map fun e _ => e.spells_toJson, ListSpells.of_map fun _ _ => rfl,
      ListSpells.of_map fun _ _ => rfl⟩)

theorem string?_of_eq {s : String} {j : Json} (h : j = .str s) : string? j = some s := by
  rw [h, string?]

/-- A dated moment is read back, and so is its absence. -/
theorem readUpdated?_updatedJson {updated : Option Time.Instant} (hmoment : ∀ t ∈ updated, t.IsMoment)
    (hyear : ∀ t ∈ updated, 0 ≤ t.year ∧ t.year ≤ 9999) :
    readUpdated? (updatedJson updated) = some updated := by
  cases updated with
  | none => rfl
  | some t =>
    simp [updatedJson, readUpdated?, readInstant?, string?,
      Time.parse?_text (hmoment t rfl) (hyear t rfl)]

theorem isMoment_of_readUpdated? (j : Json) (updated : Option Time.Instant)
    (h : readUpdated? j = some updated) : ∀ t ∈ updated, t.IsMoment := by
  unfold readUpdated? at h
  split at h
  · cases h
    simp
  · obtain ⟨t, hread, rfl⟩ := Option.map_eq_some_iff.mp h
    obtain ⟨s, _, hparse⟩ := Option.bind_eq_some_iff.mp hread
    rintro _ ⟨rfl⟩
    exact Time.isMoment_of_parse? hparse

theorem bind_eq_some_of {α β : Type} {o : Option α} {f : α → Option β} {a : α} {b : β}
    (ho : o = some a) (hf : f a = some b) : (o >>= f) = some b := by
  rw [ho]
  exact hf

-- The seventeen fields are taken one by one: rewriting under the binders of those still to come would
-- double the work with each of them.
theorem readPackage?_of_spells {x : Package} {j : Json} (hfits : x.Fits) (hdated : x.IsDated)
    (h : x.Spells j) : readPackage? j = some x := by
  obtain ⟨values, hvalues, hfields⟩ := h.exists_values (by decide) rfl
  rcases hvalues with _ | ⟨rfl, _ | ⟨rfl, _ | ⟨rfl, _ | ⟨rfl, _ | ⟨rfl, _ | ⟨rfl, _ | ⟨rfl, _ |
    ⟨rfl, _ | ⟨rfl, _ | ⟨rfl, _ | ⟨hconsts, _ | ⟨hvars, _ | ⟨hfuncs, _ | ⟨htypes, _ | ⟨hexamples, _ |
    ⟨himports, _ | ⟨herrors, _ | _⟩⟩⟩⟩⟩⟩⟩⟩⟩⟩⟩⟩⟩⟩⟩⟩⟩
  rw [readPackage?, hfields]
  refine bind_eq_some_of rfl ?_
  iterate 7 refine bind_eq_some_of (text?_some _) ?_
  refine bind_eq_some_of rfl ?_
  refine bind_eq_some_of (readUpdated?_updatedJson hfits.updated hdated) ?_
  refine bind_eq_some_of (text?_some _) ?_
  refine bind_eq_some_of (entries?_of_spells hconsts fun v hv _ =>
    readValue?_of_spells (hfits.consts v hv)) ?_
  refine bind_eq_some_of (entries?_of_spells hvars fun v hv _ =>
    readValue?_of_spells (hfits.vars v hv)) ?_
  refine bind_eq_some_of (entries?_of_spells hfuncs fun f hf _ =>
    readFunc?_of_spells (hfits.funcs f hf)) ?_
  refine bind_eq_some_of (entries?_of_spells htypes fun t ht _ =>
    readType?_of_spells (hfits.types t ht)) ?_
  refine bind_eq_some_of (entries?_of_spells hexamples fun _ _ _ => readExample?_of_spells) ?_
  refine bind_eq_some_of (entries?_of_spells himports fun _ _ _ => string?_of_eq) ?_
  exact bind_eq_some_of (entries?_of_spells herrors fun _ _ _ => string?_of_eq) rfl

theorem fits_of_readPackage? (j : Json) (x : Package) (h : readPackage? j = some x) : x.Fits := by
  rw [readPackage?] at h
  obtain ⟨fields, _, h⟩ := Option.bind_eq_some_iff.mp h
  split at h
  · iterate 8 obtain ⟨_, _, h⟩ := Option.bind_eq_some_iff.mp h
    obtain ⟨updated, hupdated, h⟩ := Option.bind_eq_some_iff.mp h
    obtain ⟨_, _, h⟩ := Option.bind_eq_some_iff.mp h
    obtain ⟨consts, hconsts, h⟩ := Option.bind_eq_some_iff.mp h
    obtain ⟨vars, hvars, h⟩ := Option.bind_eq_some_iff.mp h
    obtain ⟨funcs, hfuncs, h⟩ := Option.bind_eq_some_iff.mp h
    obtain ⟨types, htypes, h⟩ := Option.bind_eq_some_iff.mp h
    iterate 3 obtain ⟨_, _, h⟩ := Option.bind_eq_some_iff.mp h
    cases h
    exact ⟨of_fieldOr? (P := fun u : Option Time.Instant => ∀ t ∈ u, t.IsMoment) (by simp)
        isMoment_of_readUpdated? hupdated,
      forall_of_entries? fits_of_readValue? hconsts, forall_of_entries? fits_of_readValue? hvars,
      forall_of_entries? fits_of_readFunc? hfuncs, forall_of_entries? fits_of_readType? htypes⟩
  · cases h

end DocPress.Doc
