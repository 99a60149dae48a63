import DocPress.Proofs.Doc.Spelling
import DocPress.Proofs.Json.RoundTrip

/-!
# Package documentation read back

* `Format` — how the values of a type are written and read, how they may be spelled, and which of
  them a format is made for.
* `Format.Faithful` — every spelling of a value is read as this value, what is written is one of its
  spellings and is read back from its text as well, and writing what was read is idempotent.
* `exampleFormat`, …, `packageFormat` — the formats of the seven parts of package documentation.

Principal result: `formats_faithful` — all seven formats are faithful.
-/

namespace DocPress.Doc

/-! ## Formats -/

/-- How the values of a type are written, read and spelled. -/
structure Format (α : Type) where
  write : α → Json
  read? : Json → Option α
  /-- The JSON values that stand for a value. -/
  Spells : α → Json → Prop
  /-- Positions are of 64 bits and times are moments. -/
  Fits : α → Prop
  /-- Times lie in the years 0 to 9999. -/
  IsDated : α → Prop := fun _ => True

/-- What makes a format safe to exchange values in. -/
structure Format.Faithful {α : Type} (f : Format α) : Prop where
  /-- What is written is a spelling. -/
  spells_write : ∀ x, f.Spells x (f.write x)
  /-- A value is read from each of its spellings. -/
  read?_spelling : ∀ x j, f.Fits x → f.IsDated x → f.Spells x j → f.read? j = some x
  /-- A value is read from the text that it is written as. -/
  read?_text : ∀ x, f.Fits x → f.IsDated x → (Json.parse? (f.write x).text).bind f.read? = some x
  /-- Reading and then writing gives what is read and written as itself. -/
  idempotent : ∀ j x, f.read? j = some x → f.IsDated x →
    (f.read? (f.write x)).map f.write = some (f.write x)

/-- A format is faithful if its spellings are read, what is read fits, and what fits is exact. -/
theorem Format.Faithful.of_spellings {α : Type} {f : Format α}
    (hwrite : ∀ x, f.Spells x (f.write x))
    (hread : ∀ x j, f.Fits x → f.IsDated x → f.Spells x j → f.read? j = some x)
    (hfits : ∀ j x, f.read? j = some x → f.Fits x)
    (hexact : ∀ x, f.Fits x → (f.write x).IsExact) : f.Faithful where
  spells_write := hwrite
  read?_spelling := hread
  read?_text x hx hdated := by
    rw [Json.parse?_text (hexact x hx), Option.bind_some, hread x _ hx hdated (hwrite x)]
  idempotent j x hj hdated := by
    rw [hread x _ (hfits j x hj) hdated (hwrite x), Option.map_some]

/-! ## Exact texts -/

theorem allExact_map {α : Type} {write : α → Json} {xs : List α}
    (h : ∀ x ∈ xs, (write x).IsExact) : Json.AllExact (xs.map write) := by
  induction xs with
  | nil => trivial
  | cons x xs ih =>
    exact ⟨h x List.mem_cons_self, ih fun y hy => h y (List.mem_cons_of_mem _ hy)⟩

theorem Example.isExact_toJson (x : Example) : x.toJson.IsExact := by
  simp [Example.toJson, Json.IsExact, Json.AllFieldsExact]

theorem isExact_natCast {n : Nat} (h : n < 2 ^ 64) : (Json.int n).IsExact := by
  rw [Json.IsExact]
  omega

theorem Annotation.isExact_toJson {x : Annotation} (h : x.Fits) : x.toJson.IsExact :=
  ⟨isExact_natCast h.start_lt, isExact_natCast h.stop_lt, trivial, trivial, trivial⟩

theorem Decl.isExact_toJson {x : Decl} (h : x.Fits) : x.toJson.IsExact :=
  ⟨trivial, allExact_map fun a ha => Annotation.isExact_toJson (h a ha), trivial⟩

theorem ValueEntry.isExact_toJson {x : ValueEntry} (h : x.Fits) : x.toJson.IsExact :=
  ⟨Decl.isExact_toJson h, trivial, trivial⟩

theorem FuncEntry.isExact_toJson {x : FuncEntry} (h : x.Fits) : x.toJson.IsExact :=
  ⟨trivial, trivial, trivial, Decl.isExact_toJson h, trivial,
    allExact_map fun e _ => e.isExact_toJson, trivial⟩

theorem TypeEntry.isExact_toJson {x : TypeEntry} (h : x.Fits) : x.toJson.IsExact :=
  ⟨trivial, trivial, Decl.isExact_toJson h.decl,
    allExact_map fun v hv => ValueEntry.isExact_toJson (h.consts v hv),
    allExact_map fun v hv => ValueEntry.isExact_toJson (h.vars v hv),
    allExact_map fun f hf => FuncEntry.isExact_toJson (h.funcs f hf),
    allExact_map fun f hf => FuncEntry.isExact_toJson (h.methods f hf),
    allExact_map fun e _ => e.isExact_toJson, trivial⟩

theorem isExact_updatedJson (updated : Option Time.Instant) : (updatedJson updated).IsExact := by
  cases updated <;> trivial

theorem Package.isExact_toJson {x : Package} (h : x.Fits) : x.toJson.IsExact :=
  ⟨trivial, trivial, trivial, trivial, trivial, trivial, trivial, trivial,
    isExact_updatedJson x.updated, trivial,
    allExact_map fun v hv => ValueEntry.isExact_toJson (h.consts v hv),
    allExact_map fun v hv => ValueEntry.isExact_toJson (h.vars v hv),
    allExact_map fun f hf => FuncEntry.isExact_toJson (h.funcs f hf),
    allExact_map fun t ht => TypeEntry.isExact_toJson (h.types t ht),
    allExact_map fun e _ => e.isExact_toJson, allExact_map fun _ _ => trivial,
    allExact_map fun _ _ => trivial, trivial⟩

/-! ## The formats -/

/-- The format of examples. -/
def exampleFormat : Format Example :=
  { write := Example.toJson, read? := readExample?, Spells := Example.Spells, Fits := fun _ => True }

/-- The format of annotations. -/
def annotationFormat : Format Annotation :=
  { write := Annotation.toJson, read? := readAnnotation?, Spells := Annotation.Spells
    Fits := Annotation.Fits }

/-- The format of declarations. -/
def declFormat : Format Decl :=
  { write := Decl.toJson, read? := readDecl?, Spells := Decl.Spells, Fits := Decl.Fits }

/-- The format of groups of constants or variables. -/
def valueFormat : Format ValueEntry :=
  { write := ValueEntry.toJson, read? := readValue?, Spells := ValueEntry.Spells
    Fits := ValueEntry.Fits }

/-- The format of functions. -/
def funcFormat : Format FuncEntry :=
  { write := FuncEntry.toJson, read? := readFunc?, Spells := FuncEntry.Spells
    Fits := FuncEntry.Fits }

/-- The format of types. -/
def typeFormat : Format TypeEntry :=
  { write := TypeEntry.toJson, read? := readType?, Spells := TypeEntry.Spells
    Fits := TypeEntry.Fits }

/-- The format of packages. -/
def packageFormat : Format Package :=
  { write := Package.toJson, read? := readPackage?, Spells := Package.Spells, Fits := Package.Fits
    IsDated := Package.IsDated }

/-- **All seven formats are faithful.** Each part of package documentation, with any text, any
positions of 64 bits, and either no update or any moment of the years 0 to 9999 (leap seconds
included), is read from every spelling of it: at each level an object with its fields in any order
and unknown ones among them, or the list of its values. What is written is such a spelling, also as
text; and reading followed by writing is idempotent on all input whose update lies in those years. -/
theorem formats_faithful :
    exampleFormat.Faithful ∧ annotationFormat.Faithful ∧ declFormat.Faithful ∧
    valueFormat.Faithful ∧ funcFormat.Faithful ∧ typeFormat.Faithful ∧ packageFormat.Faithful := by
  refine ⟨?_, ?_, ?_, ?_, ?_, ?_, ?_⟩
  · exact .of_spellings Example.spells_toJson (fun _ _ _ _ => readExample?_of_spells)
      (fun _ _ _ => trivial) (fun x _ => x.isExact_toJson)
  · exact .of_spellings Annotation.spells_toJson
      (fun _ _ hfits _ => readAnnotation?_of_spells hfits) fits_of_readAnnotation?
      (fun _ => Annotation.isExact_toJson)
  · exact .of_spellings Decl.spells_toJson (fun _ _ hfits _ => readDecl?_of_spells hfits)
      fits_of_readDecl? (fun _ => Decl.isExact_toJson)
  · exact .of_spellings ValueEntry.spells_toJson (fun _ _ hfits _ => readValue?_of_spells hfits)
      fits_of_readValue? (fun _ => ValueEntry.isExact_toJson)
  · exact .of_spellings FuncEntry.spells_toJson (fun _ _ hfits _ => readFunc?_of_spells hfits)
      fits_of_readFunc? (fun _ => FuncEntry.isExact_toJson)
  · exact .of_spellings TypeEntry.spells_toJson (fun _ _ hfits _ => readType?_of_spells hfits)
      fits_of_readType? (fun _ => TypeEntry.isExact_toJson)
  · exact .of_spellings Package.spells_toJson (fun _ _ => readPackage?_of_spells)
      fits_of_readPackage? (fun _ => Package.isExact_toJson)

/-- A link over the first word of a text, to the same package. -/
def levelLink : Annotation := ⟨0, 5, "", "Level"⟩

/-- A package with this link in a group of constants, updated in a leap second. -/
def logPackage : Package where
  importPath := "log"
  doc := "Levels:\n\t\"debug\"\x00"
  updated := some ⟨736328, 86399, 1500000000⟩
  consts := [{ decl := { text := "Level = 1", annotations := [levelLink] } }]

/-- The package is read back from its text, and its link from the list of the link's fields. -/
theorem logPackage_read_back : logPackage.Fits ∧ logPackage.IsDated ∧ levelLink.Fits ∧
    (Json.parse? logPackage.toJson.text).bind readPackage? = some logPackage ∧
    levelLink.Spells (.arr [.int 0, .int 5, .str "", .str "Level"]) ∧
    readAnnotation? (.arr [.int 0, .int 5, .str "", .str "Level"]) = some levelLink := by
  obtain ⟨-, hlinks, -, -, -, -, hpackages⟩ := formats_faithful
  have hlink : levelLink.Fits := ⟨by decide, by decide⟩
  have hfits : logPackage.Fits := by
    refine ⟨?_, ?_, by simp [logPackage], by simp [logPackage], by simp [logPackage]⟩
    · rintro t ⟨rfl⟩
      exact ⟨by decide, by decide, by decide⟩
    · intro v hv
      obtain rfl := List.mem_singleton.mp hv
      intro a ha
      obtain rfl := List.mem_singleton.mp ha
      exact hlink
  have hdated : logPackage.IsDated := by
    rintro t ⟨rfl⟩
    decide
  have hspells : levelLink.Spells (.arr [.int 0, .int 5, .str "", .str "Level"]) :=
    ⟨_, by simp [levelLink], .list⟩
  exact ⟨hfits, hdated, hlink, hpackages.read?_text _ hfits hdated, hspells,
    hlinks.read?_spelling _ _ hlink trivial hspells⟩

end DocPress.Doc
