import DocPress.Proofs.Template.Views

/-!
# Shapes of template values

A shape says what is known of a value before a template runs: that it is a string, a list of values
of one shape, a record of package documentation, or a map with certain attributes. It is enough to
tell that an access, a loop or a call of a helper cannot fail.

* `Record`, `Record.fields` — the records of package documentation and the shapes of their fields.
* `Shape`, `Shape.Holds` — shapes, and which values have them.
* `Shape.isDefined`, `Shape.field`, `Shape.items?` — what a shape says of accesses and loops.
* `Helper.signatures`, `Helper.result` — the arguments that a helper takes, and what it gives.
* `Succeeds` — a computation gives a result, and the result satisfies a condition.

Principal results: `Shape.Holds.field`, `Shape.Holds.elements` — accesses and loops do what the shape
says; `Helper.apply_of_accepts` — a helper does not fail on arguments of the right shapes.
-/

namespace DocPress.Template

open DocPress.Doc

/-! ## Computations that succeed -/

/-- A computation gives a result that satisfies a condition. -/
def Succeeds {α : Type} (computation : Except Failure α) (P : α → Prop) : Prop :=
  ∃ x, computation = .ok x ∧ P x

theorem Succeeds.ok {α : Type} {x : α} {P : α → Prop} (h : P x) : Succeeds (.ok x) P := ⟨x, rfl, h⟩

theorem Succeeds.bind_of_ok {α β : Type} {computation : Except Failure α} {x : α}
    {f : α → Except Failure β} {Q : β → Prop} (h : computation = .ok x) (hf : Succeeds (f x) Q) :
    Succeeds (computation >>= f) Q := by
  rw [h]
  exact hf

theorem Succeeds.bind {α β : Type} {computation : Except Failure α} {f : α → Except Failure β}
    {P : α → Prop} {Q : β → Prop} (h : Succeeds computation P) (hf : ∀ x, P x → Succeeds (f x) Q) :
    Succeeds (computation >>= f) Q := by
  obtain ⟨x, heq, hx⟩ := h
  exact .bind_of_ok heq (hf x hx)

theorem Succeeds.mono {α : Type} {computation : Except Failure α} {P Q : α → Prop}
    (h : Succeeds computation P) (hPQ : ∀ x, P x → Q x) : Succeeds computation Q := by
  obtain ⟨x, heq, hx⟩ := h
  exact ⟨x, heq, hPQ x hx⟩

/-! ## Shapes -/

/-- The records of package documentation. -/
inductive Record where
  | package
  | type
  | func
  | value
  | decl
  | sample
  /-- A package, a type or a function, with its kind. -/
  | item
  /-- An example and the item that it belongs to. -/
  | sampleRef
  deriving DecidableEq, Repr

/-- What is known of a value. -/
inductive Shape where
  /-- Nothing; the value may be missing. -/
  | any
  | text
  /-- The text of a moment of the years 0 to 9999. -/
  | timestamp
  /-- None, or a value of a shape. -/
  | optional (shape : Shape)
  | list (items : Shape)
  | record (kind : Record)
  /-- A map with an attribute of a shape; what else is known of it is a shape too. -/
  | having (name : String) (part rest : Shape)
  deriving DecidableEq, Repr

/-- The fields of a record and their shapes. Nothing is known of the fields of an item, which depend
on its kind. -/
def Record.fields : Record → List (String × Shape)
  | .package =>
    [("kind", .text), ("import_path", .text), ("project_root", .text), ("project_name", .text),
     ("project_url", .text), ("name", .text), ("synopsis", .text), ("doc", .text), ("is_cmd", .any),
     ("updated", .optional .timestamp), ("browse_url", .text), ("consts", .list (.record .value)),
     ("vars", .list (.record .value)), ("funcs", .list (.record .func)),
     ("types", .list (.record .type)), ("examples", .list (.record .sample)),
     ("imports", .list .text), ("errors", .list .text)]
  | .type =>
    [("name", .text), ("doc", .text), ("decl", .record .decl), ("consts", .list (.record .value)),
     ("vars", .list (.record .value)), ("funcs", .list (.record .func)),
     ("methods", .list (.record .func)), ("examples", .list (.record .sample))]
  | .func =>
    [("name", .text), ("recv", .text), ("doc", .text), ("decl", .record .decl), ("url", .text),
     ("examples", .list (.record .sample))]
  | .value => [("decl", .record .decl), ("doc", .text)]
  | .decl => [("text", .text), ("annotations", .any)]
  | .sample => [("name", .text), ("doc", .text), ("code", .text), ("output", .text)]
  | .item => []
  | .sampleRef => [("owner", .record .item), ("example", .record .sample)]

/-- The values that are records: what is written of documentation that fits, as template data. -/
def Record.Holds (v : Value) : Record → Prop
  | .package => ∃ p : Package, p.Fits ∧ p.IsDated ∧ v = itemValue (.package p)
  | .type => ∃ t : TypeEntry, t.Fits ∧ v = Value.ofJson t.toJson
  | .func => ∃ f : FuncEntry, f.Fits ∧ v = Value.ofJson f.toJson
  | .value => ∃ x : ValueEntry, x.Fits ∧ v = Value.ofJson x.toJson
  | .decl => ∃ d : Decl, d.Fits ∧ v = Value.ofJson d.toJson
  | .sample => ∃ x : Example, v = Value.ofJson x.toJson
  | .item => ∃ item : Item, v = itemValue item
  | .sampleRef => ∃ r : ExampleRef, v = Value.ofJson r.toJson

/-- The values of a shape. -/
def Shape.Holds : Shape → Value → Prop
  | .any, _ => True
  | .text, v => ∃ s, v.string? = some s
  | .timestamp, v =>
    ∃ t : Time.Instant, t.IsMoment ∧ (0 ≤ t.year ∧ t.year ≤ 9999) ∧ v = .str t.text
  | .optional s, v => v = .none ∨ s.Holds v
  | .list s, v => ∃ items, v = .list items ∧ ∀ x ∈ items, s.Holds x
  | .record k, v => k.Holds v
  | .having name s rest, v => (∃ w, v.attribute? name = some w ∧ s.Holds w) ∧ rest.Holds v

/-! ## Fields of records -/

/-- Fields of data have the shapes that are listed for them. -/
def FieldsHold (shapes : List (String × Shape)) (fields : List (String × Json)) : Prop :=
  List.Forall₂ (fun e f => e.1 = f.1 ∧ e.2.Holds (Value.ofJson f.2)) shapes fields

theorem FieldsHold.names_eq {shapes : List (String × Shape)} {fields : List (String × Json)}
    (h : FieldsHold shapes fields) : fields.map Prod.fst = shapes.map Prod.fst := by
  induction h with
  | nil => rfl
  | cons hf _ ih => rw [List.map_cons, List.map_cons, ih, hf.1]

theorem FieldsHold.lookup {shapes : List (String × Shape)} {fields : List (String × Json)}
    (h : FieldsHold shapes fields) {name : String} {s : Shape} (hs : shapes.lookup name = some s) :
    ∃ j, fields.lookup name = some j ∧ s.Holds (Value.ofJson j) := by
  induction h with
  | nil => cases hs
  | @cons e f shapes fields hf _ ih =>
    rw [List.lookup_cons] at hs ⊢
    rw [← hf.1]
    split at hs
    · cases hs
      exact ⟨f.2, rfl, hf.2⟩
    · exact ih hs

theorem holds_any (v : Value) : Shape.any.Holds v := trivial

theorem holds_str (s : String) : Shape.text.Holds (Value.ofJson (.str s)) := by
  rw [Value.ofJson]
  exact ⟨s, rfl⟩

theorem holds_arr {α : Type} {write : α → Json} {s : Shape} {xs : List α}
    (h : ∀ x ∈ xs, s.Holds (Value.ofJson (write x))) :
    (Shape.list s).Holds (Value.ofJson (.arr (xs.map write))) := by
  rw [Value.ofJson, Value.ofItems_eq, List.map_map]
  refine ⟨_, rfl, ?_⟩
  intro v hv
  obtain ⟨x, hx, rfl⟩ := List.mem_map.mp hv
  exact h x hx

theorem holds_texts (xs : List String) :
    (Shape.list .text).Holds (Value.ofJson (.arr (xs.map Json.str))) :=
  holds_arr fun s _ => holds_str s

theorem holds_samples (xs : List Example) :
    (Shape.list (.record .sample)).Holds (Value.ofJson (.arr (xs.map Example.toJson))) :=
  holds_arr fun x _ => ⟨x, rfl⟩

theorem holds_values {xs : List ValueEntry} (h : ∀ x ∈ xs, x.Fits) :
    (Shape.list (.record .value)).Holds (Value.ofJson (.arr (xs.map ValueEntry.toJson))) :=
  holds_arr fun x hx => ⟨x, h x hx, rfl⟩

theorem holds_funcs {xs : List FuncEntry} (h : ∀ x ∈ xs, x.Fits) :
    (Shape.list (.record .func)).Holds (Value.ofJson (.arr (xs.map FuncEntry.toJson))) :=
  holds_arr fun x hx => ⟨x, h x hx, rfl⟩

theorem holds_updatedJson {updated : Option Time.Instant} (hmoment : ∀ t ∈ updated, t.IsMoment)
    (hyear : ∀ t ∈ updated, 0 ≤ t.year ∧ t.year ≤ 9999) :
    (Shape.optional .timestamp).Holds (Value.ofJson (updatedJson updated)) := by
  cases updated with
  | none =>
    rw [updatedJson, Value.ofJson]
    exact .inl rfl
  | some t =>
    rw [updatedJson, Value.ofJson]
    exact .inr ⟨t, hmoment t rfl, hyear t rfl, rfl⟩

/-- The fields of a record have the shapes that are listed for it. -/
theorem Record.Holds.exists_fields {k : Record} {v : Value} (h : k.Holds v) (hk : k ≠ .item) :
    ∃ fields, v = Value.ofJson (.obj fields) ∧ FieldsHold k.fields fields := by
  cases k with
  | package =>
    obtain ⟨p, hfits, hdated, rfl⟩ := h
    have htypes : (Shape.list (.record .type)).Holds
        (Value.ofJson (.arr (p.types.map TypeEntry.toJson))) :=
      holds_arr fun t ht => ⟨t, hfits.types t ht, rfl⟩
    refine ⟨_, rfl, ?_⟩
    simp [FieldsHold, Record.fields, Item.fields, Package.fields, holds_str, holds_any,
      holds_updatedJson hfits.updated hdated, holds_values hfits.consts, holds_values hfits.vars,
      holds_funcs hfits.funcs, htypes, holds_samples, holds_texts]
  | type =>
    obtain ⟨t, hfits, rfl⟩ := h
    have hdecl : (Shape.record .decl).Holds (Value.ofJson t.decl.toJson) := ⟨t.decl, hfits.decl, rfl⟩
    refine ⟨t.fields, rfl, ?_⟩
    simp [FieldsHold, Record.fields, TypeEntry.fields, holds_str, hdecl, holds_values hfits.consts,
      holds_values hfits.vars, holds_funcs hfits.funcs, holds_funcs hfits.methods, holds_samples]
  | func =>
    obtain ⟨f, hfits, rfl⟩ := h
    have hdecl : (Shape.record .decl).Holds (Value.ofJson f.decl.toJson) := ⟨f.decl, hfits, rfl⟩
    refine ⟨f.fields, rfl, ?_⟩
    simp [FieldsHold, Record.fields, FuncEntry.fields, holds_str, hdecl, holds_samples]
  | value =>
    obtain ⟨x, hfits, rfl⟩ := h
    have hdecl : (Shape.record .decl).Holds (Value.ofJson x.decl.toJson) := ⟨x.decl, hfits, rfl⟩
    exact ⟨_, rfl, by simp [FieldsHold, Record.fields, holds_str, hdecl]⟩
  | decl =>
    obtain ⟨d, _, rfl⟩ := h
    exact ⟨_, rfl, by simp [FieldsHold, Record.fields, holds_str, holds_any]⟩
  | sample =>
    obtain ⟨x, rfl⟩ := h
    exact ⟨_, rfl, by simp [FieldsHold, Record.fields, holds_str]⟩
  | item => exact absurd rfl hk
  | sampleRef =>
    obtain ⟨r, rfl⟩ := h
    have howner : (Shape.record .item).Holds (Value.ofJson r.owner.toJson) := ⟨r.owner, rfl⟩
    have hsample : (Shape.record .sample).Holds (Value.ofJson r.sample.toJson) := ⟨r.sample, rfl⟩
    exact ⟨_, rfl, by simp [FieldsHold, Record.fields, howner, hsample]⟩

theorem Record.nodup_names (k : Record) : (k.fields.map Prod.fst).Nodup := by
  cases k <;> decide

/-- **A record has the fields that are listed for it.** -/
theorem Record.Holds.exists_attribute {k : Record} {v : Value} (h : k.Holds v) {name : String} {s : Shape}
    (hs : k.fields.lookup name = some s) : ∃ w, v.attribute? name = some w ∧ s.Holds w := by
  have hk : k ≠ .item := by
    rintro rfl
    cases hs
  obtain ⟨fields, rfl, hfields⟩ := h.exists_fields hk
  obtain ⟨j, hj, hholds⟩ := hfields.lookup hs
  refine ⟨_, ?_, hholds⟩
  rw [attribute?_ofJson (hfields.names_eq ▸ k.nodup_names), hj, Option.map_some]

theorem Record.Holds.exists_map {k : Record} {v : Value} (h : k.Holds v) :
    ∃ entries, v = .map entries := by
  have hobj : ∃ fields, v = Value.ofJson (.obj fields) := by
    by_cases hk : k = .item
    · subst hk
      obtain ⟨item, rfl⟩ := h
      exact ⟨_, rfl⟩
    · obtain ⟨fields, hv, _⟩ := h.exists_fields hk
      exact ⟨fields, hv⟩
  obtain ⟨fields, rfl⟩ := hobj
  exact ⟨_, by rw [Value.ofJson]⟩

/-! ## Accesses and loops -/

/-- Whether a value of a shape is certainly not missing. -/
def Shape.isDefined : Shape → Bool
  | .any => false
  | .optional s => s.isDefined
  | _ => true

/-- The shape of an attribute of a value. -/
def Shape.field (name : String) : Shape → Shape
  | .record k => (k.fields.lookup name).getD .any
  | .having other s rest => if name = other then s else rest.field name
  | _ => .any

/-- The shape of what a loop over a value goes through, if there can be such a loop. -/
def Shape.items? : Shape → Option Shape
  | .any => none
  | .optional s => s.items?
  | .list s => some s
  | _ => some .text

theorem exists_map_of_attribute? {v w : Value} {name : String} (h : v.attribute? name = some w) :
    ∃ entries, v = .map entries := by
  cases v with
  | map entries => exact ⟨entries, rfl⟩
  | _ => cases h

theorem Shape.Holds.ne_undefined {s : Shape} {v : Value} (h : s.Holds v) (hs : s.isDefined = true) :
    v ≠ .undefined := by
  rintro rfl
  induction s with
  | any => cases hs
  | text =>
    obtain ⟨x, hx⟩ := h
    cases hx
  | timestamp =>
    obtain ⟨t, _, _, ht⟩ := h
    cases ht
  | optional s ih =>
    rcases h with h | h
    · cases h
    · exact ih hs h
  | list s =>
    obtain ⟨items, hitems, _⟩ := h
    cases hitems
  | record k =>
    obtain ⟨entries, hentries⟩ := Record.Holds.exists_map h
    cases hentries
  | having name s rest =>
    obtain ⟨⟨w, hw, _⟩, _⟩ := h
    cases hw

/-- **An attribute has the shape that is known of it.** -/
theorem Shape.Holds.field {s : Shape} {v : Value} (h : s.Holds v) (name : String) :
    (s.field name).Holds ((v.attribute? name).getD .undefined) := by
  induction s with
  | record k =>
    rw [Shape.field]
    cases hs : k.fields.lookup name with
    | none => exact trivial
    | some s =>
      obtain ⟨w, hw, hholds⟩ := Record.Holds.exists_attribute h hs
      rw [hw]
      exact hholds
  | having other s rest _ ih =>
    obtain ⟨⟨w, hw, hholds⟩, hrest⟩ := h
    rw [Shape.field]
    split
    · rename_i heq
      rw [heq, hw]
      exact hholds
    · exact ih hrest
  | _ => exact trivial

theorem holds_text_str (s : String) : Shape.text.Holds (.str s) := ⟨s, rfl⟩

theorem holds_characters (s : String) :
    ∀ x ∈ s.toList.map fun c => Value.str (String.singleton c), Shape.text.Holds x := by
  intro x hx
  obtain ⟨c, _, rfl⟩ := List.mem_map.mp hx
  exact holds_text_str _

theorem succeeds_elements_map (entries : List (String × Value)) :
    Succeeds (Value.map entries).elements fun items => ∀ x ∈ items, Shape.text.Holds x := by
  refine .ok ?_
  intro x hx
  obtain ⟨entry, _, rfl⟩ := List.mem_map.mp hx
  exact holds_text_str _

/-- **A loop goes through values of the shape that is known of them.** -/
theorem Shape.Holds.elements {s item : Shape} {v : Value} (h : s.Holds v)
    (hitem : s.items? = some item) :
    Succeeds v.elements fun items => ∀ x ∈ items, item.Holds x := by
  induction s with
  | any => cases hitem
  | text =>
    cases hitem
    obtain ⟨x, hx⟩ := h
    cases v with
    | str s => exact .ok (holds_characters s)
    | safe s => exact .ok (holds_characters s)
    | _ => cases hx
  | timestamp =>
    cases hitem
    obtain ⟨t, _, _, rfl⟩ := h
    exact .ok (holds_characters _)
  | optional s ih =>
    rcases h with rfl | h
    · exact .ok (by simp)
    · exact ih h hitem
  | list s =>
    cases hitem
    obtain ⟨items, rfl, hitems⟩ := h
    exact .ok hitems
  | record k =>
    cases hitem
    obtain ⟨entries, rfl⟩ := Record.Holds.exists_map h
    exact succeeds_elements_map entries
  | having name s rest =>
    cases hitem
    obtain ⟨⟨w, hw, _⟩, _⟩ := h
    obtain ⟨entries, rfl⟩ := exists_map_of_attribute? hw
    exact succeeds_elements_map entries

/-! ## Helpers -/

/-- A shape without what is known of single attributes. -/
def Shape.core : Shape → Shape
  | .having _ _ rest => rest.core
  | s => s

/-- Whether a value of a shape can stand where another shape is asked for. -/
def Shape.meets (s required : Shape) : Bool :=
  required = .any || s.core = required || (required = .text && s.core = .timestamp)

/-- Whether values of shapes can stand where others are asked for, one by one. -/
def meetsAll : List Shape → List Shape → Bool
  | [], [] => true
  | s :: shapes, required :: params => s.meets required && meetsAll shapes params
  | _, _ => false

/-- The shapes of arguments that a helper takes. Those of a map are alternating keys and values, and
have no fixed shapes. -/
def Helper.signatures : Helper → List (List Shape)
  | .comment | .commentText | .importPath => [[.any]]
  | .decl => [[.record .decl]]
  | .equal => [[.any, .any]]
  | .map => []
  | .breadcrumbs | .commandName | .examples => [[.record .package]]
  | .relativePath => [[.text], [.text, .any]]
  | .relativeTime => [[.timestamp]]
  | .url => [[.text]]
  | .exampleId => [[.record .item, .record .sample]]
  | .isType | .isPackage | .isFunc => [[.any]]

/-- The shape of what a helper gives. -/
def Helper.result : Helper → Shape
  | .equal | .map | .isType | .isPackage | .isFunc => .any
  | .examples => .list (.record .sampleRef)
  | _ => .text

/-- Whether a helper takes arguments of these shapes. -/
def Helper.accepts (helper : Helper) (shapes : List Shape) : Bool :=
  helper.signatures.any (meetsAll shapes)

theorem Shape.Holds.core {s : Shape} {v : Value} (h : s.Holds v) : s.core.Holds v := by
  induction s with
  | having name s rest _ ih => exact ih h.2
  | _ => exact h

theorem Shape.Holds.of_meets {s required : Shape} {v : Value} (h : s.Holds v)
    (hmeets : s.meets required = true) : required.Holds v := by
  simp only [Shape.meets, Bool.or_eq_true, Bool.and_eq_true, decide_eq_true_eq] at hmeets
  have hcore := h.core
  rcases hmeets with (rfl | rfl) | ⟨rfl, htime⟩
  · exact trivial
  · exact hcore
  · rw [htime] at hcore
    obtain ⟨t, _, _, rfl⟩ := hcore
    exact holds_text_str _

theorem holds_of_meetsAll {shapes params : List Shape} {values : List Value}
    (h : List.Forall₂ Shape.Holds shapes values) (hmeets : meetsAll shapes params = true) :
    List.Forall₂ Shape.Holds params values := by
  induction h generalizing params with
  | nil =>
    cases params with
    | nil => exact .nil
    | cons => cases hmeets
  | cons hv _ ih =>
    cases params with
    | nil => cases hmeets
    | cons required params =>
      rw [meetsAll, Bool.and_eq_true] at hmeets
      exact .cons (hv.of_meets hmeets.1) (ih hmeets.2)

theorem asString_of_holds {v : Value} (h : Shape.text.Holds v) : ∃ s, asString v = .ok s := by
  obtain ⟨s, hs⟩ := h
  exact ⟨s, by rw [asString, hs]⟩

theorem holds_pathValue (escapes : Bool) (path : String) :
    Shape.text.Holds (pathValue escapes path) := by
  cases escapes <;> exact ⟨_, rfl⟩

theorem holds_examplesValue (p : Package) :
    (Shape.list (.record .sampleRef)).Holds (examplesValue p) :=
  holds_arr fun r _ => ⟨r, rfl⟩

/-- **A helper does not fail on arguments of the right shapes.** -/
theorem Helper.apply_of_accepts (s : Setting) (escapes : Bool) {helper : Helper}
    {shapes : List Shape} {values : List Value} (h : List.Forall₂ Shape.Holds shapes values)
    (haccepts : helper.accepts shapes = true) :
    Succeeds (helper.apply s escapes values) helper.result.Holds := by
  obtain ⟨params, hparams, hmeets⟩ := List.any_eq_true.mp haccepts
  have hvalues := holds_of_meetsAll h hmeets
  clear h haccepts hmeets
  cases helper with
  | map => cases hparams
  | equal =>
    obtain rfl := List.mem_singleton.mp hparams
    rcases hvalues with _ | ⟨_, _ | ⟨_, _ | _⟩⟩
    exact ⟨_, rfl, trivial⟩
  | decl =>
    obtain rfl := List.mem_singleton.mp hparams
    rcases hvalues with _ | ⟨⟨d, hfits, rfl⟩, _ | _⟩
    exact ⟨_, apply_decl s escapes hfits, _, rfl⟩
  | breadcrumbs =>
    obtain rfl := List.mem_singleton.mp hparams
    rcases hvalues with _ | ⟨⟨p, _, _, rfl⟩, _ | _⟩
    exact ⟨_, apply_breadcrumbs s escapes p, _, rfl⟩
  | commandName =>
    obtain rfl := List.mem_singleton.mp hparams
    rcases hvalues with _ | ⟨⟨p, _, _, rfl⟩, _ | _⟩
    exact ⟨_, apply_commandName s escapes p, _, rfl⟩
  | examples =>
    obtain rfl := List.mem_singleton.mp hparams
    rcases hvalues with _ | ⟨⟨p, hfits, hdated, rfl⟩, _ | _⟩
    exact ⟨_, apply_examples s escapes hfits hdated, holds_examplesValue p⟩
  | exampleId =>
    obtain rfl := List.mem_singleton.mp hparams
    rcases hvalues with _ | ⟨⟨item, rfl⟩, _ | ⟨⟨x, rfl⟩, _ | _⟩⟩
    exact ⟨_, apply_exampleId s escapes item x, _, rfl⟩
  | relativeTime =>
    obtain rfl := List.mem_singleton.mp hparams
    rcases hvalues with _ | ⟨⟨t, hmoment, hyear, rfl⟩, _ | _⟩
    exact ⟨_, apply_relativeTime s escapes hmoment hyear, _, rfl⟩
  | url =>
    obtain rfl := List.mem_singleton.mp hparams
    rcases hvalues with _ | ⟨hpath, _ | _⟩
    obtain ⟨path, hpath⟩ := asString_of_holds hpath
    refine ⟨pathValue escapes (Url.urlPath path), ?_, holds_pathValue _ _⟩
    simp only [Helper.apply, one, takeArg, hpath]
    rfl
  | relativePath =>
    simp only [Helper.signatures, List.mem_cons, List.not_mem_nil, or_false] at hparams
    rcases hparams with rfl | rfl
    · rcases hvalues with _ | ⟨hpath, _ | _⟩
      obtain ⟨path, hpath⟩ := asString_of_holds hpath
      refine ⟨pathValue escapes (ImportPath.relativeTo path none), ?_, holds_pathValue _ _⟩
      simp only [Helper.apply, oneOrTwo, takeArg, hpath]
      rfl
    · rcases hvalues with _ | ⟨hpath, _ | @⟨_, parent, _, _, _, _ | _⟩⟩
      obtain ⟨path, hpath⟩ := asString_of_holds hpath
      refine ⟨pathValue escapes (ImportPath.relativeTo path parent.string?), ?_, holds_pathValue _ _⟩
      simp only [Helper.apply, oneOrTwo, takeArg, hpath]
      rfl
  | isType | isPackage | isFunc =>
    obtain rfl := List.mem_singleton.mp hparams
    rcases hvalues with _ | ⟨_, _ | _⟩
    exact ⟨_, rfl, trivial⟩
  | comment | commentText | importPath =>
    obtain rfl := List.mem_singleton.mp hparams
    rcases hvalues with _ | ⟨_, _ | _⟩
    exact ⟨_, rfl, _, rfl⟩

end DocPress.Template
