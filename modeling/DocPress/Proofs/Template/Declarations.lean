import DocPress.Proofs.Template.Dependence
import DocPress.Proofs.Template.ShippedPages

/-!
# Declarations on the shipped pages

The page of a package shows every declaration of it, escaped and with its links. The text of a package
shows the same declarations verbatim, but for those of the constants and variables of its types: of
them it shows nothing at all.

* `Place`, `Place.decls`, `placePath` — where a package has declarations, and the ways to them.
* `Package.withoutTypeValues` — a package whose types have no constants and variables.
* `reaches_place` — the way to a place leads to its declarations.
* `differ_types`, `differ_updated` — packages that differ in one place.

Principal results: `shipped_show_declarations` — what the shipped templates show and ignore;
`package_text_omits_only_values_of_types`.
-/

namespace DocPress.Doc

/-! ## Places of declarations -/

/-- The places of declarations in a package: its own constants, variables, functions and types, and
those of its types. -/
inductive Place where
  | consts
  | vars
  | funcs
  | types
  | typeConsts
  | typeVars
  | typeFuncs
  | typeMethods
  deriving DecidableEq, Repr

/-- All places. -/
def Place.all : List Place :=
  [.consts, .vars, .funcs, .types, .typeConsts, .typeVars, .typeFuncs, .typeMethods]

/-- The places of constants and variables of types. -/
def Place.ofTypeValues : Place → Bool
  | .typeConsts | .typeVars => true
  | _ => false

/-- The declarations at a place. -/
def Place.decls (p : Package) : Place → List Decl
  | .consts => p.consts.map ValueEntry.decl
  | .vars => p.vars.map ValueEntry.decl
  | .funcs => p.funcs.map FuncEntry.decl
  | .types => p.types.map TypeEntry.decl
  | .typeConsts => p.types.flatMap fun t => t.consts.map ValueEntry.decl
  | .typeVars => p.types.flatMap fun t => t.vars.map ValueEntry.decl
  | .typeFuncs => p.types.flatMap fun t => t.funcs.map FuncEntry.decl
  | .typeMethods => p.types.flatMap fun t => t.methods.map FuncEntry.decl

theorem Place.mem_all (place : Place) : place ∈ Place.all := by
  cases place <;> decide

/-- Every declaration of a package has a place. -/
theorem exists_place_of_mem_decls {p : Package} {d : Decl} (hd : d ∈ p.decls) :
    ∃ place : Place, d ∈ place.decls p := by
  simp only [Package.decls, TypeEntry.decls, List.mem_append, List.mem_map, List.mem_flatMap,
    List.mem_cons] at hd
  rcases hd with (⟨v, hv | hv, rfl⟩ | ⟨f, hf, rfl⟩) |
    ⟨t, ht, rfl | ⟨v, hv | hv, rfl⟩ | ⟨f, hf | hf, rfl⟩⟩
  · exact ⟨.consts, List.mem_map_of_mem hv⟩
  · exact ⟨.vars, List.mem_map_of_mem hv⟩
  · exact ⟨.funcs, List.mem_map_of_mem hf⟩
  · exact ⟨.types, List.mem_map_of_mem ht⟩
  · exact ⟨.typeConsts, List.mem_flatMap.mpr ⟨t, ht, List.mem_map_of_mem hv⟩⟩
  · exact ⟨.typeVars, List.mem_flatMap.mpr ⟨t, ht, List.mem_map_of_mem hv⟩⟩
  · exact ⟨.typeFuncs, List.mem_flatMap.mpr ⟨t, ht, List.mem_map_of_mem hf⟩⟩
  · exact ⟨.typeMethods, List.mem_flatMap.mpr ⟨t, ht, List.mem_map_of_mem hf⟩⟩

theorem TypeEntry.nodup_names (t : TypeEntry) : (t.fields.map Prod.fst).Nodup :=
  (List.nodup_cons.mp (Item.type t).nodup_names).2

/-- A type without its constants and variables. -/
def TypeEntry.withoutValues (t : TypeEntry) : TypeEntry := { t with consts := [], vars := [] }

/-- A package whose types have no constants and variables. -/
def Package.withoutTypeValues (p : Package) : Package :=
  { p with types := p.types.map TypeEntry.withoutValues }

theorem Package.Fits.withoutTypeValues {p : Package} (h : p.Fits) : p.withoutTypeValues.Fits where
  updated := h.updated
  consts := h.consts
  vars := h.vars
  funcs := h.funcs
  types := by
    intro t ht
    obtain ⟨u, hu, rfl⟩ := List.mem_map.mp ht
    have hfits := h.types u hu
    exact ⟨hfits.decl, by simp [TypeEntry.withoutValues], by simp [TypeEntry.withoutValues],
      hfits.funcs, hfits.methods⟩

end DocPress.Doc

namespace DocPress.Template

open DocPress.Doc Value

/-! ## Ways to declarations -/

/-- The way to the declarations at a place. -/
def placePath (place : Place) : Path :=
  let each (name : String) : Path := [.attr name, .items]
  let decl : Path := [.attr "decl"]
  match place with
  | .consts => each "consts" ++ decl
  | .vars => each "vars" ++ decl
  | .funcs => each "funcs" ++ decl
  | .types => each "types" ++ decl
  | .typeConsts => each "types" ++ each "consts" ++ decl
  | .typeVars => each "types" ++ each "vars" ++ decl
  | .typeFuncs => each "types" ++ each "funcs" ++ decl
  | .typeMethods => each "types" ++ each "methods" ++ decl

theorem Reaches.append {path more : Path} {v u w : Value} (h : Reaches path v u)
    (hmore : Reaches more u w) : Reaches (path ++ more) v w := by
  induction path generalizing v with
  | nil =>
    cases h
    exact hmore
  | cons step rest ih =>
    cases step with
    | attr name =>
      obtain ⟨t, ht, h⟩ := h
      exact ⟨t, ht, ih h⟩
    | items =>
      obtain ⟨ts, rfl, t, ht, h⟩ := h
      exact ⟨ts, rfl, t, ht, ih h⟩

/-- An attribute of a value is the field that it was made of. -/
theorem reaches_field {fields : List (String × Json)} (hnodup : (fields.map Prod.fst).Nodup)
    {name : String} {j : Json} (hj : fields.lookup name = some j) :
    Reaches [.attr name] (ofJson (.obj fields)) (ofJson j) :=
  ⟨ofJson j, by rw [attribute?_ofJson hnodup, hj]; rfl, rfl⟩

/-- The items of a field are reached through it. -/
theorem reaches_entries {α : Type} {write : α → Json} {xs : List α} {fields : List (String × Json)}
    (hnodup : (fields.map Prod.fst).Nodup) {name : String}
    (hj : fields.lookup name = some (.arr (xs.map write))) {x : α} (hx : x ∈ xs) :
    Reaches [.attr name, .items] (ofJson (.obj fields)) (ofJson (write x)) := by
  have hitems : Reaches [.items] (ofJson (.arr (xs.map write))) (ofJson (write x)) := by
    refine ⟨ofItems (xs.map write), by rw [ofJson], ofJson (write x), ?_, rfl⟩
    rw [ofItems_eq]
    exact List.mem_map_of_mem (List.mem_map_of_mem hx)
  exact (reaches_field hnodup hj).append hitems

theorem reaches_decl_of_value (v : ValueEntry) :
    Reaches [.attr "decl"] (ofJson v.toJson) (ofJson v.decl.toJson) := by
  have hnodup : ["decl", "doc"].Nodup := by decide
  rw [ValueEntry.toJson]
  apply reaches_field
  · exact hnodup
  · rfl

theorem reaches_decl_of_func (f : FuncEntry) :
    Reaches [.attr "decl"] (ofJson f.toJson) (ofJson f.decl.toJson) :=
  reaches_field (List.nodup_cons.mp (Item.func f).nodup_names).2 rfl

theorem reaches_text (d : Decl) : Reaches [.attr "text"] (ofJson d.toJson) (.str d.text) := by
  have hnodup : ["text", "annotations"].Nodup := by decide
  have htext : Value.str d.text = ofJson (.str d.text) := by rw [ofJson]
  rw [Decl.toJson, htext]
  apply reaches_field
  · exact hnodup
  · rfl

/-- **The way to a place leads to the declarations at it.** -/
theorem reaches_place {p : Package} {place : Place} {d : Decl} (hd : d ∈ place.decls p) :
    Reaches (placePath place) (itemValue (.package p)) (ofJson d.toJson) := by
  have hpackage := (Item.package p).nodup_names
  cases place with
  | consts =>
    obtain ⟨v, hv, rfl⟩ := List.mem_map.mp hd
    exact (reaches_entries hpackage rfl hv).append (reaches_decl_of_value v)
  | vars =>
    obtain ⟨v, hv, rfl⟩ := List.mem_map.mp hd
    exact (reaches_entries hpackage rfl hv).append (reaches_decl_of_value v)
  | funcs =>
    obtain ⟨f, hf, rfl⟩ := List.mem_map.mp hd
    exact (reaches_entries hpackage rfl hf).append (reaches_decl_of_func f)
  | types =>
    obtain ⟨t, ht, rfl⟩ := List.mem_map.mp hd
    exact (reaches_entries hpackage rfl ht).append (reaches_field t.nodup_names rfl)
  | typeConsts =>
    obtain ⟨t, ht, hd⟩ := List.mem_flatMap.mp hd
    obtain ⟨v, hv, rfl⟩ := List.mem_map.mp hd
    exact ((reaches_entries hpackage rfl ht).append (reaches_entries t.nodup_names rfl hv)).append
      (reaches_decl_of_value v)
  | typeVars =>
    obtain ⟨t, ht, hd⟩ := List.mem_flatMap.mp hd
    obtain ⟨v, hv, rfl⟩ := List.mem_map.mp hd
    exact ((reaches_entries hpackage rfl ht).append (reaches_entries t.nodup_names rfl hv)).append
      (reaches_decl_of_value v)
  | typeFuncs =>
    obtain ⟨t, ht, hd⟩ := List.mem_flatMap.mp hd
    obtain ⟨f, hf, rfl⟩ := List.mem_map.mp hd
    exact ((reaches_entries hpackage rfl ht).append (reaches_entries t.nodup_names rfl hf)).append
      (reaches_decl_of_func f)
  | typeMethods =>
    obtain ⟨t, ht, hd⟩ := List.mem_flatMap.mp hd
    obtain ⟨f, hf, rfl⟩ := List.mem_map.mp hd
    exact ((reaches_entries hpackage rfl ht).append (reaches_entries t.nodup_names rfl hf)).append
      (reaches_decl_of_func f)

/-! ## Packages that differ in one place -/

/-- Objects differ in one field if their other fields are the same. -/
theorem differ_field {fields fields' : List (String × Json)} (hnodup : (fields.map Prod.fst).Nodup)
    (hnodup' : (fields'.map Prod.fst).Nodup) {name : String} {j j' : Json}
    (hothers : ∀ other, other ≠ name → fields.lookup other = fields'.lookup other)
    (hj : fields.lookup name = some j) (hj' : fields'.lookup name = some j') {rest : Path}
    (hdiffer : Differ rest (ofJson j) (ofJson j')) :
    Differ (.attr name :: rest) (ofJson (.obj fields)) (ofJson (.obj fields')) := by
  refine ⟨fun other hne => ?_, ofJson j, ofJson j', ?_, ?_, hdiffer⟩
  · rw [attribute?_ofJson hnodup, attribute?_ofJson hnodup', hothers other hne]
  · rw [attribute?_ofJson hnodup, hj]
    rfl
  · rw [attribute?_ofJson hnodup', hj']
    rfl

theorem differ_consts (t : TypeEntry) (consts : List ValueEntry) :
    Differ [.attr "consts"] (ofJson t.toJson) (ofJson { t with consts := consts }.toJson) := by
  refine differ_field t.nodup_names (TypeEntry.nodup_names _) ?_ rfl rfl trivial
  intro other hne
  simp only [TypeEntry.fields, lookup_cons_eq_ite, if_neg hne]

theorem differ_vars (t : TypeEntry) (vars : List ValueEntry) :
    Differ [.attr "vars"] (ofJson t.toJson) (ofJson { t with vars := vars }.toJson) := by
  refine differ_field t.nodup_names (TypeEntry.nodup_names _) ?_ rfl rfl trivial
  intro other hne
  simp only [TypeEntry.fields, lookup_cons_eq_ite, if_neg hne]

/-- Packages differ in their types as far as these do. -/
theorem differ_types {rest : Path} {change : TypeEntry → TypeEntry}
    (h : ∀ t, Differ rest (ofJson t.toJson) (ofJson (change t).toJson)) (p : Package) :
    Differ (.attr "types" :: .items :: rest) (itemValue (.package p))
      (itemValue (.package { p with types := p.types.map change })) := by
  refine differ_field (Item.package p).nodup_names (Item.nodup_names _) ?_ rfl rfl ?_
  · intro other hne
    simp only [Item.fields, Package.fields, Item.kind, lookup_cons_eq_ite, if_neg hne]
  · refine ⟨_, _, by rw [ofJson], by rw [ofJson], ?_⟩
    rw [ofItems_eq, ofItems_eq, List.map_map, List.map_map, List.map_map, List.forall₂_map_left_iff,
      List.forall₂_map_right_iff]
    exact List.forall₂_same.mpr fun t _ => h t

theorem differ_updated (p : Package) (updated : Option Time.Instant) :
    Differ [.attr "updated"] (itemValue (.package p))
      (itemValue (.package { p with updated := updated })) := by
  refine differ_field (Item.package p).nodup_names (Item.nodup_names _) ?_ rfl rfl trivial
  intro other hne
  simp only [Item.fields, Package.fields, Item.kind, lookup_cons_eq_ite, if_neg hne]

theorem areOff_package {p : Package} (h : p.isCommand = false) :
    AreOff ["is_cmd"] (itemValue (.package p)) := by
  intro name hname
  obtain rfl := List.mem_singleton.mp hname
  refine ⟨.bool p.isCommand, ?_, h⟩
  rw [itemValue, Item.toJson, attribute?_ofJson (Item.package p).nodup_names]
  simp [Item.fields, Package.fields, List.lookup_cons, ofJson]

/-! ## The shipped templates -/

/-- The places whose declarations the text of a package shows. -/
def textPlaces : List Place := Place.all.filter fun place => !place.ofTypeValues

/-- What the text of a package does not look at. -/
def textIgnored : List Path :=
  [[.attr "types", .items, .attr "consts"], [.attr "types", .items, .attr "vars"], [.attr "updated"]]

/-- Whether the templates of a set show the declarations of packages. -/
def showDeclarations (templates : TemplateSet) : Bool :=
  showsNamed templates (.through .decl) ["is_cmd"] (Place.all.map placePath) "package.html" &&
  showsNamed templates .bare ["is_cmd"]
    (textPlaces.map fun place => placePath place ++ [.attr "text"]) "package.txt" &&
  ignoresNamed templates ["is_cmd"] textIgnored "package.txt"

/-- **What the shipped templates show**: the page all declarations, and the text all but those of the
constants and variables of types, which it ignores. -/
theorem shipped_show_declarations : ∃ templates,
    Shipped.templates.foldlM addSource [] = .ok templates ∧ showDeclarations templates = true := by
  apply exists_set_of_texts shippedTexts.2
  decide +kernel

section Pages
variable {templates : TemplateSet} {s : Setting} {p : Package}

theorem infix_of_html (hshow : showDeclarations templates = true) (hfits : p.Fits)
    (hpackage : p.isCommand = false) {html : String}
    (hpage : pageOf s templates "package.html" (itemValue (.package p)) = .ok html) {d : Decl}
    (hd : d ∈ p.decls) : (Declaration.html d).toList <:+: html.toList := by
  simp only [showDeclarations, Bool.and_eq_true] at hshow
  obtain ⟨place, hplace⟩ := exists_place_of_mem_decls hd
  refine infix_of_pageOf hshow.1.1 hpage (areOff_package hpackage)
    (List.mem_map_of_mem place.mem_all) (reaches_place hplace) ?_
  exact ⟨.safe (Declaration.html d), apply_decl s _ (hfits.of_mem_decls hd), rfl⟩

theorem infix_of_text (hshow : showDeclarations templates = true) (hpackage : p.isCommand = false)
    {text : String} (hpage : pageOf s templates "package.txt" (itemValue (.package p)) = .ok text)
    {place : Place} (hplace : place.ofTypeValues = false) {d : Decl} (hd : d ∈ place.decls p) :
    d.text.toList <:+: text.toList := by
  simp only [showDeclarations, Bool.and_eq_true] at hshow
  have hmem : place ∈ textPlaces := List.mem_filter.mpr ⟨place.mem_all, by simp [hplace]⟩
  have hbare : escapesHtml "package.txt" = false := by decide +kernel
  refine infix_of_pageOf hshow.1.2 hpage (areOff_package hpackage)
    (List.mem_map_of_mem (f := fun place => placePath place ++ [.attr "text"]) hmem)
    ((reaches_place hd).append (reaches_text d)) ?_
  rw [hbare]
  exact rfl

/-- A registry that was just loaded makes pages from the set that it built. -/
theorem Registry.page_of_build {disk : Files.Disk} {options : Options}
    (hbuild : build disk options.source = .ok templates) (name : String) (data : Value) :
    Registry.page ⟨options, templates⟩ disk name data =
      pageOf options.setting templates name data := by
  rw [Registry.page, Registry.inUse]
  simp only [hbuild, ite_self]

/-- The text of a package does not change with the constants and variables of its types, nor with its
update. -/
theorem pageOf_text_eq (hshow : showDeclarations templates = true) (s : Setting)
    (hpackage : p.isCommand = false) (updated : Option Time.Instant) :
    pageOf s templates "package.txt" (itemValue (.package p)) =
      pageOf s templates "package.txt"
        (itemValue (.package { p.withoutTypeValues with updated := updated })) := by
  simp only [showDeclarations, Bool.and_eq_true] at hshow
  let noConsts (t : TypeEntry) : TypeEntry := { t with consts := [] }
  let noVars (t : TypeEntry) : TypeEntry := { t with vars := [] }
  let q : Package := { p with types := p.types.map noConsts }
  have hboth : q.types.map noVars = p.types.map TypeEntry.withoutValues := by
    simp only [q, List.map_map]
    rfl
  calc pageOf s templates "package.txt" (itemValue (.package p))
      = pageOf s templates "package.txt" (itemValue (.package q)) :=
        pageOf_eq_of_differ hshow.2 s (by simp [textIgnored])
          (differ_types (fun t => differ_consts t []) p) (areOff_package hpackage)
          (areOff_package hpackage)
    _ = pageOf s templates "package.txt"
          (itemValue (.package { q with types := q.types.map noVars })) :=
        pageOf_eq_of_differ hshow.2 s (by simp [textIgnored])
          (differ_types (fun t => differ_vars t []) q) (areOff_package hpackage)
          (areOff_package hpackage)
    _ = pageOf s templates "package.txt" (itemValue (.package p.withoutTypeValues)) := by
        rw [hboth]
        rfl
    _ = pageOf s templates "package.txt"
          (itemValue (.package { p.withoutTypeValues with updated := updated })) :=
        pageOf_eq_of_differ hshow.2 s (by simp [textIgnored])
          (differ_updated p.withoutTypeValues updated) (areOff_package hpackage)
          (areOff_package hpackage)

end Pages

/-- **The text of a package omits the constants and variables of its types, and no other
declaration.** For every package that is not a command, and for every way to load the shipped
templates and to render comments: the text of the package is made, and the declarations of its
constants, variables, functions and types, and those of the functions and methods of its types, stand
in it verbatim; but it is the text of the same package without the constants and variables of its
types. The page, which is made if the update of the package lies in the years 0 to 9999, shows all
declarations escaped and with their links. -/
theorem package_text_omits_only_values_of_types {disk : Files.Disk} {options : Options}
    (hsources : sources disk options.source = .ok Shipped.templates) {p : Package} (hfits : p.Fits)
    (hpackage : p.isCommand = false) :
    ∃ r, Registry.load disk options = .ok r ∧
      (∃ text, r.page disk "package.txt" (itemValue (.package p)) = .ok text ∧
        (∀ place : Place, place.ofTypeValues = false →
          ∀ d ∈ place.decls p, d.text.toList <:+: text.toList) ∧
        r.page disk "package.txt" (itemValue (.package p.withoutTypeValues)) = .ok text) ∧
      (p.IsDated → ∃ html, r.page disk "package.html" (itemValue (.package p)) = .ok html) ∧
      ∀ html, r.page disk "package.html" (itemValue (.package p)) = .ok html →
        ∀ d ∈ p.decls, (Declaration.html d).toList <:+: html.toList := by
  obtain ⟨templates, hset, hshow⟩ := shipped_show_declarations
  obtain ⟨_, hset', haccepted⟩ := shipped_accepted
  rw [hset] at hset'
  cases hset'
  have hbuild := build_of_sources hsources hset
  refine ⟨⟨options, templates⟩, by rw [Registry.load, hbuild]; rfl, ?_⟩
  simp only [Registry.page_of_build hbuild]
  refine ⟨?_, ?_, fun html hpage d hd => infix_of_html hshow hfits hpackage hpage hd⟩
  · -- without an update the text is made, and it does not depend on that
    have hundated : ({ p.withoutTypeValues with updated := none } : Package).Fits :=
      { hfits.withoutTypeValues with updated := by simp }
    obtain ⟨text, hmade⟩ := pageOf_of_accepts (haccepted "package.txt" (by simp)) options.setting
      ⟨_, hundated, by simp [Package.IsDated], rfl⟩
    have htext := (pageOf_text_eq hshow options.setting hpackage none).trans hmade
    exact ⟨text, htext, fun place hplace d hd => infix_of_text hshow hpackage htext hplace hd,
      (pageOf_text_eq hshow options.setting hpackage p.updated).symm.trans htext⟩
  · intro hdated
    exact pageOf_of_accepts (haccepted "package.html" (by simp)) options.setting
      ⟨p, hfits, hdated, rfl⟩

/-- A package with a type that has a constant. -/
def constantPackage : Package where
  importPath := "p"
  name := "p"
  types :=
    [{ name := "T"
       decl := { text := "type T int" }
       consts := [{ decl := { text := "const A T = 1" } }] }]

theorem fits_constantPackage : constantPackage.Fits where
  updated := by simp [constantPackage]
  consts := by simp [constantPackage]
  vars := by simp [constantPackage]
  funcs := by simp [constantPackage]
  types := by
    intro t ht
    obtain rfl := List.mem_singleton.mp ht
    refine ⟨by simp [Decl.Fits], ?_, by simp, by simp, by simp⟩
    intro v hv
    obtain rfl := List.mem_singleton.mp hv
    simp [ValueEntry.Fits, Decl.Fits]

/-- Its text shows the type, and its page the constant too. -/
theorem constantPackage_pages :
    constantPackage.Fits ∧ constantPackage.isCommand = false ∧ ∃ r text html,
    Registry.load ⟨.directory [], "/"⟩ memoryOptions = .ok r ∧
    r.page ⟨.directory [], "/"⟩ "package.txt" (itemValue (.package constantPackage)) = .ok text ∧
    "type T int".toList <:+: text.toList ∧
    r.page ⟨.directory [], "/"⟩ "package.html" (itemValue (.package constantPackage)) = .ok html ∧
    (Declaration.html { text := "const A T = 1" }).toList <:+: html.toList := by
  have hsources : sources ⟨.directory [], "/"⟩ memoryOptions.source = .ok Shipped.templates := rfl
  obtain ⟨r, hload, ⟨text, htext, hshown, -⟩, hmade, hhtml⟩ :=
    package_text_omits_only_values_of_types hsources fits_constantPackage rfl
  obtain ⟨html, hpage⟩ := hmade (by simp [Package.IsDated, constantPackage])
  exact ⟨fits_constantPackage, rfl, r, text, html, hload, htext,
    hshown .types rfl _ List.mem_cons_self, hpage, hhtml html hpage _ (by decide)⟩

/-- The constant does not stand in its text. -/
theorem constantPackage_text_omits_constant : constantPackage.isCommand = false ∧ ∃ r text,
    Registry.load ⟨.directory [], "/"⟩ memoryOptions = .ok r ∧
    r.page ⟨.directory [], "/"⟩ "package.txt" (itemValue (.package constantPackage)) = .ok text ∧
    ∃ d ∈ constantPackage.decls, ¬ d.text.toList <:+: text.toList := by
  let text := "PACKAGE DOCUMENTATION\n\npackage p\n    import \"p\"\n\n\n\nTYPES\n\ntype T int\n"
  obtain ⟨templates, hset, hpage⟩ := exists_set_of_texts shippedTexts.2
    (fun templates => decide ((pageOf memoryOptions.setting templates "package.txt"
      (itemValue (.package constantPackage))).toOption = some text)) (by decide +kernel)
  have hsources : sources ⟨.directory [], "/"⟩ memoryOptions.source = .ok Shipped.templates := rfl
  have hbuild := build_of_sources hsources hset
  refine ⟨rfl, ⟨memoryOptions, templates⟩, text, by rw [Registry.load, hbuild]; rfl, ?_,
    { text := "const A T = 1" }, by decide, by decide +kernel⟩
  rw [Registry.page_of_build hbuild]
  exact eq_ok_of_toOption (of_decide_eq_true hpage)

end DocPress.Template
