import DocPress.Proofs.Template.Checking
import DocPress.Shipped

/-!
# The shipped templates never fail

The shipped templates are checked once, for data of the shape of a package. That they are accepted is
found by evaluation; for this their texts are spelled out, since lists of characters are cheaper to
evaluate than strings.

* `Spelled`, `toList_ofLines` — lines spelled out character by character.
* `addText`, `passesTexts` — sets of templates from characters, and whether they pass a check.
* `shippedTexts` — the shipped templates spelled out.

Principal result: `shipped_pages_never_fail` — the page and the text of every package are made.
-/

namespace DocPress.Template

open DocPress.Doc

/-! ## Templates spelled out -/

/-- Lines spelled out. -/
def Spelled (lines : List String) (spelled : List (List Char)) : Prop :=
  List.Forall₂ (fun line chars => line = String.ofList chars) lines spelled

theorem toList_ofLines {lines : List String} {spelled : List (List Char)}
    (h : Spelled lines spelled) :
    (Shipped.ofLines lines).toList = spelled.flatMap fun chars => chars ++ ['\n'] := by
  rw [Shipped.ofLines, String.toList_ofList]
  induction h with
  | nil => rfl
  | cons hline _ ih => rw [List.flatMap_cons, List.flatMap_cons, ih, hline, String.toList_ofList]

/-- Reads a template from its characters. -/
def parseText? (source : List Char) : Option Body := do
  let chunks ← chunks? source
  match body? (4 * chunks.length + 4) chunks with
  | some (stmts, none, []) => some stmts
  | _ => none

/-- A set with one more template, given by its characters. -/
def addText (templates : TemplateSet) (entry : String × List Char) : Except LoadError TemplateSet :=
  match parseText? entry.2 with
  | some template => .ok (TemplateSet.insert entry.1 template templates)
  | none => .error (.malformed entry.1)

theorem addSource_eq (templates : TemplateSet) (name source : String) :
    addSource templates (name, source) = addText templates (name, source.toList) := rfl

/-- The template of a name is accepted for data of a shape. -/
def acceptsNamed (templates : TemplateSet) (data : Shape) (name : String) : Bool :=
  match templates.lookup name with
  | some template => acceptsPage templates data template
  | none => false

theorem foldlM_addSource_eq {entries : List (String × String)} {texts : List (List Char)}
    (h : List.Forall₂ (fun e text => e.2.toList = text) entries texts) (templates : TemplateSet) :
    entries.foldlM addSource templates =
      ((entries.map Prod.fst).zip texts).foldlM addText templates := by
  induction h generalizing templates with
  | nil => rfl
  | @cons e text entries texts htext _ ih =>
    obtain ⟨name, source⟩ := e
    subst htext
    simp only [List.map_cons, List.zip_cons_cons, List.foldlM_cons, addSource_eq, ih]

/-- Whether texts make a set of templates that passes a check. -/
def passesTexts (texts : List (String × List Char)) (check : TemplateSet → Bool) : Bool :=
  match texts.foldlM addText [] with
  | .ok templates => check templates
  | .error _ => false

/-- Templates pass a check if they pass it as spelled out. -/
theorem exists_set_of_texts {entries : List (String × String)} {texts : List (List Char)}
    (h : List.Forall₂ (fun e text => e.2.toList = text) entries texts) (check : TemplateSet → Bool)
    (hcheck : passesTexts ((entries.map Prod.fst).zip texts) check = true) :
    ∃ templates, entries.foldlM addSource [] = .ok templates ∧ check templates = true := by
  unfold passesTexts at hcheck
  split at hcheck
  · rename_i templates hbuild
    exact ⟨templates, (foldlM_addSource_eq h []).trans hbuild, hcheck⟩
  · cases hcheck

/-- A page of an accepted template is made. -/
theorem pageOf_of_accepts {templates : TemplateSet} {shape : Shape} {name : String}
    (haccepts : acceptsNamed templates shape name = true) (s : Setting) {data : Value}
    (hdata : shape.Holds data) : ∃ body, pageOf s templates name data = .ok body := by
  unfold acceptsNamed at haccepts
  split at haccepts
  · rename_i template hlookup
    obtain ⟨body, hbody⟩ := render_of_accepts haccepts s name hdata
    exact ⟨body, by rw [pageOf, hlookup]; simp only [hbody]⟩
  · cases haccepts

theorem build_of_sources {disk : Files.Disk} {source : Source} {entries : List (String × String)}
    {templates : TemplateSet} (hsources : sources disk source = .ok entries)
    (hset : entries.foldlM addSource [] = .ok templates) : build disk source = .ok templates := by
  rw [build, hsources]
  exact hset

/-! ## The shipped templates -/

-- The longest lines have more characters than terms may be nested by default.
set_option maxRecDepth 4000 in
/-- The shipped templates spelled out. -/
def shippedTexts : { texts : List (List Char) //
    List.Forall₂ (fun e text => e.2.toList = text) Shipped.templates texts } := by
  apply Subtype.mk
  repeat
    first
      | exact .nil
      | apply List.Forall₂.cons
        · apply toList_ofLines
          repeat (first | exact .nil | (apply List.Forall₂.cons; exact rfl))

/-- **The shipped templates are accepted** for data of the shape of a package. -/
theorem shipped_accepted : ∃ templates, Shipped.templates.foldlM addSource [] = .ok templates ∧
    ∀ name ∈ ["package.html", "package.txt"],
      acceptsNamed templates (.record .package) name = true := by
  have hcheck : passesTexts ((Shipped.templates.map Prod.fst).zip shippedTexts.1) (fun templates =>
      ["package.html", "package.txt"].all (acceptsNamed templates (.record .package))) = true := by
    decide +kernel
  obtain ⟨templates, hset, hall⟩ := exists_set_of_texts shippedTexts.2 _ hcheck
  exact ⟨templates, hset, List.all_eq_true.mp hall⟩

/-- **No shipped page fails.** For every package, its update absent or in the years 0 to 9999, and for
every way to render comments: the shipped templates are loaded, from memory or from a directory, and
the page and the text of the package are made and delivered to every sink that takes them. -/
theorem shipped_pages_never_fail {disk : Files.Disk} {options : Options}
    (hsources : sources disk options.source = .ok Shipped.templates) {p : Package} (hfits : p.Fits)
    (hdated : p.IsDated) :
    ∃ r, Registry.load disk options = .ok r ∧ ∀ name ∈ ["package.html", "package.txt"], ∃ body,
      r.page disk name (itemValue (.package p)) = .ok body ∧
      ∀ sink status, sink.receiver.check (Text.Utf8.encode body.toList) = .ok () →
        (r.execute disk sink name status (itemValue (.package p))).2 = .ok () := by
  obtain ⟨templates, hset, haccepted⟩ := shipped_accepted
  have hbuild := build_of_sources hsources hset
  refine ⟨⟨options, templates⟩, by rw [Registry.load, hbuild]; rfl, ?_⟩
  intro name hname
  have hdata : (Shape.record .package).Holds (itemValue (.package p)) := ⟨p, hfits, hdated, rfl⟩
  obtain ⟨body, hbody⟩ := pageOf_of_accepts (haccepted name hname) options.setting hdata
  have hpage : Registry.page ⟨options, templates⟩ disk name (itemValue (.package p)) = .ok body := by
    rw [Registry.page, Registry.inUse]
    simp only [hbuild, ite_self, hbody]
  refine ⟨body, hpage, ?_⟩
  intro sink status htakes
  rw [Registry.execute, hpage]
  simp only [Sink.deliver, htakes]

/-- The shipped templates in memory, read anew for each page. -/
def memoryOptions : Options := ⟨.memory Shipped.templates, true, ⟨{}, ⟨0, 0, 0⟩⟩⟩

/-- The pages of a package with a type, a method, an example and an update in a leap second. -/
theorem clockPackage_pages : clockPackage.Fits ∧ clockPackage.IsDated ∧ ∃ r page text,
    Registry.load ⟨.directory [], "/"⟩ memoryOptions = .ok r ∧
    r.page ⟨.directory [], "/"⟩ "package.html" (itemValue (.package clockPackage)) = .ok page ∧
    r.page ⟨.directory [], "/"⟩ "package.txt" (itemValue (.package clockPackage)) = .ok text := by
  have hsources : sources ⟨.directory [], "/"⟩ memoryOptions.source = .ok Shipped.templates := rfl
  obtain ⟨r, hload, hpages⟩ :=
    shipped_pages_never_fail hsources fits_clockPackage isDated_clockPackage
  obtain ⟨page, hpage, _⟩ := hpages "package.html" (by simp)
  obtain ⟨text, htext, _⟩ := hpages "package.txt" (by simp)
  exact ⟨fits_clockPackage, isDated_clockPackage, r, page, text, hload, hpage, htext⟩

end DocPress.Template
