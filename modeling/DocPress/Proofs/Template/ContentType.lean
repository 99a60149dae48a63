import DocPress.Proofs.Files.Tree
import DocPress.Proofs.Template.Execution
import DocPress.Proofs.Text.Replace
import DocPress.Proofs.Text.Utf8
import Mathlib.Data.List.TakeDrop

/-!
# Content types of template files

Three rules look at the end of a template's name: the one that selects the files of a directory, the
one that announces a content type, and the one that decides on escaping. On the names of files they
agree, but for the two names that are nothing but an extension: such a name has no extension in the
sense of paths, and so no content type.

* `Files.Disk.IsProper` — no name on disk holds a slash.
* `outputWith` — the output of a template with its values escaped or not.
* `Part.contentType?` — the content type that a part announces.

Principal results: `exists_mem_namesWith_of_build` — the templates of a directory are named as its
files; `contentType?_of_extension`, `escapesHtml_of_extension` — the two rules on such a name;
`content_type_tells_escaping` — what is announced is what was rendered.
-/

namespace DocPress.Files

/-! ## Names of files -/

mutual

/-- Whether no name in a tree holds a slash. -/
def Node.isProper : Node → Bool
  | .file _ => true
  | .directory entries => areProper entries

/-- Whether no name among entries or below them holds a slash. -/
def areProper : List (Name × Node) → Bool
  | [] => true
  | (name, node) :: rest => !name.contains (UInt8.ofNat '/'.toNat) && node.isProper && areProper rest

end

/-- No name of a file or directory holds a slash. -/
def Disk.IsProper (disk : Disk) : Prop := disk.root.isProper = true

theorem isProper_of_mem {entries : List (Name × Node)} (h : areProper entries = true)
    {e : Name × Node} (he : e ∈ entries) : UInt8.ofNat '/'.toNat ∉ e.1 ∧ e.2.isProper = true := by
  induction entries with
  | nil => cases he
  | cons first entries ih =>
    obtain ⟨name, node⟩ := first
    simp only [areProper, Bool.and_eq_true, Bool.not_eq_true', List.contains_eq_mem,
      decide_eq_false_iff_not] at h
    rcases List.mem_cons.mp he with rfl | he
    · exact h.1
    · exact ih h.2 he

/-- What is found in a proper tree is proper. -/
theorem Node.isProper_of_find? {node inner : Node} (h : node.isProper = true) {place : List Name}
    (hfind : node.find? place = some inner) : inner.isProper = true := by
  induction place generalizing node with
  | nil =>
    cases hfind
    exact h
  | cons name place ih =>
    rw [Node.find?] at hfind
    split at hfind
    · rename_i next hnext
      cases node with
      | file content => cases hnext
      | directory entries =>
        rw [Node.isProper] at h
        exact ih (isProper_of_mem h (mem_of_lookup hnext)).2 hfind
    · cases hfind

theorem Disk.IsProper.not_mem_names {disk : Disk} (h : disk.IsProper) {path : String} {name : Name}
    (hname : name ∈ disk.names path) : UInt8.ofNat '/'.toNat ∉ name := by
  unfold Disk.names at hname
  split at hname
  · rename_i entries hnode
    obtain ⟨place, -, hfind⟩ := Disk.node_eq_ok_iff.mp hnode
    obtain ⟨e, he, rfl⟩ := List.mem_map.mp hname
    have hentries := Node.isProper_of_find? h hfind
    rw [Node.isProper] at hentries
    exact (isProper_of_mem hentries he).1
  · cases hname

/-- A path without slashes is a single piece. -/
theorem parts_of_not_mem {s : List Char} (h : '/' ∉ s) : parts s = [s] := by
  induction s with
  | nil => rfl
  | cons c s ih =>
    rw [List.mem_cons, not_or] at h
    rw [parts, if_neg (Ne.symm h.1), ih h.2]

/-- A name is cut at a dot that no other follows. -/
theorem splitAtLastDot?_append {extension : List Char} (h : '.' ∉ extension) (stem : List Char) :
    splitAtLastDot? (stem ++ '.' :: extension) = some (stem, extension) := by
  have hreverse : (stem ++ '.' :: extension).reverse = extension.reverse ++ '.' :: stem.reverse := by
    simp
  have hdot : '.' ∉ extension.reverse := by rwa [List.mem_reverse]
  unfold splitAtLastDot?
  rw [hreverse, List.span_eq_takeWhile_dropWhile, Text.takeWhile_bne hdot, Text.dropWhile_bne hdot]
  simp

/-- **The extension of a file's name** is what follows its last dot, unless the dot comes first. -/
theorem extension?_of_toList {name : String} {stem extension : List Char}
    (hname : name.toList = stem ++ '.' :: extension) (hslash : '/' ∉ name.toList)
    (hdot : '.' ∉ extension) (hne : extension ≠ []) :
    extension? name = if stem = [] then none else some extension := by
  -- such a name is neither of the two that stand for a directory
  have hhere : name.toList ≠ ['.'] := by
    rw [hname]
    cases stem <;> simp [hne]
  have hup : name.toList ≠ ['.', '.'] := by
    rw [hname]
    intro heq
    rcases stem with _ | ⟨c, stem⟩
    · simp only [List.nil_append, List.cons.injEq, true_and] at heq
      exact hdot (heq ▸ List.mem_singleton_self '.')
    · cases stem <;> simp_all
  have hvoid : isVoid name.toList = false := by
    rw [isVoid, decide_eq_false hhere, Bool.or_false, decide_eq_false_iff_not, hname]
    simp
  have hfile : fileName? name = some name.toList := by
    rw [fileName?, anchored, parts_of_not_mem hslash]
    simp only [if_neg hhere]
    rw [dropVoid, List.reverse_singleton, List.dropWhile_cons_of_neg (by simp [hvoid])]
    simp [hup]
  rw [extension?, hfile, Option.bind_eq_bind, Option.bind_some, hname, splitAtLastDot?_append hdot]
  rfl

end DocPress.Files

namespace DocPress.Template

/-! ## The templates of a directory -/

theorem eq_or_lookup_of_insert {set : TemplateSet} {name other : String} {template found : Body}
    (h : (TemplateSet.insert name template set).lookup other = some found) :
    other = name ∨ set.lookup other = some found := by
  induction set with
  | nil =>
    rw [TemplateSet.insert, List.lookup_cons] at h
    split at h
    · rename_i heq
      exact .inl (beq_iff_eq.mp heq)
    · exact .inr h
  | cons e set ih =>
    obtain ⟨n, t⟩ := e
    by_cases heq : other = name
    · exact .inl heq
    · have hne : (other == name) = false := beq_eq_false_iff_ne.mpr heq
      rw [TemplateSet.insert] at h
      rw [List.lookup_cons]
      split at h
      · rename_i hn
        rw [List.lookup_cons, hne] at h
        rw [← hn, hne]
        exact .inr h
      · split at h
        · rw [List.lookup_cons, hne, List.lookup_cons] at h
          exact .inr h
        · rw [List.lookup_cons] at h
          split
          · rename_i hn
            rw [hn] at h
            exact .inr h
          · rename_i hn
            rw [hn] at h
            exact ih h

/-- Every template of a set comes from a source of its name. -/
theorem mem_of_foldlM_addSource {entries : List (String × String)} {set templates : TemplateSet}
    (h : entries.foldlM addSource set = .ok templates) {name : String} {template : Body}
    (hlookup : templates.lookup name = some template) :
    name ∈ entries.map Prod.fst ∨ set.lookup name = some template := by
  induction entries generalizing set with
  | nil =>
    cases h
    exact .inr hlookup
  | cons e entries ih =>
    rw [List.foldlM_cons] at h
    cases hadd : addSource set e with
    | error cause => rw [hadd] at h; cases h
    | ok next =>
      rw [hadd] at h
      rw [List.map_cons, List.mem_cons]
      rcases ih h with hmem | hnext
      · exact .inl (.inr hmem)
      · unfold addSource at hadd
        split at hadd
        · cases hadd
          rcases eq_or_lookup_of_insert hnext with heq | hset
          · exact .inl (.inl heq)
          · exact .inr hset
        · cases hadd

theorem fst_of_readTemplate {disk : Files.Disk} {path name : String} {e : String × String}
    (h : readTemplate disk path name = .ok e) : e.1 = name := by
  unfold readTemplate at h
  split at h
  · cases h
  · split at h
    · cases h
      rfl
    · cases h

theorem map_fst_of_mapM_readTemplate {disk : Files.Disk} {path : String} {names : List String}
    {entries : List (String × String)} (h : names.mapM (readTemplate disk path) = .ok entries) :
    entries.map Prod.fst = names := by
  induction names generalizing entries with
  | nil =>
    cases h
    rfl
  | cons name names ih =>
    rw [List.mapM_cons] at h
    cases hread : readTemplate disk path name with
    | error cause => rw [hread] at h; cases h
    | ok e =>
      cases hrest : names.mapM (readTemplate disk path) with
      | error cause => rw [hread, hrest] at h; cases h
      | ok rest =>
        rw [hread, hrest] at h
        cases h
        rw [List.map_cons, fst_of_readTemplate hread, ih hrest]

/-- **The templates of a directory are named as files in it** that have one of the extensions. -/
theorem exists_mem_namesWith_of_build {disk : Files.Disk} {dir : String} {templates : TemplateSet}
    (h : build disk (.directory dir) = .ok templates) {name : String} {template : Body}
    (hlookup : templates.lookup name = some template) :
    ∃ path, ∃ extension ∈ templateExtensions, name ∈ namesWith disk path extension := by
  rw [build, sources, readDirectory] at h
  split at h
  · split at h
    · cases h
      cases hlookup
    · rename_i path _
      cases hentries : (templateExtensions.flatMap (namesWith disk path)).mapM
          (readTemplate disk path) with
      | error cause => rw [hentries] at h; cases h
      | ok entries =>
        rw [hentries] at h
        rcases mem_of_foldlM_addSource h hlookup with hmem | hnone
        · rw [map_fst_of_mapM_readTemplate hentries] at hmem
          obtain ⟨extension, hextension, hname⟩ := List.mem_flatMap.mp hmem
          exact ⟨path, extension, hextension, hname⟩
        · cases hnone
  · cases h

/-- The name of a template file: something, a dot and its extension, and no slash. -/
theorem exists_toList_of_mem_namesWith {disk : Files.Disk} (hproper : disk.IsProper) {path name : String}
    {extension : List Char} (h : name ∈ namesWith disk path extension) :
    '/' ∉ name.toList ∧ ∃ stem, name.toList = stem ++ '.' :: extension := by
  obtain ⟨hname, hsuffix⟩ := List.mem_filter.mp h
  obtain ⟨bytes, hbytes, hdecode⟩ := List.mem_filterMap.mp hname
  constructor
  · intro hslash
    refine hproper.not_mem_names hbytes ?_
    rw [Text.Utf8.eq_encode_of_decode? hdecode]
    exact Text.Utf8.mem_encode_ascii (by decide) hslash
  · obtain ⟨stem, hstem⟩ := List.isSuffixOf_iff_suffix.mp hsuffix
    exact ⟨stem, hstem.symm⟩

/-! ## The two rules on such a name -/

/-- The content type of an extension of templates. -/
def announcedFor (extension : List Char) : String :=
  if markupSuffixes.contains extension then "text/html; charset=utf-8"
  else "text/plain; charset=utf-8"

section
variable {name : String} {stem extension : List Char}

theorem escapesHtml_of_extension (hname : name.toList = stem ++ '.' :: extension)
    (hextension : extension ∈ templateExtensions) :
    escapesHtml name = markupSuffixes.contains extension := by
  have hdot : ∀ e ∈ templateExtensions, '.' ∉ e := by decide
  rw [escapesHtml, hname, Files.splitAtLastDot?_append (hdot extension hextension)]

theorem contentType?_of_extension (hname : name.toList = stem ++ '.' :: extension)
    (hslash : '/' ∉ name.toList) (hextension : extension ∈ templateExtensions) :
    contentType? name = if stem = [] then none else some (announcedFor extension) := by
  have hplain : ∀ e ∈ templateExtensions,
      '.' ∉ e ∧ e ≠ [] ∧ contentTypes.lookup e = some (announcedFor e) := by decide
  obtain ⟨hdot, hne, hlookup⟩ := hplain extension hextension
  rw [contentType?, Files.extension?_of_toList hname hslash hdot hne]
  split
  · rfl
  · exact hlookup

/-- A name is nothing but its extension exactly if it is one of two. -/
theorem stem_eq_nil_iff (hname : name.toList = stem ++ '.' :: extension)
    (hextension : extension ∈ templateExtensions) :
    stem = [] ↔ name = ".html" ∨ name = ".txt" := by
  have hdot : ∀ e ∈ templateExtensions, '.' ∉ e := by decide
  constructor
  · rintro rfl
    rw [List.nil_append] at hname
    simp only [templateExtensions, List.mem_cons, List.not_mem_nil, or_false] at hextension
    rcases hextension with rfl | rfl
    · exact .inl (String.toList_injective hname)
    · exact .inr (String.toList_injective hname)
  · -- a stem would put another dot before the last one
    intro hbare
    have hcut := Files.splitAtLastDot?_append (hdot extension hextension) stem
    rw [← hname] at hcut
    rcases hbare with rfl | rfl
    · exact (Prod.mk.inj (Option.some.inj hcut)).1.symm
    · exact (Prod.mk.inj (Option.some.inj hcut)).1.symm

end

/-! ## What is announced -/

/-- The output of a template of a set, its values printed escaped or not. -/
def outputWith (escapes : Bool) (templates : TemplateSet) (s : Setting) (template : Body)
    (data : Value) : Except Failure String := do
  let embed (frames : Frames) (v : Value) : Except Failure (Frames × List Char) :=
    embedFirst templates (depthLimit < includeCost * 1 + frames.length)
      (renderWithin templates s (depthLimit / includeCost) 1 frames) frames false (choices v)
  let (_, out) ← runAll ⟨s, escapes, 0, embed⟩ [[("data", data)]] template
  pure (String.ofList out)

theorem render_eq_outputWith (templates : TemplateSet) (s : Setting) (name : String)
    (template : Body) (data : Value) :
    render templates s name template data =
      outputWith (escapesHtml name) templates s template data := rfl

/-- The content type that a part announces. -/
def Part.contentType? : Part → Option String
  | .contentType value => some value
  | _ => none

/-- Exactly the content type of the head is announced, whatever becomes of the body. -/
theorem filterMap_contentType?_told (contentType : Option String) (status : Nat) (receiver : Receiver)
    (body : List UInt8) :
    (headOf contentType status ++ receiver.partsOf body).filterMap Part.contentType? =
      contentType.toList := by
  have hbody : (receiver.partsOf body).filterMap Part.contentType? = [] := by
    unfold Receiver.partsOf
    split <;> rfl
  rw [List.filterMap_append, hbody, List.append_nil]
  cases contentType <;> rfl

/-- The template behind a page, and how the page is its output. -/
theorem exists_outputWith_of_page {r : Registry} {disk : Files.Disk} {templates : TemplateSet}
    (huse : r.inUse disk = .ok templates) {name : String} {data : Value} {body : String}
    (hpage : r.page disk name data = .ok body) :
    ∃ template, templates.lookup name = some template ∧
      outputWith (escapesHtml name) templates r.options.setting template data = .ok body := by
  rw [Registry.page, huse] at hpage
  simp only [pageOf, render_eq_outputWith] at hpage
  split at hpage
  · cases hpage
  · rename_i template hlookup
    split at hpage
    · rename_i hout
      cases hpage
      exact ⟨template, hlookup, hout⟩
    · cases hpage

/-- **The content type of a template file tells how it was rendered.** For every set of templates that
was read from a directory, every registry that makes its pages from this set, and every page: the page
is the output of its template with values escaped or not as the name decides; and unless the name is
nothing but an extension, one content type is announced, that of HTML exactly if values were escaped
and that of plain text exactly if they were not. For the two names that are left none is announced. -/
theorem content_type_tells_escaping {built disk : Files.Disk} (hproper : built.IsProper) {dir : String}
    {templates : TemplateSet} (hbuilt : build built (.directory dir) = .ok templates) {r : Registry}
    (huse : r.inUse disk = .ok templates) {name : String} {data : Value} {body : String}
    (hpage : r.page disk name data = .ok body) (sink : Sink) (status : Nat) :
    ∃ template told, templates.lookup name = some template ∧
      outputWith (escapesHtml name) templates r.options.setting template data = .ok body ∧
      (r.execute disk sink name status data).1.taken = sink.taken ++ told ∧
      (name ≠ ".html" → name ≠ ".txt" →
        (told.filterMap Part.contentType? = ["text/html; charset=utf-8"] ↔ escapesHtml name = true) ∧
        (told.filterMap Part.contentType? = ["text/plain; charset=utf-8"] ↔
          escapesHtml name = false)) ∧
      (name = ".html" ∨ name = ".txt" → told.filterMap Part.contentType? = []) := by
  obtain ⟨template, hlookup, hout⟩ := exists_outputWith_of_page huse hpage
  obtain ⟨path, extension, hextension, hname⟩ := exists_mem_namesWith_of_build hbuilt hlookup
  obtain ⟨hslash, stem, hstem⟩ := exists_toList_of_mem_namesWith hproper hname
  refine ⟨template, headOf (contentType? name) status ++
    sink.receiver.partsOf (Text.Utf8.encode body.toList), hlookup, hout, ?_, ?_⟩
  · rw [Registry.taken_execute hpage, List.append_assoc]
  rw [filterMap_contentType?_told, contentType?_of_extension hstem hslash hextension,
    escapesHtml_of_extension hstem hextension]
  constructor
  · intro hhtml htxt
    have hne : stem ≠ [] := fun h => ((stem_eq_nil_iff hstem hextension).mp h).elim hhtml htxt
    rw [if_neg hne, announcedFor]
    cases markupSuffixes.contains extension <;> simp
  · intro hbare
    rw [if_pos ((stem_eq_nil_iff hstem hextension).mpr hbare)]
    rfl

/-- The location of a template in a directory. -/
def templatePlace (name : String) : List Files.Name :=
  [Text.Utf8.encode "templates".toList, Text.Utf8.encode name.toList]

/-- A disk with two templates, one of which has nothing before its extension. -/
def dotDisk : Files.Disk :=
  let page := Files.Node.file (Text.Utf8.encode "\x7b\x7b data \x7d\x7d".toList)
  ⟨((Files.Node.directory []).put page (templatePlace ".html")).put page (templatePlace "a.html"), "/"⟩

/-- Options to load that directory. -/
def dotOptions : Options := ⟨.directory "/templates", false, ⟨{}, ⟨0, 0, 0⟩⟩⟩

/-- The page that one of these templates makes of a less-than sign. -/
def dotPage? (name : String) : Option String := do
  let r ← (Registry.load dotDisk dotOptions).toOption
  (r.page dotDisk name (.str "<")).toOption

theorem exists_registry_of_dotPage? {name body : String} (h : dotPage? name = some body) :
    ∃ r, Registry.load dotDisk dotOptions = .ok r ∧ r.options = dotOptions ∧
      build dotDisk (.directory "/templates") = .ok r.templates ∧
      r.page dotDisk name (.str "<") = .ok body := by
  rw [dotPage?, Option.bind_eq_bind, Option.bind_eq_some_iff] at h
  obtain ⟨r, hload, hpage⟩ := h
  have hregistry := eq_ok_of_toOption hload
  have hload := hregistry
  unfold Registry.load at hload
  cases hbuild : build dotDisk dotOptions.source with
  | error cause => rw [hbuild] at hload; cases hload
  | ok templates =>
    rw [hbuild] at hload
    cases hload
    exact ⟨_, hregistry, rfl, hbuild, eq_ok_of_toOption hpage⟩

/-- The template with a name announces HTML. -/
theorem dotDisk_announces_html : dotDisk.IsProper ∧ ∃ r,
    Registry.load dotDisk dotOptions = .ok r ∧ r.page dotDisk "a.html" (.str "<") = .ok "&lt;" ∧
    ∃ told, (r.execute dotDisk {} "a.html" 200 (.str "<")).1.taken = told ∧
      told.filterMap Part.contentType? = ["text/html; charset=utf-8"] := by
  have hproper : dotDisk.IsProper := by
    unfold Files.Disk.IsProper
    decide +kernel
  have hdot : dotPage? "a.html" = some "&lt;" := by decide +kernel
  have hescapes : escapesHtml "a.html" = true := by decide +kernel
  obtain ⟨r, hload, hoptions, hbuild, hpage⟩ := exists_registry_of_dotPage? hdot
  have huse : r.inUse dotDisk = .ok r.templates := by
    simp [Registry.inUse, hoptions, dotOptions]
  obtain ⟨_, told, _, _, htold, hnamed, _⟩ :=
    content_type_tells_escaping hproper hbuild huse hpage {} 200
  exact ⟨hproper, r, hload, hpage, told, htold,
    (hnamed (by decide) (by decide)).1.mpr hescapes⟩

/-- The template without one prints its values escaped, and announces no content type. -/
theorem dotDisk_announces_nothing : ∃ r, Registry.load dotDisk dotOptions = .ok r ∧
    escapesHtml ".html" = true ∧ r.page dotDisk ".html" (.str "<") = .ok "&lt;" ∧
    (r.execute dotDisk {} ".html" 200 (.str "<")).1.taken =
      [.status 200, .body (Text.Utf8.encode "&lt;".toList)] := by
  have hdot : dotPage? ".html" = some "&lt;" := by decide +kernel
  have htype : contentType? ".html" = none := by decide +kernel
  obtain ⟨r, hload, -, -, hpage⟩ := exists_registry_of_dotPage? hdot
  refine ⟨r, hload, by decide +kernel, hpage, ?_⟩
  simp [Registry.taken_execute hpage, htype, headOf, Receiver.partsOf, Receiver.check]

end DocPress.Template
