import DocPress.Proofs.Basic
import DocPress.Proofs.Comment.Lines
import DocPress.Settings.Basic

/-!
# Loading settings

Settings that are loaded leave room for the text of comments, whatever file they come from and
whatever overrides them: the check of the file, the overrides and the shape of text agree on the width,
in numbers of 64 bits too. So the lines of every comment fit between the indentations.

* `Roomy` — a renderer has room for text, within 64 bits.
* `Draft.check_eq_ok_iff`, `width_lt_of_readDraft?` — what the check and the reader of a file grant.
* `Roomy.toNat_double`, `Roomy.toNat_shape_width` — the arithmetic of 64 bits is exact.
* `Roomy.fits_page` — running lines fit into the page.

Principal result: `load_fits_and_override_frame`.
-/

namespace DocPress.Settings

open DocPress.Comment (Renderer Line Laid linesText)

/-- There is room for text between the indentations on both sides, and the width is a number of
64 bits. -/
structure Roomy (r : Renderer) : Prop where
  room : 2 * r.indent < r.width
  word : r.width < UInt64.size

theorem roomy_default : Roomy {} := ⟨by decide, by decide⟩

/-! ## What a file grants -/

theorem count?_lt {v : Toml.Value} {n : Nat} (h : count? v = some n) : n < UInt64.size := by
  unfold count? at h
  split at h
  · split at h
    · rename_i value hbounds
      cases h
      have hupper : value < UInt64.size := hbounds.2
      omega
    · cases h
  · cases h

theorem fieldOr?_count?_lt {default n : Nat} {field : Option Toml.Value}
    (hdefault : default < UInt64.size) (h : fieldOr? default count? field = some n) :
    n < UInt64.size := by
  cases field with
  | none =>
    cases h
    exact hdefault
  | some v => exact count?_lt h

theorem width_lt_of_readComments? {v : Toml.Value} {r : Renderer} (h : readComments? v = some r) :
    r.width < UInt64.size := by
  unfold readComments? at h
  obtain ⟨fields, -, h⟩ := Option.bind_eq_some_iff.mp h
  split at h
  · obtain ⟨markup, -, h⟩ := Option.bind_eq_some_iff.mp h
    obtain ⟨indent, -, h⟩ := Option.bind_eq_some_iff.mp h
    obtain ⟨width, hwidth, h⟩ := Option.bind_eq_some_iff.mp h
    cases h
    exact fieldOr?_count?_lt (by decide) hwidth
  · cases h

theorem width_lt_of_readDraft? {entries : List (String × Toml.Value)} {draft : Draft}
    (h : readDraft? entries = some draft) : draft.comments.width < UInt64.size := by
  unfold readDraft? at h
  obtain ⟨templates, -, h⟩ := Option.bind_eq_some_iff.mp h
  obtain ⟨comments, hcomments, h⟩ := Option.bind_eq_some_iff.mp h
  cases h
  cases hfield : entries.lookup "comments" with
  | none =>
    rw [hfield] at hcomments
    cases hcomments
    exact roomy_default.word
  | some v =>
    rw [hfield] at hcomments
    exact width_lt_of_readComments? hcomments

theorem Draft.comments_expanded {lookup : Lookup} {d e : Draft} (h : d.expanded lookup = .ok e) :
    e.comments = d.comments := by
  unfold Draft.expanded at h
  split at h
  · cases h
    rfl
  · split at h
    · cases h
      rfl
    · cases h

theorem Draft.check_eq_ok_iff {d : Draft} :
    d.check = .ok () ↔ d.dir ≠ some "" ∧ 2 * d.comments.indent < d.comments.width := by
  unfold Draft.check hasRoom
  split
  · rename_i hdir
    simp [hdir]
  · rename_i hdir
    split <;> simp_all

/-- A file is read, its variables are replaced, and it is checked. -/
theorem exists_draft_of_loadFile {disk : Files.Disk} {lookup : Lookup} {path : String} {s : Resolved}
    (h : loadFile disk lookup path = .ok s) :
    ∃ entries draft expanded, readDraft? entries = some draft ∧
      draft.expanded lookup = .ok expanded ∧ expanded.check = .ok () ∧ s = expanded.settings path := by
  unfold loadFile at h
  dsimp only at h
  split at h
  · obtain ⟨text, -, h⟩ := exists_of_bind_eq_ok h
    split at h
    · rename_i draft hread
      obtain ⟨entries, -, hdraft⟩ := Option.bind_eq_some_iff.mp hread
      obtain ⟨_, hsame, h⟩ := exists_of_bind_eq_ok h
      cases hsame
      obtain ⟨expanded, hexpanded, h⟩ := exists_of_bind_eq_ok h
      obtain ⟨⟨⟩, hcheck, h⟩ := exists_of_bind_eq_ok h
      cases h
      exact ⟨entries, draft, expanded, hdraft, hexpanded, hcheck, rfl⟩
    · cases h
  · cases h

theorem roomy_of_loadFile {disk : Files.Disk} {lookup : Lookup} {path : String} {s : Resolved}
    (h : loadFile disk lookup path = .ok s) : Roomy s.comments := by
  obtain ⟨entries, draft, expanded, hdraft, hexpanded, hcheck, rfl⟩ := exists_draft_of_loadFile h
  refine ⟨(Draft.check_eq_ok_iff.mp hcheck).2, ?_⟩
  change expanded.comments.width < UInt64.size
  rw [Draft.comments_expanded hexpanded]
  exact width_lt_of_readDraft? hdraft

theorem roomy_of_loadBase {disk : Files.Disk} {lookup : Lookup} {path : Option String} {s : Resolved}
    (h : loadBase disk lookup path = .ok s) : Roomy s.comments := by
  unfold loadBase at h
  split at h
  · split at h
    · exact roomy_of_loadFile h
    · cases h
  · split at h
    · exact roomy_of_loadFile h
    · cases h
      exact roomy_default

/-! ## Overrides -/

/-- Overrides have no say in the layout. -/
theorem Roomy.override {s : Resolved} (h : Roomy s.comments) (o : Overrides) :
    Roomy (s.override o).comments := ⟨h.room, h.word⟩

theorem Resolved.override_empty (s : Resolved) : s.override {} = s := rfl

theorem load_empty (disk : Files.Disk) (lookup : Lookup) (path : Option String) :
    load disk lookup path {} = loadBase disk lookup path := by
  unfold load
  cases loadBase disk lookup path with
  | error cause => rfl
  | ok s => rw [Except.map, Resolved.override_empty]

/-- The settings are loaded first, and then overridden. -/
theorem load_eq_map (disk : Files.Disk) (lookup : Lookup) (path : Option String) (o : Overrides) :
    load disk lookup path o = (load disk lookup path {}).map fun s => s.override o := by
  rw [load_empty, load]

theorem roomy_of_load {disk : Files.Disk} {lookup : Lookup} {path : Option String} {o : Overrides}
    {s : Resolved} (h : load disk lookup path o = .ok s) : Roomy s.comments := by
  unfold load at h
  cases hbase : loadBase disk lookup path with
  | error cause => rw [hbase] at h; cases h
  | ok base =>
    rw [hbase] at h
    cases h
    exact (roomy_of_loadBase hbase).override o

/-! ## Arithmetic of 64 bits -/

section
variable {r : Renderer}

/-- Twice the indentation does not overflow. -/
theorem Roomy.toNat_double (h : Roomy r) : (2 * UInt64.ofNat r.indent).toNat = 2 * r.indent := by
  have hroom := h.room
  have hword := h.word
  have hindent : (UInt64.ofNat r.indent).toNat = r.indent := UInt64.toNat_ofNat_of_lt (by omega)
  rw [UInt64.toNat_mul, hindent]
  exact Nat.mod_eq_of_lt (hroom.trans hword)

/-- The columns for text do not underflow, and are those of the shape of text. -/
theorem Roomy.toNat_shape_width (h : Roomy r) :
    (UInt64.ofNat r.width - 2 * UInt64.ofNat r.indent).toNat = r.shape.width := by
  have hroom := h.room
  have hwidth : (UInt64.ofNat r.width).toNat = r.width := UInt64.toNat_ofNat_of_lt h.word
  have hle : 2 * UInt64.ofNat r.indent ≤ UInt64.ofNat r.width := by
    rw [UInt64.le_iff_toNat_le, h.toNat_double, hwidth]
    omega
  rw [UInt64.toNat_sub_of_le _ _ hle, h.toNat_double, hwidth]
  rfl

theorem Roomy.shape_width_pos (h : Roomy r) : 0 < r.shape.width := Nat.sub_pos_of_lt h.room

end

/-! ## Lines on the page -/

/-- A running line fits on the page before the indentation on the right, unless it holds a single
word. -/
theorem Roomy.fits_page {r : Renderer} (h : Roomy r) {ws : List (List Char)}
    (hfits : (Line.running ws).Fits r.shape.width) :
    ws.length = 1 ∨ ((Line.running ws).chars r.shape).length ≤ r.width - r.indent := by
  rcases hfits.2.2 with hone | hle
  · exact .inl hone
  · right
    have hroom := h.room
    have hwidth : r.shape.width = r.width - 2 * r.indent := rfl
    have hindent : r.shape.indent.length = r.indent := List.length_replicate
    rw [Line.chars, List.length_append, hindent]
    omega

/-- No character of a running line ends it. -/
theorem newline_not_mem_chars {r : Renderer} {ws : List (List Char)}
    (hfits : (Line.running ws).Fits r.shape.width) : '\n' ∉ (Line.running ws).chars r.shape := by
  intro hmem
  rcases List.mem_append.mp hmem with hmem | hmem
  · cases List.eq_of_mem_replicate hmem
  · rcases Comment.mem_of_mem_intercalate_space hmem with hspace | ⟨w, hw, hmem⟩
    · cases hspace
    · have hwhite := (hfits.2.1 w hw).2 '\n' hmem
      rw [Text.isWhite_newline] at hwhite
      cases hwhite

/-- **Loading grants a layout that fits, and overrides change nothing else.** For every configuration
file, environment and overrides. If settings are loaded, twice the indentation is less than the width,
with no overflow in 64 bits, and the renderer wraps at the difference, at least one column: the text of
every comment is made of lines, a group for each block, on which each running line either holds a
single word or ends before the indentation on the right. Overrides do not decide whether settings are
loaded or why they are not, and what they do not name is as it is without them. -/
theorem load_fits_and_override_frame (disk : Files.Disk) (lookup : Lookup) (path : Option String)
    (o : Overrides) :
    (∀ s, load disk lookup path o = .ok s →
      2 * s.comments.indent < s.comments.width ∧ s.comments.width < UInt64.size ∧
      (2 * UInt64.ofNat s.comments.indent).toNat = 2 * s.comments.indent ∧
      (UInt64.ofNat s.comments.width - 2 * UInt64.ofNat s.comments.indent).toNat =
        s.comments.shape.width ∧
      s.comments.shape.width = s.comments.width - 2 * s.comments.indent ∧ 1 ≤ s.comments.shape.width ∧
      ∀ comment, ∃ groups,
        (s.comments.text comment).toList = linesText s.comments.shape groups.flatten ∧
        List.Forall₂ (Laid s.comments.shape) (s.comments.markup.blocks comment.toList) groups ∧
        ∀ ws, Line.running ws ∈ groups.flatten →
          '\n' ∉ (Line.running ws).chars s.comments.shape ∧
          (ws.length = 1 ∨ ((Line.running ws).chars s.comments.shape).length ≤
            s.comments.width - s.comments.indent)) ∧
    (∀ cause, load disk lookup path o = .error cause ↔ load disk lookup path {} = .error cause) ∧
    ∀ s, load disk lookup path {} = .ok s → ∃ t, load disk lookup path o = .ok t ∧
      t.templatesDir = o.templatesDir.getD s.templatesDir ∧ t.devMode = o.devMode.getD s.devMode ∧
      t.comments.markup = o.markup.getD s.comments.markup ∧
      t.comments.indent = s.comments.indent ∧ t.comments.width = s.comments.width ∧
      t.configPath = s.configPath := by
  refine ⟨?_, ?_, ?_⟩
  · intro s h
    have hroomy := roomy_of_load h
    refine ⟨hroomy.room, hroomy.word, hroomy.toNat_double, hroomy.toNat_shape_width, rfl,
      hroomy.shape_width_pos, ?_⟩
    intro comment
    obtain ⟨groups, htext, hlaid⟩ :=
      Comment.exists_laid_lines s.comments.shape (s.comments.markup.blocks comment.toList)
    refine ⟨groups, by rw [Renderer.text, String.toList_ofList]; exact htext, hlaid, ?_⟩
    intro ws hmem
    have hfits := Comment.fits_of_mem_flatten hlaid hmem
    exact ⟨newline_not_mem_chars hfits, hroomy.fits_page hfits⟩
  · intro cause
    rw [load_eq_map]
    cases load disk lookup path {} <;> simp [Except.map]
  · intro s h
    exact ⟨s.override o, by rw [load_eq_map, h]; rfl, rfl, rfl, rfl, rfl, rfl, rfl⟩

/-- A disk with a configuration file for narrow comments. -/
def narrowDisk : Files.Disk :=
  let config := Text.Utf8.encode "[comments]\nindent = 2\nwidth = 12\n".toList
  ⟨.directory [(Text.Utf8.encode configFileName.toList, .file config)], "/"⟩

/-- The settings of that file. -/
def narrowSettings : Resolved := ⟨"/templates", false, ⟨.plain, 2, 12⟩, some "/pkgdoc.toml"⟩

/-- Comments in Markdown are wrapped at eight columns there. -/
theorem narrowDisk_load :
    load narrowDisk (fun _ => none) none {} = .ok narrowSettings ∧
    ∃ t, load narrowDisk (fun _ => none) none { markup := some .markdown } = .ok t ∧
      t.comments.markup = .markdown ∧ t.comments.shape.width = 8 ∧
      ∃ lines, (t.comments.text "one two three").toList = linesText t.comments.shape lines ∧
        ∀ ws, Line.running ws ∈ lines →
          ws.length = 1 ∨ ((Line.running ws).chars t.comments.shape).length ≤ 10 := by
  have hevaluated : (load narrowDisk (fun _ => none) none {}).toOption = some narrowSettings := by
    decide +kernel
  have hload := eq_ok_of_toOption hevaluated
  obtain ⟨hfits, -, hframe⟩ :=
    load_fits_and_override_frame narrowDisk (fun _ => none) none { markup := some .markdown }
  obtain ⟨t, ht, -, -, hmarkup, hindent, hwidth, -⟩ := hframe narrowSettings hload
  obtain ⟨-, -, -, -, hshape, -, hlines⟩ := hfits t ht
  obtain ⟨groups, htext, -, hrunning⟩ := hlines "one two three"
  rw [hindent, hwidth] at hshape hrunning
  exact ⟨hload, t, ht, hmarkup, hshape, groups.flatten, htext, fun ws hws => (hrunning ws hws).2⟩

end DocPress.Settings
