import DocPress.Template.Registry

/-!
# Sessions with a registry

A session is a registry together with the files that it reads. Files are written and removed, the
registry is reloaded, asked for its names and made to execute templates, in any order.

* `Operation`, `Answer` — what is done in a session, and what comes of it.
* `Session.step`, `Session.run` — a session after one operation, and after several.
* `filesAfter` — the files after operations, said without the registry.
* `BuiltLast` — the set that the last successful load or reload of a history built.
* `Session.Follows` — the invariant: files, options and loaded set are those of the history.

Principal results: `Session.step_follows` and `Session.run_follows` — every operation and every run
keep the invariant; `run_serves_last_built` — what each operation does to a session that began with
a load, and what execution depends on.
-/

namespace DocPress.Template

/-! ## Operations -/

/-- What is done to a registry and to the files that it reads. -/
inductive Operation where
  /-- Puts a file or a directory at a location. -/
  | write (place : List Files.Name) (content : Files.Node)
  | remove (place : List Files.Name)
  | reload
  | names
  | execute (sink : Sink) (name : String) (status : Nat) (data : Value)

/-- What comes of an operation. -/
inductive Answer where
  | done
  | reloaded (result : Except LoadError Unit)
  | names (names : List String)
  | executed (sink : Sink) (result : Except Error Unit)

/-- The files after an operation. -/
def Operation.files (disk : Files.Disk) : Operation → Files.Disk
  | .write place content => { disk with root := disk.root.put content place }
  | .remove place => { disk with root := disk.root.erase place }
  | _ => disk

/-- The files after operations. -/
def filesAfter (disk : Files.Disk) (ops : List Operation) : Files.Disk :=
  ops.foldl Operation.files disk

/-- A registry and the files. -/
structure Session where
  registry : Registry
  disk : Files.Disk

namespace Session

/-- A session after an operation, and what comes of it. -/
def step (s : Session) : Operation → Session × Answer
  | .reload =>
    let (registry, result) := s.registry.reload s.disk
    ({ s with registry := registry }, .reloaded result)
  | .names => (s, .names s.registry.names)
  | .execute sink name status data =>
    let (sink, result) := s.registry.execute s.disk sink name status data
    (s, .executed sink result)
  | op => ({ s with disk := op.files s.disk }, .done)

/-- A session after operations, and what comes of each. -/
def run (s : Session) : List Operation → Session × List Answer
  | [] => (s, [])
  | op :: rest =>
    let (s, answer) := s.step op
    let (s, answers) := s.run rest
    (s, answer :: answers)

end Session

/-! ## Histories -/

/-- Whether a registry is loaded or reloaded at the end of a history: it is loaded before all
operations. -/
def EndsInLoad (ops : List Operation) : Prop := ops = [] ∨ ∃ before, ops = before ++ [.reload]

/-- Whether every reload among operations fails. -/
def ReloadsFail (source : Source) (disk : Files.Disk) (ops : List Operation) : Prop :=
  ∀ before after, ops = before ++ .reload :: after →
    ∃ cause, build (filesAfter disk before) source = .error cause

/-- The set that building gave at the last load or reload of a history that succeeded. -/
def BuiltLast (source : Source) (disk : Files.Disk) (ops : List Operation)
    (templates : TemplateSet) : Prop :=
  ∃ before after, ops = before ++ after ∧ EndsInLoad before ∧
    build (filesAfter disk before) source = .ok templates ∧
    ReloadsFail source (filesAfter disk before) after

theorem filesAfter_concat (disk : Files.Disk) (ops : List Operation) (op : Operation) :
    filesAfter disk (ops ++ [op]) = op.files (filesAfter disk ops) := by
  rw [filesAfter, List.foldl_append]
  rfl

theorem filesAfter_append (disk : Files.Disk) (before after : List Operation) :
    filesAfter disk (before ++ after) = filesAfter (filesAfter disk before) after :=
  List.foldl_append

theorem ReloadsFail.nil (source : Source) (disk : Files.Disk) : ReloadsFail source disk [] := by
  intro before after h
  simp at h

/-- One more operation adds a failing reload, or none at all. -/
theorem ReloadsFail.concat {source : Source} {disk : Files.Disk} {ops : List Operation}
    {op : Operation} (h : ReloadsFail source disk ops)
    (hop : op = .reload → ∃ cause, build (filesAfter disk ops) source = .error cause) :
    ReloadsFail source disk (ops ++ [op]) := by
  intro before after hsplit
  -- The reload stands either at the very end or among the operations before.
  rcases List.eq_nil_or_concat after with rfl | ⟨rest, last, rfl⟩
  · obtain ⟨hbefore, hlast⟩ := List.append_inj' hsplit rfl
    rw [← hbefore]
    exact hop (List.cons.inj hlast).1
  · rw [List.concat_eq_append, ← List.cons_append, ← List.append_assoc] at hsplit
    exact h before rest (List.append_inj' hsplit rfl).1

theorem BuiltLast.load {source : Source} {disk : Files.Disk} {templates : TemplateSet}
    (h : build disk source = .ok templates) : BuiltLast source disk [] templates :=
  ⟨[], [], rfl, Or.inl rfl, h, ReloadsFail.nil source _⟩

theorem BuiltLast.reload {source : Source} {disk : Files.Disk} {ops : List Operation}
    {templates : TemplateSet} (h : build (filesAfter disk ops) source = .ok templates) :
    BuiltLast source disk (ops ++ [.reload]) templates := by
  refine ⟨ops ++ [.reload], [], (List.append_nil _).symm, Or.inr ⟨ops, rfl⟩, ?_,
    ReloadsFail.nil source _⟩
  rw [filesAfter_concat]
  exact h

theorem BuiltLast.keep {source : Source} {disk : Files.Disk} {ops : List Operation}
    {templates : TemplateSet} {op : Operation} (h : BuiltLast source disk ops templates)
    (hop : op = .reload → ∃ cause, build (filesAfter disk ops) source = .error cause) :
    BuiltLast source disk (ops ++ [op]) templates := by
  obtain ⟨before, after, rfl, hend, hbuild, hfail⟩ := h
  rw [filesAfter_append] at hop
  exact ⟨before, after ++ [op], List.append_assoc before after [op], hend, hbuild,
    hfail.concat hop⟩

/-! ## What one operation does -/

namespace Session

/-- What holds of a session that was loaded with options from files and went through operations. -/
structure Follows (s : Session) (options : Options) (disk : Files.Disk) (ops : List Operation) :
    Prop where
  disk_eq : s.disk = filesAfter disk ops
  options_eq : s.registry.options = options
  built : BuiltLast options.source disk ops s.registry.templates

theorem step_reload_ok {s : Session} {templates : TemplateSet}
    (h : build s.disk s.registry.options.source = .ok templates) :
    s.step .reload =
      ({ s with registry := { s.registry with templates := templates } }, .reloaded (.ok ())) := by
  simp only [step, Registry.reload, h]

theorem step_reload_error {s : Session} {cause : LoadError}
    (h : build s.disk s.registry.options.source = .error cause) :
    s.step .reload = (s, .reloaded (.error cause)) := by
  simp only [step, Registry.reload, h]

/-- **Every operation keeps the invariant.** -/
theorem step_follows {s : Session} {options : Options} {disk : Files.Disk} {ops : List Operation}
    (h : s.Follows options disk ops) (op : Operation) :
    (s.step op).1.Follows options disk (ops ++ [op]) := by
  obtain ⟨hfiles, hoptions, hbuilt⟩ := h
  have hafter : op.files s.disk = filesAfter disk (ops ++ [op]) := by
    rw [filesAfter_concat, hfiles]
  cases op with
  | write place content => exact ⟨hafter, hoptions, hbuilt.keep (by simp)⟩
  | remove place => exact ⟨hafter, hoptions, hbuilt.keep (by simp)⟩
  | names => exact ⟨hafter, hoptions, hbuilt.keep (by simp)⟩
  | execute sink name status data => exact ⟨hafter, hoptions, hbuilt.keep (by simp)⟩
  | reload =>
    cases hbuild : build s.disk s.registry.options.source with
    | ok templates =>
      rw [step_reload_ok hbuild]
      rw [hoptions, hfiles] at hbuild
      exact ⟨hafter, hoptions, .reload hbuild⟩
    | error cause =>
      rw [step_reload_error hbuild]
      rw [hoptions, hfiles] at hbuild
      exact ⟨hafter, hoptions, hbuilt.keep fun _ => ⟨cause, hbuild⟩⟩

/-- **Every run keeps the invariant.** -/
theorem run_follows {s : Session} {options : Options} {disk : Files.Disk} {ops : List Operation}
    (h : s.Follows options disk ops) (more : List Operation) :
    (s.run more).1.Follows options disk (ops ++ more) := by
  induction more generalizing s ops with
  | nil => simpa [run] using h
  | cons op more ih =>
    have hrun := ih (step_follows h op)
    rw [List.append_assoc] at hrun
    exact hrun

theorem follows_load {options : Options} {disk : Files.Disk} {registry : Registry}
    (h : Registry.load disk options = .ok registry) :
    (Session.mk registry disk).Follows options disk [] := by
  unfold Registry.load at h
  cases hbuild : build disk options.source with
  | error cause => simp [hbuild, bind, Except.bind] at h
  | ok templates =>
    simp only [hbuild, bind, Except.bind, pure, Except.pure, Except.ok.injEq] at h
    subst h
    exact ⟨rfl, rfl, .load hbuild⟩

end Session

/-! ## What execution depends on -/

/-- The same options without development mode: the set is kept as it was loaded. -/
def Options.keeping (options : Options) : Options := { options with devMode := false }

theorem load_keeping_eq (options : Options) (disk : Files.Disk) :
    Registry.load disk options.keeping =
      (build disk options.source).map fun templates => ⟨options.keeping, templates⟩ := by
  unfold Registry.load
  cases hbuild : build disk options.source with
  | ok templates => simp [Options.keeping, hbuild, bind, Except.bind, pure, Except.pure, Except.map]
  | error cause => simp [Options.keeping, hbuild, bind, Except.bind, Except.map]

/-- Without development mode the files do not matter. -/
theorem Registry.execute_of_not_devMode {r : Registry} (h : r.options.devMode = false)
    (disk disk' : Files.Disk) (sink : Sink) (name : String) (status : Nat) (data : Value) :
    r.execute disk' sink name status data = r.execute disk sink name status data := by
  simp [Registry.execute, Registry.page, Registry.inUse, h]

/-- In development mode execution is that of a registry loaded from the files as they are. -/
theorem Registry.execute_of_devMode {r : Registry} (h : r.options.devMode = true)
    (disk : Files.Disk) (sink : Sink) (name : String) (status : Nat) (data : Value) :
    r.execute disk sink name status data =
      match Registry.load disk r.options.keeping with
      | .ok fresh => fresh.execute disk sink name status data
      | .error cause => (sink, .error (.load cause)) := by
  rw [load_keeping_eq]
  cases hbuild : build disk r.options.source with
  | ok templates =>
    simp [Registry.execute, Registry.page, Registry.inUse, h, hbuild, Except.map, Options.keeping]
  | error cause => simp [Registry.execute, Registry.page, Registry.inUse, h, hbuild, Except.map]

/-- **A registry serves what was built last.** Whatever is done after a registry was loaded: the
files are as they were written, the options are unchanged, and the loaded set is what building gave
at the last load or reload that succeeded. A reload that fails answers with the cause and changes
nothing, one that succeeds takes the new set; names and execution change nothing. Without development
mode execution does not depend on the files, and with it execution is that of a registry that keeps
its set and is loaded from the files as they are, or fails with the cause of the failing load and
leaves the sink alone. -/
theorem run_serves_last_built {options : Options} {disk : Files.Disk} {registry : Registry}
    (hload : Registry.load disk options = .ok registry) (ops : List Operation) {s : Session}
    (hs : s = (Session.run ⟨registry, disk⟩ ops).1) :
    (s.disk = filesAfter disk ops ∧ s.registry.options = options ∧
      BuiltLast options.source disk ops s.registry.templates) ∧
    (∀ cause, build s.disk options.source = .error cause →
      s.step .reload = (s, .reloaded (.error cause))) ∧
    (∀ templates, build s.disk options.source = .ok templates →
      s.step .reload = (⟨⟨options, templates⟩, s.disk⟩, .reloaded (.ok ()))) ∧
    s.step .names = (s, .names s.registry.names) ∧
    ∀ sink name status data,
      (s.step (.execute sink name status data)).1 = s ∧
      (options.devMode = false → ∀ disk',
        (Session.step ⟨s.registry, disk'⟩ (.execute sink name status data)).2 =
          (s.step (.execute sink name status data)).2) ∧
      (options.devMode = true → ∀ fresh, Registry.load s.disk options.keeping = .ok fresh →
        (s.step (.execute sink name status data)).2 =
          (Session.step ⟨fresh, s.disk⟩ (.execute sink name status data)).2) ∧
      (options.devMode = true → ∀ cause, Registry.load s.disk options.keeping = .error cause →
        (s.step (.execute sink name status data)).2 = .executed sink (.error (.load cause))) := by
  obtain ⟨hfiles, hoptions, hbuilt⟩ :=
    hs ▸ Session.run_follows (Session.follows_load hload) ops
  rw [List.nil_append] at hfiles hbuilt
  refine ⟨⟨hfiles, hoptions, hbuilt⟩, ?_, ?_, rfl, ?_⟩
  · intro cause hcause
    exact Session.step_reload_error (hoptions ▸ hcause)
  · intro templates htemplates
    rw [Session.step_reload_ok (hoptions ▸ htemplates), ← hoptions]
  · intro sink name status data
    refine ⟨rfl, ?_, ?_, ?_⟩
    · intro hmode disk'
      simp only [Session.step]
      rw [Registry.execute_of_not_devMode (hoptions ▸ hmode) s.disk disk']
    · intro hmode fresh hfresh
      simp only [Session.step]
      rw [Registry.execute_of_devMode (hoptions ▸ hmode), hoptions, hfresh]
    · intro hmode cause hcause
      simp only [Session.step]
      rw [Registry.execute_of_devMode (hoptions ▸ hmode), hoptions, hcause]

/-- The location of the only template of a directory. -/
def notePlace : List Files.Name :=
  [Text.Utf8.encode "templates".toList, Text.Utf8.encode "note.txt".toList]

/-- A file of a text. -/
def noteFile (text : String) : Files.Node := .file (Text.Utf8.encode text.toList)

/-- A disk with that directory. -/
def noteDisk : Files.Disk := ⟨(Files.Node.directory []).put (noteFile "first") notePlace, "/"⟩

/-- Options to load that directory. -/
def noteOptions : Options := ⟨.directory "/templates", false, ⟨{}, ⟨0, 0, 0⟩⟩⟩

/-- The template is replaced and reloaded, and then becomes malformed. -/
def noteHistory : List Operation :=
  [.write notePlace (noteFile "second"), .reload, .write notePlace (noteFile "\x7b% if %\x7d")]

/-- The set of the second text stays in use after the third. -/
theorem note_reload_keeps_second : ∃ registry s cause,
    Registry.load noteDisk noteOptions = .ok registry ∧
    s = (Session.run ⟨registry, noteDisk⟩ noteHistory).1 ∧
    BuiltLast noteOptions.source noteDisk noteHistory s.registry.templates ∧
    s.step .reload = (s, .reloaded (.error cause)) := by
  have hok : (Registry.load noteDisk noteOptions).isOk = true := by decide +kernel
  have hbad : (build (filesAfter noteDisk noteHistory) noteOptions.source).isOk = false := by
    decide +kernel
  cases hload : Registry.load noteDisk noteOptions with
  | error cause => rw [hload] at hok; cases hok
  | ok registry =>
    obtain ⟨⟨hdisk, _, hbuilt⟩, hfail, _⟩ := run_serves_last_built hload noteHistory rfl
    cases hbuild : build (filesAfter noteDisk noteHistory) noteOptions.source with
    | ok templates => rw [hbuild] at hbad; cases hbad
    | error cause =>
      rw [← hdisk] at hbuild
      exact ⟨registry, _, cause, rfl, rfl, hbuilt, hfail cause hbuild⟩

end DocPress.Template
