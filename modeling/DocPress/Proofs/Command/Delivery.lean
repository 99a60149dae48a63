import DocPress.Command.Run
import DocPress.Proofs.Files.Tree
import DocPress.Proofs.Template.Execution

/-!
# Delivery of rendered pages

A request to render makes its whole page before anything is told of it. So a failure on the way, in
the settings, the templates, the package or the page, leaves no trace but its message, and a page that
is made is delivered as a whole, to the standard output or to a file.

* `prepare`, `page` — what a request needs, and the page that it asks for.
* `attempt` — a request carried out with any sink; `respond_eq_attempt` — the command is carried out
  with an empty one.
* `respond_of_page` — the response to a request whose page is made.

Principal result: `render_delivers_whole_page_or_nothing`.
-/

namespace DocPress.Command

open DocPress.Template (Sink headOf contentType?)

/-- The templates and the package that a request is about. -/
def prepare (w : World) (r : RenderRequest) : Except Error (Template.Registry × Doc.Package) := do
  let settings ← liftError .settings (Settings.load w.disk w.lookup r.config r.overrides)
  let registry ← liftError (fun e => .template (.load e)) (loadRegistry w settings)
  let package ← readPackage w.disk r.data
  pure (registry, package)

/-- The page that a request asks for. -/
def page (w : World) (r : RenderRequest) : Except Error String := do
  let (registry, package) ← prepare w r
  liftError .template (registry.page w.disk r.template (Template.itemValue (.package package)))

/-- A request carried out with a sink. -/
def attempt (w : World) (r : RenderRequest) (sink : Sink) : Sink × Except Error Unit :=
  match prepare w r with
  | .error e => (sink, .error e)
  | .ok (registry, package) =>
    let (told, result) := registry.execute w.disk sink r.template r.status
      (Template.itemValue (.package package))
    (told, liftError .template result)

/-- What the command makes of an execution: the sink, or the failure. -/
def answered : Sink × Except Template.Error Unit → Except Error Sink
  | (sink, .ok ()) => .ok sink
  | (_, .error cause) => .error (.template cause)

/-- The command is carried out with an empty sink. -/
theorem respond_eq_attempt (w : World) (r : RenderRequest) :
    respond w r = (attempt w r {}).2.map fun _ => (attempt w r {}).1 := by
  have hstages : respond w r = prepare w r >>= fun prepared =>
      answered (prepared.1.execute w.disk {} r.template r.status
        (Template.itemValue (.package prepared.2))) := by
    simp only [respond, prepare, bind_assoc, pure_bind]
    rfl
  rw [hstages, attempt]
  cases prepare w r with
  | error e => rfl
  | ok prepared =>
    obtain ⟨registry, package⟩ := prepared
    cases hexecute : registry.execute w.disk {} r.template r.status
      (Template.itemValue (.package package)) with
    | mk sink result =>
      cases result with
      | ok => simp [hexecute, answered, bind, Except.bind, liftError, Except.map]
      | error cause => simp [hexecute, answered, bind, Except.bind, liftError, Except.map]

section
variable {w : World} {r : RenderRequest}

/-- **A failure leaves the sink alone**, whichever stage it comes from. -/
theorem attempt_of_error {e : Error} (h : page w r = .error e) (sink : Sink) :
    attempt w r sink = (sink, .error e) := by
  unfold page at h
  unfold attempt
  cases hprepare : prepare w r with
  | error cause =>
    rw [hprepare] at h
    cases h
    rfl
  | ok prepared =>
    rw [hprepare] at h
    change liftError .template (prepared.1.page w.disk r.template _) = _ at h
    cases hpage : prepared.1.page w.disk r.template (Template.itemValue (.package prepared.2)) with
    | ok text => rw [hpage] at h; cases h
    | error cause =>
      rw [hpage] at h
      cases h
      simp only [Template.Registry.execute_of_error hpage]
      rfl

/-- **A page that is made** tells the sink the head of the response, and its body in one part. -/
theorem attempt_of_page {text : String} (h : page w r = .ok text) (sink : Sink) :
    (attempt w r sink).1.taken = sink.taken ++ headOf (contentType? r.template) r.status ++
        sink.receiver.partsOf (Text.Utf8.encode text.toList) ∧
      (attempt w r sink).2 = (sink.receiver.check (Text.Utf8.encode text.toList)).mapError
        fun cause => .template (.unwritten cause) := by
  unfold page at h
  obtain ⟨⟨registry, package⟩, hprepare, h⟩ := exists_of_bind_eq_ok h
  dsimp only at h
  cases hpage : registry.page w.disk r.template (Template.itemValue (.package package)) with
  | error cause => rw [hpage] at h; cases h
  | ok made =>
    rw [hpage] at h
    cases h
    rw [attempt, hprepare]
    refine ⟨Template.Registry.taken_execute hpage sink r.status, ?_⟩
    change liftError .template (registry.execute w.disk sink r.template r.status _).2 = _
    rw [Template.Registry.execute_snd hpage]
    cases sink.receiver.check (Text.Utf8.encode text.toList) <;> rfl

/-- The response to a request whose page is made. -/
theorem respond_of_page {text : String} (h : page w r = .ok text) :
    ∃ sink, respond w r = .ok sink ∧ sink.body = Text.Utf8.encode text.toList := by
  obtain ⟨htaken, hresult⟩ := attempt_of_page h {}
  refine ⟨(attempt w r {}).1, ?_, ?_⟩
  · rw [respond_eq_attempt, hresult]
    rfl
  · rw [Sink.body, htaken]
    cases contentType? r.template <;>
      simp [headOf, Template.Receiver.partsOf, Template.Receiver.check]

theorem respond_of_error {e : Error} (h : page w r = .error e) : respond w r = .error e := by
  rw [respond_eq_attempt, attempt_of_error h]
  rfl

end

/-- **A page is delivered as a whole or not at all.** For all files, variables and times, and every
request to render. If its page cannot be made, no sink is told anything, nothing is printed to the
standard output, and all files are as they were. If the page is made, every sink is told the content
type, if the template's name has one, the status, and then the whole page in one part, unless it
refuses that; the command prints exactly the bytes of the page, and with an output file prints nothing
and writes exactly these bytes to that file and to no other, or, if it cannot be written, changes
nothing. -/
theorem render_delivers_whole_page_or_nothing (w : World) (r : RenderRequest) :
    respond w r = ((attempt w r {}).2.map fun _ => (attempt w r {}).1) ∧
    (∀ e, page w r = .error e →
      (∀ sink, attempt w r sink = (sink, .error e)) ∧
      run w (.render r) = ⟨1, [], [failureLine e], w.disk⟩) ∧
    ∀ text, page w r = .ok text →
      (∀ sink : Sink,
        (attempt w r sink).1.taken = sink.taken ++ headOf (contentType? r.template) r.status ++
          sink.receiver.partsOf (Text.Utf8.encode text.toList) ∧
        (attempt w r sink).2 = (sink.receiver.check (Text.Utf8.encode text.toList)).mapError
          fun cause => .template (.unwritten cause)) ∧
      (∃ lines, run w (.render { r with output := none }) =
        ⟨0, Text.Utf8.encode text.toList, lines, w.disk⟩) ∧
      ∀ path,
        (∀ disk, w.disk.write path (Text.Utf8.encode text.toList) = .ok disk →
          (∃ lines, run w (.render { r with output := some path }) = ⟨0, [], lines, disk⟩) ∧
          disk.read path = .ok (Text.Utf8.encode text.toList) ∧
          ∀ other bytes, w.disk.read other = .ok bytes →
            w.disk.locate other ≠ w.disk.target path → disk.read other = .ok bytes) ∧
        ∀ cause, w.disk.write path (Text.Utf8.encode text.toList) = .error cause →
          run w (.render { r with output := some path }) =
            ⟨1, [], [failureLine (.file cause)], w.disk⟩ := by
  refine ⟨respond_eq_attempt w r, ?_, ?_⟩
  · intro e h
    refine ⟨attempt_of_error h, ?_⟩
    rw [run, render, respond_of_error h]
    rfl
  · intro text h
    -- the output is not looked at before the page is made
    have hout : ∀ output, ∃ sink, respond w { r with output := output } = .ok sink ∧
        sink.body = Text.Utf8.encode text.toList :=
      fun output => respond_of_page (r := { r with output := output }) h
    refine ⟨attempt_of_page h, ?_, ?_⟩
    · obtain ⟨sink, hsink, hbody⟩ := hout none
      rw [run, render, hsink, ← hbody]
      exact ⟨_, rfl⟩
    · intro path
      obtain ⟨sink, hsink, hbody⟩ := hout (some path)
      rw [run, render, hsink, ← hbody]
      constructor
      · intro disk hwrite
        refine ⟨⟨("Rendered " ++ r.template ++ " to " ++ path) ::
          if r.verbose then responseLines sink else [], ?_⟩, Files.Disk.read_write hwrite,
          fun other bytes hread hother => Files.Disk.read_write_other hwrite hread hother⟩
        change outcome w (liftError .file (w.disk.write path sink.body) >>= _) = _
        rw [hwrite]
        rfl
      · intro cause hwrite
        change outcome w (liftError .file (w.disk.write path sink.body) >>= _) = _
        rw [hwrite]
        rfl

/-- A disk with the documentation of a package and two templates, one of which fails at its end. -/
def smallDisk : Files.Disk :=
  let file (text : String) : Files.Node := .file (Text.Utf8.encode text.toList)
  let entry (name : String) (node : Files.Node) := (Text.Utf8.encode name.toList, node)
  ⟨.directory
    [entry "p.json" (file "\x7b\"name\": \"fmt\", \"import_path\": \"fmt\"\x7d"),
     entry "templates" (.directory
      [entry "bad.txt" (file "\x7b\x7b data.name \x7d\x7d\x7b\x7b data.nothing.more \x7d\x7d"),
       entry "good.txt" (file "\x7b\x7b data.name \x7d\x7d")])], "/"⟩

/-- What is seen with this disk. -/
def smallWorld : World := ⟨smallDisk, fun _ => none, ⟨0, 0, 0⟩⟩

/-- A request for the page of one of these templates. -/
def smallRequest (template : String) : RenderRequest :=
  ⟨"p.json", template, 200, none, none, none, false, false, false⟩

/-- One page is made and delivered, the other is given up after its first word. -/
theorem smallWorld_delivers :
    (page smallWorld (smallRequest "good.txt") = .ok "fmt" ∧
      (∃ lines, run smallWorld (.render { smallRequest "good.txt" with output := none }) =
        ⟨0, Text.Utf8.encode "fmt".toList, lines, smallDisk⟩) ∧
      ∃ disk, (∃ lines,
          run smallWorld (.render { smallRequest "good.txt" with output := some "out" }) =
            ⟨0, [], lines, disk⟩) ∧
        disk.read "out" = .ok (Text.Utf8.encode "fmt".toList)) ∧
    ∃ e, page smallWorld (smallRequest "bad.txt") = .error e ∧
      run smallWorld (.render (smallRequest "bad.txt")) = ⟨1, [], [failureLine e], smallDisk⟩ := by
  have hgood : page smallWorld (smallRequest "good.txt") = .ok "fmt" := by decide +kernel
  have hbad : (page smallWorld (smallRequest "bad.txt")).isOk = false := by decide +kernel
  have hwrite : (smallDisk.write "out" (Text.Utf8.encode "fmt".toList)).isOk = true := by
    decide +kernel
  obtain ⟨-, -, hdelivers⟩ :=
    render_delivers_whole_page_or_nothing smallWorld (smallRequest "good.txt")
  obtain ⟨-, hfails, -⟩ := render_delivers_whole_page_or_nothing smallWorld (smallRequest "bad.txt")
  obtain ⟨-, hprinted, hwritten⟩ := hdelivers "fmt" hgood
  constructor
  · refine ⟨hgood, hprinted, ?_⟩
    cases hdisk : smallDisk.write "out" (Text.Utf8.encode "fmt".toList) with
    | error cause => rw [hdisk] at hwrite; cases hwrite
    | ok disk =>
      obtain ⟨hrun, hread, -⟩ := (hwritten "out").1 disk hdisk
      exact ⟨disk, hrun, hread⟩
  · cases hpage : page smallWorld (smallRequest "bad.txt") with
    | ok text => rw [hpage] at hbad; cases hbad
    | error e => exact ⟨e, rfl, (hfails e hpage).2⟩

end DocPress.Command
