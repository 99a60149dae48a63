import DocPress.Template.Registry

/-!
# What execution tells a sink

Execution makes the whole page first. So a sink is told nothing at all, or the head of a response and
then, unless the receiver refuses it, the body in one part.

* `headOf` — the head of a response: its content type if it has one, and its status.
* `Sink.taken_deliver` — what a sink was told after a delivery.

Principal results: `Registry.execute_of_error` — a page that cannot be made leaves the sink alone;
`Registry.taken_execute`, `Registry.execute_snd` — what a page that is made tells the sink, and what
comes of it.
-/

namespace DocPress.Template

/-- The head of a response. -/
def headOf (contentType : Option String) (status : Nat) : List Part :=
  contentType.toList.map .contentType ++ [.status status]

/-- What a receiver is told of a body: all of it, or nothing. -/
def Receiver.partsOf (receiver : Receiver) (body : List UInt8) : List Part :=
  match receiver.check body with
  | .ok () => [.body body]
  | .error _ => []

theorem Sink.taken_recordHead (sink : Sink) (contentType : Option String) (status : Nat) :
    (sink.recordHead contentType status).taken = sink.taken ++ headOf contentType status := by
  cases contentType with
  | none => rfl
  | some value => simp [recordHead, record, headOf]

/-- A sink is told the head, and then the body if its receiver takes it. -/
theorem Sink.taken_deliver (sink : Sink) (contentType : Option String) (status : Nat)
    (body : List UInt8) :
    (sink.deliver contentType status body).1.taken =
      sink.taken ++ headOf contentType status ++ sink.receiver.partsOf body := by
  cases hcheck : sink.receiver.check body with
  | ok => simp [deliver, Receiver.partsOf, hcheck, record, taken_recordHead]
  | error cause => simp [deliver, Receiver.partsOf, hcheck, taken_recordHead]

section
variable {r : Registry} {disk : Files.Disk} {name : String} {data : Value}

/-- **A page that cannot be made leaves the sink alone.** -/
theorem Registry.execute_of_error {cause : Error} (h : r.page disk name data = .error cause)
    (sink : Sink) (status : Nat) :
    r.execute disk sink name status data = (sink, .error cause) := by
  rw [execute, h]

/-- **A page that is made** tells the sink its head, and its body in one part. -/
theorem Registry.taken_execute {body : String} (h : r.page disk name data = .ok body) (sink : Sink)
    (status : Nat) :
    (r.execute disk sink name status data).1.taken =
      sink.taken ++ headOf (contentType? name) status ++
        sink.receiver.partsOf (Text.Utf8.encode body.toList) := by
  rw [← Sink.taken_deliver, execute, h]
  cases hcheck : sink.receiver.check (Text.Utf8.encode body.toList) with
  | ok => simp [Sink.deliver, hcheck]
  | error cause => simp [Sink.deliver, hcheck]

/-- Once a page is made, only the receiver can refuse it. -/
theorem Registry.execute_snd {body : String} (h : r.page disk name data = .ok body) (sink : Sink)
    (status : Nat) :
    (r.execute disk sink name status data).2 =
      (sink.receiver.check (Text.Utf8.encode body.toList)).mapError .unwritten := by
  rw [execute, h]
  cases hcheck : sink.receiver.check (Text.Utf8.encode body.toList) with
  | ok =>
    simp only [Sink.deliver, hcheck]
    rfl
  | error cause =>
    simp only [Sink.deliver, hcheck]
    rfl

end

end DocPress.Template
