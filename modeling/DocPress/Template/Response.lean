/-!
# Responses

* `Part` — what the receiver of a response is told; `Sink` — a receiver and what it was told so far.
* `Receiver.check` — whether a body is taken: only a body can be refused.
* `Sink.deliver` — a whole response: its content type if it has one, its status, and its body at once.
* `Sink.contentType?`, `Sink.status?`, `Sink.body` — what was told.

Specification: section 10.5, the response sink.
-/

namespace DocPress.Template

/-- What the receiver of a response is told. -/
inductive Part where
  | contentType (value : String)
  | status (code : Nat)
  | body (bytes : List UInt8)
  deriving DecidableEq, Repr

/-- How much of a body a receiver takes. -/
inductive Receiver where
  | unlimited
  /-- At most a number of bytes. -/
  | limited (capacity : Nat)
  /-- No body at all. -/
  | closed
  deriving DecidableEq, Repr

/-- A receiver, and what it was told, in order. -/
structure Sink where
  receiver : Receiver := .unlimited
  taken : List Part := []
  deriving DecidableEq, Repr

/-- Why a body was refused. -/
inductive WriteError where
  | full
  | closed
  deriving DecidableEq, Repr

/-- The wording of a refusal. -/
def WriteError.message : WriteError → String
  | .full => "failed to write whole buffer"
  | .closed => "sink closed"

/-- Whether a receiver takes a body. -/
def Receiver.check (r : Receiver) (bytes : List UInt8) : Except WriteError Unit :=
  match r with
  | .unlimited => .ok ()
  | .limited capacity => if bytes.length ≤ capacity then .ok () else .error .full
  | .closed => .error .closed

/-- A sink that was told one more part. -/
def Sink.record (sink : Sink) (part : Part) : Sink := { sink with taken := sink.taken ++ [part] }

/-- A sink that was told the head of a response. -/
def Sink.recordHead (sink : Sink) (contentType : Option String) (status : Nat) : Sink :=
  let named := match contentType with
    | some value => sink.record (.contentType value)
    | none => sink
  named.record (.status status)

/-- A sink that was sent a response: its content type, its status, and then its body in one piece. -/
def Sink.deliver (sink : Sink) (contentType : Option String) (status : Nat) (body : List UInt8) :
    Sink × Except WriteError Unit :=
  let headed := sink.recordHead contentType status
  match sink.receiver.check body with
  | .ok () => (headed.record (.body body), .ok ())
  | .error cause => (headed, .error cause)

/-- The content type told last. -/
def Sink.contentType? (sink : Sink) : Option String :=
  sink.taken.reverse.findSome? fun
    | .contentType value => some value
    | _ => none

/-- The status told last. -/
def Sink.status? (sink : Sink) : Option Nat :=
  sink.taken.reverse.findSome? fun
    | .status code => some code
    | _ => none

/-- All bytes of bodies. -/
def Sink.body (sink : Sink) : List UInt8 :=
  sink.taken.flatMap fun
    | .body bytes => bytes
    | _ => []

end DocPress.Template
