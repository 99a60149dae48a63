import DocPress.Doc.Model
import DocPress.Html.Escape

/-!
# Examples of a package

* `collect` — every example of a package in display order.
* `Owner`, `anchor` — what an example's anchor is made of, and the anchor.

Specification: section 4.6 (Example Indexer), helpers `examples` and `exampleId`.
-/

namespace DocPress.Examples

open DocPress.Doc

/-- The examples of one item. -/
def ofItem (owner : Item) (examples : List Example) : List ExampleRef :=
  examples.map fun x => ⟨owner, x⟩

/-- The examples of a function. -/
def ofFunc (f : FuncEntry) : List ExampleRef := ofItem (.func f) f.examples

/-- The examples of a type: its own, then those of its constructors and of its methods. -/
def ofType (t : TypeEntry) : List ExampleRef :=
  ofItem (.type t) t.examples ++ t.funcs.flatMap ofFunc ++ t.methods.flatMap ofFunc

/-- The examples of a package: its own, then those of its functions and of its types. -/
def collect (p : Package) : List ExampleRef :=
  ofItem (.package p) p.examples ++ p.funcs.flatMap ofFunc ++ p.types.flatMap ofType

/-- The parts of an example's owner that its anchor shows. -/
inductive Owner where
  | package
  | type (name : String)
  /-- A function with its receiver type, which may begin with a star and may be empty. -/
  | func (recv name : String)
  deriving DecidableEq, Repr

/-- The owner that an item is. -/
def Owner.ofItem : Item → Owner
  | .package _ => .package
  | .type t => .type t.name
  | .func f => .func f.recv f.name

/-- What all anchors of examples begin with. -/
def anchorStart : String := "_example"

/-- A receiver type without its star. -/
def receiverName (recv : List Char) : List Char :=
  match recv with
  | '*' :: rest => rest
  | _ => recv

/-- The part of an anchor that names the owner. -/
def Owner.suffix : Owner → List Char
  | .package => []
  | .type name => '_' :: name.toList
  | .func recv name =>
    '_' :: ((if recv.isEmpty then [] else receiverName recv.toList ++ ['_']) ++ name.toList)

/-- The anchor of an owner's example, in HTML. -/
def anchor (owner : Owner) (name : String) : String :=
  let id := anchorStart.toList ++ owner.suffix ++
    (if name.isEmpty then [] else '-' :: name.toList)
  String.ofList (Html.escapeText id)

/-- The anchor of a collected example. -/
def anchorOf (x : ExampleRef) : String := anchor (Owner.ofItem x.owner) x.sample.name

end DocPress.Examples
