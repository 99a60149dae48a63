import DocPress.Proofs.Basic
import DocPress.Proofs.Template.Shape

/-!
# Shapes of expressions

From what is known of the variables in sight follows the shape of an expression, if it cannot fail: no
attribute of a missing value is asked for, and helpers get arguments of the right shapes.

* `Vars`, `Describes` — what is known of the variables in sight, and which frames agree with it.
* `Expr.shape?` — the shape of an expression that cannot fail; `callShape?` — that of a call.
* `mapFields?` — the fields of a map that is made of keys and values.

Principal results: `describes_assign` — an assignment is described by the shape of its value;
`callNamed_of_shape`, `Expr.eval_of_shape` — a call or an expression with a shape has a value of this
shape.
-/

namespace DocPress.Template

/-! ## Variables -/

/-- What is known of the variables in sight. A variable without a shape may be missing, and one that
is not listed is missing. -/
abbrev Vars := List (String × Option Shape)

/-- What is known of a variable agrees with what it stands for. -/
def Agrees : Option (Option Shape) → Option Value → Prop
  | none, v => v = none
  | some none, _ => True
  | some (some s), v => ∃ w, v = some w ∧ s.Holds w

/-- What is known of the variables agrees with frames. -/
def Describes (vars : Vars) (frames : Frames) : Prop :=
  ∀ name, Agrees (vars.lookup name) (lookup? frames name)

theorem lookup_filter_ne {β : Type} {name other : String} (h : other ≠ name)
    (frame : List (String × β)) :
    (frame.filter fun e => e.1 != name).lookup other = frame.lookup other := by
  induction frame with
  | nil => rfl
  | cons e frame ih =>
    rw [List.filter_cons, lookup_cons_eq_ite]
    split
    · rw [lookup_cons_eq_ite, ih]
    · rename_i hname
      have heq : e.1 = name := by simpa using hname
      rw [ih, heq, if_neg h]

theorem lookup?_cons (inner : List (String × Value)) (outer : Frames) (name : String) :
    lookup? (inner :: outer) name = (inner.lookup name).or (lookup? outer name) := by
  rw [lookup?, List.findSome?_cons]
  cases inner.lookup name <;> rfl

theorem lookup?_assign (name other : String) (v : Value) (inner : List (String × Value))
    (outer : Frames) :
    lookup? (assign name v (inner :: outer)) other =
      if other = name then some v else lookup? (inner :: outer) other := by
  rw [assign, lookup?_cons, lookup_cons_eq_ite]
  split
  · rfl
  · rename_i hne
    rw [lookup_filter_ne hne, lookup?_cons]

/-- A variable is described by the shape of what is assigned to it, and the others as before. -/
theorem describes_assign {vars : Vars} {name : String} {s : Shape} {v : Value}
    {inner : List (String × Value)} {outer : Frames} (hv : s.Holds v)
    (h : ∀ other, other ≠ name → Agrees (vars.lookup other) (lookup? (inner :: outer) other)) :
    Describes ((name, some s) :: vars) (assign name v (inner :: outer)) := by
  intro other
  rw [lookup_cons_eq_ite, lookup?_assign]
  by_cases heq : other = name
  · rw [if_pos heq, if_pos heq]
    exact ⟨v, rfl, hv⟩
  · rw [if_neg heq, if_neg heq]
    exact h other heq

/-! ## Expressions -/

/-- The shape of a literal. -/
def literalShape : Value → Shape
  | .str _ => .text
  | .safe _ => .text
  | _ => .any

/-- The shape that all values of these shapes have. -/
def Shape.common : List Shape → Shape
  | [] => .any
  | s :: rest => if rest.all fun t => t = s then s else .any

/-- The fields of a map of alternating keys and values, put before others. The keys have to be
distinct texts. -/
def mapFields? (known : List (String × Shape)) : List Expr → List Shape → Option (List (String × Shape))
  | .literal (.str key) :: _ :: args, _ :: s :: shapes =>
    if known.any fun e => e.1 == key then none else mapFields? ((key, s) :: known) args shapes
  | [], [] => some known
  | _, _ => none

/-- The shape of a map with these fields. -/
def Shape.ofFields : List (String × Shape) → Shape
  | [] => .any
  | (name, s) :: rest => .having name s (.ofFields rest)

/-- The shape of what a call gives, if it cannot fail. A variable hides a helper of its name. -/
def callShape? (vars : Vars) (name : String) (args : List Expr) (shapes : List Shape) : Option Shape :=
  if (vars.lookup name).isSome then none
  else
    match Helper.ofName? name with
    | none => none
    | some .map => (mapFields? [] args shapes).map .ofFields
    | some helper => if helper.accepts shapes then some helper.result else none

mutual

/-- The shape of an expression that cannot fail. -/
def Expr.shape? (vars : Vars) : Expr → Option Shape
  | .literal v => some (literalShape v)
  | .var name => some ((vars.lookup name).join.getD .any)
  | .attr target name => do
    let s ← target.shape? vars
    if s.isDefined then some (s.field name) else none
  | .item target index => do
    let s ← target.shape? vars
    let _ ← index.shape? vars
    if s.isDefined then some .any else none
  | .call (.var name) args => do
    let shapes ← shapeAll? vars args
    callShape? vars name args shapes
  | .call _ _ => none
  | .list items => do
    let shapes ← shapeAll? vars items
    some (.list (.common shapes))
  | .map entries => do
    let _ ← shapeEntries? vars entries
    some .any
  | .concat left right => do
    let _ ← left.shape? vars
    let _ ← right.shape? vars
    some .text
  | .not operand => do
    let _ ← operand.shape? vars
    some .any
  | .and left right => do
    let _ ← left.shape? vars
    let _ ← right.shape? vars
    some .any
  | .or left right => do
    let _ ← left.shape? vars
    let _ ← right.shape? vars
    some .any

/-- The shapes of expressions. -/
def shapeAll? (vars : Vars) : List Expr → Option (List Shape)
  | [] => some []
  | e :: rest => do
    let s ← e.shape? vars
    let more ← shapeAll? vars rest
    some (s :: more)

/-- Whether keys and values of entries have shapes. -/
def shapeEntries? (vars : Vars) : List (Expr × Expr) → Option Unit
  | [] => some ()
  | (key, value) :: rest => do
    let _ ← key.shape? vars
    let _ ← value.shape? vars
    shapeEntries? vars rest

end

/-! ## Expressions with a shape have a value -/

theorem holds_literal (v : Value) : (literalShape v).Holds v := by
  cases v with
  | str s => exact ⟨s, rfl⟩
  | safe s => exact ⟨s, rfl⟩
  | _ => exact trivial

theorem holds_of_all_eq {s : Shape} {shapes : List Shape} {values : List Value}
    (h : List.Forall₂ Shape.Holds shapes values) (hall : ∀ t ∈ shapes, t = s) :
    ∀ v ∈ values, s.Holds v := by
  induction h with
  | nil => simp
  | cons hv _ ih =>
    intro w hw
    rcases List.mem_cons.mp hw with rfl | hw
    · exact hall _ List.mem_cons_self ▸ hv
    · exact ih (fun t ht => hall t (List.mem_cons_of_mem _ ht)) w hw

theorem holds_common {shapes : List Shape} {values : List Value}
    (h : List.Forall₂ Shape.Holds shapes values) : ∀ v ∈ values, (Shape.common shapes).Holds v := by
  cases shapes with
  | nil => exact fun _ _ => trivial
  | cons s rest =>
    rw [Shape.common]
    split
    · rename_i hall
      refine holds_of_all_eq h ?_
      intro t ht
      rcases List.mem_cons.mp ht with rfl | ht
      · rfl
      · exact of_decide_eq_true (List.all_eq_true.mp hall t ht)
    · exact fun _ _ => trivial

theorem partOf_of_defined {v : Value} (h : v ≠ .undefined) (part : Option Value) :
    partOf v part = .ok (part.getD .undefined) := by
  cases part with
  | some w => rfl
  | none =>
    cases v with
    | undefined => exact absurd rfl h
    | _ => rfl

theorem eq_of_partOf {v w : Value} {part : Option Value} (h : partOf v part = .ok w) :
    w = part.getD .undefined := by
  cases part with
  | some x =>
    cases h
    rfl
  | none =>
    cases v with
    | undefined => cases h
    | _ => cases h; rfl

/-- A variable has the shape that is known of it. -/
theorem holds_lookup {vars : Vars} {frames : Frames} (h : Describes vars frames) (name : String) :
    ((vars.lookup name).join.getD .any).Holds ((lookup? frames name).getD .undefined) := by
  have hname := h name
  cases hknown : vars.lookup name with
  | none => exact trivial
  | some known =>
    cases known with
    | none => exact trivial
    | some s =>
      rw [hknown] at hname
      obtain ⟨v, hv, hholds⟩ := hname
      rw [hv]
      exact hholds

theorem lookup_insert (key other : String) (v : Value) (entries : List (String × Value)) :
    (Value.insert key v entries).lookup other =
      if other = key then some v else entries.lookup other := by
  induction entries with
  | nil => rw [Value.insert, lookup_cons_eq_ite]
  | cons e entries ih =>
    obtain ⟨k, w⟩ := e
    rw [Value.insert]
    split
    · rename_i heq
      rw [lookup_cons_eq_ite, lookup_cons_eq_ite, ← heq]
      split <;> rfl
    · rename_i hne
      split
      · rw [lookup_cons_eq_ite]
      · rw [lookup_cons_eq_ite, ih, lookup_cons_eq_ite]
        by_cases h : other = key
        · rw [if_neg (h ▸ hne), if_pos h, if_pos h]
        · rw [if_neg h, if_neg h]

/-- The entries of a map have the fields that are known of it. -/
def EntriesHold (known : List (String × Shape)) (entries : List (String × Value)) : Prop :=
  ∀ e ∈ known, ∃ v, entries.lookup e.1 = some v ∧ e.2.Holds v

theorem EntriesHold.insert {known : List (String × Shape)} {entries : List (String × Value)}
    (h : EntriesHold known entries) {key : String} {s : Shape} {v : Value} (hv : s.Holds v)
    (hnew : ∀ e ∈ known, e.1 ≠ key) :
    EntriesHold ((key, s) :: known) (Value.insert key v entries) := by
  intro e he
  rw [lookup_insert]
  rcases List.mem_cons.mp he with rfl | he
  · exact ⟨v, if_pos rfl, hv⟩
  · rw [if_neg (hnew e he)]
    exact h e he

theorem EntriesHold.holds_ofFields {known : List (String × Shape)} {entries : List (String × Value)}
    (h : EntriesHold known entries) : (Shape.ofFields known).Holds (.map entries) := by
  induction known with
  | nil => exact trivial
  | cons e known ih =>
    exact ⟨h e List.mem_cons_self, ih fun e' he' => h e' (List.mem_cons_of_mem _ he')⟩

/-- What the values of expressions are if they have some. -/
theorem evalAll_cons_ok {env : Env} {frames : Frames} {e : Expr} {args : List Expr} {values : List Value}
    (h : evalAll env frames (e :: args) = .ok values) :
    ∃ v rest, e.eval env frames = .ok v ∧ evalAll env frames args = .ok rest ∧ values = v :: rest := by
  rw [evalAll] at h
  cases hv : e.eval env frames with
  | error cause => rw [hv] at h; cases h
  | ok v =>
    cases hrest : evalAll env frames args with
    | error cause => rw [hv, hrest] at h; cases h
    | ok rest =>
      rw [hv, hrest] at h
      cases h
      exact ⟨v, rest, rfl, rfl, rfl⟩

/-- Alternating keys and values make a map with the fields that are known of it. -/
theorem mapFrom_of_fields {env : Env} {frames : Frames} {args : List Expr} {shapes : List Shape}
    {known fields : List (String × Shape)} (hfields : mapFields? known args shapes = some fields)
    {values : List Value} (hvalues : List.Forall₂ Shape.Holds shapes values)
    (heval : evalAll env frames args = .ok values) {entries : List (String × Value)}
    (hknown : EntriesHold known entries) (position : Nat) :
    values.length % 2 = 0 ∧
      ∃ entries', mapFrom position entries values = .ok entries' ∧ EntriesHold fields entries' := by
  fun_induction mapFields? known args shapes generalizing values entries position with
  | case1 known key e args _ s shapes hold => cases hfields
  | case2 known key e args _ s shapes hnew ih =>
    obtain ⟨k, _, hk, hmore, rfl⟩ := evalAll_cons_ok heval
    obtain ⟨v, rest, _, hrest, rfl⟩ := evalAll_cons_ok hmore
    rcases hvalues with _ | ⟨_, _ | ⟨hv, hvalues⟩⟩
    rw [Expr.eval] at hk
    cases hk
    have hfresh : ∀ e ∈ known, e.1 ≠ key := fun e he heq =>
      hnew (List.any_eq_true.mpr ⟨e, he, beq_iff_eq.mpr heq⟩)
    obtain ⟨hlength, entries', hentries, hholds⟩ := ih hfields hvalues hrest (hknown.insert hv hfresh)
      (position + 2)
    refine ⟨?_, entries', hentries, hholds⟩
    simp only [List.length_cons]
    omega
  | case3 known =>
    cases hfields
    cases hvalues
    exact ⟨rfl, entries, rfl, hknown⟩
  | case4 => cases hfields

/-- **A call with a shape does not fail.** -/
theorem callNamed_of_shape {vars : Vars} {frames : Frames} (h : Describes vars frames) (env : Env)
    {name : String} {args : List Expr} {shapes : List Shape} {s : Shape}
    (hs : callShape? vars name args shapes = some s) {values : List Value}
    (hvalues : List.Forall₂ Shape.Holds shapes values)
    (heval : evalAll env frames args = .ok values) :
    Succeeds (callNamed env frames name values) s.Holds := by
  unfold callShape? at hs
  split at hs
  · cases hs
  · rename_i hhidden
    have hname : lookup? frames name = none := by
      have hagrees := h name
      rwa [Option.not_isSome_iff_eq_none.mp hhidden] at hagrees
    rw [callNamed, hname]
    split at hs
    · cases hs
    · rename_i hhelper
      obtain ⟨fields, hfields, rfl⟩ := Option.map_eq_some_iff.mp hs
      have hempty : EntriesHold [] [] := fun e he => nomatch he
      obtain ⟨hlength, entries, hentries, hholds⟩ :=
        mapFrom_of_fields hfields hvalues heval hempty 0
      refine ⟨.map entries, ?_, hholds.holds_ofFields⟩
      simp only [hhelper, Helper.apply, buildMap, if_pos hlength, hentries]
    · rename_i helper hne hhelper
      split at hs
      · rename_i haccepts
        cases hs
        rw [hhelper]
        exact Helper.apply_of_accepts env.setting env.escapes hvalues haccepts
      · cases hs

mutual

/-- **An expression with a shape has a value of this shape.** -/
theorem Expr.eval_of_shape {vars : Vars} {frames : Frames} (h : Describes vars frames) (env : Env) :
    ∀ (e : Expr) {s : Shape}, e.shape? vars = some s → Succeeds (e.eval env frames) s.Holds
  | .literal v, s, hs => by
    cases hs
    exact .ok (holds_literal v)
  | .var name, s, hs => by
    cases hs
    exact .ok (holds_lookup h name)
  | .attr target name, s, hs => by
    simp only [Expr.shape?, Option.bind_eq_bind, Option.bind_eq_some_iff] at hs
    obtain ⟨t, ht, hs⟩ := hs
    split at hs
    · rename_i hdefined
      cases hs
      rw [Expr.eval]
      refine (Expr.eval_of_shape h env target ht).bind fun v hv => ?_
      rw [partOf_of_defined (hv.ne_undefined hdefined)]
      exact .ok (hv.field name)
    · cases hs
  | .item target index, s, hs => by
    simp only [Expr.shape?, Option.bind_eq_bind, Option.bind_eq_some_iff] at hs
    obtain ⟨t, ht, u, hu, hs⟩ := hs
    split at hs
    · rename_i hdefined
      cases hs
      rw [Expr.eval]
      refine (Expr.eval_of_shape h env target ht).bind fun v hv => ?_
      refine (Expr.eval_of_shape h env index hu).bind fun i _ => ?_
      rw [partOf_of_defined (hv.ne_undefined hdefined)]
      exact .ok trivial
    · cases hs
  | .call (.var name) args, s, hs => by
    simp only [Expr.shape?, Option.bind_eq_bind, Option.bind_eq_some_iff] at hs
    obtain ⟨shapes, hshapes, hs⟩ := hs
    obtain ⟨values, heval, hvalues⟩ := evalAll_of_shapes h env args hshapes
    rw [Expr.eval]
    exact .bind_of_ok heval (callNamed_of_shape h env hs hvalues heval)
  | .list items, s, hs => by
    simp only [Expr.shape?, Option.bind_eq_bind, Option.bind_eq_some_iff] at hs
    obtain ⟨shapes, hshapes, hs⟩ := hs
    cases hs
    rw [Expr.eval]
    refine (evalAll_of_shapes h env items hshapes).bind fun values hvalues => ?_
    exact .ok ⟨values, rfl, holds_common hvalues⟩
  | .map entries, s, hs => by
    simp only [Expr.shape?, Option.bind_eq_bind, Option.bind_eq_some_iff] at hs
    obtain ⟨_, hentries, hs⟩ := hs
    cases hs
    rw [Expr.eval]
    exact (evalEntries_of_shapes h env entries hentries).bind fun pairs _ => .ok trivial
  | .concat left right, s, hs => by
    simp only [Expr.shape?, Option.bind_eq_bind, Option.bind_eq_some_iff] at hs
    obtain ⟨t, ht, u, hu, hs⟩ := hs
    cases hs
    rw [Expr.eval]
    refine (Expr.eval_of_shape h env left ht).bind fun a _ => ?_
    refine (Expr.eval_of_shape h env right hu).bind fun b _ => ?_
    exact .ok (holds_text_str _)
  | .not operand, s, hs => by
    simp only [Expr.shape?, Option.bind_eq_bind, Option.bind_eq_some_iff] at hs
    obtain ⟨t, ht, hs⟩ := hs
    cases hs
    rw [Expr.eval]
    exact (Expr.eval_of_shape h env operand ht).bind fun v _ => .ok trivial
  | .and left right, s, hs => by
    simp only [Expr.shape?, Option.bind_eq_bind, Option.bind_eq_some_iff] at hs
    obtain ⟨t, ht, u, hu, hs⟩ := hs
    cases hs
    rw [Expr.eval]
    refine (Expr.eval_of_shape h env left ht).bind fun v _ => ?_
    split
    · exact (Expr.eval_of_shape h env right hu).mono fun _ _ => trivial
    · exact .ok trivial
  | .or left right, s, hs => by
    simp only [Expr.shape?, Option.bind_eq_bind, Option.bind_eq_some_iff] at hs
    obtain ⟨t, ht, u, hu, hs⟩ := hs
    cases hs
    rw [Expr.eval]
    refine (Expr.eval_of_shape h env left ht).bind fun v _ => ?_
    split
    · exact .ok trivial
    · exact (Expr.eval_of_shape h env right hu).mono fun _ _ => trivial

theorem evalAll_of_shapes {vars : Vars} {frames : Frames} (h : Describes vars frames) (env : Env) :
    ∀ (es : List Expr) {shapes : List Shape}, shapeAll? vars es = some shapes →
      Succeeds (evalAll env frames es) fun values => List.Forall₂ Shape.Holds shapes values
  | [], shapes, hs => by
    cases hs
    exact .ok .nil
  | e :: rest, shapes, hs => by
    simp only [shapeAll?, Option.bind_eq_bind, Option.bind_eq_some_iff] at hs
    obtain ⟨s, he, more, hrest, hs⟩ := hs
    cases hs
    rw [evalAll]
    refine (Expr.eval_of_shape h env e he).bind fun v hv => ?_
    refine (evalAll_of_shapes h env rest hrest).bind fun values hvalues => ?_
    exact .ok (.cons hv hvalues)

theorem evalEntries_of_shapes {vars : Vars} {frames : Frames} (h : Describes vars frames)
    (env : Env) :
    ∀ (es : List (Expr × Expr)), shapeEntries? vars es = some () →
      Succeeds (evalEntries env frames es) fun _ => True
  | [], _ => .ok trivial
  | (key, value) :: rest, hs => by
    simp only [shapeEntries?, Option.bind_eq_bind, Option.bind_eq_some_iff] at hs
    obtain ⟨s, hkey, t, hvalue, hrest⟩ := hs
    rw [evalEntries]
    refine (Expr.eval_of_shape h env key hkey).bind fun k _ => ?_
    refine (Expr.eval_of_shape h env value hvalue).bind fun v _ => ?_
    exact (evalEntries_of_shapes h env rest hrest).bind fun pairs _ => .ok trivial

end

end DocPress.Template
