import DocPress.Proofs.Template.Expression

/-!
# Checking templates

A template can be checked before it runs. The checker finds the shapes of the expressions in it,
follows assignments and inclusions, and accepts a template only if no access, loop, call or inclusion
in it can fail.

* `narrowed` — what the truth of a condition adds to what is known.
* `Checker`, `Stmt.check`, `checkAll` — what is known of the variables that pieces assign.
* `checkWithin` — the same for a template of a set, with the templates that it includes.
* `Leaves` — the innermost frame alone was changed, and variables are as described.

Principal results: `each_of_body` — a loop whose body does not fail does not fail;
`Stmt.run_of_check` — an accepted piece runs without failure and leaves variables as described;
`render_of_accepts` — an accepted template of a set is rendered.
-/

namespace DocPress.Template

/-! ## Statements -/

/-- Variables of which nothing is known any more. -/
def forget (vars : Vars) : Vars := vars.map fun e => (e.1, none)

/-- What the truth of a condition adds: an attribute of a variable is not none. -/
def narrowed (vars : Vars) : Expr → Vars
  | .attr (.var name) part =>
    match vars.lookup name with
    | some (some s) =>
      match s.field part with
      | .optional t => [(name, some (.having part t s))]
      | _ => []
    | _ => []
  | _ => []

/-- What checking depends on besides the variables. -/
structure Checker where
  /-- How many templates include each other around this one. -/
  level : Nat
  /-- What is known of the variables that a template assigns, which is included by name inside a
  number of outer frames. -/
  embed : Nat → Vars → String → Option Vars

mutual

/-- What is known of the variables that a piece assigns inside a number of outer frames; none if the
piece may fail. A loop may not assign variables, whose shapes would have to hold in each round. -/
def Stmt.check (c : Checker) (outer : Nat) (vars : Vars) : Stmt → Option Vars
  | .text _ => some []
  | .emit expr => do
    let _ ← expr.shape? vars
    some []
  | .set name expr => do
    let s ← expr.shape? vars
    some [(name, some s)]
  | .embed (.literal (.str name)) => c.embed outer vars name
  | .embed _ => none
  | .branch cond yes no => do
    let _ ← cond.shape? vars
    let a ← checkAll c outer (narrowed vars cond ++ vars) yes
    let b ← checkAll c outer vars no
    some (forget (a ++ b))
  | .loop name items body empty => do
    let s ← items.shape? vars
    let item ← s.items?
    let a ← checkAll c (outer + 1) ((name, some item) :: vars) body
    let b ← checkAll c outer vars empty
    if a.isEmpty && decide (includeCost * c.level + (outer + 1) ≤ depthLimit) then some (forget b)
    else none

/-- What is known of the variables that pieces assign. -/
def checkAll (c : Checker) (outer : Nat) (vars : Vars) : List Stmt → Option Vars
  | [] => some []
  | stmt :: rest => do
    let a ← stmt.check c outer vars
    let b ← checkAll c outer (a ++ vars) rest
    some (b ++ a)

end

/-- What is known of the variables that a template of a set assigns. The first number bounds how deep
templates may still include each other, the second says how deep they do. -/
def checkWithin (templates : TemplateSet) : Nat → Nat → Nat → Vars → Body → Option Vars
  | 0, _, _, _, _ => none
  | fuel + 1, level, outer, vars, template =>
    let embed (outer : Nat) (vars : Vars) (name : String) : Option Vars :=
      if depthLimit < includeCost * (level + 1) + (outer + 1) then none
      else (templates.lookup name).bind (checkWithin templates fuel (level + 1) outer vars)
    checkAll ⟨level, embed⟩ outer vars template

/-! ## What is forgotten and what is narrowed -/

/-- Variables that may have been assigned are forgotten, and what else was known is kept. -/
theorem describes_forget {changed assigned vars vars' : Vars} {frames : Frames}
    (hsub : changed ⊆ assigned)
    (hvars : ∀ name v, Agrees (vars'.lookup name) v → Agrees (vars.lookup name) v)
    (h : Describes (changed ++ vars') frames) : Describes (forget assigned ++ vars) frames := by
  intro name
  rw [List.lookup_append, forget, Value.lookup_map_snd (fun _ => none)]
  cases hname : assigned.lookup name with
  | some known => exact trivial
  | none =>
    have hchanged : changed.lookup name = none := by
      rw [List.lookup_eq_none_iff] at hname ⊢
      exact fun e he => hname e (hsub he)
    have hagrees := h name
    rw [List.lookup_append, hchanged] at hagrees
    exact hvars name _ hagrees

theorem narrowed_cases (vars : Vars) (cond : Expr) :
    narrowed vars cond = [] ∨ ∃ name part s t, cond = .attr (.var name) part ∧
      vars.lookup name = some (some s) ∧ s.field part = .optional t ∧
      narrowed vars cond = [(name, some (.having part t s))] := by
  unfold narrowed
  split
  · split
    · rename_i hs
      split
      · rename_i ht
        exact .inr ⟨_, _, _, _, rfl, hs, ht, rfl⟩
      · exact .inl rfl
    · exact .inl rfl
  · exact .inl rfl

/-- What is narrowed was known before. -/
theorem agrees_of_narrowed {vars : Vars} {cond : Expr} (name : String) (v : Option Value)
    (h : Agrees ((narrowed vars cond ++ vars).lookup name) v) : Agrees (vars.lookup name) v := by
  rcases narrowed_cases vars cond with heq | ⟨other, part, s, t, rfl, hs, ht, heq⟩
  · rwa [heq] at h
  · rw [heq, List.singleton_append, lookup_cons_eq_ite] at h
    split at h
    · rename_i hname
      obtain ⟨w, hw, hholds⟩ := h
      rw [hname, hs]
      exact ⟨w, hw, hholds.2⟩
    · exact h

/-- An optional attribute that is true is there, and is not none. -/
theorem exists_attribute_of_isTrue {part : Option Value} {t : Shape}
    (h : (Shape.optional t).Holds (part.getD .undefined))
    (htrue : (part.getD .undefined).isTrue = true) : ∃ w, part = some w ∧ t.Holds w := by
  cases part with
  | none => cases htrue
  | some w =>
    rcases h with h | h
    · rw [Option.getD_some] at h htrue
      rw [h] at htrue
      cases htrue
    · exact ⟨w, rfl, h⟩

/-- **A condition that is true narrows what is known of its variable.** -/
theorem describes_narrowed {vars : Vars} {frames : Frames} (h : Describes vars frames) {env : Env}
    {cond : Expr} {v : Value} (heval : cond.eval env frames = .ok v) (htrue : v.isTrue = true) :
    Describes (narrowed vars cond ++ vars) frames := by
  rcases narrowed_cases vars cond with heq | ⟨name, part, s, t, rfl, hs, ht, heq⟩
  · rwa [heq]
  · have hname := h name
    rw [hs] at hname
    obtain ⟨w, hw, hholds⟩ := hname
    have hfield := hholds.field part
    rw [ht] at hfield
    have hpart : ∃ x, w.attribute? part = some x ∧ t.Holds x := by
      rw [Expr.eval, Expr.eval, hw] at heval
      exact exists_attribute_of_isTrue hfield (eq_of_partOf heval ▸ htrue)
    intro other
    rw [heq, List.singleton_append, lookup_cons_eq_ite]
    split
    · rename_i hother
      rw [hother]
      exact ⟨w, hw, hpart, hholds⟩
    · exact h other

/-! ## Accepted pieces do not fail -/

/-- What a piece leaves: outer frames as they were, and variables as described. -/
def Leaves (vars : Vars) (outer : Frames) (r : Frames × List Char) : Prop :=
  ∃ inner, r.1 = inner :: outer ∧ Describes vars r.1

theorem Leaves.mono {vars vars' : Vars} {outer : Frames} {r : Frames × List Char}
    (h : Leaves vars outer r) (hvars : ∀ frames, Describes vars frames → Describes vars' frames) :
    Leaves vars' outer r := by
  obtain ⟨inner, heq, hdescribes⟩ := h
  exact ⟨inner, heq, hvars _ hdescribes⟩

/-- What a checker says of inclusions is what an environment does. -/
structure Checker.Sound (c : Checker) (env : Env) : Prop where
  level : env.level = c.level
  embed : ∀ {name : String} {vars assigned : Vars} {inner : List (String × Value)} {outer : Frames},
    c.embed outer.length vars name = some assigned → Describes vars (inner :: outer) →
      Succeeds (env.embed (inner :: outer) (.str name)) (Leaves (assigned ++ vars) outer)

/-- **A loop does not fail if its body does not**, and leaves the outer frames as they were. -/
theorem each_of_body {body : Frames → Except Failure (Frames × List Char)} {name : String}
    {item : Shape} {vars : Vars} {outer : Frames}
    (hbody : ∀ inner, Describes ((name, some item) :: vars) (inner :: outer) →
      Succeeds (body (inner :: outer)) (Leaves ((name, some item) :: vars) outer))
    {values : List Value} (hvalues : ∀ v ∈ values, item.Holds v) {inner : List (String × Value)}
    (h : ∀ other, other ≠ name → Agrees (vars.lookup other) (lookup? (inner :: outer) other)) :
    Succeeds (each body name values (inner :: outer)) fun r => r.1.tail = outer := by
  induction values generalizing inner with
  | nil => exact .ok rfl
  | cons v values ih =>
    rw [each]
    have hassign := describes_assign (hvalues v List.mem_cons_self) h
    refine (hbody _ hassign).bind ?_
    rintro ⟨_, out⟩ ⟨inner', rfl, hinner'⟩
    -- the next round begins with the variables that this one left, where only `name` is replaced
    have hnext : ∀ other, other ≠ name →
        Agrees (vars.lookup other) (lookup? (inner' :: outer) other) := by
      intro other hne
      have hother := hinner' other
      rwa [lookup_cons_eq_ite, if_neg hne] at hother
    refine (ih (fun w hw => hvalues w (List.mem_cons_of_mem _ hw)) hnext).bind ?_
    rintro ⟨frames, more⟩ hframes
    exact .ok hframes

theorem exists_name_of_check_embed {c : Checker} {outer : Nat} {vars assigned : Vars} {name : Expr}
    (h : (Stmt.embed name).check c outer vars = some assigned) :
    ∃ file, name = .literal (.str file) ∧ c.embed outer vars file = some assigned := by
  cases name with
  | literal v =>
    cases v with
    | str file => exact ⟨file, rfl, h⟩
    | _ => cases h
  | _ => cases h

mutual

/-- **An accepted piece runs without failure**, changes the innermost frame only, and leaves the
variables as described. -/
theorem Stmt.run_of_check {c : Checker} {env : Env} (hc : c.Sound env) :
    ∀ (stmt : Stmt) {vars assigned : Vars} {inner : List (String × Value)} {outer : Frames},
      stmt.check c outer.length vars = some assigned → Describes vars (inner :: outer) →
        Succeeds (stmt.run env (inner :: outer)) (Leaves (assigned ++ vars) outer)
  | .text content, vars, assigned, inner, outer, hcheck, h => by
    cases hcheck
    exact .ok ⟨inner, rfl, h⟩
  | .emit expr, vars, assigned, inner, outer, hcheck, h => by
    simp only [Stmt.check, Option.bind_eq_bind, Option.bind_eq_some_iff] at hcheck
    obtain ⟨s, hs, hcheck⟩ := hcheck
    cases hcheck
    rw [Stmt.run]
    exact (Expr.eval_of_shape h env expr hs).bind fun v _ => .ok ⟨inner, rfl, h⟩
  | .set name expr, vars, assigned, inner, outer, hcheck, h => by
    simp only [Stmt.check, Option.bind_eq_bind, Option.bind_eq_some_iff] at hcheck
    obtain ⟨s, hs, hcheck⟩ := hcheck
    cases hcheck
    rw [Stmt.run]
    refine (Expr.eval_of_shape h env expr hs).bind fun v hv => ?_
    exact .ok ⟨_, rfl, describes_assign hv fun other _ => h other⟩
  | .embed name, vars, assigned, inner, outer, hcheck, h => by
    obtain ⟨file, rfl, hcheck⟩ := exists_name_of_check_embed hcheck
    rw [Stmt.run, Expr.eval]
    exact hc.embed hcheck h
  | .branch cond yes no, vars, assigned, inner, outer, hcheck, h => by
    simp only [Stmt.check, Option.bind_eq_bind, Option.bind_eq_some_iff] at hcheck
    obtain ⟨s, hs, a, ha, b, hb, hcheck⟩ := hcheck
    cases hcheck
    obtain ⟨v, heval, _⟩ := Expr.eval_of_shape h env cond hs
    rw [Stmt.run]
    refine .bind_of_ok heval ?_
    split
    · rename_i htrue
      refine (runAll_of_check hc yes ha (describes_narrowed h heval htrue)).mono fun r hr => ?_
      exact hr.mono fun frames =>
        describes_forget (List.subset_append_left a b) agrees_of_narrowed
    · refine (runAll_of_check hc no hb h).mono fun r hr => ?_
      exact hr.mono fun frames => describes_forget (List.subset_append_right a b) fun _ _ => id
  | .loop name items body empty, vars, assigned, inner, outer, hcheck, h => by
    simp only [Stmt.check, Option.bind_eq_bind, Option.bind_eq_some_iff] at hcheck
    obtain ⟨s, hs, item, hitem, a, ha, b, hb, hcheck⟩ := hcheck
    split at hcheck
    · rename_i hdepth
      cases hcheck
      simp only [Bool.and_eq_true, List.isEmpty_iff, decide_eq_true_eq] at hdepth
      obtain ⟨rfl, hdepth⟩ := hdepth
      rw [Stmt.run]
      refine (Expr.eval_of_shape h env items hs).bind fun v hv => ?_
      refine (hv.elements hitem).bind fun values hvalues => ?_
      rw [if_neg (by rw [hc.level, List.length_cons]; omega)]
      split
      · refine (runAll_of_check hc empty hb h).mono fun r hr => ?_
        exact hr.mono fun frames => describes_forget (List.Subset.refl b) fun _ _ => id
      · have hround : checkAll c (inner :: outer).length ((name, some item) :: vars) body = some [] := ha
        have hbody : ∀ fs, Describes ((name, some item) :: vars) (fs :: inner :: outer) →
            Succeeds (runAll env (fs :: inner :: outer) body)
              (Leaves ((name, some item) :: vars) (inner :: outer)) :=
          fun fs hfs => runAll_of_check hc body hround hfs
        refine (each_of_body hbody hvalues ?_).bind ?_
        · exact fun other _ => h other
        · rintro ⟨frames, out⟩ hframes
          refine .ok ⟨inner, hframes, ?_⟩
          rw [hframes]
          exact describes_forget (List.nil_subset b) (fun _ _ => id) h
    · cases hcheck

theorem runAll_of_check {c : Checker} {env : Env} (hc : c.Sound env) :
    ∀ (stmts : List Stmt) {vars assigned : Vars} {inner : List (String × Value)} {outer : Frames},
      checkAll c outer.length vars stmts = some assigned → Describes vars (inner :: outer) →
        Succeeds (runAll env (inner :: outer) stmts) (Leaves (assigned ++ vars) outer)
  | [], vars, assigned, inner, outer, hcheck, h => by
    cases hcheck
    exact .ok ⟨inner, rfl, h⟩
  | stmt :: rest, vars, assigned, inner, outer, hcheck, h => by
    simp only [checkAll, Option.bind_eq_bind, Option.bind_eq_some_iff] at hcheck
    obtain ⟨a, ha, b, hb, hcheck⟩ := hcheck
    cases hcheck
    rw [runAll, List.append_assoc]
    refine (Stmt.run_of_check hc stmt ha h).bind ?_
    rintro ⟨_, out⟩ ⟨inner', rfl, hinner'⟩
    refine (runAll_of_check hc rest hb hinner').bind ?_
    rintro ⟨frames, more⟩ hframes
    exact .ok hframes

end

/-! ## Accepted templates of a set -/

/-- An inclusion by name gives what the template of this name gives. -/
theorem embedFirst_of_lookup {templates : TemplateSet}
    {run : String → Body → Except Failure (Frames × List Char)} {frames : Frames} {name : String}
    {template : Body} (hlookup : templates.lookup name = some template)
    {P : Frames × List Char → Prop} (hrun : Succeeds (run name template) P) :
    Succeeds (embedFirst templates false run frames false (choices (.str name))) P := by
  obtain ⟨r, hr, hP⟩ := hrun
  refine ⟨r, ?_, hP⟩
  simp [choices, embedFirst, Value.string?, hlookup, hr]

/-- **An accepted template of a set runs without failure**, with all that it includes. -/
theorem renderWithin_of_check (templates : TemplateSet) (s : Setting) {fuel level : Nat}
    {name : String} {template : Body} {vars assigned : Vars} {inner : List (String × Value)}
    {outer : Frames}
    (hcheck : checkWithin templates fuel level outer.length vars template = some assigned)
    (h : Describes vars (inner :: outer)) :
    Succeeds (renderWithin templates s fuel level (inner :: outer) name template)
      (Leaves (assigned ++ vars) outer) := by
  -- induction on how deep templates may include each other: it bounds checking and running alike
  induction fuel generalizing level name template vars assigned inner outer with
  | zero => cases hcheck
  | succ fuel ih =>
    rw [checkWithin] at hcheck
    rw [renderWithin]
    refine runAll_of_check ⟨rfl, ?_⟩ template hcheck h
    intro file vars assigned inner outer hembed h
    simp only at hembed
    split at hembed
    · cases hembed
    · rename_i hdepth
      obtain ⟨included, hlookup, hincluded⟩ := Option.bind_eq_some_iff.mp hembed
      simp only [List.length_cons, decide_eq_false hdepth]
      exact embedFirst_of_lookup hlookup (ih hincluded h)

/-- Whether a template of a set is accepted for data of a shape. -/
def acceptsPage (templates : TemplateSet) (data : Shape) (template : Body) : Bool :=
  (checkWithin templates (depthLimit / includeCost + 1) 0 0 [("data", some data)] template).isSome

/-- **An accepted template is rendered** for all data of the shape. -/
theorem render_of_accepts {templates : TemplateSet} {shape : Shape} {template : Body}
    (haccepts : acceptsPage templates shape template = true) (s : Setting) (name : String)
    {data : Value} (hdata : shape.Holds data) :
    ∃ body, render templates s name template data = .ok body := by
  obtain ⟨assigned, hcheck⟩ := Option.isSome_iff_exists.mp haccepts
  have hdescribes : Describes [("data", some shape)] [[("data", data)]] := by
    intro other
    rw [lookup_cons_eq_ite, lookup?_cons, lookup_cons_eq_ite]
    split
    · exact ⟨data, rfl, hdata⟩
    · exact rfl
  obtain ⟨⟨frames, out⟩, hrender, _⟩ := renderWithin_of_check templates s hcheck hdescribes
  refine ⟨String.ofList out, ?_⟩
  rw [render, hrender]
  rfl

/-- The age of a package without an update cannot be shown; a condition has to guard it. -/
example :
    let updated : Expr := .attr (.var "data") "updated"
    let age : Stmt := .emit (.call (.var "relativeTime") [updated])
    acceptsPage [] (.record .package) [age] = false ∧
    acceptsPage [] (.record .package) [.branch updated [age] []] = true := by
  decide +kernel

end DocPress.Template
