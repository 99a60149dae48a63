import DocPress.Proofs.Template.Showing

/-!
# What templates depend on

Whether a template looks at a part of its data can be read off the template too. Two runs are
compared, on data that differ only in what a path reaches: the difference is followed through accesses
and loops, and nothing that is printed, asked or called may depend on it.

* `Alike` — two computations end alike, with the same failure or with related results.
* `Differ` — two values differ at most in what a path reaches.
* `Traces`, `Twins` — where variables may differ, and frames that differ nowhere else.
* `Expr.trace?` — where the value of an expression may differ; `Expr.itemTrace?` — where the items of
  a list may.
* `Stmt.ignores`, `ignoresAll` — pieces whose output does not depend on the differences.

Principal results: `Expr.alike_eval`, `Stmt.alike_run` — the two runs end alike;
`pageOf_eq_of_differ` — a page does not change with what its template ignores.
-/

namespace DocPress.Template

/-! ## Two computations -/

/-- Two computations end alike: with the same failure, or with related results. -/
def Alike {α β : Type} (R : α → β → Prop) : Except Failure α → Except Failure β → Prop
  | .ok a, .ok b => R a b
  | .error e, .error e' => e = e'
  | _, _ => False

section
variable {α β : Type} {R : α → β → Prop}

theorem Alike.bind {γ δ : Type} {S : γ → δ → Prop} {first : Except Failure α}
    {first' : Except Failure β} {next : α → Except Failure γ} {next' : β → Except Failure δ}
    (h : Alike R first first') (hnext : ∀ a b, R a b → Alike S (next a) (next' b)) :
    Alike S (first >>= next) (first' >>= next') := by
  cases first with
  | error e =>
    cases first' with
    | error e' => exact h
    | ok b => exact h.elim
  | ok a =>
    cases first' with
    | error e' => exact h.elim
    | ok b => exact hnext a b h

theorem Alike.mono {S : α → β → Prop} {x : Except Failure α} {y : Except Failure β}
    (h : Alike R x y) (hmono : ∀ a b, R a b → S a b) : Alike S x y := by
  cases x <;> cases y
  · exact h
  · exact h
  · exact h
  · exact hmono _ _ h

theorem Alike.map_eq {γ : Type} {x : Except Failure α} {y : Except Failure β} (h : Alike R x y)
    {p : α → γ} {q : β → γ} (hmap : ∀ a b, R a b → p a = q b) : x.map p = y.map q := by
  cases x <;> cases y
  · exact congrArg Except.error h
  · exact h.elim
  · exact h.elim
  · exact congrArg Except.ok (hmap _ _ h)

theorem alike_of_eq {x y : Except Failure α} {R : α → α → Prop} (hrefl : ∀ a, R a a) (h : x = y) :
    Alike R x y := by
  subst h
  cases x
  · exact rfl
  · exact hrefl _

theorem Alike.eq {x y : Except Failure α} (h : Alike (· = ·) x y) : x = y := by
  have hmap := h.map_eq (p := id) (q := id) fun _ _ heq => heq
  cases x <;> cases y <;> exact hmap

end

/-! ## Two values -/

/-- Two values differ at most in what a path reaches. -/
def Differ : Path → Value → Value → Prop
  | [], _, _ => True
  | .attr name :: rest, v, w =>
    (∀ other, other ≠ name → v.attribute? other = w.attribute? other) ∧
      ∃ u u', v.attribute? name = some u ∧ w.attribute? name = some u' ∧ Differ rest u u'
  | .items :: rest, v, w => ∃ us us', v = .list us ∧ w = .list us' ∧ List.Forall₂ (Differ rest) us us'

/-- Two values are the same, or differ at most in what a path reaches. -/
def DifferAt : Option Path → Value → Value → Prop
  | none, v, w => v = w
  | some path, v, w => Differ path v w

/-! ## Two runs -/

/-- Where variables may differ. One without a path does not, nor does one that is not listed. -/
abbrev Traces := List (String × Option Path)

/-- Where a variable may differ. -/
def Traces.of (vars : Traces) (name : String) : Option Path := (vars.lookup name).join

/-- What a variable stands for differs at most in what a path reaches. -/
def LookupsDiffer : Option Path → Option Value → Option Value → Prop
  | none, v, w => v = w
  | some path, v, w => ∃ u u', v = some u ∧ w = some u' ∧ Differ path u u'

/-- Frames that differ at most where the traces say. -/
structure Twins (x : String) (off : List String) (vars : Traces) (f g : Frames) : Prop where
  length : f.length = g.length
  lookups : ∀ name, LookupsDiffer (vars.of name) (lookup? f name) (lookup? g name)
  /-- The attributes of `x` that are off in both. -/
  off : (∃ v, lookup? f x = some v ∧ AreOff off v) ∧ ∃ w, lookup? g x = some w ∧ AreOff off w

mutual

/-- Where the value of an expression may differ; none if this cannot be told. -/
def Expr.trace? (vars : Traces) : Expr → Option (Option Path)
  | .literal _ => some none
  | .var name => some (vars.of name)
  | .attr target name =>
    match target.trace? vars with
    | some none => some none
    | some (some (.attr other :: rest)) => if other = name then some (some rest) else some none
    | _ => none
  | .call (.var _) args => if sameAll vars args then some none else none
  | .list items => if sameAll vars items then some none else none
  | .not operand =>
    match operand.trace? vars with
    | some none => some none
    | _ => none
  | _ => none

/-- Whether the values of expressions do not differ. -/
def sameAll (vars : Traces) : List Expr → Bool
  | [] => true
  | e :: rest =>
    match e.trace? vars with
    | some none => sameAll vars rest
    | _ => false

end

/-- Where the items that an expression gives may differ, if their number does not. -/
def Expr.itemTrace? (vars : Traces) (e : Expr) : Option (Option Path) :=
  match e.trace? vars with
  | some none => some none
  | some (some (.items :: rest)) => some (some rest)
  | _ => none

mutual

/-- Whether the output of a piece does not depend on where variables differ. The attributes `off` of
`x` are false, so of some branches only one part is looked at. -/
def Stmt.ignores (x : String) (off : List String) (vars : Traces) : Stmt → Bool
  | .text _ => true
  | .emit e => e.trace? vars == some none
  | .set _ _ => false
  | .embed _ => false
  | .branch cond yes no =>
    if cond.isOff x off then ignoresAll x off vars no
    else if cond.isOn x off then ignoresAll x off vars yes
    else (cond.itemTrace? vars).isSome && ignoresAll x off vars yes && ignoresAll x off vars no
  | .loop name items body empty =>
    match items.itemTrace? vars with
    | some trace => name != x && ignoresAll x off ((name, trace) :: vars) body &&
        ignoresAll x off vars empty
    | none => false

/-- Whether the output of pieces does not depend on where variables differ. -/
def ignoresAll (x : String) (off : List String) (vars : Traces) : List Stmt → Bool
  | [] => true
  | stmt :: rest => stmt.ignores x off vars && ignoresAll x off vars rest

end

section Expressions
variable {x : String} {off : List String} {vars : Traces} {f g : Frames}

theorem Twins.differAt_lookup (h : Twins x off vars f g) (name : String) :
    DifferAt (vars.of name) ((lookup? f name).getD .undefined)
      ((lookup? g name).getD .undefined) := by
  have hname := h.lookups name
  cases htrace : vars.of name with
  | none =>
    rw [htrace] at hname
    exact congrArg (fun v : Option Value => v.getD .undefined) hname
  | some path =>
    rw [htrace] at hname
    obtain ⟨u, u', hu, hu', hdiffer⟩ := hname
    rw [hu, hu']
    exact hdiffer

/-- A variable hides a helper in both runs or in none. -/
theorem Twins.callNamed_eq (h : Twins x off vars f g) (env : Env) (name : String)
    (values : List Value) : callNamed env f name values = callNamed env g name values := by
  have hname := h.lookups name
  unfold callNamed
  cases htrace : vars.of name with
  | none =>
    rw [htrace] at hname
    have heq : lookup? f name = lookup? g name := hname
    rw [heq]
  | some path =>
    rw [htrace] at hname
    obtain ⟨u, u', hu, hu', -⟩ := hname
    rw [hu, hu']

mutual

/-- **The value of an expression differs at most where its trace says.** -/
theorem Expr.alike_eval (h : Twins x off vars f g) (env : Env) :
    ∀ (e : Expr) {trace : Option Path}, e.trace? vars = some trace →
      Alike (DifferAt trace) (e.eval env f) (e.eval env g)
  | .literal v, trace, htrace => by
    cases htrace
    exact rfl
  | .var name, trace, htrace => by
    cases htrace
    rw [Expr.eval, Expr.eval]
    exact h.differAt_lookup name
  | .attr target name, trace, htrace => by
    rw [Expr.eval, Expr.eval]
    rw [Expr.trace?] at htrace
    split at htrace
    · rename_i htarget
      cases htrace
      refine (Expr.alike_eval h env target htarget).bind fun v w hvw => ?_
      exact alike_of_eq (fun _ => rfl) (by rw [show v = w from hvw])
    · rename_i other rest htarget
      refine (Expr.alike_eval h env target htarget).bind fun v w hvw => ?_
      obtain ⟨hothers, u, u', hu, hu', hdiffer⟩ := hvw
      split at htrace
      · rename_i hname
        subst hname
        cases htrace
        rw [hu, hu']
        exact hdiffer
      · rename_i hname
        cases htrace
        obtain ⟨entries, rfl⟩ := exists_map_of_attribute? hu
        obtain ⟨entries', rfl⟩ := exists_map_of_attribute? hu'
        rw [partOf_of_defined (fun h => by cases h), partOf_of_defined (fun h => by cases h),
          hothers name (Ne.symm hname)]
        exact rfl
    · cases htrace
  | .call (.var name) args, trace, htrace => by
    rw [Expr.trace?] at htrace
    split at htrace
    · rename_i hsame
      cases htrace
      rw [Expr.eval, Expr.eval, evalAll_eq h env args hsame]
      exact alike_of_eq (fun _ => rfl) (by simp only [h.callNamed_eq env name])
    · cases htrace
  | .list items, trace, htrace => by
    rw [Expr.trace?] at htrace
    split at htrace
    · rename_i hsame
      cases htrace
      rw [Expr.eval, Expr.eval, evalAll_eq h env items hsame]
      exact alike_of_eq (fun _ => rfl) rfl
    · cases htrace
  | .not operand, trace, htrace => by
    rw [Expr.trace?] at htrace
    split at htrace
    · rename_i hoperand
      cases htrace
      rw [Expr.eval, Expr.eval]
      refine (Expr.alike_eval h env operand hoperand).bind fun v w hvw => ?_
      exact alike_of_eq (fun _ => rfl) (by rw [show v = w from hvw])
    · cases htrace

theorem evalAll_eq (h : Twins x off vars f g) (env : Env) :
    ∀ (es : List Expr), sameAll vars es = true → evalAll env f es = evalAll env g es
  | [], _ => rfl
  | e :: rest, hsame => by
    rw [sameAll] at hsame
    split at hsame
    · rename_i htrace
      have heq : e.eval env f = e.eval env g := Alike.eq (Expr.alike_eval h env e htrace)
      rw [evalAll, evalAll, heq, evalAll_eq h env rest hsame]
    · cases hsame

end

/-- Where items may differ but not their number, the truth is the same, and a loop goes through items
that differ there. -/
theorem Expr.alike_items (h : Twins x off vars f g) (env : Env) {e : Expr} {trace : Option Path}
    (htrace : e.itemTrace? vars = some trace) :
    Alike (fun v w => v.isTrue = w.isTrue ∧
      Alike (List.Forall₂ (DifferAt trace)) v.elements w.elements) (e.eval env f) (e.eval env g) := by
  unfold Expr.itemTrace? at htrace
  split at htrace
  · rename_i hsame
    cases htrace
    refine (Expr.alike_eval h env e hsame).mono ?_
    rintro v _ rfl
    refine ⟨rfl, alike_of_eq (fun values => ?_) rfl⟩
    exact List.forall₂_same.mpr fun _ _ => rfl
  · rename_i rest hitems
    cases htrace
    refine (Expr.alike_eval h env e hitems).mono ?_
    rintro _ _ ⟨us, us', rfl, rfl, hdiffer⟩
    refine ⟨?_, hdiffer⟩
    cases hdiffer <;> rfl
  · cases htrace

end Expressions

/-! ## Pieces -/

/-- Two runs leave their variables as they were, with the same output. -/
def SameOutput (f g : Frames) (r r' : Frames × List Char) : Prop := r.1 = f ∧ r'.1 = g ∧ r.2 = r'.2

section Pieces
variable {x : String} {off : List String} {vars : Traces} {f g : Frames}

theorem assign_within {name : String} {inner : List (String × Value)} (h : ∀ e ∈ inner, e.1 = name)
    (v : Value) (outer : Frames) : assign name v (inner :: outer) = [(name, v)] :: outer := by
  have hnone : inner.filter (fun e => e.1 != name) = [] :=
    List.filter_eq_nil_iff.mpr fun e he => by simp [h e he]
  rw [assign, hnone]

/-- In a round of a loop its variable differs where the items do. -/
theorem Twins.round (h : Twins x off vars f g) {name : String} (hname : name ≠ x)
    {trace : Option Path} {v w : Value} (hvw : DifferAt trace v w) :
    Twins x off ((name, trace) :: vars) ([(name, v)] :: f) ([(name, w)] :: g) where
  length := by rw [List.length_cons, List.length_cons, h.length]
  lookups := by
    intro other
    rw [Traces.of, lookup_cons_eq_ite, lookup?_cons, lookup?_cons, lookup_cons_eq_ite,
      lookup_cons_eq_ite]
    split
    · cases trace with
      | none => exact congrArg some hvw
      | some path => exact ⟨v, w, rfl, rfl, hvw⟩
    · exact h.lookups other
  off := by
    have hx : ∀ (u : Value) (frames : Frames),
        lookup? ([(name, u)] :: frames) x = lookup? frames x := by
      intro u frames
      rw [lookup?_cons, lookup_cons_eq_ite, if_neg (Ne.symm hname)]
      rfl
    rw [hx, hx]
    exact h.off

/-- **A loop ends alike** if its rounds do. -/
theorem alike_each {body : Frames → Except Failure (Frames × List Char)} {name : String}
    {trace : Option Path} (h : Twins x off vars f g) (hname : name ≠ x)
    (hbody : ∀ {fs gs : Frames}, Twins x off ((name, trace) :: vars) fs gs →
      Alike (SameOutput fs gs) (body fs) (body gs)) {vs ws : List Value}
    (hvalues : List.Forall₂ (DifferAt trace) vs ws) {inner inner' : List (String × Value)}
    (hinner : ∀ e ∈ inner, e.1 = name) (hinner' : ∀ e ∈ inner', e.1 = name) :
    Alike (fun r r' => r.1.tail = f ∧ r'.1.tail = g ∧ r.2 = r'.2)
      (each body name vs (inner :: f)) (each body name ws (inner' :: g)) := by
  induction hvalues generalizing inner inner' with
  | nil => exact ⟨rfl, rfl, rfl⟩
  | cons hvw _ ih =>
    rw [each, each, assign_within hinner, assign_within hinner']
    refine (hbody (h.round hname hvw)).bind ?_
    rintro ⟨_, out⟩ ⟨_, _⟩ ⟨rfl, rfl, rfl⟩
    refine (ih (by simp) (by simp)).bind ?_
    rintro ⟨last, more⟩ ⟨last', _⟩ ⟨hlast, hlast', rfl⟩
    exact ⟨hlast, hlast', rfl⟩

mutual

/-- **The output of a piece is the same in both runs** if it ignores where they differ. -/
theorem Stmt.alike_run (env : Env) : ∀ (stmt : Stmt) {vars : Traces} {f g : Frames},
    stmt.ignores x off vars = true → Twins x off vars f g →
      Alike (SameOutput f g) (stmt.run env f) (stmt.run env g)
  | .text content, vars, f, g, _, _ => ⟨rfl, rfl, rfl⟩
  | .emit e, vars, f, g, hignores, h => by
    rw [Stmt.run, Stmt.run]
    refine (Expr.alike_eval h env e (beq_iff_eq.mp hignores)).bind ?_
    rintro v _ rfl
    exact ⟨rfl, rfl, rfl⟩
  | .branch cond yes no, vars, f, g, hignores, h => by
    obtain ⟨⟨v, hv, hoff⟩, w, hw, hoff'⟩ := h.off
    rw [Stmt.run, Stmt.run]
    rw [Stmt.ignores] at hignores
    split at hignores
    · rename_i hcond
      obtain ⟨flag, hflag, hfalse⟩ := Expr.exists_eval_of_isOff env hcond hv hoff
      obtain ⟨flag', hflag', hfalse'⟩ := Expr.exists_eval_of_isOff env hcond hw hoff'
      rw [hflag, hflag']
      change Alike _ (if flag.isTrue then _ else _) (if flag'.isTrue then _ else _)
      rw [hfalse, hfalse']
      exact alike_runAll env no hignores h
    · split at hignores
      · rename_i hcond
        obtain ⟨flag, hflag, htrue⟩ := Expr.exists_eval_of_isOn env hcond hv hoff
        obtain ⟨flag', hflag', htrue'⟩ := Expr.exists_eval_of_isOn env hcond hw hoff'
        rw [hflag, hflag']
        change Alike _ (if flag.isTrue then _ else _) (if flag'.isTrue then _ else _)
        rw [htrue, htrue']
        exact alike_runAll env yes hignores h
      · simp only [Bool.and_eq_true] at hignores
        obtain ⟨⟨hcond, hyes⟩, hno⟩ := hignores
        obtain ⟨trace, htrace⟩ := Option.isSome_iff_exists.mp hcond
        refine (Expr.alike_items h env htrace).bind ?_
        rintro v w ⟨htruth, -⟩
        rw [htruth]
        split
        · exact alike_runAll env yes hyes h
        · exact alike_runAll env no hno h
  | .loop name items body empty, vars, f, g, hignores, h => by
    rw [Stmt.ignores] at hignores
    split at hignores
    · rename_i trace htrace
      simp only [Bool.and_eq_true, bne_iff_ne] at hignores
      obtain ⟨⟨hname, hbody⟩, hempty⟩ := hignores
      rw [Stmt.run, Stmt.run, h.length]
      refine (Expr.alike_items h env htrace).bind ?_
      rintro v w ⟨-, helements⟩
      refine helements.bind fun vs ws hvalues => ?_
      split
      · exact rfl
      · cases hvalues with
        | nil => exact alike_runAll env empty hempty h
        | cons hvw hrest =>
          refine (alike_each h hname (fun ht => alike_runAll env body hbody ht) (.cons hvw hrest)
            (by simp) (by simp)).bind ?_
          rintro ⟨last, out⟩ ⟨last', _⟩ ⟨hlast, hlast', rfl⟩
          exact ⟨hlast, hlast', rfl⟩
    · cases hignores

theorem alike_runAll (env : Env) : ∀ (stmts : List Stmt) {vars : Traces} {f g : Frames},
    ignoresAll x off vars stmts = true → Twins x off vars f g →
      Alike (SameOutput f g) (runAll env f stmts) (runAll env g stmts)
  | [], vars, f, g, _, _ => ⟨rfl, rfl, rfl⟩
  | stmt :: rest, vars, f, g, hignores, h => by
    obtain ⟨hstmt, hrest⟩ := Bool.and_eq_true_iff.mp hignores
    rw [runAll, runAll]
    refine (Stmt.alike_run env stmt hstmt h).bind ?_
    rintro ⟨_, out⟩ ⟨_, _⟩ ⟨rfl, rfl, rfl⟩
    refine (alike_runAll env rest hrest h).bind ?_
    rintro ⟨_, more⟩ ⟨_, _⟩ ⟨rfl, rfl, rfl⟩
    exact ⟨rfl, rfl, rfl⟩

end

end Pieces

/-! ## Pages -/

/-- Whether the template of a name ignores all that paths from its data reach. -/
def ignoresNamed (templates : TemplateSet) (off : List String) (paths : List Path) (name : String) :
    Bool :=
  match templates.lookup name with
  | some template => paths.all fun path => ignoresAll "data" off [("data", some path)] template
  | none => false

/-- **A page does not change** with what its template ignores. -/
theorem pageOf_eq_of_differ {templates : TemplateSet} {off : List String} {paths : List Path}
    {name : String} (hignores : ignoresNamed templates off paths name = true) (s : Setting)
    {path : Path} (hpath : path ∈ paths) {data data' : Value} (hdiffer : Differ path data data')
    (hoff : AreOff off data) (hoff' : AreOff off data') :
    pageOf s templates name data = pageOf s templates name data' := by
  unfold ignoresNamed at hignores
  split at hignores
  · rename_i template hlookup
    have htwins : Twins "data" off [("data", some path)] [[("data", data)]] [[("data", data')]] := by
      refine ⟨rfl, ?_, ⟨data, rfl, hoff⟩, ⟨data', rfl, hoff'⟩⟩
      intro other
      rw [Traces.of, lookup_cons_eq_ite, lookup?_cons, lookup?_cons, lookup_cons_eq_ite,
        lookup_cons_eq_ite]
      split
      · exact ⟨data, data', rfl, rfl, hdiffer⟩
      · exact rfl
    have halike := alike_runAll (pageEnv templates s name) template
      (List.all_eq_true.mp hignores path hpath) htwins
    have hrender :
        render templates s name template data = render templates s name template data' := by
      rw [render_eq_map, render_eq_map]
      refine halike.map_eq ?_
      rintro ⟨_, out⟩ ⟨_, _⟩ ⟨-, -, rfl⟩
      rfl
    simp only [pageOf, hlookup, hrender]
  · cases hignores

end DocPress.Template
