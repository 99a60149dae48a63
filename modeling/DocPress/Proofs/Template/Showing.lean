import DocPress.Proofs.Template.Expression
import DocPress.Template.Registry

/-!
# What templates show

Whether a template prints a part of its data can be read off the template. The search follows a path
from a variable: an access takes a step of it, a loop goes to the items, and a condition is passed if
it has to be true, as a list with an item is.

* `Step`, `Path`, `Reaches` — parts of values, and the way to them.
* `Expr.rest?`, `Expr.roundRests` — what is left of a path for the value of an expression, and for the
  variable of a loop.
* `Display`, `Display.Gives` — printed as it is, or what a helper makes of it.
* `Stmt.isQuiet`, `quietAll` — pieces that assign nothing.
* `Stmt.shows`, `showsAll` — pieces that print all that a path reaches.

Principal results: `Stmt.frames_of_isQuiet` — quiet pieces leave the variables as they were;
`Stmt.infix_of_shows` — what a path reaches stands in the output of a piece that shows it.
-/

namespace DocPress.Template

/-! ## Paths into values -/

/-- A step from a value to a part of it: an attribute, or any item of a list. -/
inductive Step where
  | attr (name : String)
  | items
  deriving DecidableEq, Repr

/-- The way to parts of a value. -/
abbrev Path := List Step

/-- A path leads from a value to another. -/
def Reaches : Path → Value → Value → Prop
  | [], v, w => v = w
  | .attr name :: rest, v, w => ∃ u, v.attribute? name = some u ∧ Reaches rest u w
  | .items :: rest, v, w => ∃ us, v = .list us ∧ ∃ u ∈ us, Reaches rest u w

/-- What is left of a path from the variable `x` after an expression has gone its part of it. -/
def Expr.rest? (x : String) (path : Path) : Expr → Option Path
  | .var name => if name = x then some path else none
  | .attr target name =>
    match target.rest? x path with
    | some (.attr other :: rest) => if other = name then some rest else none
    | _ => none
  | _ => none

/-- Whether no key among alternating keys and values is this one. -/
def avoidsKey (key : String) : List Expr → Bool
  | [] => true
  | .literal (.str other) :: _ :: more => other != key && avoidsKey key more
  | _ => false

/-- What is left of a path in a map of alternating keys and values. -/
def entryRest? (x : String) (path : Path) : List Expr → Option Path
  | .literal (.str key) :: value :: more =>
    match value.rest? x path with
    | some rest => if avoidsKey key more then some (.attr key :: rest) else none
    | none => entryRest? x path more
  | _ => none

/-- What is left of a path for an item of a list that is written out. -/
def Expr.part? (x : String) (path : Path) : Expr → Option Path
  | .call (.var name) args => if name = "map" then entryRest? x path args else none
  | e => e.rest? x path

/-- What may be left of a path for the variable of a loop. -/
def Expr.roundRests (x : String) (path : Path) : Expr → List Path
  | .list es => es.filterMap (Expr.part? x path)
  | e =>
    match e.rest? x path with
    | some (.items :: rest) => [rest]
    | _ => []

section Paths
variable {env : Env} {frames : Frames} {x : String} {path rest : Path} {v w u : Value}

/-- The value of an expression stands where the rest of the path begins. -/
theorem Expr.reaches_of_rest? {e : Expr} (h : e.rest? x path = some rest)
    (hx : lookup? frames x = some v) (hw : Reaches path v w) (heval : e.eval env frames = .ok u) :
    Reaches rest u w := by
  fun_induction Expr.rest? x path e generalizing rest u with
  | case1 =>
    cases h
    rw [Expr.eval, hx] at heval
    cases heval
    exact hw
  | case2 => cases h
  | case3 target name rest' htarget ih =>
    cases h
    rw [Expr.eval] at heval
    obtain ⟨t, ht, hpart⟩ := exists_of_bind_eq_ok heval
    obtain ⟨u', hattr, hrest⟩ := ih htarget ht
    rw [hattr] at hpart
    cases hpart
    exact hrest
  | case4 => cases h
  | case5 => cases h
  | case6 => cases h

theorem evalAll_entry_ok {key : String} {value : Expr} {more : List Expr} {values : List Value}
    (h : evalAll env frames (.literal (.str key) :: value :: more) = .ok values) :
    ∃ u rest, value.eval env frames = .ok u ∧ evalAll env frames more = .ok rest ∧
      values = .str key :: u :: rest := by
  obtain ⟨k, tail, hk, htail, rfl⟩ := evalAll_cons_ok h
  obtain ⟨u, rest, hu, hrest, rfl⟩ := evalAll_cons_ok htail
  cases hk
  exact ⟨u, rest, hu, hrest, rfl⟩

/-- Keys that come later leave the others as they are. -/
theorem lookup_mapFrom_of_avoidsKey {key : String} {args : List Expr} (h : avoidsKey key args = true)
    {values : List Value} (heval : evalAll env frames args = .ok values) {position : Nat}
    {entries entries' : List (String × Value)}
    (hmap : mapFrom position entries values = .ok entries') :
    entries'.lookup key = entries.lookup key := by
  fun_induction avoidsKey key args generalizing values position entries with
  | case1 =>
    cases heval
    cases hmap
    rfl
  | case2 other value more ih =>
    obtain ⟨hne, hkeys⟩ := Bool.and_eq_true_iff.mp h
    obtain ⟨u, values, -, hmore, rfl⟩ := evalAll_entry_ok heval
    rw [ih hkeys hmore hmap, lookup_insert, if_neg fun heq => bne_iff_ne.mp hne heq.symm]
  | case3 => cases h

/-- The map of keys and values has the entry that the rest of the path begins with. -/
theorem reaches_of_entryRest? {args : List Expr} (h : entryRest? x path args = some rest)
    (hx : lookup? frames x = some v) (hw : Reaches path v w) {values : List Value}
    (heval : evalAll env frames args = .ok values) {position : Nat}
    {entries entries' : List (String × Value)}
    (hmap : mapFrom position entries values = .ok entries') :
    Reaches rest (.map entries') w := by
  fun_induction entryRest? x path args generalizing values position entries with
  | case1 key value more rest' hvalue havoids =>
    cases h
    obtain ⟨u, values, hu, hmore, rfl⟩ := evalAll_entry_ok heval
    refine ⟨u, ?_, Expr.reaches_of_rest? hvalue hx hw hu⟩
    rw [Value.attribute?, lookup_mapFrom_of_avoidsKey havoids hmore hmap, lookup_insert, if_pos rfl]
  | case2 => cases h
  | case3 key value more _ ih =>
    obtain ⟨u, values, -, hmore, rfl⟩ := evalAll_entry_ok heval
    exact ih h hmore hmap
  | case4 => cases h

theorem exists_mapFrom_of_callNamed {values : List Value}
    (h : callNamed env frames "map" values = .ok u) :
    ∃ entries, mapFrom 0 [] values = .ok entries ∧ u = .map entries := by
  unfold callNamed at h
  split at h
  · cases h
  · have hhelper : Helper.ofName? "map" = some .map := rfl
    simp only [hhelper, Helper.apply] at h
    split at h
    · rename_i entries hbuild
      cases h
      unfold buildMap at hbuild
      split at hbuild
      · exact ⟨entries, hbuild, rfl⟩
      · cases hbuild
    · cases h

theorem Expr.reaches_of_part? {e : Expr} (h : e.part? x path = some rest)
    (hx : lookup? frames x = some v) (hw : Reaches path v w) (heval : e.eval env frames = .ok u) :
    Reaches rest u w := by
  unfold Expr.part? at h
  split at h
  · rename_i name args
    split at h
    · rename_i hname
      subst hname
      rw [Expr.eval] at heval
      obtain ⟨values, hvalues, hcall⟩ := exists_of_bind_eq_ok heval
      obtain ⟨entries, hmap, rfl⟩ := exists_mapFrom_of_callNamed hcall
      exact reaches_of_entryRest? h hx hw hvalues hmap
    · cases h
  · exact reaches_of_rest? h hx hw heval

theorem exists_of_mem_evalAll {es : List Expr} {values : List Value}
    (h : evalAll env frames es = .ok values) {e : Expr} (he : e ∈ es) :
    ∃ item, e.eval env frames = .ok item ∧ item ∈ values := by
  induction es generalizing values with
  | nil => cases he
  | cons first es ih =>
    obtain ⟨item, rest, hitem, hrest, rfl⟩ := evalAll_cons_ok h
    rcases List.mem_cons.mp he with rfl | he
    · exact ⟨item, hitem, List.mem_cons_self⟩
    · obtain ⟨other, hother, hmem⟩ := ih hrest he
      exact ⟨other, hother, List.mem_cons_of_mem _ hmem⟩

/-- **A loop comes to an item** where the rest of the path begins. -/
theorem Expr.exists_reaches_of_roundRests {e : Expr} (h : rest ∈ e.roundRests x path)
    (hx : lookup? frames x = some v) (hw : Reaches path v w) (heval : e.eval env frames = .ok u)
    {values : List Value} (hvalues : u.elements = .ok values) :
    ∃ item ∈ values, Reaches rest item w := by
  unfold Expr.roundRests at h
  split at h
  · rename_i es
    obtain ⟨e, he, hpart⟩ := List.mem_filterMap.mp h
    rw [Expr.eval] at heval
    obtain ⟨items, hitems, heval⟩ := exists_of_bind_eq_ok heval
    cases heval
    cases hvalues
    obtain ⟨item, hitem, hmem⟩ := exists_of_mem_evalAll hitems he
    exact ⟨item, hmem, reaches_of_part? hpart hx hw hitem⟩
  · split at h
    · rename_i hrest
      obtain rfl := List.mem_singleton.mp h
      obtain ⟨us, rfl, item, hitem, hreaches⟩ := reaches_of_rest? hrest hx hw heval
      cases hvalues
      exact ⟨item, hitem, hreaches⟩
    · cases h

end Paths

/-! ## What pieces do -/

section Running
variable {env : Env} {frames frames' : Frames} {out : List Char}

theorem Stmt.run_emit_ok {expr : Expr} (h : (Stmt.emit expr).run env frames = .ok (frames', out)) :
    ∃ v, expr.eval env frames = .ok v ∧ frames' = frames ∧ out = shown env.escapes v := by
  rw [Stmt.run] at h
  obtain ⟨v, hv, h⟩ := exists_of_bind_eq_ok h
  cases h
  exact ⟨v, hv, rfl, rfl⟩

theorem Stmt.run_branch_ok {cond : Expr} {yes no : List Stmt}
    (h : (Stmt.branch cond yes no).run env frames = .ok (frames', out)) :
    ∃ v, cond.eval env frames = .ok v ∧
      runAll env frames (if v.isTrue then yes else no) = .ok (frames', out) := by
  rw [Stmt.run] at h
  obtain ⟨v, hv, h⟩ := exists_of_bind_eq_ok h
  refine ⟨v, hv, ?_⟩
  split at h
  · rename_i htrue
    rwa [if_pos htrue]
  · rename_i hfalse
    rwa [if_neg hfalse]

/-- A loop runs its last part if there is no item, and else its body for each of them. -/
theorem Stmt.run_loop_ok {name : String} {items : Expr} {body empty : List Stmt}
    (h : (Stmt.loop name items body empty).run env frames = .ok (frames', out)) :
    ∃ v values, items.eval env frames = .ok v ∧ v.elements = .ok values ∧
      (values = [] ∧ runAll env frames empty = .ok (frames', out) ∨
        ∃ inner, each (fun fs => runAll env fs body) name values ([] :: frames) = .ok (inner, out) ∧
          frames' = inner.tail) := by
  rw [Stmt.run] at h
  obtain ⟨v, hv, h⟩ := exists_of_bind_eq_ok h
  obtain ⟨values, hvalues, h⟩ := exists_of_bind_eq_ok h
  refine ⟨v, values, hv, hvalues, ?_⟩
  split at h
  · cases h
  · split at h
    · rename_i hempty
      exact .inl ⟨List.isEmpty_iff.mp hempty, h⟩
    · obtain ⟨⟨inner, written⟩, heach, h⟩ := exists_of_bind_eq_ok h
      cases h
      exact .inr ⟨inner, heach, rfl⟩

theorem runAll_cons_ok {stmt : Stmt} {rest : List Stmt}
    (h : runAll env frames (stmt :: rest) = .ok (frames', out)) :
    ∃ between first more, stmt.run env frames = .ok (between, first) ∧
      runAll env between rest = .ok (frames', more) ∧ out = first ++ more := by
  rw [runAll] at h
  obtain ⟨⟨between, first⟩, hfirst, h⟩ := exists_of_bind_eq_ok h
  obtain ⟨⟨last, more⟩, hmore, h⟩ := exists_of_bind_eq_ok h
  cases h
  exact ⟨between, first, more, hfirst, hmore, rfl⟩

theorem each_cons_ok {body : Frames → Except Failure (Frames × List Char)} {name : String}
    {value : Value} {values : List Value}
    (h : each body name (value :: values) frames = .ok (frames', out)) :
    ∃ between first more, body (assign name value frames) = .ok (between, first) ∧
      each body name values between = .ok (frames', more) ∧ out = first ++ more := by
  rw [each] at h
  obtain ⟨⟨between, first⟩, hfirst, h⟩ := exists_of_bind_eq_ok h
  obtain ⟨⟨last, more⟩, hmore, h⟩ := exists_of_bind_eq_ok h
  cases h
  exact ⟨between, first, more, hfirst, hmore, rfl⟩

/-- There is a round for each item, and its output is a part of the loop's. -/
theorem exists_round_of_each {body : Frames → Except Failure (Frames × List Char)} {name : String}
    {values : List Value} (h : each body name values frames = .ok (frames', out)) {item : Value}
    (hitem : item ∈ values) :
    ∃ before after written, body (assign name item before) = .ok (after, written) ∧
      written <:+: out := by
  induction values generalizing frames out with
  | nil => cases hitem
  | cons value values ih =>
    obtain ⟨between, first, more, hfirst, hmore, rfl⟩ := each_cons_ok h
    rcases List.mem_cons.mp hitem with rfl | hitem
    · exact ⟨frames, between, first, hfirst, (List.prefix_append first more).isInfix⟩
    · obtain ⟨before, after, written, hround, hinfix⟩ := ih hmore hitem
      exact ⟨before, after, written, hround, hinfix.trans (List.suffix_append first more).isInfix⟩

end Running

/-! ## Quiet pieces -/

mutual

/-- Whether a piece assigns nothing and includes nothing. -/
def Stmt.isQuiet : Stmt → Bool
  | .text _ => true
  | .emit _ => true
  | .set _ _ => false
  | .embed _ => false
  | .branch _ yes no => quietAll yes && quietAll no
  | .loop _ _ body empty => quietAll body && quietAll empty

/-- Whether pieces assign nothing and include nothing. -/
def quietAll : List Stmt → Bool
  | [] => true
  | stmt :: rest => stmt.isQuiet && quietAll rest

end

/-- A loop with a quiet body leaves the frames around its own as they were. -/
theorem tail_of_each {body : Frames → Except Failure (Frames × List Char)}
    (hbody : ∀ {fs fs' : Frames} {out : List Char}, body fs = .ok (fs', out) → fs' = fs)
    {name : String} {values : List Value} {inner : List (String × Value)} {outer frames' : Frames}
    {out : List Char} (h : each body name values (inner :: outer) = .ok (frames', out)) :
    frames'.tail = outer := by
  induction values generalizing inner out with
  | nil =>
    cases h
    rfl
  | cons value values ih =>
    obtain ⟨between, first, more, hfirst, hmore, rfl⟩ := each_cons_ok h
    obtain rfl := hbody hfirst
    exact ih hmore

mutual

/-- **Quiet pieces leave the variables as they were.** -/
theorem Stmt.frames_of_isQuiet {env : Env} : ∀ (stmt : Stmt) {frames frames' : Frames}
    {out : List Char}, stmt.isQuiet = true → stmt.run env frames = .ok (frames', out) →
      frames' = frames
  | .text _, _, _, _, _, hrun => by
    cases hrun
    rfl
  | .emit _, _, _, _, _, hrun => (Stmt.run_emit_ok hrun).choose_spec.2.1
  | .branch cond yes no, frames, frames', out, hquiet, hrun => by
    obtain ⟨hyes, hno⟩ := Bool.and_eq_true_iff.mp hquiet
    obtain ⟨v, -, hrun⟩ := Stmt.run_branch_ok hrun
    split at hrun
    · exact frames_of_quietAll yes hyes hrun
    · exact frames_of_quietAll no hno hrun
  | .loop name items body empty, frames, frames', out, hquiet, hrun => by
    obtain ⟨hbody, hempty⟩ := Bool.and_eq_true_iff.mp hquiet
    obtain ⟨v, values, -, -, ⟨-, hrun⟩ | ⟨inner, heach, rfl⟩⟩ := Stmt.run_loop_ok hrun
    · exact frames_of_quietAll empty hempty hrun
    · exact tail_of_each (frames_of_quietAll body hbody) heach

theorem frames_of_quietAll {env : Env} : ∀ (stmts : List Stmt) {frames frames' : Frames}
    {out : List Char}, quietAll stmts = true → runAll env frames stmts = .ok (frames', out) →
      frames' = frames
  | [], _, _, _, _, hrun => by
    cases hrun
    rfl
  | stmt :: rest, frames, frames', out, hquiet, hrun => by
    obtain ⟨hstmt, hrest⟩ := Bool.and_eq_true_iff.mp hquiet
    obtain ⟨between, first, more, hfirst, hmore, -⟩ := runAll_cons_ok hrun
    obtain rfl := Stmt.frames_of_isQuiet stmt hstmt hfirst
    exact frames_of_quietAll rest hrest hmore

end

/-! ## Pieces that show what a path reaches -/

/-- How a value is printed: as it is, or what a helper makes of it. -/
inductive Display where
  | bare
  | through (helper : Helper)

/-- The text that a value is printed as, where output is escaped or not. -/
def Display.Gives (s : Setting) (escapes : Bool) (w : Value) (text : List Char) : Display → Prop
  | .bare => shown escapes w = text
  | .through helper => ∃ u, helper.apply s escapes [w] = .ok u ∧ shown escapes u = text

/-- Whether an expression is what a path from `x` reaches, or the helper applied to it. -/
def Expr.displays (x : String) (path : Path) : Display → Expr → Bool
  | .bare, e => e.rest? x path == some []
  | .through helper, .call (.var name) [e] =>
    Helper.ofName? name == some helper && e.rest? x path == some []
  | .through _, _ => false

/-- Whether an expression is an attribute of `x` that is off. -/
def Expr.isOff (x : String) (off : List String) : Expr → Bool
  | .attr (.var name) part => name == x && off.contains part
  | _ => false

/-- Whether an expression denies an attribute of `x` that is off. -/
def Expr.isOn (x : String) (off : List String) : Expr → Bool
  | .not e => e.isOff x off
  | _ => false

/-- Whether a condition has to be true: it denies what is off, or asks for a list on the path. -/
def Expr.mustHold (x : String) (off : List String) (path : Path) (cond : Expr) : Bool :=
  cond.isOn x off ||
    match cond.rest? x path with
    | some (.items :: _) => true
    | _ => false

mutual

/-- Whether a piece prints all that a path from `x` reaches. The attributes `off` of `x` are false. -/
def Stmt.shows (how : Display) (x : String) (off : List String) (path : Path) : Stmt → Bool
  | .emit e => e.displays x path how
  | .branch cond yes _ => cond.mustHold x off path && showsAll how x off path yes
  | .loop name items body _ =>
    (items.roundRests x path).any fun rest => showsAll how name [] rest body
  | _ => false

/-- Whether one of several pieces prints it, and those before it assign nothing. -/
def showsAll (how : Display) (x : String) (off : List String) (path : Path) : List Stmt → Bool
  | [] => false
  | stmt :: rest => stmt.shows how x off path || (stmt.isQuiet && showsAll how x off path rest)

end

/-- Attributes of a value are there, and are not true. -/
def AreOff (off : List String) (v : Value) : Prop :=
  ∀ name ∈ off, ∃ u, v.attribute? name = some u ∧ u.isTrue = false

section Showing
variable {env : Env} {frames : Frames} {x : String} {off : List String} {path : Path} {v w u : Value}
  {how : Display} {text : List Char}

theorem Expr.shown_of_displays {e : Expr} (h : e.displays x path how = true)
    (hx : lookup? frames x = some v) (hw : Reaches path v w)
    (htext : how.Gives env.setting env.escapes w text)
    (heval : e.eval env frames = .ok u) : shown env.escapes u = text := by
  unfold Expr.displays at h
  split at h
  · have hreaches := reaches_of_rest? (beq_iff_eq.mp h) hx hw heval
    rw [hreaches]
    exact htext
  · rename_i helper name e
    obtain ⟨hname, hrest⟩ := Bool.and_eq_true_iff.mp h
    rw [Expr.eval] at heval
    obtain ⟨values, hvalues, hcall⟩ := exists_of_bind_eq_ok heval
    obtain ⟨arg, more, harg, hmore, rfl⟩ := evalAll_cons_ok hvalues
    cases hmore
    obtain rfl := reaches_of_rest? (beq_iff_eq.mp hrest) hx hw harg
    obtain ⟨made, happly, hshown⟩ := htext
    unfold callNamed at hcall
    split at hcall
    · cases hcall
    · simp only [beq_iff_eq.mp hname] at hcall
      rw [happly] at hcall
      cases hcall
      exact hshown
  · cases h

theorem Expr.exists_eval_of_isOff (env : Env) {e : Expr} (h : e.isOff x off = true)
    (hx : lookup? frames x = some v) (hoff : AreOff off v) :
    ∃ u, e.eval env frames = .ok u ∧ u.isTrue = false := by
  unfold Expr.isOff at h
  split at h
  · rename_i name part
    simp only [Bool.and_eq_true, beq_iff_eq, List.contains_iff_mem] at h
    obtain ⟨rfl, hpart⟩ := h
    obtain ⟨flag, hflag, hfalse⟩ := hoff part hpart
    refine ⟨flag, ?_, hfalse⟩
    rw [Expr.eval, Expr.eval, hx]
    change partOf v (v.attribute? part) = _
    rw [hflag]
    rfl
  · cases h

theorem Expr.exists_eval_of_isOn (env : Env) {e : Expr} (h : e.isOn x off = true)
    (hx : lookup? frames x = some v) (hoff : AreOff off v) :
    ∃ u, e.eval env frames = .ok u ∧ u.isTrue = true := by
  unfold Expr.isOn at h
  split at h
  · obtain ⟨flag, hflag, hfalse⟩ := Expr.exists_eval_of_isOff env h hx hoff
    refine ⟨.bool (!flag.isTrue), ?_, ?_⟩
    · rw [Expr.eval, hflag]
      rfl
    · rw [Value.isTrue, hfalse]
      rfl
  · cases h

theorem Expr.isTrue_of_mustHold {cond : Expr} (h : cond.mustHold x off path = true)
    (hx : lookup? frames x = some v) (hoff : AreOff off v) (hw : Reaches path v w)
    (heval : cond.eval env frames = .ok u) : u.isTrue = true := by
  rcases Bool.or_eq_true_iff.mp h with h | h
  · obtain ⟨flag, hflag, htrue⟩ := Expr.exists_eval_of_isOn env h hx hoff
    rw [hflag] at heval
    cases heval
    exact htrue
  · split at h
    · rename_i hrest
      obtain ⟨us, rfl, item, hitem, -⟩ := reaches_of_rest? hrest hx hw heval
      cases us with
      | nil => cases hitem
      | cons => rfl
    · cases h

theorem lookup?_assign_self (name : String) (v : Value) (frames : Frames) :
    lookup? (assign name v frames) name = some v := by
  cases frames with
  | nil => simp [assign, lookup?]
  | cons inner outer => rw [lookup?_assign, if_pos rfl]

end Showing

mutual

/-- **What a path reaches stands in the output** of a piece that shows it. -/
theorem Stmt.infix_of_shows {how : Display} {env : Env} {w : Value} {text : List Char}
    (htext : how.Gives env.setting env.escapes w text) : ∀ (stmt : Stmt) {x : String}
    {off : List String} {path : Path} {frames frames' : Frames} {v : Value} {out : List Char},
    stmt.shows how x off path = true → lookup? frames x = some v → AreOff off v →
      Reaches path v w → stmt.run env frames = .ok (frames', out) → text <:+: out
  | .emit e, x, off, path, frames, frames', v, out, hshows, hx, _, hw, hrun => by
    obtain ⟨u, heval, -, rfl⟩ := Stmt.run_emit_ok hrun
    have hshown := Expr.shown_of_displays hshows hx hw htext heval
    exact hshown ▸ List.infix_rfl
  | .branch cond yes no, x, off, path, frames, frames', v, out, hshows, hx, hoff, hw, hrun => by
    obtain ⟨hcond, hyes⟩ := Bool.and_eq_true_iff.mp hshows
    obtain ⟨u, heval, hrun⟩ := Stmt.run_branch_ok hrun
    rw [if_pos (Expr.isTrue_of_mustHold hcond hx hoff hw heval)] at hrun
    exact infix_of_showsAll htext yes hyes hx hoff hw hrun
  | .loop name items body empty, x, off, path, frames, frames', v, out, hshows, hx, _, hw, hrun => by
    obtain ⟨rest, hrest, hbody⟩ := List.any_eq_true.mp hshows
    obtain ⟨u, values, heval, hvalues, hloop⟩ := Stmt.run_loop_ok hrun
    obtain ⟨item, hitem, hreaches⟩ :=
      Expr.exists_reaches_of_roundRests hrest hx hw heval hvalues
    rcases hloop with ⟨rfl, -⟩ | ⟨inner, heach, -⟩
    · cases hitem
    · obtain ⟨before, after, written, hround, hinfix⟩ := exists_round_of_each heach hitem
      have hwritten := infix_of_showsAll htext body hbody (lookup?_assign_self name item before)
        (fun _ h => absurd h List.not_mem_nil) hreaches hround
      exact hwritten.trans hinfix

theorem infix_of_showsAll {how : Display} {env : Env} {w : Value} {text : List Char}
    (htext : how.Gives env.setting env.escapes w text) : ∀ (stmts : List Stmt) {x : String}
    {off : List String} {path : Path} {frames frames' : Frames} {v : Value} {out : List Char},
    showsAll how x off path stmts = true → lookup? frames x = some v → AreOff off v →
      Reaches path v w → runAll env frames stmts = .ok (frames', out) → text <:+: out
  | stmt :: rest, x, off, path, frames, frames', v, out, hshows, hx, hoff, hw, hrun => by
    obtain ⟨between, first, more, hfirst, hmore, rfl⟩ := runAll_cons_ok hrun
    rcases Bool.or_eq_true_iff.mp hshows with hstmt | hlater
    · exact (Stmt.infix_of_shows htext stmt hstmt hx hoff hw hfirst).trans
        (List.prefix_append first more).isInfix
    · obtain ⟨hquiet, hrest⟩ := Bool.and_eq_true_iff.mp hlater
      obtain rfl := Stmt.frames_of_isQuiet stmt hquiet hfirst
      exact (infix_of_showsAll htext rest hrest hx hoff hw hmore).trans
        (List.suffix_append first more).isInfix

end

/-! ## Pages -/

/-- What the page of a template depends on besides the variables. -/
def pageEnv (templates : TemplateSet) (s : Setting) (name : String) : Env :=
  ⟨s, escapesHtml name, 0, fun frames v =>
    embedFirst templates (depthLimit < includeCost * 1 + frames.length)
      (renderWithin templates s (depthLimit / includeCost) 1 frames) frames false (choices v)⟩

theorem render_eq_map (templates : TemplateSet) (s : Setting) (name : String) (template : Body)
    (data : Value) :
    render templates s name template data =
      (runAll (pageEnv templates s name) [[("data", data)]] template).map
        fun r => String.ofList r.2 := by
  change (runAll (pageEnv templates s name) [[("data", data)]] template >>= _) = _
  cases runAll (pageEnv templates s name) [[("data", data)]] template <;> rfl

/-- Whether the template of a name shows all that paths from its data reach. -/
def showsNamed (templates : TemplateSet) (how : Display) (off : List String) (paths : List Path)
    (name : String) : Bool :=
  match templates.lookup name with
  | some template => paths.all fun path => showsAll how "data" off path template
  | none => false

/-- **What a path reaches stands on every page** of a template that shows it. -/
theorem infix_of_pageOf {templates : TemplateSet} {how : Display} {off : List String}
    {paths : List Path} {name : String} (hshows : showsNamed templates how off paths name = true)
    {s : Setting} {data : Value} {body : String} (hpage : pageOf s templates name data = .ok body)
    (hoff : AreOff off data) {path : Path} (hpath : path ∈ paths) {w : Value}
    (hw : Reaches path data w) {text : List Char}
    (htext : how.Gives s (escapesHtml name) w text) : text <:+: body.toList := by
  unfold showsNamed at hshows
  unfold pageOf at hpage
  split at hshows
  · rename_i template hlookup
    simp only [hlookup, render_eq_map] at hpage
    cases hrun : runAll (pageEnv templates s name) [[("data", data)]] template with
    | error cause => simp [hrun, Except.map] at hpage
    | ok r =>
      obtain ⟨frames, out⟩ := r
      simp only [hrun, Except.map, Except.ok.injEq] at hpage
      rw [← hpage, String.toList_ofList]
      have hdata : lookup? [[("data", data)]] "data" = some data := rfl
      exact infix_of_showsAll htext template (List.all_eq_true.mp hshows path hpath) hdata hoff hw
        hrun
  · cases hshows

end DocPress.Template
