import DocPress.Proofs.Settings.Pieces
import Mathlib.Algebra.Order.BigOperators.Group.List
import Mathlib.Algebra.Order.Group.Nat

/-!
# Dollar signs without a brace

References are written in braces, and a dollar sign without a brace behind it is meant to stand for
itself. It does in a setting without any reference. In a setting with one, a doubled dollar sign is taken
for a single one, and one before a name for a reference to that variable. This module says exactly which
settings are affected, and which variables their expansion depends on.

* `Piece.isBare` — a piece that is made of dollar signs without a brace.
* `expandBraced` — the expansion that leaves all dollar signs without a brace alone.
* `bracedNames` — the variables that a setting refers to in braces.

Principal results: `dollarPiece_cases` — the two ways to read a dollar sign, side by side;
`filled_ne_of_isBare` — the readings differ for some environment wherever a piece is bare;
`bare_dollars_kept_iff` — what is expanded is as meant exactly if no piece is bare, and depends on
variables in braces only exactly if bare names stand in braces too.
-/

namespace DocPress.Settings

/-- Whether a piece is made of dollar signs without a brace behind them. -/
def Piece.isBare : Piece → Bool
  | .doubled => true
  | .bare _ => true
  | _ => false

/-- The variable of a piece in braces. -/
def Piece.bracedName? : Piece → Option String
  | .reference r => some (String.ofList r.name)
  | _ => none

/-- A text with its references in braces replaced, and all other dollar signs left alone. -/
def expandBraced (lookup : Lookup) (text : String) : Except String String :=
  (fill lookup (pieces false text.toList)).map String.ofList

/-- The variables that a text refers to in braces. -/
def bracedNames (text : String) : List String :=
  (pieces true text.toList).filterMap Piece.bracedName?

/-! ## Two readings -/

/-- **The two readings of a dollar sign.** If dollar signs without a brace count, it begins the same
reference or stands for itself as well, or it begins a bare piece; otherwise it then stands for
itself. -/
theorem dollarPiece_cases (rest : List Char) :
    (∃ r after, ∀ counts, dollarPiece counts rest = (.reference r, after)) ∨
    (∀ counts, dollarPiece counts rest = (.char '$', rest)) ∨
    ((∃ more, rest = '$' :: more ∧ dollarPiece true rest = (.doubled, more)) ∧
      dollarPiece false rest = (.char '$', rest)) ∨
    ((∃ name after, dollarPiece true rest = (.bare name, after)) ∧
      dollarPiece false rest = (.char '$', rest)) := by
  unfold dollarPiece
  split
  · split
    · rename_i r after _
      exact .inl ⟨r, after, fun _ => rfl⟩
    · exact .inr (.inl fun _ => rfl)
  · rename_i more
    exact .inr (.inr (.inl ⟨⟨more, rfl, rfl⟩, rfl⟩))
  · dsimp only
    by_cases hname : (rest.takeWhile isNameChar).isEmpty = true
    · exact .inr (.inl fun counts => by simp [hname])
    · exact .inr (.inr (.inr ⟨⟨rest.takeWhile isNameChar, rest.dropWhile isNameChar, by simp [hname]⟩,
        by simp⟩))

theorem isBare_of_mem_pieces_false {s : List Char} {p : Piece} (h : p ∈ pieces false s) :
    p.isBare = false := by
  fun_induction pieces false s with
  | case1 => cases h
  | case2 rest _ ih =>
    rcases List.mem_cons.mp h with rfl | h
    · rcases dollarPiece_cases rest with ⟨r, after, hpiece⟩ | hpiece | ⟨-, hpiece⟩ | ⟨-, hpiece⟩ <;>
        rw [hpiece] <;> rfl
    · exact ih h
  | case3 c rest _ ih =>
    rcases List.mem_cons.mp h with rfl | h
    · rfl
    · exact ih h

/-- The readings agree where no piece is bare. -/
theorem pieces_true_eq {s : List Char} (h : ∀ p ∈ pieces true s, p.isBare = false) :
    pieces true s = pieces false s := by
  fun_induction pieces true s with
  | case1 => rw [pieces_nil]
  | case2 rest _ ih =>
    obtain ⟨hfirst, hmore⟩ := List.forall_mem_cons.mp h
    rcases dollarPiece_cases rest with ⟨r, after, hpiece⟩ | hpiece | ⟨⟨more, -, hpiece⟩, -⟩ |
      ⟨⟨name, after, hpiece⟩, -⟩
    · rw [pieces_dollar, ih hmore, hpiece, hpiece]
    · rw [pieces_dollar, ih hmore, hpiece, hpiece]
    · rw [hpiece] at hfirst
      cases hfirst
    · rw [hpiece] at hfirst
      cases hfirst
  | case3 c rest hc ih =>
    rw [pieces_char _ hc, ih (List.forall_mem_cons.mp h).2]

/-! ## Environments in which every variable is set -/

/-- What is shown of a piece if every variable is set. -/
def Piece.shown (values : String → List Char) : Piece → List Char
  | .char c => [c]
  | .reference r => values (String.ofList r.name)
  | .doubled => ['$']
  | .bare name => values (String.ofList name)

theorem fill_of_total (values : String → List Char) (ps : List Piece) :
    fill (fun name => some (String.ofList (values name))) ps =
      .ok (ps.flatMap (Piece.shown values)) := by
  induction ps with
  | nil => rfl
  | cons p ps ih =>
    have hvalue : p.value (fun name => some (String.ofList (values name))) = .ok (p.shown values) := by
      cases p <;> simp [Piece.value, Piece.shown, Reference.value]
    rw [fill_cons hvalue, ih]
    rfl

/-- A text in either reading, if all variables have the value `x`. -/
def filled (counts : Bool) (s : List Char) : List Char :=
  (pieces counts s).flatMap (Piece.shown fun _ => ['x'])

theorem filled_char (counts : Bool) {c : Char} (h : c ≠ '$') (rest : List Char) :
    filled counts (c :: rest) = c :: filled counts rest := by
  rw [filled, pieces_char counts h]
  rfl

theorem filled_dollar {counts : Bool} {rest after : List Char} {p : Piece}
    (h : dollarPiece counts rest = (p, after)) :
    filled counts ('$' :: rest) = p.shown (fun _ => ['x']) ++ filled counts after := by
  rw [filled, (pieces_of_dollarPiece h).1]
  rfl

/-- A dollar sign in front of another one is left alone. -/
theorem filled_false_dollar_dollar (rest : List Char) :
    filled false ('$' :: '$' :: rest) = '$' :: filled false ('$' :: rest) := filled_dollar rfl

theorem eq_brace_of_dollarPiece {counts : Bool} {rest after : List Char} {r : Reference}
    (h : dollarPiece counts rest = (.reference r, after)) : ∃ inner, rest = '\x7b' :: inner := by
  have htext := text_dollarPiece counts rest
  rw [h] at htext
  exact ⟨_, (List.cons.inj htext).2.symm⟩

theorem replicate_append_cons (j : Nat) (c : Char) (s : List Char) :
    List.replicate j c ++ c :: s = c :: (List.replicate j c ++ s) := by
  induction j with
  | zero => rfl
  | succ j ih => rw [List.replicate_succ, List.cons_append, ih, List.cons_append]

/-- What is shown of a text is never what is shown of it with dollar signs in front that are left
alone. -/
theorem filled_ne_replicate_append (s : List Char) (j : Nat) :
    filled true s ≠ List.replicate j '$' ++ filled false ('$' :: s) := by
  intro heq
  -- dollar signs are taken off on both sides until what is shown differs
  fun_induction pieces true s generalizing j with
  | case1 =>
    have hlone : dollarPiece false [] = (.char '$', []) := rfl
    have hlength := congrArg List.length heq
    rw [filled_dollar hlone] at hlength
    simp [filled, pieces_nil, Piece.shown] at hlength
  | case2 rest _ ih =>
    rw [filled_false_dollar_dollar, replicate_append_cons] at heq
    rcases dollarPiece_cases rest with ⟨r, after, hpiece⟩ | hpiece | ⟨⟨more, hmore, hpiece⟩, -⟩ |
      ⟨⟨name, after, hpiece⟩, -⟩
    · rw [filled_dollar (hpiece true)] at heq
      cases (List.cons.inj heq).1
    · rw [filled_dollar (hpiece true)] at heq
      rw [hpiece true] at ih
      exact ih j (List.cons.inj heq).2
    · rw [filled_dollar hpiece, hmore, filled_false_dollar_dollar] at heq
      rw [hpiece] at ih
      exact ih (j + 1) ((List.cons.inj heq).2.trans (replicate_append_cons j '$' _))
    · rw [filled_dollar hpiece] at heq
      cases (List.cons.inj heq).1
  | case3 c rest hc _ =>
    rw [filled_char true hc] at heq
    cases j with
    | succ j => exact hc (List.cons.inj heq).1
    | zero =>
      rw [List.replicate_zero, List.nil_append] at heq
      rcases dollarPiece_cases (c :: rest) with ⟨r, after, hpiece⟩ | hpiece | ⟨-, hpiece⟩ | ⟨-, hpiece⟩
      · obtain ⟨inner, hinner⟩ := eq_brace_of_dollarPiece (hpiece false)
        rw [filled_dollar (hpiece false)] at heq
        have hbrace := (List.cons.inj hinner).1
        have hx := (List.cons.inj heq).1
        rw [hbrace] at hx
        cases hx
      · rw [filled_dollar (hpiece false)] at heq
        exact hc (List.cons.inj heq).1
      · rw [filled_dollar hpiece] at heq
        exact hc (List.cons.inj heq).1
      · rw [filled_dollar hpiece] at heq
        exact hc (List.cons.inj heq).1

/-- **The readings differ wherever a piece is bare.** -/
theorem filled_ne_of_isBare {s : List Char} (h : ∃ p ∈ pieces true s, p.isBare = true) :
    filled true s ≠ filled false s := by
  fun_induction pieces true s with
  | case1 =>
    obtain ⟨p, hp, -⟩ := h
    cases hp
  | case2 rest _ ih =>
    rcases dollarPiece_cases rest with ⟨r, after, hpiece⟩ | hpiece | ⟨⟨more, hmore, htrue⟩, hfalse⟩ |
      ⟨⟨name, after, htrue⟩, hfalse⟩
    · rw [hpiece true] at h ih
      rw [filled_dollar (hpiece true), filled_dollar (hpiece false), Ne, List.append_cancel_left_eq]
      exact ih (by simpa [Piece.isBare] using h)
    · rw [hpiece true] at h ih
      rw [filled_dollar (hpiece true), filled_dollar (hpiece false), Ne, List.append_cancel_left_eq]
      exact ih (by simpa [Piece.isBare] using h)
    · rw [filled_dollar htrue, filled_dollar hfalse, hmore]
      intro heq
      exact filled_ne_replicate_append more 0 (List.cons.inj heq).2
    · rw [filled_dollar htrue, filled_dollar hfalse]
      intro heq
      cases (List.cons.inj heq).1
  | case3 c rest hc ih =>
    rw [filled_char true hc, filled_char false hc]
    intro heq
    exact ih (by simpa [Piece.isBare] using h) (List.cons.inj heq).2

/-! ## Dependence on variables -/

theorem Piece.value_congr {l l' : Lookup} {p : Piece}
    (h : ∀ name, p.name? = some name → l name = l' name) : p.value l = p.value l' := by
  cases p with
  | char c => rfl
  | reference r => simp only [Piece.value, Reference.value, h _ rfl]
  | doubled => rfl
  | bare name => simp only [Piece.value, Reference.value, h _ rfl]

/-- Only the variables of pieces matter. -/
theorem fill_congr {l l' : Lookup} {ps : List Piece}
    (h : ∀ name ∈ ps.filterMap Piece.name?, l name = l' name) : fill l ps = fill l' ps := by
  induction ps with
  | nil => rfl
  | cons p ps ih =>
    have hfirst : p.value l = p.value l' := by
      apply Piece.value_congr
      intro name hname
      exact h name (List.mem_filterMap.mpr ⟨p, List.mem_cons_self, hname⟩)
    have hmore : fill l ps = fill l' ps := by
      apply ih
      intro name hname
      obtain ⟨q, hq, hqname⟩ := List.mem_filterMap.mp hname
      exact h name (List.mem_filterMap.mpr ⟨q, List.mem_cons_of_mem _ hq, hqname⟩)
    rw [fill_eq_putBefore, fill_eq_putBefore, Piece.putBefore, Piece.putBefore, hfirst, hmore]

/-- Agreement on the variables that a setting refers to is enough. -/
theorem expand_congr {l l' : Lookup} {text : String} (h : ∀ name ∈ names text, l name = l' name) :
    expand l text = expand l' text := by
  rw [names_eq_filterMap] at h
  rw [expand_eq_fill, expand_eq_fill, fill_congr h]

theorem expand_of_total (values : String → List Char) (text : String) :
    expand (fun name => some (String.ofList (values name))) text =
      .ok (String.ofList ((pieces (mentionsVariable text.toList) text.toList).flatMap
        (Piece.shown values))) := by
  rw [expand_eq_fill, fill_of_total]
  rfl

/-- Setting a variable to `x` and no longer to the empty text shows where its name is bare. -/
theorem length_shown_lt {ps : List Piece} {name : List Char} (h : .bare name ∈ ps) :
    (ps.flatMap (Piece.shown fun _ => [])).length <
      (ps.flatMap (Piece.shown fun n => if n = String.ofList name then ['x'] else [])).length := by
  rw [List.length_flatMap, List.length_flatMap]
  apply List.sum_lt_sum
  · intro p _
    cases p <;> simp [Piece.shown]
  · exact ⟨.bare name, h, by simp [Piece.shown]⟩

/-- A setting refers to variables only if it has a reference, in braces or bare. -/
theorem mem_bracedNames_or_bare {text name : String} (h : name ∈ names text) :
    mentionsVariable text.toList = true ∧
      (name ∈ bracedNames text ∨
        ∃ bare, .bare bare ∈ pieces true text.toList ∧ name = String.ofList bare) := by
  cases hmentions : mentionsVariable text.toList with
  | false => simp [names, hmentions] at h
  | true =>
    rw [names_eq_filterMap, hmentions] at h
    obtain ⟨p, hp, hname⟩ := List.mem_filterMap.mp h
    refine ⟨rfl, ?_⟩
    cases p with
    | char c => cases hname
    | doubled => cases hname
    | reference r => exact .inl (List.mem_filterMap.mpr ⟨.reference r, hp, hname⟩)
    | bare bare =>
      cases hname
      exact .inr ⟨bare, hp, rfl⟩

/-- The expansion leaves bare dollar signs alone where it does not read any. -/
theorem expand_eq_expandBraced {text : String}
    (h : mentionsVariable text.toList = false ∨ ∀ p ∈ pieces true text.toList, p.isBare = false)
    (lookup : Lookup) : expand lookup text = expandBraced lookup text := by
  rw [expand_eq_fill, expandBraced]
  rcases h with hmentions | hbare
  · rw [hmentions]
  · cases mentionsVariable text.toList with
    | false => rfl
    | true => rw [pieces_true_eq hbare]

/-- With the value `x` for all variables, a bare piece of a setting with a reference shows. -/
theorem expand_ne_expandBraced {text : String} {p : Piece}
    (hmentions : mentionsVariable text.toList = true) (hp : p ∈ pieces true text.toList)
    (hbare : p.isBare = true) :
    ∃ lookup, expand lookup text ≠ expandBraced lookup text := by
  refine ⟨fun _ => some (String.ofList ['x']), ?_⟩
  rw [expand_of_total (fun _ => ['x']), expandBraced, fill_of_total (fun _ => ['x']), hmentions]
  intro hsame
  have hlists := String.ofList_inj.mp (Except.ok.inj hsame)
  exact filled_ne_of_isBare ⟨p, hp, hbare⟩ hlists

/-- A name that is bare in a setting with a reference matters, if it does not stand in braces: two
environments that agree on all names in braces are told apart. -/
theorem exists_expand_ne_of_bare {text : String} {name : List Char}
    (hmentions : mentionsVariable text.toList = true) (hname : .bare name ∈ pieces true text.toList)
    (hbraced : String.ofList name ∉ bracedNames text) :
    ∃ l l' : Lookup, (∀ other ∈ bracedNames text, l other = l' other) ∧
      expand l text ≠ expand l' text := by
  refine ⟨fun _ => some (String.ofList []),
    fun n => some (String.ofList (if n = String.ofList name then ['x'] else [])), ?_, ?_⟩
  · intro other hother
    have hne : other ≠ String.ofList name := by
      rintro rfl
      exact hbraced hother
    simp [hne]
  · rw [expand_of_total (fun _ => []),
      expand_of_total (fun n => if n = String.ofList name then ['x'] else []), hmentions]
    intro hsame
    have hlists := String.ofList_inj.mp (Except.ok.inj hsame)
    have hlt := length_shown_lt hname
    rw [hlists] at hlt
    exact Nat.lt_irrefl _ hlt

/-- If every bare name stands in braces too, agreement on the names in braces is enough. -/
theorem expand_congr_of_bracedNames {text : String} {l l' : Lookup}
    (h : mentionsVariable text.toList = false ∨
      ∀ name, .bare name ∈ pieces true text.toList → String.ofList name ∈ bracedNames text)
    (hagree : ∀ name ∈ bracedNames text, l name = l' name) : expand l text = expand l' text := by
  apply expand_congr
  intro name hname
  obtain ⟨hmentions, hbraced | ⟨bare, hmem, rfl⟩⟩ := mem_bracedNames_or_bare hname
  · exact hagree name hbraced
  · rcases h with hnone | hall
    · rw [hmentions] at hnone
      cases hnone
    · exact hagree _ (hall bare hmem)

/-- **Which dollar signs are left alone, and which variables matter.** For every setting. It can be cut
into characters and references in braces, which is how it is meant. It is expanded so in every
environment exactly if it has no dollar sign with a brace behind it at all, or none outside references
that is doubled or stands before a name. The expansion depends only on the variables that the setting
refers to; it depends only on those in braces exactly if it has no dollar sign with a brace behind it, or
every bare name stands in braces too. -/
theorem bare_dollars_kept_iff (text : String) :
    ((pieces false text.toList).flatMap Piece.text = text.toList ∧
      ∀ p ∈ pieces false text.toList, p.isBare = false) ∧
    ((∀ lookup, expand lookup text = expandBraced lookup text) ↔
      mentionsVariable text.toList = false ∨ ∀ p ∈ pieces true text.toList, p.isBare = false) ∧
    (∀ l l' : Lookup, (∀ name ∈ names text, l name = l' name) → expand l text = expand l' text) ∧
    ((∀ l l' : Lookup, (∀ name ∈ bracedNames text, l name = l' name) → expand l text = expand l' text) ↔
      mentionsVariable text.toList = false ∨
        ∀ name, .bare name ∈ pieces true text.toList → String.ofList name ∈ bracedNames text) := by
  refine ⟨⟨flatMap_text_pieces false _, fun p => isBare_of_mem_pieces_false⟩,
    ⟨?_, fun hkept => expand_eq_expandBraced hkept⟩, fun l l' => expand_congr,
    ⟨?_, fun hbare l l' => expand_congr_of_bracedNames hbare⟩⟩
  · intro hsame
    cases hmentions : mentionsVariable text.toList with
    | false => exact .inl rfl
    | true =>
      right
      intro p hp
      by_contra hbare
      rw [Bool.not_eq_false] at hbare
      obtain ⟨lookup, hne⟩ := expand_ne_expandBraced hmentions hp hbare
      exact hne (hsame lookup)
  · intro hsame
    cases hmentions : mentionsVariable text.toList with
    | false => exact .inl rfl
    | true =>
      right
      intro name hname
      by_contra hbraced
      obtain ⟨l, l', hagree, hne⟩ := exists_expand_ne_of_bare hmentions hname hbraced
      exact hne (hsame l l' hagree)

/-- An environment with a value for `B`, and for `A` one that may be given. -/
def environment (a : Option String) : Lookup := fun name =>
  if name = "A" then a else if name = "B" then some "b" else none

/-- **Beside a reference a bare name is replaced.** Braces stand around `B` only, and both environments
have the same value for it; but the expansion is meant to keep `$A`, replaces it in one of them, and
fails in the other. -/
theorem bare_name_replaced :
    bracedNames "$A/$\x7bB\x7d" = ["B"] ∧ environment (some "a") "B" = environment none "B" ∧
    expandBraced (environment (some "a")) "$A/$\x7bB\x7d" = .ok "$A/b" ∧
    expand (environment (some "a")) "$A/$\x7bB\x7d" = .ok "a/b" ∧
    expand (environment none) "$A/$\x7bB\x7d" = .error "A" := by
  refine ⟨?_, rfl, ?_, ?_, ?_⟩ <;> decide +kernel

end DocPress.Settings
