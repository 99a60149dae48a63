import DocPress.Proofs.Settings.Pieces

/-!
# Settings written as literals and references

A setting is usually written as literal text and references in braces, each with or without a default.
For such settings the expansion is what one expects, part by part, whatever dollar signs and braces
stand in values and defaults.

* `PlainReference` — a reference to a variable with a name of letters, digits and underscores.
* `Part` — literal text without a dollar sign, or such a reference; `Part.text`, `written` — how parts
  are written.
* `Part.IsSet`, `Part.value` — whether a part has a value, and which.

Principal results: `pieces_written` — the parts can be read back from what is written, whatever stands in
defaults; `expand_written_parts` — the expansion joins the values of the parts, or names the first
variable that has none.
-/

namespace DocPress.Settings

/-! ## Parts -/

/-- A reference to a variable with a name of letters, digits and underscores. A default may hold
anything but a closing brace. -/
structure PlainReference extends Reference where
  name_ne_nil : name ≠ []
  isWord : ∀ c ∈ name, c.isAlphanum = true ∨ c = '_'
  isOpen : ∀ default, default? = some default → '\x7d' ∉ default

/-- A part of a setting. -/
inductive Part where
  | literal (s : List Char) (h : '$' ∉ s)
  | reference (r : PlainReference)

/-- How a part is written. -/
def Part.text : Part → List Char
  | .literal s _ => s
  | .reference r =>
    match r.default? with
    | none => '$' :: '\x7b' :: (r.name ++ ['\x7d'])
    | some default => '$' :: '\x7b' :: (r.name ++ ':' :: '-' :: (default ++ ['\x7d']))

/-- The setting that is written as these parts, one after the other. -/
def written (parts : List Part) : String := String.ofList (parts.flatMap Part.text)

/-- Whether a part has a value: a reference has none if its variable is not set and it has no default. -/
def Part.IsSet (lookup : Lookup) : Part → Prop
  | .literal _ _ => True
  | .reference r => lookup (String.ofList r.name) ≠ none ∨ r.default? ≠ none

/-- The value of a part: literal text as it is, and for a reference the value of the variable, be it
empty, or else the default. -/
def Part.value (lookup : Lookup) : Part → List Char
  | .literal s _ => s
  | .reference r =>
    match lookup (String.ofList r.name) with
    | some value => value.toList
    | none => r.default?.getD []

/-! ## Reading parts back -/

section
variable (r : PlainReference)

theorem PlainReference.not_mem_name {c : Char} (hword : c.isAlphanum = false) (hne : c ≠ '_') :
    c ∉ r.name := by
  intro hmem
  rcases r.isWord c hmem with h | h
  · rw [hword] at h
    cases h
  · exact hne h

theorem PlainReference.text_eq :
    (Part.reference r).text = '$' :: '\x7b' :: (r.inner ++ ['\x7d']) := by
  cases hdefault : r.default? with
  | none => simp [Part.text, Reference.inner, hdefault]
  | some default => simp [Part.text, Reference.inner, hdefault]

/-- A default begins behind the name, since no name holds a colon. -/
theorem PlainReference.ofInner_inner : Reference.ofInner r.inner = r.toReference := by
  have hcolon : ':' ∉ r.name := r.not_mem_name rfl (by decide)
  obtain ⟨c, name, hname⟩ := List.exists_cons_of_ne_nil r.name_ne_nil
  unfold Reference.ofInner Reference.inner
  cases hdefault : r.default? with
  | none =>
    rw [splitDefault?_of_not_mem hcolon]
    simp only [← hdefault]
  | some default =>
    rw [splitDefault?_append hcolon, hname]
    simp only [← hdefault, ← hname]

theorem PlainReference.brace_not_mem_inner : '\x7d' ∉ r.inner := by
  have hname : '\x7d' ∉ r.name := r.not_mem_name rfl (by decide)
  unfold Reference.inner
  cases hdefault : r.default? with
  | none => exact hname
  | some default =>
    have hopen := r.isOpen default hdefault
    simp [hname, hopen]

end

/-- The pieces of a part. -/
def Part.pieces : Part → List Piece
  | .literal s _ => s.map Piece.char
  | .reference r => [.reference r.toReference]

theorem pieces_literal (counts : Bool) {s : List Char} (h : '$' ∉ s) (rest : List Char) :
    Settings.pieces counts (s ++ rest) = s.map Piece.char ++ Settings.pieces counts rest := by
  induction s with
  | nil => rfl
  | cons c s ih =>
    have hc : c ≠ '$' := by rintro rfl; simp at h
    rw [List.cons_append, pieces_char counts hc, ih fun hmem => h (List.mem_cons_of_mem _ hmem)]
    rfl

theorem pieces_text (counts : Bool) (p : Part) (rest : List Char) :
    Settings.pieces counts (p.text ++ rest) = p.pieces ++ Settings.pieces counts rest := by
  cases p with
  | literal s h => exact pieces_literal counts h rest
  | reference r =>
    have href : reference? (r.inner ++ '\x7d' :: rest) = some (r.toReference, rest) := by
      rw [reference?_append r.brace_not_mem_inner, r.ofInner_inner]
    have htext : (Part.reference r).text ++ rest = '$' :: '\x7b' :: (r.inner ++ '\x7d' :: rest) := by
      rw [r.text_eq]
      simp
    rw [htext, (pieces_of_dollarPiece (dollarPiece_reference counts href)).1]
    rfl

/-- **Parts are read back from what is written**, whether or not dollar signs without a brace count. -/
theorem pieces_written (counts : Bool) (parts : List Part) :
    Settings.pieces counts (parts.flatMap Part.text) = parts.flatMap Part.pieces := by
  induction parts with
  | nil => exact pieces_nil counts
  | cons p parts ih => rw [List.flatMap_cons, pieces_text, ih, List.flatMap_cons]

/-! ## Filling parts -/

theorem fill_pieces_of_isSet {lookup : Lookup} {p : Part} (h : p.IsSet lookup) :
    fill lookup p.pieces = .ok (p.value lookup) := by
  cases p with
  | literal s _ => exact fill_chars lookup s
  | reference r =>
    have hvalue : r.toReference.value lookup = .ok ((Part.reference r).value lookup) := by
      unfold Reference.value
      split
      · rename_i value hlookup
        simp [Part.value, hlookup]
      · rename_i default hlookup hdefault
        simp [Part.value, hlookup, hdefault]
      · rename_i hlookup hdefault
        simp [Part.IsSet, hlookup, hdefault] at h
    have hfill := fill_cons (p := .reference r.toReference) hvalue []
    rw [Part.pieces, hfill]
    simp [fill, Except.map]

theorem value_of_not_isSet {lookup : Lookup} {r : PlainReference}
    (h : ¬ (Part.reference r).IsSet lookup) :
    r.toReference.value lookup = .error (String.ofList r.name) := by
  unfold Part.IsSet at h
  have hlookup : lookup (String.ofList r.name) = none := by
    by_contra hsome
    exact h (.inl hsome)
  have hdefault : r.default? = none := by
    by_contra hsome
    exact h (.inr hsome)
  simp only [Reference.value, hlookup, hdefault]

/-- Parts that have values are filled with them, one after the other. -/
theorem fill_flatMap_pieces {lookup : Lookup} {parts : List Part} (h : ∀ p ∈ parts, p.IsSet lookup) :
    fill lookup (parts.flatMap Part.pieces) = .ok (parts.flatMap (Part.value lookup)) := by
  induction parts with
  | nil => rfl
  | cons p parts ih =>
    have hfirst := fill_pieces_of_isSet (h p List.mem_cons_self)
    rw [List.flatMap_cons, fill_append hfirst, ih fun q hq => h q (List.mem_cons_of_mem _ hq)]
    rfl

/-- The first part that has no value ends the filling. -/
theorem fill_flatMap_pieces_error {lookup : Lookup} {before after : List Part} {r : PlainReference}
    (hbefore : ∀ p ∈ before, p.IsSet lookup) (hr : ¬ (Part.reference r).IsSet lookup) :
    fill lookup ((before ++ .reference r :: after).flatMap Part.pieces) =
      .error (String.ofList r.name) := by
  have herror := fill_cons_error (p := .reference r.toReference) (value_of_not_isSet hr)
    (after.flatMap Part.pieces)
  rw [List.flatMap_append, fill_append (fill_flatMap_pieces hbefore), List.flatMap_cons, Part.pieces,
    List.singleton_append, herror]
  rfl

/-- Of parts that do not all have values, one is the first without. -/
theorem exists_first_unset {lookup : Lookup} {parts : List Part}
    (h : ¬ ∀ p ∈ parts, p.IsSet lookup) :
    ∃ before r after, parts = before ++ .reference r :: after ∧ (∀ p ∈ before, p.IsSet lookup) ∧
      ¬ (Part.reference r).IsSet lookup := by
  induction parts with
  | nil => simp at h
  | cons p parts ih =>
    by_cases hp : p.IsSet lookup
    · have hrest : ¬ ∀ q ∈ parts, q.IsSet lookup := by
        intro hall
        exact h (List.forall_mem_cons.mpr ⟨hp, hall⟩)
      obtain ⟨before, r, after, rfl, hbefore, hr⟩ := ih hrest
      exact ⟨p :: before, r, after, rfl, List.forall_mem_cons.mpr ⟨hp, hbefore⟩, hr⟩
    · cases p with
      | literal s hs => exact absurd trivial hp
      | reference r => exact ⟨[], r, parts, rfl, by simp, hp⟩

theorem expand_written (lookup : Lookup) (parts : List Part) :
    expand lookup (written parts) =
      (fill lookup (parts.flatMap Part.pieces)).map String.ofList := by
  rw [expand_eq_fill, written, String.toList_ofList, pieces_written]

/-- **Expansion goes part by part.** For every setting written as literal text without dollar signs and
references in braces, with defaults that may hold anything but a closing brace, and for every
environment: the expansion gives a result exactly if each reference without a default has a value. The
result joins the literal text and the values of the references, the variable's or else the default, as
they are and without expanding them again. Otherwise the settings are refused for the first variable
that is not set. -/
theorem expand_written_parts (lookup : Lookup) (parts : List Part) :
    ((∃ s, expand lookup (written parts) = .ok s) ↔ ∀ p ∈ parts, p.IsSet lookup) ∧
    ((∀ p ∈ parts, p.IsSet lookup) →
      expand lookup (written parts) = .ok (String.ofList (parts.flatMap (Part.value lookup)))) ∧
    ((¬ ∀ p ∈ parts, p.IsSet lookup) → ∃ before r after,
      parts = before ++ .reference r :: after ∧ (∀ p ∈ before, p.IsSet lookup) ∧
      lookup (String.ofList r.name) = none ∧ r.default? = none ∧
      expand lookup (written parts) = .error (String.ofList r.name) ∧
      ∀ d : Draft, d.dir = some (written parts) →
        d.expanded lookup = .error (.unset (String.ofList r.name))) := by
  have hok : (∀ p ∈ parts, p.IsSet lookup) →
      expand lookup (written parts) = .ok (String.ofList (parts.flatMap (Part.value lookup))) := by
    intro hset
    rw [expand_written, fill_flatMap_pieces hset]
    rfl
  have herror : ∀ before r after, parts = before ++ .reference r :: after →
      (∀ p ∈ before, p.IsSet lookup) → ¬ (Part.reference r).IsSet lookup →
      expand lookup (written parts) = .error (String.ofList r.name) := by
    rintro before r after rfl hbefore hr
    rw [expand_written, fill_flatMap_pieces_error hbefore hr]
    rfl
  refine ⟨⟨?_, fun hset => ⟨_, hok hset⟩⟩, hok, ?_⟩
  · rintro ⟨s, hs⟩
    by_contra hunset
    obtain ⟨before, r, after, hparts, hbefore, hr⟩ := exists_first_unset hunset
    rw [herror before r after hparts hbefore hr] at hs
    cases hs
  · intro hunset
    obtain ⟨before, r, after, hparts, hbefore, hr⟩ := exists_first_unset hunset
    have hexpand := herror before r after hparts hbefore hr
    simp only [Part.IsSet, not_or, ne_eq, not_not] at hr
    refine ⟨before, r, after, hparts, hbefore, hr.1, hr.2, hexpand, ?_⟩
    intro d hdir
    simp only [Draft.expanded, hdir, hexpand]

/-- A reference without a default, one whose default begins another reference, and braces that stand for
themselves. -/
def nestedParts : List Part :=
  [.reference ⟨⟨"A".toList, none⟩, by simp, by simp, by simp⟩,
   .reference ⟨⟨"B".toList, some "$\x7bC:-$B".toList⟩, by simp, by simp, by simp⟩,
   .literal "\x7d/\x7b".toList (by simp)]

/-- Neither the value nor the default is expanded again there, and without the value the first reference
is reported. -/
theorem nestedParts_expanded :
    written nestedParts = "$\x7bA\x7d$\x7bB:-$\x7bC:-$B\x7d\x7d/\x7b" ∧
    expand (fun name => if name = "A" then some "$\x7bB\x7d" else none) (written nestedParts) =
      .ok "$\x7bB\x7d$\x7bC:-$B\x7d/\x7b" ∧
    ¬ ∃ s, expand (fun _ => none) (written nestedParts) = .ok s := by
  refine ⟨rfl, ?_, ?_⟩
  · have hset : ∀ p ∈ nestedParts,
        p.IsSet fun name => if name = "A" then some "$\x7bB\x7d" else none := by
      simp [nestedParts, Part.IsSet]
    exact (expand_written_parts _ nestedParts).2.1 hset
  · rw [(expand_written_parts _ nestedParts).1]
    simp [nestedParts, Part.IsSet]

end DocPress.Settings
