import DocPress.Proofs.Basic
import DocPress.Proofs.Text.Replace
import DocPress.Settings.Basic
import Mathlib.Data.List.TakeDrop
import Mathlib.Data.List.TakeWhile

/-!
# A setting cut into pieces

Expanding a setting is a single scan from left to right. Here the scan is cut in two: a text is first cut
into pieces, whatever the variables are, and then the values of the pieces are put together.

* `Piece` — what a scan meets; `Piece.text` — how it is written; `Piece.value` — what replaces it.
* `pieces` — a text cut into pieces, with or without the dollar signs that have no brace behind them.
* `fill` — the values of pieces put together, or the first variable that is not set.
* `IsScan` — a function that goes over a text as the expansion does.

Principal results: `flatMap_text_pieces` — nothing is lost by cutting; `IsScan.eq_foldr` — a scan goes
over the pieces of the text; so `expand_eq_fill` — expanding is cutting and filling, and dollar signs
without a brace count exactly if some dollar sign has one — and `names_eq_filterMap` — the variables that
a setting refers to are those of its pieces.
-/

namespace DocPress.Settings

/-! ## Pieces -/

/-- What a scan of a text meets. -/
inductive Piece where
  /-- A character that stands for itself. -/
  | char (c : Char)
  /-- A reference in braces. -/
  | reference (r : Reference)
  /-- A doubled dollar sign, which stands for a single one. -/
  | doubled
  /-- A dollar sign with the name of a variable behind it. -/
  | bare (name : List Char)
  deriving DecidableEq, Repr

/-- What stands between the braces of a reference. -/
def Reference.inner (r : Reference) : List Char :=
  match r.default? with
  | none => r.name
  | some default => r.name ++ ':' :: '-' :: default

/-- How a piece is written. -/
def Piece.text : Piece → List Char
  | .char c => [c]
  | .reference r => '$' :: '\x7b' :: (r.inner ++ ['\x7d'])
  | .doubled => ['$', '$']
  | .bare name => '$' :: name

/-- What replaces a piece, or the name of its variable if that is not set. -/
def Piece.value (lookup : Lookup) : Piece → Except String (List Char)
  | .char c => .ok [c]
  | .reference r => r.value lookup
  | .doubled => .ok ['$']
  | .bare name => Reference.value lookup ⟨name, none⟩

/-- The variable of a piece. -/
def Piece.name? : Piece → Option String
  | .reference r => some (String.ofList r.name)
  | .bare name => some (String.ofList name)
  | _ => none

/-- The piece that begins with a dollar sign, and what follows it. A dollar sign that has no brace behind
it stands for itself, unless such dollar signs count. -/
def dollarPiece (counts : Bool) (rest : List Char) : Piece × List Char :=
  match rest with
  | '\x7b' :: inner =>
    match reference? inner with
    | some (r, after) => (.reference r, after)
    | none => (.char '$', rest)
  | '$' :: more => if counts then (.doubled, more) else (.char '$', rest)
  | _ =>
    let name := rest.takeWhile isNameChar
    if counts && !name.isEmpty then (.bare name, rest.dropWhile isNameChar) else (.char '$', rest)

/-! ## References -/

theorem splitDefault?_eq_some {s before after : List Char} (h : splitDefault? s = some (before, after)) :
    s = before ++ ':' :: '-' :: after := by
  fun_induction splitDefault? s generalizing before with
  | case1 rest =>
    cases h
    rfl
  | case2 c rest _ ih =>
    obtain ⟨⟨start, tail⟩, hsplit, heq⟩ := Option.map_eq_some_iff.mp h
    cases heq
    rw [ih hsplit]
    rfl
  | case3 => cases h

/-- The first colon with a hyphen behind it begins the default. -/
theorem splitDefault?_append {name : List Char} (h : ':' ∉ name) (default : List Char) :
    splitDefault? (name ++ ':' :: '-' :: default) = some (name, default) := by
  induction name with
  | nil => rfl
  | cons c name ih =>
    have hc : c ≠ ':' := by rintro rfl; simp at h
    rw [List.cons_append, splitDefault?.eq_2 c _ (fun _ hcolon => absurd hcolon hc),
      ih (fun hmem => h (List.mem_cons_of_mem _ hmem))]
    rfl

theorem splitDefault?_of_not_mem {name : List Char} (h : ':' ∉ name) : splitDefault? name = none := by
  cases hsplit : splitDefault? name with
  | none => rfl
  | some split =>
    rw [splitDefault?_eq_some hsplit] at h
    simp at h

theorem Reference.inner_ofInner (inner : List Char) : (Reference.ofInner inner).inner = inner := by
  unfold Reference.ofInner
  split
  · rename_i c name default hsplit
    exact (splitDefault?_eq_some hsplit).symm
  · rfl

theorem reference?_append {inner : List Char} (h : '\x7d' ∉ inner) (rest : List Char) :
    reference? (inner ++ '\x7d' :: rest) = some (Reference.ofInner inner, rest) := by
  unfold reference?
  rw [List.span_eq_takeWhile_dropWhile, Text.takeWhile_bne h, Text.dropWhile_bne h]

/-- A reference ends at the first closing brace. -/
theorem reference?_eq_some {s after : List Char} {r : Reference} (h : reference? s = some (r, after)) :
    s = r.inner ++ '\x7d' :: after := by
  unfold reference? at h
  rw [List.span_eq_takeWhile_dropWhile] at h
  split at h
  · rename_i inner c rest hspan
    cases h
    obtain ⟨hinner, hrest⟩ := Prod.mk.inj hspan
    have hclose : c = '\x7d' := by
      have hhead := List.head?_dropWhile_not (fun c => c != '\x7d') s
      rw [hrest] at hhead
      simpa using hhead
    subst hclose
    rw [Reference.inner_ofInner, ← hinner, ← hrest, List.takeWhile_append_dropWhile]
  · cases h

/-! ## Cutting -/

theorem dollarPiece_reference (counts : Bool) {rest after : List Char} {r : Reference}
    (h : reference? rest = some (r, after)) :
    dollarPiece counts ('\x7b' :: rest) = (.reference r, after) := by
  simp [dollarPiece, h]

theorem dollarPiece_unclosed (counts : Bool) {rest : List Char} (h : reference? rest = none) :
    dollarPiece counts ('\x7b' :: rest) = (.char '$', '\x7b' :: rest) := by
  simp [dollarPiece, h]

theorem dollarPiece_doubled (rest : List Char) : dollarPiece true ('$' :: rest) = (.doubled, rest) := rfl

/-- A dollar sign with neither a brace nor a dollar sign behind it. -/
theorem dollarPiece_span {rest name after : List Char} (hbrace : ∀ t, rest = '\x7b' :: t → False)
    (hdollar : ∀ t, rest = '$' :: t → False) (hspan : rest.span isNameChar = (name, after)) :
    dollarPiece true rest = (if name.isEmpty then .char '$' else .bare name, after) := by
  rw [List.span_eq_takeWhile_dropWhile] at hspan
  obtain ⟨hname, hafter⟩ := Prod.mk.inj hspan
  have hrest := List.takeWhile_append_dropWhile (p := isNameChar) (l := rest)
  rw [hname, hafter] at hrest
  unfold dollarPiece
  split
  · rename_i t
    exact absurd rfl (hbrace t)
  · rename_i t
    exact absurd rfl (hdollar t)
  · rw [hname, hafter]
    cases name with
    | nil =>
      rw [← hrest]
      rfl
    | cons c name => rfl

/-- What a dollar sign begins, and the text from it on. -/
theorem text_dollarPiece (counts : Bool) (rest : List Char) :
    (dollarPiece counts rest).1.text ++ (dollarPiece counts rest).2 = '$' :: rest := by
  unfold dollarPiece
  split
  · rename_i inner
    split
    · rename_i r after href
      rw [reference?_eq_some href]
      simp [Piece.text]
    · rfl
  · split <;> rfl
  · dsimp only
    split
    · simp [Piece.text]
    · rfl

theorem length_dollarPiece (counts : Bool) (rest : List Char) :
    (dollarPiece counts rest).2.length ≤ rest.length := by
  have hlength := congrArg List.length (text_dollarPiece counts rest)
  have hpos : 0 < (dollarPiece counts rest).1.text.length := by
    cases (dollarPiece counts rest).1 <;> simp [Piece.text]
  simp only [List.length_append, List.length_cons] at hlength
  omega

/-- A text cut into pieces, where dollar signs without a brace behind them count or do not. -/
def pieces (counts : Bool) : List Char → List Piece
  | [] => []
  | c :: rest =>
    if c = '$' then
      have := length_dollarPiece counts rest
      (dollarPiece counts rest).1 :: pieces counts (dollarPiece counts rest).2
    else .char c :: pieces counts rest
termination_by s => s.length

theorem pieces_nil (counts : Bool) : pieces counts [] = [] := by
  rw [pieces]

theorem pieces_char (counts : Bool) {c : Char} (h : c ≠ '$') (rest : List Char) :
    pieces counts (c :: rest) = .char c :: pieces counts rest := by
  rw [pieces, if_neg h]

theorem pieces_dollar (counts : Bool) (rest : List Char) :
    pieces counts ('$' :: rest) =
      (dollarPiece counts rest).1 :: pieces counts (dollarPiece counts rest).2 := by
  rw [pieces, if_pos rfl]

/-- A piece that begins with a dollar sign, in front of the pieces of what follows it. -/
theorem pieces_of_dollarPiece {counts : Bool} {rest after : List Char} {p : Piece}
    (h : dollarPiece counts rest = (p, after)) :
    pieces counts ('$' :: rest) = p :: pieces counts after ∧ after.length ≤ rest.length := by
  have hle := length_dollarPiece counts rest
  rw [h] at hle
  rw [pieces_dollar, h]
  exact ⟨rfl, hle⟩

/-- **Nothing is lost by cutting.** -/
theorem flatMap_text_pieces (counts : Bool) (s : List Char) :
    (pieces counts s).flatMap Piece.text = s := by
  fun_induction pieces counts s with
  | case1 => rfl
  | case2 rest _ ih => rw [List.flatMap_cons, ih, text_dollarPiece]
  | case3 c rest _ ih =>
    rw [List.flatMap_cons, ih]
    rfl

/-! ## Filling -/

/-- The value of a piece put before the values of others, unless a variable is not set. -/
def Piece.putBefore (lookup : Lookup) (p : Piece) (more : Except String (List Char)) :
    Except String (List Char) := do
  let value ← p.value lookup
  let more ← more
  pure (value ++ more)

/-- The values of pieces put together, or the first variable that is not set. -/
def fill (lookup : Lookup) (ps : List Piece) : Except String (List Char) :=
  ps.foldr (Piece.putBefore lookup) (.ok [])

theorem fill_eq_putBefore (lookup : Lookup) (p : Piece) (ps : List Piece) :
    fill lookup (p :: ps) = p.putBefore lookup (fill lookup ps) := rfl

theorem fill_cons {lookup : Lookup} {p : Piece} {value : List Char} (h : p.value lookup = .ok value)
    (ps : List Piece) : fill lookup (p :: ps) = (fill lookup ps).map (value ++ ·) := by
  rw [fill_eq_putBefore, Piece.putBefore, h]
  cases fill lookup ps <;> rfl

theorem fill_cons_error {lookup : Lookup} {p : Piece} {name : String} (h : p.value lookup = .error name)
    (ps : List Piece) : fill lookup (p :: ps) = .error name := by
  rw [fill_eq_putBefore, Piece.putBefore, h]
  rfl

theorem fill_char (lookup : Lookup) (c : Char) (ps : List Piece) :
    fill lookup (.char c :: ps) = (fill lookup ps).map (c :: ·) := by
  have hchar : Piece.value lookup (.char c) = .ok [c] := rfl
  exact fill_cons hchar ps

/-- Pieces that can be filled come before the rest. -/
theorem fill_append {lookup : Lookup} {ps : List Piece} {value : List Char}
    (h : fill lookup ps = .ok value) (qs : List Piece) :
    fill lookup (ps ++ qs) = (fill lookup qs).map (value ++ ·) := by
  induction ps generalizing value with
  | nil =>
    cases h
    cases hfill : fill lookup qs <;> simp [hfill, Except.map]
  | cons p ps ih =>
    obtain ⟨first, hfirst, h⟩ := exists_of_bind_eq_ok h
    obtain ⟨more, hmore, h⟩ := exists_of_bind_eq_ok h
    cases h
    rw [List.cons_append, fill_cons hfirst, ih hmore]
    cases fill lookup qs <;> simp [Except.map]

/-- Characters that stand for themselves are filled with themselves. -/
theorem fill_chars (lookup : Lookup) (s : List Char) : fill lookup (s.map Piece.char) = .ok s := by
  induction s with
  | nil => rfl
  | cons c s ih =>
    rw [List.map_cons, fill_char, ih]
    rfl

/-! ## Scanning -/

/-- **A scan of a text**, with a bound on its steps: it goes by what the text begins with, and joins what
it makes of the piece there to what it makes of the rest. -/
structure IsScan {α : Type} (scan : Nat → List Char → α) (stop : α) (join : Piece → α → α) : Prop where
  nil : ∀ fuel, scan fuel [] = stop
  reference : ∀ fuel {rest r after}, reference? rest = some (r, after) →
    scan (fuel + 1) ('$' :: '\x7b' :: rest) = join (.reference r) (scan fuel after)
  unclosed : ∀ fuel {rest}, reference? rest = none →
    scan (fuel + 1) ('$' :: '\x7b' :: rest) = join (.char '$') (join (.char '\x7b') (scan fuel rest))
  doubled : ∀ fuel rest, scan (fuel + 1) ('$' :: '$' :: rest) = join .doubled (scan fuel rest)
  span : ∀ fuel {rest name after}, (∀ t, rest = '\x7b' :: t → False) → (∀ t, rest = '$' :: t → False) →
    rest.span isNameChar = (name, after) →
    scan (fuel + 1) ('$' :: rest) =
      join (if name.isEmpty then .char '$' else .bare name) (scan fuel after)
  char : ∀ fuel {c} rest, c ≠ '$' → scan (fuel + 1) (c :: rest) = join (.char c) (scan fuel rest)

/-- A step of a scan at a dollar sign takes off the piece that begins there. -/
theorem IsScan.dollar {α : Type} {scan : Nat → List Char → α} {stop : α} {join : Piece → α → α}
    (h : IsScan scan stop join) (fuel : Nat) (rest : List Char) :
    (∃ p after, dollarPiece true rest = (p, after) ∧
      scan (fuel + 1) ('$' :: rest) = join p (scan fuel after)) ∨
    ∃ inner, rest = '\x7b' :: inner ∧ dollarPiece true rest = (.char '$', rest) ∧
      scan (fuel + 1) ('$' :: rest) = join (.char '$') (join (.char '\x7b') (scan fuel inner)) := by
  by_cases hbrace : ∃ inner, rest = '\x7b' :: inner
  · obtain ⟨inner, rfl⟩ := hbrace
    cases href : reference? inner with
    | none => exact .inr ⟨inner, rfl, dollarPiece_unclosed true href, h.unclosed fuel href⟩
    | some found =>
      obtain ⟨r, after⟩ := found
      exact .inl ⟨_, _, dollarPiece_reference true href, h.reference fuel href⟩
  · left
    by_cases hdollar : ∃ more, rest = '$' :: more
    · obtain ⟨more, rfl⟩ := hdollar
      exact ⟨_, _, dollarPiece_doubled more, h.doubled fuel more⟩
    · have hbrace' : ∀ t, rest = '\x7b' :: t → False := fun t ht => hbrace ⟨t, ht⟩
      have hdollar' : ∀ t, rest = '$' :: t → False := fun t ht => hdollar ⟨t, ht⟩
      have hspan : rest.span isNameChar = (rest.takeWhile isNameChar, rest.dropWhile isNameChar) :=
        List.span_eq_takeWhile_dropWhile _ rest
      exact ⟨_, _, dollarPiece_span hbrace' hdollar' hspan, h.span fuel hbrace' hdollar' hspan⟩

/-- **A scan goes over the pieces of the text**, if the number of its steps is not less than that of the
characters. -/
theorem IsScan.eq_foldr {α : Type} {scan : Nat → List Char → α} {stop : α} {join : Piece → α → α}
    (h : IsScan scan stop join) {fuel : Nat} {s : List Char} (hle : s.length ≤ fuel) :
    scan fuel s = (pieces true s).foldr join stop := by
  induction fuel generalizing s with
  | zero =>
    obtain rfl : s = [] := List.length_eq_zero_iff.mp (Nat.le_zero.mp hle)
    rw [h.nil, pieces_nil, List.foldr_nil]
  | succ fuel ih =>
    cases s with
    | nil => rw [h.nil, pieces_nil, List.foldr_nil]
    | cons c rest =>
      simp only [List.length_cons] at hle
      by_cases hc : c = '$'
      · subst hc
        rcases h.dollar fuel rest with ⟨p, after, hpiece, hscan⟩ | ⟨inner, rfl, hpiece, hscan⟩
        · obtain ⟨hpieces, hafter⟩ := pieces_of_dollarPiece hpiece
          rw [hscan, hpieces, List.foldr_cons, ih (by omega)]
        · obtain ⟨hpieces, -⟩ := pieces_of_dollarPiece hpiece
          simp only [List.length_cons] at hle
          rw [hscan, hpieces, pieces_char true (by decide), List.foldr_cons, List.foldr_cons,
            ih (by omega)]
      · rw [h.char fuel rest hc, pieces_char true hc, List.foldr_cons, ih (by omega)]

theorem isScan_expandWithin (lookup : Lookup) :
    IsScan (expandWithin lookup) (.ok []) (Piece.putBefore lookup) where
  nil fuel := by cases fuel <;> rfl
  reference fuel rest r after href := by
    simp only [expandWithin, href]
    rfl
  unclosed fuel rest href := by
    simp only [expandWithin, href]
    cases expandWithin lookup fuel rest <;> rfl
  doubled fuel rest := by
    rw [expandWithin]
    cases expandWithin lookup fuel rest <;> rfl
  span fuel rest name after hbrace hdollar hspan := by
    rw [expandWithin.eq_5 lookup fuel rest hbrace hdollar, hspan]
    cases name <;> rfl
  char fuel c rest hc := by
    rw [expandWithin.eq_6 lookup fuel c rest (fun _ h _ => hc h) (fun _ h _ => hc h) hc]
    cases expandWithin lookup fuel rest <;> rfl

theorem isScan_namesWithin : IsScan namesWithin [] fun p more => p.name?.toList ++ more where
  nil fuel := by cases fuel <;> rfl
  reference fuel rest r after href := by
    simp only [namesWithin, href]
    rfl
  unclosed fuel rest href := by
    simp only [namesWithin, href]
    rfl
  doubled fuel rest := by
    rw [namesWithin]
    rfl
  span fuel rest name after hbrace hdollar hspan := by
    rw [namesWithin.eq_5 fuel rest hbrace hdollar, hspan]
    cases name <;> rfl
  char fuel c rest hc := by
    rw [namesWithin.eq_6 fuel c rest (fun _ h _ => hc h) (fun _ h _ => hc h) hc]
    rfl

theorem foldr_name? (ps : List Piece) :
    ps.foldr (fun p more => p.name?.toList ++ more) [] = ps.filterMap Piece.name? := by
  induction ps with
  | nil => rfl
  | cons p ps ih =>
    rw [List.foldr_cons, ih, List.filterMap_cons]
    cases p.name? <;> rfl

/-! ## Settings without a brace -/

/-- A dollar sign without a brace behind it stands for itself, if such dollar signs do not count. -/
theorem dollarPiece_false {rest : List Char} (h : ∀ t, rest ≠ '\x7b' :: t) :
    dollarPiece false rest = (.char '$', rest) := by
  unfold dollarPiece
  split
  · rename_i t
    exact absurd rfl (h t)
  · rfl
  · rfl

/-- A text without a dollar sign before a brace is not cut at all. -/
theorem pieces_of_not_mentions {s : List Char} (h : mentionsVariable s = false) :
    pieces false s = s.map Piece.char := by
  fun_induction mentionsVariable s with
  | case1 rest => cases h
  | case2 c rest hc ih =>
    rw [List.map_cons, ← ih h]
    by_cases hdollar : c = '$'
    · subst hdollar
      exact (pieces_of_dollarPiece (dollarPiece_false fun t ht => hc t rfl ht)).1
    · exact pieces_char false hdollar rest
  | case3 => rw [pieces_nil, List.map_nil]

/-- **Expanding is cutting and filling.** Dollar signs without a brace behind them count exactly if some
dollar sign has one. -/
theorem expand_eq_fill (lookup : Lookup) (text : String) :
    expand lookup text =
      (fill lookup (pieces (mentionsVariable text.toList) text.toList)).map String.ofList := by
  unfold expand
  cases hmentions : mentionsVariable text.toList with
  | true =>
    rw [if_pos rfl, (isScan_expandWithin lookup).eq_foldr (Nat.le_of_eq String.length_toList)]
    rfl
  | false =>
    rw [if_neg (by decide), pieces_of_not_mentions hmentions, fill_chars]
    simp [Except.map]

/-- The variables that a setting refers to are those of its pieces. -/
theorem names_eq_filterMap (text : String) :
    names text = (pieces (mentionsVariable text.toList) text.toList).filterMap Piece.name? := by
  unfold names
  cases hmentions : mentionsVariable text.toList with
  | true =>
    rw [if_pos rfl, isScan_namesWithin.eq_foldr (Nat.le_of_eq String.length_toList), foldr_name?]
  | false =>
    rw [if_neg (by decide), pieces_of_not_mentions hmentions, List.filterMap_map]
    exact (List.filterMap_eq_nil_iff.mpr fun c _ => rfl).symm

end DocPress.Settings
