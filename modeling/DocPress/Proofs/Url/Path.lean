import DocPress.Proofs.Comment.Destination
import DocPress.Url.Path

/-!
# URL paths read back

What a URL path may hold, and what it stands for.

* `isPathText` — the form of URL paths: characters that stand for themselves, and percent-encodings.
* `percentDecode`, `readPath?` — the bytes and the string that a URL path stands for.
* `ColonFirst` — the first colon of a text has no slash before it, so that it could end a scheme.
* `guarded` — a text with the segment `.` in front if its first colon could end a scheme.

Principal results: `percentDecode_encodePath` — reading undoes percent-encoding; `mem_encodePath_iff`
— a delimiter stands in an encoded text exactly if it stands in the text; `pathOf_eq_encodePath` — a
URL path is the percent-encoding of the guarded text, whose colons end no scheme.
-/

namespace DocPress.Url

open DocPress.Text DocPress.Comment.Markdown

/-! ## The form of paths -/

/-- The characters other than letters and digits that stand for themselves in a path. -/
def pathMarks : List Char := "-_.~$&+,/:;=@".toList

/-- Whether a character stands for itself in a path. -/
def isPathChar (c : Char) : Bool := c.isAlphanum || pathMarks.contains c

/-- Whether a character is a digit of the upper-case hexadecimal notation. -/
def isUpperHex (c : Char) : Bool := c.isDigit || ('A' ≤ c && c ≤ 'F')

/-- Whether a text has only characters that stand for themselves, and percent signs that two
hexadecimal digits follow. -/
def isPathText : List Char → Bool
  | '%' :: high :: low :: rest => isUpperHex high && isUpperHex low && isPathText rest
  | c :: rest => isPathChar c && isPathText rest
  | [] => true

/-- The first colon of a text has no slash before it. -/
def ColonFirst (s : List Char) : Prop :=
  ∃ before after, s = before ++ ':' :: after ∧ ':' ∉ before ∧ '/' ∉ before

/-! ## Reading -/

/-- The value of a hexadecimal digit, in either letter case. -/
def hexValue? (c : Char) : Option Nat :=
  if c.isDigit then some (c.toNat - 0x30)
  else if 'A' ≤ c && c ≤ 'F' then some (c.toNat - 0x37)
  else if 'a' ≤ c && c ≤ 'f' then some (c.toNat - 0x57)
  else none

/-- The bytes that a URL path stands for. A percent sign without two digits stands for itself. -/
def percentDecode : List Char → List UInt8
  | '%' :: high :: low :: rest =>
    match hexValue? high, hexValue? low with
    | some h, some l => UInt8.ofNat (16 * h + l) :: percentDecode rest
    | _, _ => UInt8.ofNat '%'.toNat :: percentDecode (high :: low :: rest)
  | c :: rest => String.utf8EncodeChar c ++ percentDecode rest
  | [] => []

/-- The string that a URL path stands for; none if its bytes are not UTF-8. -/
def readPath? (path : String) : Option String := Utf8.decode? (percentDecode path.toList)

theorem toNat_lt_of_mem_pathMarks {x : Char} (h : x ∈ pathMarks) : x.toNat < 128 := by
  have hmarks : pathMarks.all (fun x => decide (x.toNat < 128)) = true := by decide
  exact of_decide_eq_true (List.all_eq_true.mp hmarks x h)

theorem toNat_lt_of_isPathChar {c : Char} (h : isPathChar c = true) : c.toNat < 128 := by
  simp only [isPathChar, Char.isAlphanum, Bool.or_eq_true] at h
  rcases h with (h | h) | h
  · exact toNat_lt_of_isAlpha h
  · simp only [Char.isDigit, Bool.and_eq_true, decide_eq_true_eq] at h
    have hlast : c.toNat ≤ 57 := h.2
    omega
  · exact toNat_lt_of_mem_pathMarks (List.contains_iff_mem.mp h)

theorem isPathText_cons {c : Char} (h : c ≠ '%') (rest : List Char) :
    isPathText (c :: rest) = (isPathChar c && isPathText rest) := by
  rw [isPathText.eq_def]
  split <;> simp_all

theorem percentDecode_cons {c : Char} (h : c ≠ '%') (rest : List Char) :
    percentDecode (c :: rest) = String.utf8EncodeChar c ++ percentDecode rest := by
  rw [percentDecode.eq_def]
  split <;> simp_all

/-! ## Bytes -/

theorem hexDigit_spec : ∀ n < 16, isUpperHex (hexDigit n) = true ∧ isPathChar (hexDigit n) = true ∧
    hexValue? (hexDigit n) = some n := by
  decide

/-- A byte that stands for itself is that of a character of paths. -/
theorem isPathByte_spec : ∀ b : UInt8, isPathByte b = true →
    isPathChar (Char.ofNat b.toNat) = true ∧ Char.ofNat b.toNat ≠ '%' ∧
      (Char.ofNat b.toNat).toNat = b.toNat ∧ String.utf8EncodeChar (Char.ofNat b.toNat) = [b] :=
  byte_forall (by decide +kernel)

theorem isPathText_pathByte (b : UInt8) (rest : List Char) :
    isPathText (pathByte b ++ rest) = isPathText rest := by
  unfold pathByte
  split
  · rename_i hbyte
    obtain ⟨hchar, hne, _, _⟩ := isPathByte_spec b hbyte
    rw [List.singleton_append, isPathText_cons hne, hchar, Bool.true_and]
  · have hlt := b.toNat_lt
    have hhigh := (hexDigit_spec (b.toNat / 16) (by omega)).1
    have hlow := (hexDigit_spec (b.toNat % 16) (by omega)).1
    simp [percentByte, isPathText, hhigh, hlow]

/-- **A written byte is read back**, whatever follows. -/
theorem percentDecode_pathByte (b : UInt8) (rest : List Char) :
    percentDecode (pathByte b ++ rest) = b :: percentDecode rest := by
  unfold pathByte
  split
  · rename_i hbyte
    obtain ⟨_, hne, _, hencode⟩ := isPathByte_spec b hbyte
    rw [List.singleton_append, percentDecode_cons hne, hencode]
    rfl
  · have hlt := b.toNat_lt
    have hhigh := (hexDigit_spec (b.toNat / 16) (by omega)).2.2
    have hlow := (hexDigit_spec (b.toNat % 16) (by omega)).2.2
    have hvalue : 16 * (b.toNat / 16) + b.toNat % 16 = b.toNat := by omega
    simp [percentByte, percentDecode, hhigh, hlow, hvalue]

theorem isPathChar_of_mem_pathByte {b : UInt8} {c : Char} (h : c ∈ pathByte b) :
    isPathChar c = true ∨ c = '%' := by
  unfold pathByte at h
  split at h
  · rename_i hbyte
    rw [List.mem_singleton.mp h]
    exact Or.inl (isPathByte_spec b hbyte).1
  · have hlt := b.toNat_lt
    simp only [percentByte, List.mem_cons, List.not_mem_nil, or_false] at h
    rcases h with rfl | rfl | rfl
    · exact Or.inr rfl
    · exact Or.inl (hexDigit_spec (b.toNat / 16) (by omega)).2.1
    · exact Or.inl (hexDigit_spec (b.toNat % 16) (by omega)).2.1

/-- A mark is written for its own byte only. -/
theorem toNat_of_mem_pathByte {b : UInt8} {x : Char} (hx : x ∈ pathMarks) (h : x ∈ pathByte b) :
    b.toNat = x.toNat := by
  unfold pathByte at h
  split at h
  · rename_i hbyte
    obtain ⟨_, _, hnat, _⟩ := isPathByte_spec b hbyte
    rw [List.mem_singleton.mp h, hnat]
  · have hlt := b.toNat_lt
    have hhigh := (hexDigit_spec (b.toNat / 16) (by omega)).1
    have hlow := (hexDigit_spec (b.toNat % 16) (by omega)).1
    have hmarks : pathMarks.all (fun x => x != '%' && !isUpperHex x) = true := by decide
    obtain ⟨hpercent, hhex⟩ : x ≠ '%' ∧ isUpperHex x = false := by
      simpa using List.all_eq_true.mp hmarks x hx
    simp only [percentByte, List.mem_cons, List.not_mem_nil, or_false] at h
    rcases h with rfl | rfl | rfl
    · exact absurd rfl hpercent
    · rw [hhigh] at hhex
      cases hhex
    · rw [hlow] at hhex
      cases hhex

/-! ## Encoded texts -/

theorem encodePath_append (s t : List Char) : encodePath (s ++ t) = encodePath s ++ encodePath t := by
  simp [encodePath, Utf8.encode]

theorem encodePath_cons (c : Char) (s : List Char) :
    encodePath (c :: s) = encodePath [c] ++ encodePath s :=
  encodePath_append [c] s

theorem isPathText_encodePath (s : List Char) : isPathText (encodePath s) = true := by
  suffices h : ∀ bytes : List UInt8, isPathText (bytes.flatMap pathByte) = true from
    h (Utf8.encode s)
  intro bytes
  induction bytes with
  | nil => rfl
  | cons b bytes ih => rw [List.flatMap_cons, isPathText_pathByte, ih]

theorem isPathChar_of_mem_encodePath {s : List Char} {c : Char} (h : c ∈ encodePath s) :
    isPathChar c = true ∨ c = '%' := by
  obtain ⟨b, _, hc⟩ := List.mem_flatMap.mp h
  exact isPathChar_of_mem_pathByte hc

/-- **Reading undoes percent-encoding.** -/
theorem percentDecode_encodePath (s : List Char) : percentDecode (encodePath s) = Utf8.encode s := by
  suffices h : ∀ bytes : List UInt8, percentDecode (bytes.flatMap pathByte) = bytes from
    h (Utf8.encode s)
  intro bytes
  induction bytes with
  | nil => rfl
  | cons b bytes ih => rw [List.flatMap_cons, percentDecode_pathByte, ih]

theorem readPath?_encodePath (s : List Char) :
    readPath? (String.ofList (encodePath s)) = some (String.ofList s) := by
  have hdecode := Utf8.decode?_encode (String.ofList s)
  rw [String.toList_ofList] at hdecode
  rw [readPath?, String.toList_ofList, percentDecode_encodePath, hdecode]

theorem encodePath_injective {s t : List Char} (h : encodePath s = encodePath t) : s = t := by
  have hread := readPath?_encodePath s
  rw [h, readPath?_encodePath] at hread
  exact (String.ofList_inj.mp (Option.some.inj hread)).symm

/-- A mark stands for itself. -/
theorem encodePath_mark {x : Char} (hx : x ∈ pathMarks) : encodePath [x] = [x] := by
  have hmarks : pathMarks.all (fun x => encodePath [x] == [x]) = true := by decide
  exact eq_of_beq (List.all_eq_true.mp hmarks x hx)

/-- **A mark stands in an encoded text exactly if it stands in the text.** -/
theorem mem_encodePath_iff {x : Char} (hx : x ∈ pathMarks) {s : List Char} :
    x ∈ encodePath s ↔ x ∈ s := by
  have hascii := toNat_lt_of_mem_pathMarks hx
  constructor
  · intro h
    obtain ⟨b, hb, hxb⟩ := List.mem_flatMap.mp h
    obtain ⟨c, hc, hb⟩ := List.mem_flatMap.mp hb
    have hbyte := toNat_of_mem_pathByte hx hxb
    -- the byte of a mark is that of no other character
    have hlt : c.toNat < 128 := by
      by_contra hge
      have := Utf8.le_of_mem_utf8EncodeChar (Nat.not_lt.mp hge) hb
      omega
    rw [Utf8.utf8EncodeChar_ascii hlt, List.mem_singleton] at hb
    rw [hb, UInt8.toNat_ofNat'] at hbyte
    obtain rfl : c = x := Char.toNat_inj.mp (by omega)
    exact hc
  · intro h
    obtain ⟨front, back, rfl⟩ := List.append_of_mem h
    rw [encodePath_append, encodePath_cons, encodePath_mark hx]
    simp

/-! ## Colons and schemes -/

theorem colonFirst_cons {c : Char} (hcolon : c ≠ ':') (s : List Char) :
    ColonFirst (c :: s) ↔ c ≠ '/' ∧ ColonFirst s := by
  constructor
  · rintro ⟨before, after, hs, hfirst, hslash⟩
    cases before with
    | nil => exact absurd (List.cons.inj hs).1 hcolon
    | cons b before =>
      obtain ⟨rfl, hrest⟩ := List.cons.inj hs
      rw [List.mem_cons, not_or] at hfirst hslash
      exact ⟨Ne.symm hslash.1, before, after, hrest, hfirst.2, hslash.2⟩
  · rintro ⟨hne, before, after, rfl, hfirst, hslash⟩
    refine ⟨c :: before, after, rfl, ?_, ?_⟩
    · simp [Ne.symm hcolon, hfirst]
    · simp [Ne.symm hne, hslash]

theorem colonFirst_colon (s : List Char) : ColonFirst (':' :: s) :=
  ⟨[], s, rfl, List.not_mem_nil, List.not_mem_nil⟩

theorem not_colonFirst_nil : ¬ ColonFirst [] := by
  rintro ⟨before, after, h, _⟩
  simp at h

/-- A text gets the segment `.` in front exactly if its first colon has no slash before it. -/
theorem needsDotSegment_iff (s : List Char) : needsDotSegment s = true ↔ ColonFirst s := by
  induction s with
  | nil => simp [needsDotSegment, not_colonFirst_nil]
  | cons c s ih =>
    by_cases hcolon : c = ':'
    · subst hcolon
      simp [needsDotSegment, colonFirst_colon]
    · rw [colonFirst_cons hcolon, ← ih]
      by_cases hslash : c = '/'
      · simp [needsDotSegment, hslash]
      · simp [needsDotSegment, hslash, Ne.symm hcolon]

/-- A text without slashes and colons in front makes no difference. -/
theorem colonFirst_append {front : List Char} (hcolon : ':' ∉ front) (hslash : '/' ∉ front)
    (s : List Char) : ColonFirst (front ++ s) ↔ ColonFirst s := by
  induction front with
  | nil => rfl
  | cons c front ih =>
    rw [List.mem_cons, not_or] at hcolon hslash
    rw [List.cons_append, colonFirst_cons (Ne.symm hcolon.1), ih hcolon.2 hslash.2]
    exact and_iff_right (Ne.symm hslash.1)

/-- **Percent-encoding keeps slashes and colons in their order.** -/
theorem colonFirst_encodePath (s : List Char) : ColonFirst (encodePath s) ↔ ColonFirst s := by
  have hcolonMark : ':' ∈ pathMarks := by decide
  have hslashMark : '/' ∈ pathMarks := by decide
  induction s with
  | nil => exact Iff.rfl
  | cons c s ih =>
    rw [encodePath_cons]
    by_cases hcolon : c = ':'
    · subst hcolon
      rw [encodePath_mark hcolonMark]
      exact iff_of_true (colonFirst_colon _) (colonFirst_colon _)
    · by_cases hslash : c = '/'
      · subst hslash
        rw [encodePath_mark hslashMark, List.singleton_append, colonFirst_cons hcolon,
          colonFirst_cons hcolon]
        simp
      · have hnoColon : ':' ∉ encodePath [c] := by
          rw [mem_encodePath_iff hcolonMark, List.mem_singleton]
          exact Ne.symm hcolon
        have hnoSlash : '/' ∉ encodePath [c] := by
          rw [mem_encodePath_iff hslashMark, List.mem_singleton]
          exact Ne.symm hslash
        rw [colonFirst_append hnoColon hnoSlash, colonFirst_cons hcolon, and_iff_right hslash]
        exact ih

/-- Where a slash stands before the first colon there is no scheme. -/
theorem scheme?_eq_none {url : List Char} (h : ¬ ColonFirst url) : scheme? url = none := by
  refine Option.eq_none_iff_forall_ne_some.mpr fun scheme hscheme => h ?_
  obtain ⟨rest, rfl, hcolon, _, hchars⟩ := scheme?_eq_some hscheme
  refine ⟨scheme, rest, rfl, hcolon, fun hslash => ?_⟩
  have := hchars '/' hslash
  simp [isSchemeChar] at this

/-! ## URL paths -/

/-- A text with the segment `.` in front if its first colon has no slash before it. -/
def guarded (s : List Char) : List Char := if needsDotSegment s then "./".toList ++ s else s

theorem guarded_of_colonFirst {s : List Char} (h : ColonFirst s) : guarded s = "./".toList ++ s :=
  if_pos ((needsDotSegment_iff s).mpr h)

theorem guarded_of_not_colonFirst {s : List Char} (h : ¬ ColonFirst s) : guarded s = s :=
  if_neg fun hneeds => h ((needsDotSegment_iff s).mp hneeds)

/-- **A URL path is the percent-encoding of the guarded text.** -/
theorem pathOf_eq_encodePath (s : List Char) : pathOf s = encodePath (guarded s) := by
  have hdot : encodePath "./".toList = "./".toList := by decide
  unfold pathOf guarded
  split
  · rw [encodePath_append, hdot]
  · rfl

/-- A path from the root of the site needs no guard. -/
theorem pathOf_slash_eq_encodePath (s : List Char) : pathOf ('/' :: s) = encodePath ('/' :: s) := by
  have hguarded : guarded ('/' :: s) = '/' :: s := by
    refine guarded_of_not_colonFirst ?_
    rw [colonFirst_cons (by decide)]
    simp
  rw [pathOf_eq_encodePath, hguarded]

theorem pathOf_slash (s : List Char) : pathOf ('/' :: s) = '/' :: encodePath s := by
  rw [pathOf_slash_eq_encodePath, encodePath_cons, encodePath_mark (by decide)]
  rfl

/-- A URL path is ASCII. -/
theorem toNat_lt_of_mem_pathOf {s : List Char} {c : Char} (h : c ∈ pathOf s) : c.toNat < 128 := by
  rw [pathOf_eq_encodePath] at h
  rcases isPathChar_of_mem_encodePath h with h | rfl
  · exact toNat_lt_of_isPathChar h
  · decide

theorem not_mem_pathOf {c : Char} (hchar : isPathChar c = false) (hpercent : c ≠ '%')
    (s : List Char) : c ∉ pathOf s := by
  rw [pathOf_eq_encodePath]
  intro h
  rcases isPathChar_of_mem_encodePath h with h | h
  · rw [hchar] at h
    cases h
  · exact hpercent h

theorem nul_not_mem_pathOf (s : List Char) : '\x00' ∉ pathOf s :=
  not_mem_pathOf (by decide) (by decide) s

/-- A mark that is not part of the guard stands in a URL path exactly if it stands in the text. -/
theorem mem_pathOf_iff {x : Char} (hx : x ∈ pathMarks) (hguard : x ∉ "./".toList) {s : List Char} :
    x ∈ pathOf s ↔ x ∈ s := by
  rw [pathOf_eq_encodePath, mem_encodePath_iff hx, guarded]
  split
  · rw [List.mem_append, or_iff_right hguard]
  · rfl

theorem not_colonFirst_dotSegment (s : List Char) : ¬ ColonFirst ("./".toList ++ s) := by
  have hcons : "./".toList ++ s = '.' :: '/' :: s := rfl
  rw [hcons, colonFirst_cons (by decide), colonFirst_cons (by decide)]
  simp

theorem not_colonFirst_guarded (s : List Char) : ¬ ColonFirst (guarded s) := by
  by_cases h : ColonFirst s
  · rw [guarded_of_colonFirst h]
    exact not_colonFirst_dotSegment s
  · rw [guarded_of_not_colonFirst h]
    exact h

theorem not_colonFirst_pathOf (s : List Char) : ¬ ColonFirst (pathOf s) := by
  rw [pathOf_eq_encodePath, colonFirst_encodePath]
  exact not_colonFirst_guarded s

theorem readPath?_urlPath (p : String) :
    readPath? (urlPath p) = some (String.ofList (guarded p.toList)) := by
  rw [urlPath, pathOf_eq_encodePath, readPath?_encodePath]

theorem readPath?_of_colonFirst {p : String} (h : ColonFirst p.toList) :
    readPath? (urlPath p) = some ("./" ++ p) := by
  rw [readPath?_urlPath, guarded_of_colonFirst h, String.ofList_append, String.ofList_toList,
    String.ofList_toList]

theorem readPath?_of_not_colonFirst {p : String} (h : ¬ ColonFirst p.toList) :
    readPath? (urlPath p) = some p := by
  rw [readPath?_urlPath, guarded_of_not_colonFirst h, String.ofList_toList]

/-- Two texts are guarded alike exactly if they are the same, or one is the other with its guard. -/
theorem guarded_eq_iff {s t : List Char} :
    guarded s = guarded t ↔ s = t ∨ (t = "./".toList ++ s ∧ ColonFirst s) ∨
      (s = "./".toList ++ t ∧ ColonFirst t) := by
  by_cases hs : ColonFirst s
  · by_cases ht : ColonFirst t
    · have hst : s ≠ "./".toList ++ t := fun h => not_colonFirst_dotSegment t (h ▸ hs)
      have hts : t ≠ "./".toList ++ s := fun h => not_colonFirst_dotSegment s (h ▸ ht)
      rw [guarded_of_colonFirst hs, guarded_of_colonFirst ht, List.append_cancel_left_eq]
      simp only [hst, hts, false_and, or_false]
    · have hne : s ≠ t := fun h => ht (h ▸ hs)
      rw [guarded_of_colonFirst hs, guarded_of_not_colonFirst ht, eq_comm]
      simp only [hne, hs, ht, and_true, and_false, or_false, false_or]
  · by_cases ht : ColonFirst t
    · have hne : s ≠ t := fun h => hs (h ▸ ht)
      rw [guarded_of_not_colonFirst hs, guarded_of_colonFirst ht]
      simp only [hne, hs, ht, and_true, and_false, false_or]
    · rw [guarded_of_not_colonFirst hs, guarded_of_not_colonFirst ht]
      simp only [hs, ht, and_false, or_false]

theorem toList_eq_dotSegment_iff {p q : String} :
    p.toList = "./".toList ++ q.toList ↔ p = "./" ++ q := by
  rw [← String.toList_append, String.toList_inj]

/-- **A URL path is safe and stands for one string.** For every string, its URL path has only the
characters of paths and percent-encodings; no colon of it can end a scheme; it stands for the string
itself, with the segment `.` in front exactly if the first colon of the string has no slash before
it; and two strings have the same URL path only if one is the other with that segment in front. -/
theorem urlPath_stands_for_string (p : String) :
    isPathText (urlPath p).toList = true ∧
    ¬ ColonFirst (urlPath p).toList ∧
    scheme? (urlPath p).toList = none ∧
    (readPath? (urlPath p) = some ("./" ++ p) ↔ ColonFirst p.toList) ∧
    (readPath? (urlPath p) = some p ↔ ¬ ColonFirst p.toList) ∧
    ∀ q, urlPath p = urlPath q ↔ p = q ∨ (q = "./" ++ p ∧ ColonFirst p.toList) ∨
      (p = "./" ++ q ∧ ColonFirst q.toList) := by
  have htoList : (urlPath p).toList = pathOf p.toList := String.toList_ofList
  have hcolon := not_colonFirst_pathOf p.toList
  have hne : p ≠ "./" ++ p := by
    intro h
    have := congrArg String.length h
    rw [String.length_append] at this
    have hlen : "./".length = 2 := rfl
    omega
  rw [htoList]
  refine ⟨?_, hcolon, scheme?_eq_none hcolon, ?_, ?_, ?_⟩
  · rw [pathOf_eq_encodePath]
    exact isPathText_encodePath _
  · refine ⟨fun hread => ?_, readPath?_of_colonFirst⟩
    by_contra h
    rw [readPath?_of_not_colonFirst h] at hread
    exact hne (Option.some.inj hread)
  · refine ⟨fun hread h => ?_, readPath?_of_not_colonFirst⟩
    rw [readPath?_of_colonFirst h] at hread
    exact hne (Option.some.inj hread).symm
  · intro q
    have hpaths : urlPath p = urlPath q ↔ guarded p.toList = guarded q.toList := by
      rw [urlPath, urlPath, String.ofList_inj, pathOf_eq_encodePath, pathOf_eq_encodePath]
      exact ⟨encodePath_injective, congrArg encodePath⟩
    have hstrings : p.toList = q.toList ↔ p = q := String.toList_inj
    rw [hpaths, guarded_eq_iff, hstrings, toList_eq_dotSegment_iff, toList_eq_dotSegment_iff]

/-- The one way in which two strings share a URL path. -/
example : urlPath "a:b c" = "./a:b%20c" ∧ urlPath "./a:b c" = "./a:b%20c" := by decide

end DocPress.Url
