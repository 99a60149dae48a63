import DocPress.Comment.Markdown
import DocPress.Proofs.Html.Visible
import DocPress.Proofs.Text.Replace
import DocPress.Proofs.Text.Utf8
import Mathlib.Data.List.TakeDrop

/-!
# Link destinations as a browser reads them

A browser reads the character references of an attribute, drops controls and spaces in front and all
tabs and line ends, and takes what stands before the first colon as the scheme if it has the form of
one.

* `ReadsReferences` — what a way to read references must do; all else about it is left open.
* `browserReads` — an attribute as a browser reads it; `scheme?` — the scheme of a URL.
* `hasLinkScheme` — the URL has no scheme, or one that links may have.
* `shownDestination` — a destination with its bytes as they are shown.

Principal results: `browserReads_destinationText` — a browser drops nothing of a written destination;
`hasLinkScheme_of_isSafeDestination`, `hasLinkScheme_mailto` — a destination that passes the test has
no scheme for a browser, or one that links may have, and so has an e-mail address.
-/

namespace DocPress.Comment.Markdown

open DocPress.Markdown DocPress.Text

/-! ## Reading URLs -/

/-- Whether a character is dropped in front of a URL. -/
def isControlOrSpace (c : Char) : Bool := c.toNat < 0x20 || c.toNat == 0x7F || c == ' '

/-- Whether a character is dropped everywhere in a URL. -/
def isTabOrLineEnd (c : Char) : Bool := c == '\t' || c == '\n' || c == '\r'

/-- A way to read the character references of an attribute: it keeps printable characters of ASCII
other than ampersands, and reads the two references that destinations are written with. How it reads
other ampersands, and characters outside ASCII, is left open. -/
structure ReadsReferences (decode : List Char → List Char) : Prop where
  nil : decode [] = []
  keeps : ∀ c rest, c ≠ '&' → 0x20 < c.toNat → c.toNat < 0x7F →
    decode (c :: rest) = c :: decode rest
  ampersand : ∀ rest, decode ("&amp;".toList ++ rest) = '&' :: decode rest
  apostrophe : ∀ rest, decode ("&#x27;".toList ++ rest) = '\x27' :: decode rest

/-- The URL that a browser reads in an attribute, with a way to read references. -/
def browserReads (decode : List Char → List Char) (value : List Char) : List Char :=
  ((decode value).dropWhile isControlOrSpace).filter fun c => !isTabOrLineEnd c

/-- Reading back the entities of escaping is such a way. -/
theorem readsReferences_decodeEntities : ReadsReferences Html.decodeEntities where
  nil := rfl
  keeps _ rest hc _ _ := Html.decodeEntities_cons hc rest
  ampersand _ := rfl
  apostrophe _ := rfl

/-- Whether a character may stand in a scheme. -/
def isSchemeChar (c : Char) : Bool := c.isAlphanum || c == '+' || c == '-' || c == '.'

/-- The scheme of a URL: a letter and further characters of schemes up to the first colon. -/
def scheme? (url : List Char) : Option (List Char) :=
  let head := url.takeWhile fun c => c != ':'
  if head.head?.any Char.isAlpha && head.all isSchemeChar && decide (head.length < url.length) then
    some head
  else none

/-- The schemes that links may have. -/
def linkSchemes : List (List Char) :=
  ["http".toList, "https".toList, "ftp".toList, "mailto".toList]

/-- Whether a URL has no scheme, or one that links may have, in any letter case. -/
def hasLinkScheme (url : List Char) : Bool :=
  (scheme? url).all fun scheme => linkSchemes.contains (scheme.map Char.toLower)

theorem scheme?_eq_some {url scheme : List Char} (h : scheme? url = some scheme) :
    ∃ rest, url = scheme ++ ':' :: rest ∧ ':' ∉ scheme ∧ scheme.head?.any Char.isAlpha = true ∧
      ∀ c ∈ scheme, isSchemeChar c = true := by
  unfold scheme? at h
  simp only at h
  split at h
  · rename_i hcond
    obtain rfl := Option.some.inj h
    simp only [Bool.and_eq_true, decide_eq_true_eq] at hcond
    obtain ⟨⟨halpha, hall⟩, hlen⟩ := hcond
    have hjoin := List.takeWhile_append_dropWhile (p := fun c => c != ':') (l := url)
    have hnot : ':' ∉ url.takeWhile fun c => c != ':' := fun hmem => by
      simpa using List.all_eq_true.mp (List.all_takeWhile ..) ':' hmem
    cases hdrop : url.dropWhile fun c => c != ':' with
    | nil =>
      rw [hdrop, List.append_nil] at hjoin
      rw [hjoin] at hlen
      omega
    | cons c rest =>
      have hc : c = ':' := by
        have := List.head?_dropWhile_not (fun c => c != ':') url
        rw [hdrop] at this
        simpa using this
      rw [hdrop, hc] at hjoin
      exact ⟨rest, hjoin.symm, hnot, halpha, List.all_eq_true.mp hall⟩
  · cases h

theorem hasLinkScheme_mailto (rest : List Char) :
    hasLinkScheme ("mailto:".toList ++ rest) = true := by
  have hhead : ("mailto:".toList ++ rest).takeWhile (fun c => c != ':') = "mailto".toList := by
    simp
  have hscheme : scheme? ("mailto:".toList ++ rest) = some "mailto".toList := by
    rw [scheme?]
    simp only [hhead]
    rw [if_pos]
    simp [isSchemeChar]
  rw [hasLinkScheme, hscheme]
  decide

/-! ## Bytes of destinations -/

/-- A byte of a destination with its reference read. -/
def shownByte (b : UInt8) : List Char :=
  if isDestinationByte b then [Char.ofNat b.toNat]
  else if b = 0x26 then ['&']
  else if b = 0x27 then ['\x27']
  else Url.percentByte b

/-- A destination with its references read. -/
def shownDestination (s : List Char) : List Char := (Text.Utf8.encode s).flatMap shownByte

/-- What holds of the bytes below 256 holds of all. -/
theorem byte_forall {P : UInt8 → Prop} (h : ∀ n < 256, P (UInt8.ofNat n)) (b : UInt8) : P b := by
  simpa using h b.toNat b.toNat_lt

/-- Whether a character is a printable one of ASCII and begins no reference. -/
def isKept (c : Char) : Bool := c != '&' && decide (0x20 < c.toNat) && decide (c.toNat < 0x7F)

/-- A byte is written as it is shown, unless it is written as a reference. -/
theorem destinationByte_cases : ∀ b : UInt8,
    (destinationByte b = shownByte b ∧ (shownByte b).all isKept = true) ∨
      (destinationByte b = "&amp;".toList ∧ shownByte b = ['&']) ∨
        (destinationByte b = "&#x27;".toList ∧ shownByte b = ['\x27']) :=
  byte_forall (by decide +kernel)

/-- No character of markup and no blank is written for a byte. -/
theorem destinationByte_solid : ∀ b : UInt8,
    (destinationByte b).all (fun c => !Html.isMarkupChar c && !isControlOrSpace c) = true :=
  byte_forall (by decide +kernel)

/-- No control or space is shown for a byte. -/
theorem shownByte_solid : ∀ b : UInt8, (shownByte b).all (fun c => !isControlOrSpace c) = true :=
  byte_forall (by decide +kernel)

/-- Only a colon is shown as one. -/
theorem colon_not_mem_shownByte : ∀ b : UInt8, b ≠ 0x3A → ':' ∉ shownByte b :=
  byte_forall (by decide +kernel)

/-- A control or space is shown in percent-encoding. -/
theorem shownByte_of_isSkipped : ∀ b : UInt8, isSkipped (Char.ofNat b.toNat) = true →
    shownByte b = Url.percentByte b :=
  byte_forall (by decide +kernel)

/-! ## What a browser reads of destinations -/

variable {decode : List Char → List Char}

/-- A text of printable characters without ampersands is read as it is. -/
theorem ReadsReferences.append (hdecode : ReadsReferences decode) {s : List Char}
    (h : ∀ c ∈ s, isKept c = true) (rest : List Char) : decode (s ++ rest) = s ++ decode rest := by
  induction s with
  | nil => rfl
  | cons c s ih =>
    have hc := h c (List.mem_cons_self ..)
    simp only [isKept, Bool.and_eq_true, bne_iff_ne, decide_eq_true_eq] at hc
    obtain ⟨⟨hamp, hlow⟩, hhigh⟩ := hc
    rw [List.cons_append, hdecode.keeps c _ hamp hlow hhigh,
      ih fun x hx => h x (List.mem_cons_of_mem _ hx)]
    rfl

theorem ReadsReferences.destinationByte (hdecode : ReadsReferences decode) (b : UInt8)
    (rest : List Char) :
    decode (destinationByte b ++ rest) = shownByte b ++ decode rest := by
  rcases destinationByte_cases b with ⟨hbyte, hkept⟩ | ⟨hbyte, hshown⟩ | ⟨hbyte, hshown⟩
  · rw [hbyte, hdecode.append (List.all_eq_true.mp hkept)]
  · rw [hbyte, hshown, hdecode.ampersand]
    rfl
  · rw [hbyte, hshown, hdecode.apostrophe]
    rfl

theorem ReadsReferences.destinationText (hdecode : ReadsReferences decode) (s : List Char) :
    decode (destinationText s) = shownDestination s := by
  suffices h : ∀ bytes : List UInt8,
      decode (bytes.flatMap Markdown.destinationByte) = bytes.flatMap shownByte from
    h (Text.Utf8.encode s)
  intro bytes
  induction bytes with
  | nil => exact hdecode.nil
  | cons b bytes ih =>
    rw [List.flatMap_cons, hdecode.destinationByte, ih, List.flatMap_cons]

theorem isControlOrSpace_of_isKept {c : Char} (h : isKept c = true) : isControlOrSpace c = false := by
  simp only [isKept, Bool.and_eq_true, bne_iff_ne, decide_eq_true_eq] at h
  obtain ⟨⟨_, hlow⟩, hhigh⟩ := h
  have hspace : c ≠ ' ' := by
    rintro rfl
    exact absurd hlow (by decide)
  simp only [isControlOrSpace, Bool.or_eq_false_iff, decide_eq_false_iff_not, beq_eq_false_iff_ne]
  exact ⟨⟨by omega, by omega⟩, hspace⟩

theorem isControlOrSpace_of_isTabOrLineEnd {c : Char} (h : isTabOrLineEnd c = true) :
    isControlOrSpace c = true := by
  simp only [isTabOrLineEnd, Bool.or_eq_true, beq_iff_eq] at h
  rcases h with (rfl | rfl) | rfl <;> rfl

/-- **A browser reads a written destination whole**, behind a text without blanks and references. -/
theorem browserReads_destinationText (hdecode : ReadsReferences decode) {start : List Char}
    (hkept : ∀ c ∈ start, isKept c = true) (s : List Char) :
    browserReads decode (start ++ destinationText s) = start ++ shownDestination s := by
  have hall : ∀ c ∈ start ++ shownDestination s, isControlOrSpace c = false := by
    intro c hc
    rcases List.mem_append.mp hc with hc | hc
    · exact isControlOrSpace_of_isKept (hkept c hc)
    · obtain ⟨b, _, hb⟩ := List.mem_flatMap.mp hc
      simpa using List.all_eq_true.mp (shownByte_solid b) c hb
  rw [browserReads, hdecode.append hkept, hdecode.destinationText]
  have hdrop : (start ++ shownDestination s).dropWhile isControlOrSpace =
      start ++ shownDestination s := by
    cases htext : start ++ shownDestination s with
    | nil => rfl
    | cons c rest =>
      refine List.dropWhile_cons_of_neg ?_
      rw [hall c (by simp [htext])]
      exact Bool.false_ne_true
  rw [hdrop, List.filter_eq_self]
  intro c hc
  cases hend : isTabOrLineEnd c with
  | false => rfl
  | true =>
    have := isControlOrSpace_of_isTabOrLineEnd hend
    rw [hall c hc] at this
    cases this

/-! ## Safe destinations -/

theorem shownDestination_cons (c : Char) (s : List Char) :
    shownDestination (c :: s) =
      (String.utf8EncodeChar c).flatMap shownByte ++ shownDestination s := by
  rw [shownDestination, Text.Utf8.encode_cons, List.flatMap_append]
  rfl

theorem shownDestination_append (s t : List Char) :
    shownDestination (s ++ t) = shownDestination s ++ shownDestination t := by
  simp [shownDestination, Text.Utf8.encode]

/-- A character of ASCII is one byte. -/
theorem shownDestination_ascii {c : Char} (h : c.toNat < 128) (s : List Char) :
    shownDestination (c :: s) = shownByte (UInt8.ofNat c.toNat) ++ shownDestination s := by
  rw [shownDestination_cons, Text.Utf8.utf8EncodeChar_ascii h]
  simp

theorem colon_not_mem_shownDestination {s : List Char} (h : ':' ∉ s) :
    ':' ∉ shownDestination s := by
  intro hmem
  obtain ⟨b, hb, hcolon⟩ := List.mem_flatMap.mp hmem
  obtain ⟨c, hc, hb⟩ := List.mem_flatMap.mp hb
  have hbyte : b = 0x3A := by
    by_contra hne
    exact colon_not_mem_shownByte b hne hcolon
  -- the byte of a colon is that of no other character
  have hascii : c.toNat < 128 := by
    by_contra hge
    have := Text.Utf8.le_of_mem_utf8EncodeChar (Nat.not_lt.mp hge) hb
    rw [hbyte] at this
    exact absurd this (by decide)
  rw [Text.Utf8.utf8EncodeChar_ascii hascii, List.mem_singleton] at hb
  have hnat : c.toNat = ':'.toNat := by
    have := congrArg UInt8.toNat (hb.symm.trans hbyte)
    rw [UInt8.toNat_ofNat'] at this
    have h58 : (0x3A : UInt8).toNat = 58 := rfl
    have hcolonNat : ':'.toNat = 58 := rfl
    omega
  obtain rfl := Char.toNat_inj.mp hnat
  exact h hc

theorem toNat_lt_of_isAlpha {c : Char} (h : c.isAlpha = true) : c.toNat < 128 := by
  unfold Char.isAlpha Char.isUpper Char.isLower at h
  simp only [Bool.or_eq_true, Bool.and_eq_true, decide_eq_true_eq] at h
  have hval : c.toNat = c.val.toNat := rfl
  have hlast : 'Z'.val.toNat = 90 ∧ 'z'.val.toNat = 122 := ⟨rfl, rfl⟩
  simp only [UInt32.le_iff_toNat_le] at h
  omega

/-- Letters are shown as they are. -/
theorem shownByte_of_isAlpha : ∀ b : UInt8, (Char.ofNat b.toNat).isAlpha = true →
    shownByte b = [Char.ofNat b.toNat] :=
  byte_forall (by decide +kernel)

theorem ofNat_toNat_ofNat {c : Char} (h : c.toNat < 128) :
    Char.ofNat (UInt8.ofNat c.toNat).toNat = c := by
  rw [UInt8.toNat_ofNat', Nat.mod_eq_of_lt (by omega), Char.ofNat_toNat]

theorem shownDestination_of_isAlpha {s : List Char} (h : ∀ c ∈ s, c.isAlpha = true) :
    shownDestination s = s := by
  induction s with
  | nil => rfl
  | cons c s ih =>
    have hc := h c (List.mem_cons_self ..)
    have hascii := toNat_lt_of_isAlpha hc
    have hofNat := ofNat_toNat_ofNat hascii
    have hbyte := shownByte_of_isAlpha (UInt8.ofNat c.toNat) (by rw [hofNat]; exact hc)
    rw [shownDestination_ascii hascii, ih fun x hx => h x (List.mem_cons_of_mem _ hx), hbyte, hofNat]
    rfl

/-- A text that is a scheme in lower case has only letters. -/
theorem isAlpha_of_mem_safeSchemes {head : List Char}
    (h : safeSchemes.contains (head.map Char.toLower) = true) : ∀ c ∈ head, c.isAlpha = true := by
  intro c hc
  have hletters : ∀ scheme ∈ safeSchemes, scheme.all Char.isLower = true := by decide
  have hlower : c.toLower.isLower = true :=
    List.all_eq_true.mp (hletters _ (List.contains_iff_mem.mp h)) _ (List.mem_map_of_mem hc)
  unfold Char.toLower at hlower
  unfold Char.isAlpha
  split at hlower
  · rename_i hupper
    have hletter : c.isUpper = true := by
      unfold Char.isUpper
      simpa using hupper
    rw [hletter, Bool.true_or]
  · rw [hlower, Bool.or_true]

/-- A destination that begins with a control or space has no scheme. -/
theorem scheme?_of_isSkipped {c : Char} (h : isSkipped c = true) (s : List Char) :
    scheme? (shownDestination (c :: s)) = none := by
  have hascii : c.toNat < 128 := by
    simp only [isSkipped, Bool.or_eq_true, decide_eq_true_eq, beq_iff_eq] at h
    rcases h with h | rfl
    · omega
    · decide
  have hbyte := shownByte_of_isSkipped (UInt8.ofNat c.toNat) (by rwa [ofNat_toNat_ofNat hascii])
  cases hscheme : scheme? (shownDestination (c :: s)) with
  | none => rfl
  | some scheme =>
    obtain ⟨rest, hurl, _, hhead, _⟩ := scheme?_eq_some hscheme
    rw [shownDestination_ascii hascii, hbyte, Url.percentByte] at hurl
    cases scheme with
    | nil => cases hhead
    | cons x scheme =>
      obtain ⟨rfl, _⟩ := List.cons.inj hurl
      cases hhead

/-- What passes the test: no colon, a colon behind a safe scheme, or a character before any colon that
no scheme has. -/
theorem isSafeDestination_cases {dest : List Char} (h : isSafeDestination dest = true)
    (hfirst : dest.dropWhile isSkipped = dest) : ∃ head rest, dest = head ++ rest ∧ ':' ∉ head ∧
      (rest = [] ∨ (∃ more, rest = ':' :: more ∧ safeSchemes.contains (head.map Char.toLower) = true) ∨
        ∃ c more, rest = c :: more ∧ c ∈ ['/', '?', '#']) := by
  rw [isSafeDestination, hfirst, List.span_eq_takeWhile_dropWhile] at h
  simp only at h
  generalize hp : (fun c => !(c == ':' || c == '/' || c == '?' || c == '#')) = p at h
  refine ⟨dest.takeWhile p, dest.dropWhile p, (List.takeWhile_append_dropWhile ..).symm, ?_, ?_⟩
  · intro hmem
    have := List.all_eq_true.mp (List.all_takeWhile ..) ':' hmem
    rw [← hp] at this
    cases this
  · cases hrest : dest.dropWhile p with
    | nil => exact Or.inl rfl
    | cons c more =>
      have hc : p c = false := by
        have := List.head?_dropWhile_not p dest
        rw [hrest] at this
        simpa using this
      rw [hrest] at h
      by_cases hcolon : c = ':'
      · subst hcolon
        exact Or.inr (Or.inl ⟨more, rfl, h⟩)
      · refine Or.inr (Or.inr ⟨c, more, rfl, ?_⟩)
        simp only [← hp, Bool.not_eq_false', Bool.or_eq_true, beq_iff_eq, hcolon, false_or] at hc
        simpa [or_assoc] using hc

/-- The characters that show that a destination has no scheme are shown as they are. -/
theorem shownDestination_separator {c : Char} (h : c ∈ [':', '/', '?', '#']) (s : List Char) :
    shownDestination (c :: s) = c :: shownDestination s := by
  have hbytes : [':', '/', '?', '#'].all (fun x =>
      decide (x.toNat < 128) && shownByte (UInt8.ofNat x.toNat) == [x]) = true := by decide
  obtain ⟨hascii, hbyte⟩ : c.toNat < 128 ∧ shownByte (UInt8.ofNat c.toNat) = [c] := by
    simpa using List.all_eq_true.mp hbytes c h
  rw [shownDestination_ascii hascii, hbyte]
  rfl

/-- **A destination that passes the test has no scheme for a browser, or one that links may have.** -/
theorem hasLinkScheme_of_isSafeDestination {dest : List Char} (h : isSafeDestination dest = true) :
    hasLinkScheme (shownDestination dest) = true := by
  rw [hasLinkScheme]
  cases hscheme : scheme? (shownDestination dest) with
  | none => rfl
  | some scheme =>
    obtain ⟨urlRest, hurl, hcolon, _, hchars⟩ := scheme?_eq_some hscheme
    have hfirst : dest.dropWhile isSkipped = dest := by
      cases dest with
      | nil => rfl
      | cons c s =>
        refine List.dropWhile_cons_of_neg fun hc => ?_
        rw [scheme?_of_isSkipped hc] at hscheme
        cases hscheme
    -- the scheme is what stands before the first colon
    have hbefore : (shownDestination dest).takeWhile (fun c => c != ':') = scheme := by
      rw [hurl, takeWhile_bne hcolon]
    obtain ⟨head, rest, rfl, hnot, hrest⟩ := isSafeDestination_cases h hfirst
    have hshown := colon_not_mem_shownDestination hnot
    rcases hrest with rfl | ⟨more, rfl, hsafe⟩ | ⟨c, more, rfl, hc⟩
    · rw [List.append_nil] at hurl
      exact absurd (by simp [hurl]) hshown
    · have hhead := shownDestination_of_isAlpha (isAlpha_of_mem_safeSchemes hsafe)
      rw [shownDestination_append, shownDestination_separator (by simp),
        List.takeWhile_append_of_pos (bne_of_not_mem hshown), hhead] at hbefore
      obtain rfl : head = scheme := by simpa using hbefore
      exact hsafe
    · have hnotColon : c ≠ ':' := by
        rintro rfl
        simp at hc
      rw [shownDestination_append, shownDestination_separator (List.mem_cons_of_mem _ hc),
        List.takeWhile_append_of_pos (bne_of_not_mem hshown),
        List.takeWhile_cons_of_pos (by simpa using hnotColon)] at hbefore
      have hschemeChar := hchars c (by simp [← hbefore])
      have hnone : ['/', '?', '#'].all (fun x => !isSchemeChar x) = true := by decide
      have hnot := List.all_eq_true.mp hnone c hc
      rw [hschemeChar] at hnot
      cases hnot

theorem isSafeDestination_safeDestination (dest : List Char) :
    isSafeDestination (safeDestination dest) = true := by
  rw [safeDestination]
  split
  · assumption
  · decide

end DocPress.Comment.Markdown
