import DocPress.Declaration
import DocPress.Proofs.Html.Visible
import DocPress.Proofs.Text.Utf8

/-!
# Declarations by byte offsets

A declaration can also be rendered by a scan that keeps one number, the byte offset up to which the
text is written. Moving an annotation into the rest of the text and cutting the text at its ends are
then operations that can fail.

* `slice?`, `clamp?` — the two operations, `none` where they fail.
* `Scan.step?` — one annotation; `scan?` — all of them; `htmlByOffsets?` — the whole rendering.

Principal results: `step?_segmentsFrom` — one step never fails, keeps the offset on a character
boundary and writes what `segmentsFrom` writes; `scan?_reaches` — so does a scan of any annotations;
`htmlByOffsets?_eq` — the two renderings agree; `visible_html` — the text is shown unchanged.
-/

namespace DocPress.Declaration

open DocPress.Doc DocPress.Text.Utf8

/-! ## The scan -/

/-- A number moved into a closed range; none if the range is empty. -/
def clamp? (n low high : Nat) : Option Nat :=
  if low ≤ high then some (clamp n low high) else none

/-- The text from one byte position to another; none unless both are character boundaries in this
order. -/
def slice? (text : List Char) (start stop : Nat) : Option (List Char) :=
  if start ≤ stop then
    (splitAtByte? start text).bind fun (_, tail) =>
      (splitAtByte? (stop - start) tail).map fun (part, _) => part
  else none

/-- How far a declaration is written. -/
structure Scan where
  /-- The byte offset up to which the text is written. -/
  last : Nat := 0
  /-- The stretches written so far. -/
  done : List Segment := []

/-- One more annotation; it is left out if its range cannot be cut out of the text. -/
def Scan.step? (text : List Char) (s : Scan) (a : Annotation) : Option Scan := do
  let start ← clamp? a.start s.last (byteLength text)
  let stop ← clamp? a.stop start (byteLength text)
  match slice? text s.last start, slice? text start stop with
  | some before, some label =>
    some ⟨stop, s.done ++ [.plain before, .link (target a) label]⟩
  | _, _ => some s

/-- The scan over a list of annotations. -/
def scan? (text : List Char) (annotations : List Annotation) : Option Scan :=
  annotations.foldlM (Scan.step? text) {}

/-- A declaration in HTML, rendered by offsets. -/
def htmlByOffsets? (d : Decl) : Option String := do
  let text := d.text.toList
  let s ← scan? text d.annotations
  let rest ← slice? text s.last (byteLength text)
  some (String.ofList ((s.done ++ [Segment.plain rest]).flatMap Segment.html))

theorem le_clamp {n low high : Nat} (h : low ≤ high) : low ≤ clamp n low high := by
  unfold clamp
  split
  · omega
  · split <;> omega

theorem clamp_le {n low high : Nat} (h : low ≤ high) : clamp n low high ≤ high := by
  unfold clamp
  split
  · omega
  · split <;> omega

theorem slice?_eq_some_iff {text part : List Char} {start stop : Nat} :
    slice? text start stop = some part ↔
      ∃ front back, text = front ++ (part ++ back) ∧ byteLength front = start ∧
        start + byteLength part = stop := by
  unfold slice?
  constructor
  · intro h
    split at h
    · rename_i hle
      obtain ⟨⟨front, tail⟩, hfront, h⟩ := Option.bind_eq_some_iff.mp h
      obtain ⟨⟨p, back⟩, hpart, rfl⟩ := Option.map_eq_some_iff.mp h
      obtain ⟨rfl, hlen⟩ := splitAtByte?_eq_some_iff.mp hfront
      obtain ⟨rfl, hlen'⟩ := splitAtByte?_eq_some_iff.mp hpart
      exact ⟨front, back, rfl, hlen, by simp only; omega⟩
    · cases h
  · rintro ⟨front, back, rfl, hfront, hpart⟩
    have hcut : splitAtByte? (stop - start) (part ++ back) = some (part, back) :=
      splitAtByte?_eq_some_iff.mpr ⟨rfl, by omega⟩
    rw [if_pos (by omega), splitAtByte?_eq_some_iff.mpr ⟨rfl, hfront⟩, Option.bind_some]
    simp only [hcut, Option.map_some]

theorem cut?_eq_some_iff {a : Annotation} {offset : Nat} {rest before label after : List Char} :
    cut? a offset rest = some (before, label, after) ↔
      rest = before ++ (label ++ after) ∧
      byteLength before = clamp a.start offset (offset + byteLength rest) - offset ∧
      byteLength label =
        clamp a.stop (clamp a.start offset (offset + byteLength rest)) (offset + byteLength rest) -
          clamp a.start offset (offset + byteLength rest) := by
  simp only [cut?, Option.bind_eq_bind, Option.bind_eq_some_iff, Option.some.injEq, Prod.mk.injEq]
  constructor
  · rintro ⟨⟨b, tail⟩, hb, ⟨l, r⟩, hl, rfl, rfl, rfl⟩
    obtain ⟨rfl, hb⟩ := splitAtByte?_eq_some_iff.mp hb
    obtain ⟨rfl, hl⟩ := splitAtByte?_eq_some_iff.mp hl
    exact ⟨rfl, hb, hl⟩
  · rintro ⟨hrest, hb, hl⟩
    exact ⟨(before, label ++ after), splitAtByte?_eq_some_iff.mpr ⟨hrest, hb⟩, (label, after),
      splitAtByte?_eq_some_iff.mpr ⟨rfl, hl⟩, rfl, rfl, rfl⟩

/-! ## One step -/

/-- The scan stands on a character boundary, and `rest` is the text that is still to be written. -/
def Scan.Before (text : List Char) (s : Scan) (rest : List Char) : Prop :=
  ∃ front, text = front ++ rest ∧ byteLength front = s.last

theorem Scan.Before.byteLength_text {text rest : List Char} {s : Scan} (h : s.Before text rest) :
    byteLength text = s.last + byteLength rest := by
  obtain ⟨front, rfl, hlen⟩ := h
  rw [byteLength_append, hlen]

/-- Two readings of the text that begin at the scan's offset agree on what follows it. -/
theorem Scan.Before.rest_eq {text rest front tail : List Char} {s : Scan} (h : s.Before text rest)
    (htext : text = front ++ tail) (hlen : byteLength front = s.last) : tail = rest := by
  obtain ⟨front', htext', hlen'⟩ := h
  have h1 := splitAtByte?_eq_some_iff.mpr ⟨htext, hlen⟩
  rw [splitAtByte?_eq_some_iff.mpr ⟨htext', hlen'⟩] at h1
  simp only [Option.some.injEq, Prod.mk.injEq] at h1
  exact h1.2.symm

/-- Cutting the text at both ends of an annotation's range is cutting the rest of the text. -/
theorem Scan.Before.slices_iff {text rest before label : List Char} {s : Scan} {a : Annotation}
    {start stop : Nat} (h : s.Before text rest)
    (hstart : start = clamp a.start s.last (byteLength text))
    (hstop : stop = clamp a.stop start (byteLength text)) :
    (slice? text s.last start = some before ∧ slice? text start stop = some label) ↔
      ∃ after, cut? a s.last rest = some (before, label, after) := by
  have hsize := h.byteLength_text
  have hge : s.last ≤ start := hstart ▸ le_clamp (by omega)
  have hle : start ≤ byteLength text := hstart ▸ clamp_le (by omega)
  have hge' : start ≤ stop := hstop ▸ le_clamp hle
  rw [hsize] at hstart hstop
  simp only [cut?_eq_some_iff, slice?_eq_some_iff, ← hstart, ← hstop]
  constructor
  · rintro ⟨⟨front, back, htext, hfront, hbefore⟩, front', back', htext', hfront', hlabel⟩
    -- both readings begin with `front ++ before`, so `back` begins with `label`
    have hmid : back = label ++ back' := by
      have hcut := splitAtByte?_eq_some_iff.mpr ⟨htext', hfront'⟩
      have hcut' : splitAtByte? start text = some (front ++ before, back) :=
        splitAtByte?_eq_some_iff.mpr ⟨by rw [htext, List.append_assoc],
          by rw [byteLength_append]; omega⟩
      rw [hcut] at hcut'
      simp only [Option.some.injEq, Prod.mk.injEq] at hcut'
      exact hcut'.2.symm
    have hrest := h.rest_eq htext hfront
    exact ⟨back', by rw [← hrest, hmid], by omega, by omega⟩
  · rintro ⟨after, hrest, hbefore, hlabel⟩
    obtain ⟨front, htext, hfront⟩ := h
    refine ⟨⟨front, label ++ after, by rw [htext, hrest], hfront, by omega⟩,
      front ++ before, after, by rw [htext, hrest, List.append_assoc], ?_, by omega⟩
    rw [byteLength_append]
    omega

/-- **One step never fails**: it leaves the scan on a character boundary again, and writes what
`segmentsFrom` writes for its annotation. -/
theorem Scan.step?_segmentsFrom {text rest : List Char} {s : Scan} (h : s.Before text rest)
    (a : Annotation) :
    ∃ next rest', s.step? text a = some next ∧ next.Before text rest' ∧
      ∀ more, s.done ++ segmentsFrom (a :: more) s.last rest =
        next.done ++ segmentsFrom more next.last rest' := by
  have hsize := h.byteLength_text
  obtain ⟨start, hstart⟩ : ∃ n, n = clamp a.start s.last (byteLength text) := ⟨_, rfl⟩
  obtain ⟨stop, hstop⟩ : ∃ n, n = clamp a.stop start (byteLength text) := ⟨_, rfl⟩
  have hle : start ≤ byteLength text := hstart ▸ clamp_le (by omega)
  have hstart? : clamp? a.start s.last (byteLength text) = some start := by
    rw [clamp?, if_pos (by omega), hstart]
  have hstop? : clamp? a.stop start (byteLength text) = some stop := by
    rw [clamp?, if_pos hle, hstop]
  have hslices : ∀ before label,
      (slice? text s.last start = some before ∧ slice? text start stop = some label) ↔
        ∃ after, cut? a s.last rest = some (before, label, after) :=
    fun _ _ => h.slices_iff hstart hstop
  simp only [Scan.step?, hstart?, hstop?, Option.bind_eq_bind, Option.bind_some, segmentsFrom]
  cases hcut : cut? a s.last rest with
  | none =>
    refine ⟨s, rest, ?_, h, fun _ => rfl⟩
    split
    · rename_i before label hb hl
      obtain ⟨after, hafter⟩ := (hslices before label).mp ⟨hb, hl⟩
      rw [hcut] at hafter
      cases hafter
    · rfl
  | some parts =>
    obtain ⟨before, label, after⟩ := parts
    obtain ⟨hb, hl⟩ := (hslices before label).mpr ⟨after, hcut⟩
    rw [hb, hl]
    obtain ⟨hrest, hblen, hllen⟩ := cut?_eq_some_iff.mp hcut
    rw [← hsize, ← hstart, ← hstop] at hllen
    rw [← hsize, ← hstart] at hblen
    have hge : s.last ≤ start := hstart ▸ le_clamp (by omega)
    have hge' : start ≤ stop := hstop ▸ le_clamp hle
    have hnext : s.last + byteLength before + byteLength label = stop := by omega
    obtain ⟨front, htext, hfront⟩ := h
    refine ⟨_, after, rfl, ⟨front ++ (before ++ label), ?_, ?_⟩, fun more => ?_⟩
    · rw [htext, hrest]; simp only [List.append_assoc]
    · simp only [byteLength_append, hfront]; omega
    · simp only [hnext, List.append_assoc, List.cons_append, List.nil_append]

/-! ## A whole scan -/

/-- **A scan of any annotations reaches a character boundary**, and what it has written, followed by
the stretches that are left, are the stretches of the text. -/
theorem scan?_reaches (text : List Char) (annotations more : List Annotation) :
    ∃ s rest, scan? text annotations = some s ∧ s.Before text rest ∧
      segmentsFrom (annotations ++ more) 0 text = s.done ++ segmentsFrom more s.last rest := by
  suffices hrun : ∀ (as : List Annotation) (s : Scan) (rest : List Char), s.Before text rest →
      ∃ s' rest', as.foldlM (Scan.step? text) s = some s' ∧ s'.Before text rest' ∧
        s.done ++ segmentsFrom (as ++ more) s.last rest =
          s'.done ++ segmentsFrom more s'.last rest' from
    hrun annotations {} text ⟨[], rfl, rfl⟩
  intro as
  induction as with
  | nil => intro s rest h; exact ⟨s, rest, rfl, h, rfl⟩
  | cons a as ih =>
    intro s rest h
    obtain ⟨next, rest', hstep, hnext, hseg⟩ := Scan.step?_segmentsFrom h a
    obtain ⟨s', rest'', hrun, hs', hseg'⟩ := ih next rest' hnext
    refine ⟨s', rest'', ?_, hs', ?_⟩
    · rw [List.foldlM_cons, hstep]
      exact hrun
    · rw [List.cons_append, hseg, hseg']

/-- **The two renderings agree**: the rendering by offsets never fails. -/
theorem htmlByOffsets?_eq (d : Decl) : htmlByOffsets? d = some (html d) := by
  obtain ⟨s, rest, hscan, hbefore, hseg⟩ := scan?_reaches d.text.toList d.annotations []
  have hsize := hbefore.byteLength_text
  obtain ⟨front, htext, hfront⟩ := hbefore
  have hslice : slice? d.text.toList s.last (byteLength d.text.toList) = some rest :=
    slice?_eq_some_iff.mpr ⟨front, [], by rw [List.append_nil, htext], hfront, hsize.symm⟩
  simp only [htmlByOffsets?, hscan, hslice, Option.bind_eq_bind, Option.bind_some]
  rw [List.append_nil] at hseg
  rw [html, segments, hseg, segmentsFrom]

/-- The offset of a scan is a valid position of the string. -/
theorem Scan.Before.isValid {text : String} {rest : List Char} {s : Scan}
    (h : s.Before text.toList rest) : (String.Pos.Raw.mk s.last).IsValid text := by
  obtain ⟨front, htext, hlen⟩ := h
  rw [String.Pos.Raw.isValid_iff_exists_take_toList]
  refine ⟨front.length, ?_⟩
  rw [htext, List.take_left', ← byteLength_eq_utf8ByteSize, hlen]
  rfl

/-! ## What is shown -/

/-- The source text of a stretch. -/
def Segment.text : Segment → List Char
  | .plain text => text
  | .link _ label => label

/-- The inside of a tag that begins or ends a link. -/
def isLinkTag (body : List Char) : Bool :=
  "a ".toList.isPrefixOf body || body == "/a".toList

theorem Segment.html_plain (text : List Char) :
    (Segment.plain text).html = Html.escapeText text := rfl

theorem Segment.html_link (href label : List Char) :
    (Segment.link href label).html = "<a href=\"".toList ++ Html.escapeText href ++ "\">".toList ++
      Html.escapeText label ++ "</a>".toList := rfl

theorem flatMap_text_segmentsFrom (annotations : List Annotation) (offset : Nat)
    (rest : List Char) : (segmentsFrom annotations offset rest).flatMap Segment.text = rest := by
  induction annotations generalizing offset rest with
  | nil => simp [segmentsFrom, Segment.text]
  | cons a more ih =>
    rw [segmentsFrom]
    split
    · exact ih offset rest
    · rename_i before label after hcut
      obtain ⟨hrest, _, _⟩ := cut?_eq_some_iff.mp hcut
      simp only [List.flatMap_cons, Segment.text, ih, hrest]

theorem stripTags_segment (seg : Segment) (t : List Char) :
    Html.stripTags isLinkTag (seg.html ++ t) =
      Html.escapeText seg.text ++ Html.stripTags isLinkTag t := by
  cases seg with
  | plain text =>
    rw [Segment.html_plain, Segment.text]
    exact Html.stripTags_text (Html.lt_not_mem_escapeText text) t
  | link href label =>
    have htag : isLinkTag ("a href=\"".toList ++ (Html.escapeText href ++ ['\x22'])) = true := by
      simp [isLinkTag]
    have hstart : '>' ∉ "a href=\"".toList := by decide
    have hopen : ∀ u, Html.stripTags isLinkTag
        ("<a href=\"".toList ++ (Html.escapeText href ++ ("\">".toList ++ u))) =
          Html.stripTags isLinkTag u := Html.stripTags_attribute hstart htag
    have hend : '>' ∉ "/a".toList ∧ isLinkTag "/a".toList = true := by decide
    have hclose : ∀ u, Html.stripTags isLinkTag ("</a>".toList ++ u) =
        Html.stripTags isLinkTag u := Html.stripTags_tag hend.1 hend.2
    simp only [Segment.html_link, Segment.text, List.append_assoc]
    rw [hopen, Html.stripTags_text (Html.lt_not_mem_escapeText label), hclose]

/-- **The text of a declaration is shown unchanged.** -/
theorem visible_html (d : Decl) :
    Html.visible isLinkTag (html d).toList = d.text.toList.map Html.shownChar := by
  refine Html.visible_eq_map ?_
  rw [html, String.toList_ofList, Html.stripTags_flatMap stripTags_segment, segments,
    flatMap_text_segmentsFrom]

/-- **Rendering a declaration never fails and loses nothing.** Whatever the annotations are, the
scan by offsets is, after any number of them, at a valid position of the text; it ends, and gives
the same HTML; and that HTML, without the tags of its links and with its entities read back, is the
text with NUL shown as the replacement character. -/
theorem html_shows_text_at_valid_offsets (d : Decl) :
    (∀ n, ∃ s, scan? d.text.toList (d.annotations.take n) = some s ∧
      s.last ≤ d.text.utf8ByteSize ∧ (String.Pos.Raw.mk s.last).IsValid d.text) ∧
    htmlByOffsets? d = some (html d) ∧
    Html.visible isLinkTag (html d).toList = d.text.toList.map Html.shownChar := by
  refine ⟨?_, htmlByOffsets?_eq d, visible_html d⟩
  intro n
  obtain ⟨s, rest, hscan, hbefore, _⟩ := scan?_reaches d.text.toList (d.annotations.take n) []
  exact ⟨s, hscan, hbefore.isValid.le_utf8ByteSize, hbefore.isValid⟩

end DocPress.Declaration
