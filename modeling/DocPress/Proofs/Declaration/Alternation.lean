import DocPress.Proofs.Declaration.Offsets
import Mathlib.Data.List.Chain
import Mathlib.Data.String.Basic

/-!
# Declarations as gaps and links

What a declaration reads like when its annotations are in order, and what becomes of annotations
that are not.

* `part` — the part of a string between two byte positions.
* `alternation` — escaped gaps, with one link between them for each annotation.
* `moved` — an annotation moved behind what is written and into the text. `placed` — the moved
  annotations that lie on character boundaries; `accepted` — the same annotations as they were.

Principal results: `Scan.step?_eq_place` — one step of the scan in terms of the moved annotation;
`html_eq_alternation` — every declaration is the alternation of its placed annotations;
`html_alternates_and_forgets_rejected` — annotations in order are placed where they are, and the
rejected ones leave no trace.
-/

namespace DocPress.Declaration

open DocPress.Doc DocPress.Text.Utf8

/-! ## Gaps and links -/

/-- The part of a text between two byte positions. -/
def part (text : String) (start stop : Nat) : String := String.Pos.Raw.extract text ⟨start⟩ ⟨stop⟩

/-- The page of the package referred to, if it is another one, and the anchor on it. -/
def linkTarget (a : Annotation) : String :=
  (if a.importPath = "" then "" else Url.urlPath ("/" ++ a.importPath)) ++ "#" ++ Url.urlPath a.name

/-- The link over the range of an annotation. -/
def linkHtml (text : String) (a : Annotation) : String :=
  "<a href=\"" ++ Html.escape (linkTarget a) ++ "\">" ++ Html.escape (part text a.start a.stop) ++
    "</a>"

/-- The text from the byte position `last` on: the escaped gap before each annotation, its link, and
the escaped rest. -/
def alternation (text : String) : Nat → List Annotation → String
  | last, [] => Html.escape (part text last text.utf8ByteSize)
  | last, a :: more =>
    Html.escape (part text last a.start) ++ (linkHtml text a ++ alternation text a.stop more)

/-- A byte position between characters of a text, or at one of its ends. -/
def IsBoundary (text : String) (n : Nat) : Prop := (String.Pos.Raw.mk n).IsValid text

instance (text : String) (n : Nat) : Decidable (IsBoundary text n) :=
  inferInstanceAs (Decidable ((String.Pos.Raw.mk n).IsValid text))

/-- Both ends of an annotation are character boundaries of the text. -/
def OnBoundaries (text : String) (a : Annotation) : Prop :=
  IsBoundary text a.start ∧ IsBoundary text a.stop

instance (text : String) (a : Annotation) : Decidable (OnBoundaries text a) :=
  inferInstanceAs (Decidable (_ ∧ _))

/-- An annotation with its range cut off at the end of the text and before `last`. -/
def moved (text : String) (last : Nat) (a : Annotation) : Annotation :=
  let start := clamp a.start last text.utf8ByteSize
  { a with start := start, stop := clamp a.stop start text.utf8ByteSize }

/-- The annotations behind `last`, moved, without those that do not lie on character boundaries. -/
def placed (text : String) : Nat → List Annotation → List Annotation
  | _, [] => []
  | last, a :: more =>
    if OnBoundaries text (moved text last a) then
      moved text last a :: placed text (moved text last a).stop more
    else placed text last more

/-- The annotations that are placed somewhere, as they were. -/
def accepted (text : String) : Nat → List Annotation → List Annotation
  | _, [] => []
  | last, a :: more =>
    if OnBoundaries text (moved text last a) then
      a :: accepted text (moved text last a).stop more
    else accepted text last more

/-- The annotations of a declaration are ranges between character boundaries of its text, and each
begins at the end of the one before or behind it. -/
structure InOrder (d : Decl) : Prop where
  ranges : ∀ a ∈ d.annotations, a.start ≤ a.stop ∧ OnBoundaries d.text a
  apart : d.annotations.IsChain fun a b => a.stop ≤ b.start

/-! ## Positions -/

theorem byteLength_eq_utf8Len (s : List Char) : byteLength s = String.utf8Len s := by
  induction s with
  | nil => rfl
  | cons c s ih => rw [byteLength, ih, String.utf8Len_cons, Nat.add_comm]

theorem part_append (front label back : List Char) :
    part (String.ofList (front ++ (label ++ back))) (byteLength front)
      (byteLength front + byteLength label) = String.ofList label := by
  rw [part, byteLength_eq_utf8Len, byteLength_eq_utf8Len, ← List.append_assoc]
  exact String.extract_of_valid front label back

theorem isBoundary_iff {text : String} {n : Nat} :
    IsBoundary text n ↔ ∃ front back, text.toList = front ++ back ∧ byteLength front = n := by
  rw [IsBoundary, String.Pos.Raw.isValid_iff_exists_take_toList]
  constructor
  · rintro ⟨i, hi⟩
    exact ⟨text.toList.take i, text.toList.drop i, (List.take_append_drop ..).symm,
      by rw [byteLength_eq_utf8ByteSize]; exact hi.symm⟩
  · rintro ⟨front, back, htext, hlen⟩
    exact ⟨front.length, by rw [htext, List.take_left', ← byteLength_eq_utf8ByteSize, hlen]; rfl⟩

theorem eq_nil_of_byteLength {s : List Char} (h : byteLength s = 0) : s = [] := by
  cases s with
  | nil => rfl
  | cons c s =>
    have hpos := c.utf8Size_pos
    rw [byteLength] at h
    omega

/-- Of two beginnings of a text, the one with fewer bytes begins the other. -/
theorem isPrefix_of_byteLength_le {text front front' : List Char} (h : front <+: text)
    (h' : front' <+: text) (hle : byteLength front ≤ byteLength front') : front <+: front' := by
  rcases List.prefix_or_prefix_of_prefix h h' with hpre | ⟨t, rfl⟩
  · exact hpre
  · rw [byteLength_append] at hle
    have hnil : t = [] := eq_nil_of_byteLength (by omega)
    simp [hnil]

/-- **A text can be cut between two positions** exactly if they are character boundaries in this
order, and what is cut out is the part between them. -/
theorem slice?_eq_ite (text : String) (start stop : Nat) :
    slice? text.toList start stop =
      if start ≤ stop ∧ IsBoundary text start ∧ IsBoundary text stop then
        some (part text start stop).toList
      else none := by
  split
  · rename_i h
    obtain ⟨hle, hstart, hstop⟩ := h
    obtain ⟨front, back, htext, rfl⟩ := isBoundary_iff.mp hstart
    obtain ⟨front', back', htext', rfl⟩ := isBoundary_iff.mp hstop
    obtain ⟨label, rfl⟩ := isPrefix_of_byteLength_le ⟨back, htext.symm⟩ ⟨back', htext'.symm⟩ hle
    rw [List.append_assoc] at htext'
    have hpart := part_append front label back'
    rw [← htext', String.ofList_toList, ← byteLength_append] at hpart
    rw [hpart, String.toList_ofList]
    exact slice?_eq_some_iff.mpr ⟨front, back', htext', rfl, (byteLength_append ..).symm⟩
  · rename_i h
    refine Option.eq_none_iff_forall_ne_some.mpr fun label hslice => h ?_
    obtain ⟨front, back, htext, rfl, rfl⟩ := slice?_eq_some_iff.mp hslice
    refine ⟨Nat.le_add_right .., isBoundary_iff.mpr ⟨front, label ++ back, htext, rfl⟩,
      isBoundary_iff.mpr ⟨front ++ label, back, ?_, byteLength_append ..⟩⟩
    rw [htext, List.append_assoc]

/-! ## One step -/

theorem target_eq_linkTarget (a : Annotation) : target a = (linkTarget a).toList := by
  simp only [target, linkTarget, Url.urlPath, String.toList_append, String.toList_ofList]
  by_cases h : a.importPath = ""
  · simp [h]
  · simp [h]

theorem byteLength_toList (text : String) : byteLength text.toList = text.utf8ByteSize := by
  rw [byteLength_eq_utf8ByteSize, String.ofList_toList]

/-- **One step of the scan** writes the gap before the moved annotation and a link over it, or leaves
everything as it was if that is not on character boundaries. -/
theorem Scan.step?_eq_place {text : String} {rest : List Char} {s : Scan}
    (h : s.Before text.toList rest) (a : Annotation) :
    s.step? text.toList a =
      if OnBoundaries text (moved text s.last a) then
        some ⟨(moved text s.last a).stop, s.done ++
          [.plain (part text s.last (moved text s.last a).start).toList,
            .link (target a) (part text (moved text s.last a).start
              (moved text s.last a).stop).toList]⟩
      else some s := by
  have hlast : s.last ≤ text.utf8ByteSize := h.isValid.le_utf8ByteSize
  have hstart : s.last ≤ (moved text s.last a).start := le_clamp hlast
  have hsize : (moved text s.last a).start ≤ text.utf8ByteSize := clamp_le hlast
  have hstop : (moved text s.last a).start ≤ (moved text s.last a).stop := le_clamp hsize
  have hstart? : clamp? a.start s.last text.utf8ByteSize = some (moved text s.last a).start :=
    if_pos hlast
  have hstop? : clamp? a.stop (moved text s.last a).start text.utf8ByteSize =
      some (moved text s.last a).stop := if_pos hsize
  have hboundary : IsBoundary text s.last := h.isValid
  simp only [Scan.step?, byteLength_toList, hstart?, hstop?, Option.bind_eq_bind, Option.bind_some,
    slice?_eq_ite, hstart, hstop, hboundary, true_and, OnBoundaries]
  by_cases hfirst : IsBoundary text (moved text s.last a).start
  · by_cases hsecond : IsBoundary text (moved text s.last a).stop
    · simp [hfirst, hsecond]
    · simp [hfirst, hsecond]
  · simp [hfirst]

/-! ## Whole declarations -/

theorem html_plain_part (text : String) (start stop : Nat) :
    String.ofList (Segment.html (.plain (part text start stop).toList)) =
      Html.escape (part text start stop) := rfl

theorem html_link_part (text : String) (a : Annotation) (last : Nat) :
    String.ofList (Segment.html (.link (target a) (part text (moved text last a).start
      (moved text last a).stop).toList)) = linkHtml text (moved text last a) := by
  rw [Segment.html_link, target_eq_linkTarget, linkHtml]
  simp only [String.ofList_append, String.ofList_toList]
  rfl

/-- **From any position on**, what is written is the alternation of the annotations placed there. -/
theorem html_segmentsFrom {text : String} {rest : List Char} {s : Scan}
    (h : s.Before text.toList rest) (annotations : List Annotation) :
    String.ofList ((segmentsFrom annotations s.last rest).flatMap Segment.html) =
      alternation text s.last (placed text s.last annotations) := by
  induction annotations generalizing s rest with
  | nil =>
    obtain ⟨front, htext, hfront⟩ := h
    have hpart := part_append front rest []
    rw [List.append_nil, ← htext, String.ofList_toList, ← byteLength_append, ← htext, hfront,
      byteLength_toList] at hpart
    rw [segmentsFrom, placed, alternation, hpart, List.flatMap_singleton, Segment.html_plain,
      Html.escape, String.toList_ofList]
  | cons a more ih =>
    obtain ⟨next, rest', hstep, hnext, hseg⟩ := Scan.step?_segmentsFrom h a
    rw [Scan.step?_eq_place h] at hstep
    rw [placed]
    split at hstep
    · rename_i hon
      obtain rfl := Option.some_inj.mp hstep
      have hcut := hseg more
      rw [List.append_assoc, List.append_cancel_left_eq] at hcut
      have hrest := ih hnext
      rw [if_pos hon, alternation, ← hrest, ← html_link_part, ← html_plain_part, hcut]
      simp only [List.cons_append, List.nil_append, List.flatMap_cons, String.ofList_append]
    · rename_i hoff
      obtain rfl := Option.some_inj.mp hstep
      rw [if_neg hoff, List.append_cancel_left (hseg more)]
      exact ih hnext

/-- **Every declaration is the alternation of its placed annotations.** -/
theorem html_eq_alternation (d : Decl) :
    html d = alternation d.text 0 (placed d.text 0 d.annotations) :=
  html_segmentsFrom (s := {}) ⟨[], rfl, rfl⟩ d.annotations

theorem placed_accepted (text : String) (last : Nat) (annotations : List Annotation) :
    placed text last (accepted text last annotations) = placed text last annotations := by
  induction annotations generalizing last with
  | nil => rfl
  | cons a more ih =>
    rw [accepted, placed]
    split
    · rename_i h
      rw [placed, if_pos h, ih]
    · exact ih last

/-- An annotation behind `last` and in the text is not moved. -/
theorem moved_eq_self {text : String} {last : Nat} {a : Annotation} (hlast : last ≤ a.start)
    (hrange : a.start ≤ a.stop) (hstop : IsBoundary text a.stop) : moved text last a = a := by
  have hsize : a.stop ≤ text.utf8ByteSize := String.Pos.Raw.IsValid.le_utf8ByteSize hstop
  have hclamp : ∀ n low, low ≤ n → n ≤ text.utf8ByteSize → clamp n low text.utf8ByteSize = n := by
    intro n low hlow hhigh
    rw [clamp, if_neg (by omega), if_neg (by omega)]
  simp only [moved, hclamp a.start last hlast (by omega), hclamp a.stop a.start hrange hsize]

/-- **Annotations in order stay where they are.** -/
theorem placed_of_inOrder {text : String} {annotations : List Annotation}
    (h : InOrder ⟨text, annotations⟩) {last : Nat} (hlast : ∀ a ∈ annotations.head?, last ≤ a.start) :
    placed text last annotations = annotations := by
  induction annotations generalizing last with
  | nil => rfl
  | cons a more ih =>
    obtain ⟨hrange, hboundaries⟩ := h.ranges a List.mem_cons_self
    have hmoved : moved text last a = a := moved_eq_self (hlast a rfl) hrange hboundaries.2
    obtain ⟨hnext, hchain⟩ := List.isChain_cons.mp h.apart
    rw [placed, hmoved, if_pos hboundaries, ih ⟨?_, hchain⟩ hnext]
    exact fun b hb => h.ranges b (List.mem_cons_of_mem a hb)

/-- **A declaration alternates between gaps and links.** If its annotations are in order, it is the
escaped text with one link over the range of each; and whatever they are, those whose moved range is
not on character boundaries leave no trace. -/
theorem html_alternates_and_forgets_rejected (d : Decl) :
    (InOrder d → html d = alternation d.text 0 d.annotations) ∧
    html d = html { d with annotations := accepted d.text 0 d.annotations } := by
  constructor
  · intro h
    rw [html_eq_alternation, placed_of_inOrder h fun a _ => Nat.zero_le a.start]
  · rw [html_eq_alternation, html_eq_alternation, placed_accepted]

/-- A declaration with a link over a character of two bytes, one behind a gap and one over nothing. -/
def edgeLinks : Decl :=
  ⟨"é <T> b", [⟨0, 2, "", "É"⟩, ⟨3, 6, "io", "T"⟩, ⟨6, 6, "", "x"⟩]⟩

theorem edgeLinks_alternate :
    InOrder edgeLinks ∧ html edgeLinks = "<a href=\"#%C3%89\">é</a> <a href=\"/io#T\">&lt;T&gt;</a>" ++
      "<a href=\"#x\"></a> b" := by
  have h : InOrder edgeLinks := ⟨by decide, by decide⟩
  exact ⟨h, ((html_alternates_and_forgets_rejected edgeLinks).1 h).trans (by decide +kernel)⟩

/-- An annotation inside a character is rejected, and the one behind it stays. -/
example : accepted "é x" 0 [⟨1, 3, "", "X"⟩, ⟨3, 4, "", "x"⟩] = [⟨3, 4, "", "x"⟩] := by decide

end DocPress.Declaration
