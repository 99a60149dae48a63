import DocPress.Proofs.Breadcrumb.Links
import DocPress.Proofs.Declaration.Alternation

/-!
# Links that stay on the site

A target that begins with two slashes names another host, and one that begins with a scheme may. The
links of trails and declarations are built from import paths: which of them leave the site?

* `staysOnSite` — an anchor, or a path from the root of the site that does not begin with two slashes.
* `Breadcrumb.SlashedRoot` — the root of a project begins with a slash, and one follows it.

Principal results: `staysOnSite_slash_encodePath` — a path from the root of the site stays there
exactly if the import path behind the slash does not begin with another; `linkTargets_declaration` —
the links of a declaration lead to the targets of its accepted annotations;
`links_stay_on_site_iff` — the trails and declarations whose links stay on the site.
-/

namespace DocPress.Breadcrumb

/-- The root of a project begins with a slash and ends before one. -/
def SlashedRoot (path : String) (rootLength : Nat) : Prop :=
  ∃ root rest, path.toList = '/' :: (root ++ '/' :: rest) ∧
    rootLength = 1 + Text.Utf8.byteLength root

end DocPress.Breadcrumb

namespace DocPress.Url

open DocPress.Doc DocPress.Html DocPress.Breadcrumb DocPress.Declaration

/-! ## Targets -/

/-- Whether a target stays on the site: an anchor of the page, or a path with one slash in front. -/
def staysOnSite : List Char → Bool
  | '#' :: _ => true
  | '/' :: '/' :: _ => false
  | '/' :: _ => true
  | _ => false

/-- A target begins with an anchor or a slash, so that it has no scheme. -/
def BeginsOnSite (address : List Char) : Prop := address.head? = some '#' ∨ address.head? = some '/'

theorem staysOnSite_slash (s : List Char) : staysOnSite ('/' :: s) = true ↔ s.head? ≠ some '/' := by
  cases s with
  | nil => simp [staysOnSite]
  | cons c s =>
    by_cases hc : c = '/'
    · simp [staysOnSite, hc]
    · have hstays : staysOnSite ('/' :: c :: s) = true := by
        unfold staysOnSite
        split <;> simp_all
      simp [hstays, hc]

theorem encodePath_ne_nil (c : Char) (s : List Char) : encodePath (c :: s) ≠ [] := by
  intro h
  have hnil : encodePath (c :: s) = encodePath [] := h
  cases encodePath_injective hnil

/-- An encoded text begins with a slash exactly if the text does. -/
theorem head?_encodePath_append {t : List Char} (ht : t.head? ≠ some '/') (s : List Char) :
    (encodePath s ++ t).head? = some '/' ↔ s.head? = some '/' := by
  have hslashMark : '/' ∈ pathMarks := by decide
  cases s with
  | nil => exact iff_of_false ht (by simp)
  | cons c s =>
    rw [encodePath_cons, List.head?_cons]
    by_cases hc : c = '/'
    · rw [hc, encodePath_mark hslashMark]
      exact iff_of_true rfl rfl
    · have hslash : '/' ∉ encodePath [c] := by
        rw [mem_encodePath_iff hslashMark, List.mem_singleton]
        exact Ne.symm hc
      obtain ⟨x, xs, hx⟩ := List.exists_cons_of_ne_nil (encodePath_ne_nil c [])
      rw [hx, List.mem_cons, not_or] at hslash
      rw [hx]
      simp [hc, Ne.symm hslash.1]

/-- **A path from the root of the site stays there** exactly if what follows its slash does not begin
with another. -/
theorem staysOnSite_slash_encodePath {t : List Char} (ht : t.head? ≠ some '/') (s : List Char) :
    staysOnSite ('/' :: (encodePath s ++ t)) = true ↔ s.head? ≠ some '/' := by
  rw [staysOnSite_slash, ne_eq, head?_encodePath_append ht]

/-! ## Trails -/

/-- Each ancestor is the import path, cut at a slash. -/
theorem prefix_of_mem_paths {path : String} {rootLength : Nat} {ancestor : List Char}
    (h : ancestor ∈ paths (trail path rootLength)) : ancestor ++ ['/'] <+: path.toList := by
  obtain ⟨ls, last, hpath, htrail⟩ := exists_trail_eq_crumbsOf path rootLength
  obtain ⟨k, hk⟩ := List.mem_iff_getElem?.mp h
  rw [(labels_paths_of_trail htrail).2] at hk
  obtain ⟨_, _, hprefix⟩ := getElem?_paths_crumbsOf hk
  rw [hpath]
  exact hprefix.trans (List.prefix_append _ _)

/-- **A trail has an ancestor that begins with a slash** exactly if the root of its project does. -/
theorem exists_slashed_ancestor_iff (path : String) (rootLength : Nat) :
    (∃ ancestor ∈ paths (trail path rootLength), ancestor.head? = some '/') ↔
      SlashedRoot path rootLength := by
  constructor
  · rintro ⟨ancestor, hmem, hhead⟩
    obtain ⟨more, hpath⟩ : ∃ more, path.toList = '/' :: more := by
      obtain ⟨after, hafter⟩ := prefix_of_mem_paths hmem
      cases ancestor with
      | nil => simp at hhead
      | cons c ancestor =>
        obtain rfl : c = '/' := Option.some.inj hhead
        exact ⟨_, hafter.symm⟩
    rw [trail, trailOf] at hmem
    split at hmem
    · -- a path that begins with a slash has no steps below an empty root
      have hnone : firstStep? path.toList = none := by
        rw [hpath]
        exact firstStep?_append List.not_mem_nil more
      rw [steps_of_firstStep?_none hnone] at hmem
      cases hmem
    · rename_i hzero
      split at hmem
      · rename_i root rest hsplit
        obtain ⟨htext, hlen⟩ := Text.Utf8.splitAtByte?_eq_some_iff.mp hsplit
        cases root with
        | nil => exact absurd hlen.symm hzero
        | cons c root =>
          rw [hpath] at htext
          obtain ⟨rfl, _⟩ := List.cons.inj htext
          exact ⟨root, rest, hpath.trans htext, hlen.symm⟩
      · cases hmem
  · rintro ⟨root, rest, hpath, rfl⟩
    have hsplit : Text.Utf8.splitAtByte? (1 + Text.Utf8.byteLength root) path.toList =
        some ('/' :: root, '/' :: rest) :=
      Text.Utf8.splitAtByte?_eq_some_iff.mpr ⟨hpath, rfl⟩
    refine ⟨'/' :: root, ?_, rfl⟩
    rw [trail, trailOf, if_neg (by omega), hsplit]
    exact List.mem_cons_self

theorem eq_of_mem_index {rootLength : Nat} {address : List Char}
    (h : address ∈ if rootLength = 0 then [standardPackagesPath.toList] else []) :
    address = standardPackagesPath.toList := by
  split at h
  · exact List.mem_singleton.mp h
  · cases h

theorem trail_stays_iff (path : String) (rootLength : Nat) :
    (∀ address ∈ linkTargets (Breadcrumb.html path rootLength).toList, staysOnSite address = true) ↔
      ¬ SlashedRoot path rootLength := by
  have hindex : ∀ address ∈ if rootLength = 0 then [standardPackagesPath.toList] else [],
      staysOnSite address = true := by
    intro address haddress
    rw [eq_of_mem_index haddress]
    decide
  have hancestor : ∀ ancestor, staysOnSite (pathOf ('/' :: ancestor)) = true ↔
      ancestor.head? ≠ some '/' := by
    intro ancestor
    have h := staysOnSite_slash_encodePath (t := []) (by simp) ancestor
    rw [List.append_nil, ← pathOf_slash] at h
    exact h
  rw [linkTargets_trail, List.forall_mem_append, and_iff_right hindex, List.forall_mem_map,
    ← exists_slashed_ancestor_iff]
  simp only [hancestor, not_exists, not_and, ne_eq]

/-! ## Declarations -/

theorem nul_not_mem_target (a : Annotation) : '\x00' ∉ target a := by
  unfold target
  simp only [List.mem_append, List.mem_cons, not_or]
  refine ⟨?_, by decide, nul_not_mem_pathOf _⟩
  split
  · exact List.not_mem_nil
  · exact nul_not_mem_pathOf _

theorem linkTargets_alternation (text : String) (last : Nat) (annotations : List Annotation) :
    linkTargets (alternation text last annotations).toList = annotations.map target := by
  induction annotations generalizing last with
  | nil =>
    have htext := linkTargets_text
      (lt_not_mem_escapeText (part text last text.utf8ByteSize).toList) []
    rw [List.append_nil] at htext
    rw [alternation, Html.escape, String.toList_ofList, htext]
    rfl
  | cons a more ih =>
    have hlink : (linkHtml text a).toList = "<a href=\"".toList ++ escapeText (target a) ++
        "\">".toList ++ escapeText (part text a.start a.stop).toList ++ "</a>".toList := by
      simp only [linkHtml, Html.escape, String.toList_append, String.toList_ofList,
        target_eq_linkTarget]
    rw [alternation, String.toList_append, String.toList_append, Html.escape, String.toList_ofList,
      linkTargets_text (lt_not_mem_escapeText _), hlink, linkTargets_element, ih,
      map_shownChar_of_not_mem (nul_not_mem_target a), List.map_cons]

/-- Moving an annotation does not change where it leads. -/
theorem map_target_placed (text : String) (last : Nat) (annotations : List Annotation) :
    (placed text last annotations).map target = (accepted text last annotations).map target := by
  induction annotations generalizing last with
  | nil => rfl
  | cons a more ih =>
    rw [placed, accepted]
    split
    · exact congrArg (target a :: ·) (ih _)
    · exact ih last

/-- **The links of a declaration lead to the targets of its accepted annotations.** -/
theorem linkTargets_declaration (d : Decl) :
    linkTargets (Declaration.html d).toList = (accepted d.text 0 d.annotations).map target := by
  rw [html_eq_alternation, linkTargets_alternation, map_target_placed]

theorem target_cases (a : Annotation) :
    (a.importPath.toList = [] ∧ ∃ anchor, target a = '#' :: anchor) ∨
      ∃ anchor, target a = '/' :: (encodePath a.importPath.toList ++ '#' :: anchor) := by
  unfold target
  by_cases h : a.importPath.isEmpty = true
  · refine Or.inl ⟨by simpa using h, pathOf a.name.toList, ?_⟩
    simp only [h, if_true, List.nil_append]
  · refine Or.inr ⟨pathOf a.name.toList, ?_⟩
    simp only [h, pathOf_slash]
    rfl

theorem staysOnSite_target (a : Annotation) :
    staysOnSite (target a) = true ↔ a.importPath.toList.head? ≠ some '/' := by
  rcases target_cases a with ⟨hnil, anchor, htarget⟩ | ⟨anchor, htarget⟩
  · rw [htarget, hnil]
    simp [staysOnSite]
  · rw [htarget, staysOnSite_slash_encodePath (by simp)]

/-- **Links stay on the site unless an import path brings a slash of its own.** All links of a trail
stay on the site exactly if the root of the project does not begin with a slash, and all links of a
declaration exactly if the import path of no accepted annotation does. Whatever the paths are, each
link begins with `#` or a slash, so that none has a scheme. -/
theorem links_stay_on_site_iff (path : String) (rootLength : Nat) (d : Decl) :
    ((∀ address ∈ linkTargets (Breadcrumb.html path rootLength).toList, staysOnSite address = true) ↔
      ¬ SlashedRoot path rootLength) ∧
    ((∀ address ∈ linkTargets (Declaration.html d).toList, staysOnSite address = true) ↔
      ∀ a ∈ accepted d.text 0 d.annotations, a.importPath.toList.head? ≠ some '/') ∧
    (∀ address ∈ linkTargets (Breadcrumb.html path rootLength).toList, BeginsOnSite address) ∧
    ∀ address ∈ linkTargets (Declaration.html d).toList, BeginsOnSite address := by
  refine ⟨trail_stays_iff path rootLength, ?_, ?_, ?_⟩
  · rw [linkTargets_declaration, List.forall_mem_map]
    exact forall₂_congr fun a _ => staysOnSite_target a
  · rw [linkTargets_trail, List.forall_mem_append, List.forall_mem_map]
    constructor
    · intro address haddress
      rw [eq_of_mem_index haddress]
      exact Or.inr rfl
    · intro ancestor _
      rw [pathOf_slash]
      exact Or.inr rfl
  · rw [linkTargets_declaration, List.forall_mem_map]
    intro a _
    rcases target_cases a with ⟨_, anchor, htarget⟩ | ⟨anchor, htarget⟩
    · exact Or.inl (by rw [htarget]; rfl)
    · exact Or.inr (by rw [htarget]; rfl)

/-- An import path that begins with a slash leads to another host, from a trail and from a
declaration. -/
theorem slashed_paths_leave_site :
    linkTargets (Breadcrumb.html "/example.org/x" 12).toList = ["//example.org".toList] ∧
    linkTargets (Declaration.html ⟨"x T", [⟨2, 3, "/example.org/x", "T"⟩]⟩).toList =
      ["//example.org/x#T".toList] ∧
    staysOnSite "//example.org".toList = false ∧ staysOnSite "//example.org/x#T".toList = false := by
  decide +kernel

end DocPress.Url
