import DocPress.Proofs.Breadcrumb.Trail
import DocPress.Proofs.Html.LinkTargets
import DocPress.Proofs.Url.Path

/-!
# Trails as pages

What the HTML of a trail shows, and where its links lead.

* `Crumb.target?` — where a crumb leads; `Crumb.shownText` — what it shows.
* `withoutIndex` — the HTML of a trail without the link to the index of the standard packages.

Principal results: `withoutIndex_html` — the link to the index stands in front exactly if the root is
empty; `linkTargets_trail` — the other links lead to the ancestors; `readPath?_target` — what the
address of an ancestor stands for; `html_shows_path_and_links_ancestors` — the path is shown whole.
-/

namespace DocPress.Breadcrumb

open DocPress.Html DocPress.Url

/-! ## One crumb -/

/-- Where a crumb leads. -/
def Crumb.target? : Crumb → Option (List Char)
  | .standard => some standardPackagesPath.toList
  | .segment _ path => some (pathOf ('/' :: path))
  | .current _ => none

/-- What a crumb shows. -/
def Crumb.shownText : Crumb → List Char
  | .standard => "☆ ".toList
  | .segment label _ => label ++ ['/']
  | .current label => label

/-- The HTML of a trail without the link to the index of the standard packages in front. -/
def withoutIndex (page : List Char) : List Char :=
  ((Crumb.html .standard).isPrefixOf? page).getD page

theorem html_standard : Crumb.html .standard = "<a href=\"".toList ++
    (escapeText standardPackagesPath.toList ++ ('\x22' :: " title=\"Standard Packages\"".toList ++
      '>' :: ("☆".toList ++ ("</a>".toList ++ " ".toList)))) := by
  decide

theorem html_segment (label path : List Char) :
    (Crumb.segment label path).html = "<a href=\"".toList ++ (escapeText (pathOf ('/' :: path)) ++
      ("\">".toList ++ (escapeText label ++ ("</a>".toList ++ "/".toList)))) := by
  have hend : "</a>/".toList = "</a>".toList ++ "/".toList := by decide
  unfold Crumb.html
  rw [← hend]
  simp only [List.append_assoc]

theorem linkTargets_crumb (crumb : Crumb) (t : List Char) :
    linkTargets (crumb.html ++ t) = crumb.target?.toList ++ linkTargets t := by
  cases crumb with
  | standard =>
    have hmore : '>' ∉ " title=\"Standard Packages\"".toList := by decide
    have hstar : '<' ∉ "☆".toList := by decide
    have hspace : '<' ∉ " ".toList := by decide
    have hshown : standardPackagesPath.toList.map shownChar = standardPackagesPath.toList := by decide
    have hstart := linkTargets_linkStart hmore standardPackagesPath.toList
      ("☆".toList ++ ("</a>".toList ++ (" ".toList ++ t)))
    rw [linkTargets_text hstar, linkTargets_linkEnd, linkTargets_text hspace, hshown] at hstart
    rw [html_standard]
    simp only [List.append_assoc, List.cons_append] at hstart ⊢
    exact hstart
  | segment label path =>
    have hslash : '<' ∉ "/".toList := by decide
    have helement := linkTargets_element (pathOf ('/' :: path)) label ("/".toList ++ t)
    rw [map_shownChar_of_not_mem (nul_not_mem_pathOf _)] at helement
    rw [html_segment]
    simp only [List.append_assoc] at helement ⊢
    rw [helement, linkTargets_text hslash]
    rfl
  | current label => exact linkTargets_text (lt_not_mem_escapeText label) t

theorem stripTags_crumb (crumb : Crumb) (t : List Char) :
    stripTags (fun _ => true) (crumb.html ++ t) =
      escapeText crumb.shownText ++ stripTags (fun _ => true) t := by
  have hend : '>' ∉ "/a".toList := by decide
  have hclose : ∀ u, stripTags (fun _ => true) ("</a>".toList ++ u) = stripTags (fun _ => true) u :=
    stripTags_tag hend rfl
  cases crumb with
  | standard =>
    have hinside : '>' ∉ "a href=\"/-/go\" title=\"Standard Packages\"".toList := by decide
    have hopen : ∀ u, stripTags (fun _ => true)
        ('<' :: ("a href=\"/-/go\" title=\"Standard Packages\"".toList ++ '>' :: u)) =
          stripTags (fun _ => true) u := stripTags_tag hinside rfl
    have hhtml : Crumb.html .standard ++ t =
        '<' :: ("a href=\"/-/go\" title=\"Standard Packages\"".toList ++
          '>' :: ("☆".toList ++ ("</a>".toList ++ (" ".toList ++ t)))) := by
      rw [html_standard]
      simp only [List.append_assoc, List.cons_append]
      rfl
    have hstar : '<' ∉ "☆".toList := by decide
    have hspace : '<' ∉ " ".toList := by decide
    have hshown : escapeText (Crumb.shownText .standard) = "☆".toList ++ " ".toList := by decide
    rw [hhtml, hopen, stripTags_text hstar, hclose, stripTags_text hspace, hshown,
      List.append_assoc]
  | segment label path =>
    have hstart : '>' ∉ "a href=\"".toList := by decide
    have hopen : ∀ u, stripTags (fun _ => true)
        ("<a href=\"".toList ++ (escapeText (pathOf ('/' :: path)) ++ ("\">".toList ++ u))) =
          stripTags (fun _ => true) u := stripTags_attribute hstart rfl
    have hslash : '<' ∉ "/".toList := by decide
    have hlabel : escapeText (label ++ ['/']) = escapeText label ++ "/".toList := by
      rw [escapeText_append]
      rfl
    rw [html_segment, Crumb.shownText, hlabel]
    simp only [List.append_assoc]
    rw [hopen, stripTags_text (lt_not_mem_escapeText label), hclose, stripTags_text hslash]
  | current label => exact stripTags_text (lt_not_mem_escapeText label) t

/-- The link to the index is not the link to an ancestor, whose tag has one attribute only. -/
theorem not_prefix_segment (label path t : List Char) :
    ¬ Crumb.html .standard <+: (Crumb.segment label path).html ++ t := by
  rintro ⟨rest, h⟩
  have hmore : '>' ∉ " title=\"Standard Packages\"".toList := by decide
  have hstandard := tagInsides_linkStart hmore standardPackagesPath.toList
    ("☆".toList ++ ("</a>".toList ++ (" ".toList ++ rest)))
  have hsegment := tagInsides_linkStart (List.not_mem_nil (a := '>')) (pathOf ('/' :: path))
    (escapeText label ++ ("</a>".toList ++ ("/".toList ++ t)))
  have hquote : "\">".toList = '\x22' :: [] ++ ['>'] := by decide
  rw [html_standard, html_segment, hquote] at h
  simp only [List.append_assoc, List.cons_append, List.nil_append] at h hstandard hsegment
  rw [h, hsegment] at hstandard
  -- the value of the one attribute would hold the double quotes of two
  have hinside := List.append_cancel_left (List.cons.inj hstandard).1
  have htitle : " title=\"Standard Packages\"".toList =
      " title=\"Standard Packages".toList ++ ['\x22'] := by decide
  rw [htitle, ← List.cons_append, ← List.append_assoc] at hinside
  refine quote_not_mem_escapeText (pathOf ('/' :: path)) ?_
  rw [List.append_cancel_right hinside]
  simp

/-! ## Whole trails -/

theorem linkTargets_html (path : String) (rootLength : Nat) :
    linkTargets (html path rootLength).toList = (trail path rootLength).filterMap Crumb.target? := by
  rw [html, String.toList_ofList, linkTargets_flatMap linkTargets_crumb]

theorem filterMap_target?_crumbsOf (walked : List Char) (ls : List (List Char)) (last : List Char) :
    (crumbsOf walked ls last).filterMap Crumb.target? =
      (paths (crumbsOf walked ls last)).map fun ancestor => pathOf ('/' :: ancestor) := by
  induction ls generalizing walked with
  | nil => rfl
  | cons l ls ih => exact congrArg (pathOf ('/' :: (walked ++ l)) :: ·) (ih _)

theorem flatMap_shownText_crumbsOf (walked : List Char) (ls : List (List Char)) (last : List Char) :
    (crumbsOf walked ls last).flatMap Crumb.shownText = slashed ls ++ last := by
  induction ls generalizing walked with
  | nil => exact List.append_nil last
  | cons l ls ih =>
    rw [crumbsOf, List.flatMap_cons, ih, slashed_cons, Crumb.shownText]
    simp

/-- Without the index in front, nothing is taken off. -/
theorem withoutIndex_crumbsOf (walked : List Char) (ls : List (List Char)) (last : List Char) :
    withoutIndex ((crumbsOf walked ls last).flatMap Crumb.html) =
      (crumbsOf walked ls last).flatMap Crumb.html := by
  have hnot : ¬ Crumb.html .standard <+: (crumbsOf walked ls last).flatMap Crumb.html := by
    cases ls with
    | nil =>
      intro h
      have hlt : '<' ∈ Crumb.html .standard := by decide
      have hmem := h.subset hlt
      rw [crumbsOf, List.flatMap_singleton] at hmem
      exact lt_not_mem_escapeText last hmem
    | cons l ls => exact not_prefix_segment l (walked ++ l) _
  rw [withoutIndex]
  cases hfound : (Crumb.html .standard).isPrefixOf? ((crumbsOf walked ls last).flatMap Crumb.html) with
  | none => rfl
  | some rest => exact absurd ⟨rest, List.isPrefixOf?_eq_some_iff_append_eq.mp hfound⟩ hnot

/-- **The link to the index stands in front exactly if the root is empty.** -/
theorem withoutIndex_html {path : String} {rootLength : Nat} {ls : List (List Char)}
    {last : List Char} (h : trail path rootLength =
      (if rootLength = 0 then [Crumb.standard] else []) ++ crumbsOf [] ls last) :
    withoutIndex (html path rootLength).toList = (crumbsOf [] ls last).flatMap Crumb.html ∧
    (html path rootLength).toList = (if rootLength = 0 then Crumb.html .standard else []) ++
      withoutIndex (html path rootLength).toList := by
  rw [html, String.toList_ofList, h]
  split
  · have hpage : ([Crumb.standard] ++ crumbsOf [] ls last).flatMap Crumb.html =
        Crumb.html .standard ++ (crumbsOf [] ls last).flatMap Crumb.html := by
      rw [List.flatMap_append, List.flatMap_singleton]
    have hrest : withoutIndex (Crumb.html .standard ++ (crumbsOf [] ls last).flatMap Crumb.html) =
        (crumbsOf [] ls last).flatMap Crumb.html := by
      rw [withoutIndex, List.isPrefixOf?_eq_some_iff_append_eq.mpr rfl]
      rfl
    rw [hpage, hrest]
    exact ⟨rfl, rfl⟩
  · rw [List.nil_append, List.nil_append, withoutIndex_crumbsOf]
    exact ⟨rfl, rfl⟩

/-- The labels and the ancestors of a trail are those of its crumbs behind the index. -/
theorem labels_paths_of_trail {path : String} {rootLength : Nat} {ls : List (List Char)}
    {last : List Char} (h : trail path rootLength =
      (if rootLength = 0 then [Crumb.standard] else []) ++ crumbsOf [] ls last) :
    labels (trail path rootLength) = ls ++ [last] ∧
      paths (trail path rootLength) = paths (crumbsOf [] ls last) := by
  rw [h, labels, paths, List.filterMap_append, List.filterMap_append, ← labels, ← labels, ← paths,
    ← paths, labels_crumbsOf]
  split <;> exact ⟨rfl, rfl⟩

/-- **The links of a trail lead to its ancestors**, after the index of the standard packages if the
root is empty. -/
theorem linkTargets_trail (path : String) (rootLength : Nat) :
    linkTargets (html path rootLength).toList =
      (if rootLength = 0 then [standardPackagesPath.toList] else []) ++
        (paths (trail path rootLength)).map fun ancestor => pathOf ('/' :: ancestor) := by
  obtain ⟨ls, last, _, htrail⟩ := exists_trail_eq_crumbsOf path rootLength
  rw [linkTargets_html, (labels_paths_of_trail htrail).2, htrail, List.filterMap_append,
    filterMap_target?_crumbsOf]
  split <;> rfl

/-- The address of an ancestor stands for its path, from the root of the site. -/
theorem readPath?_target (ancestor : List Char) :
    readPath? (String.ofList (pathOf ('/' :: ancestor))) = some (String.ofList ('/' :: ancestor)) := by
  rw [pathOf_slash_eq_encodePath, readPath?_encodePath]

/-- **A trail shows the whole path and links each ancestor.** For every import path and length of the
root, the link to the index of the standard packages stands in front exactly if the root is empty.
Without it, and without tags and with its entities read back, the HTML is the import path, with NUL
shown as the replacement character; it has as many links as the trail has ancestors; and the address
of each link stands for a slash and the import path, cut before the slash that follows the labels up
to that ancestor. -/
theorem html_shows_path_and_links_ancestors (path : String) (rootLength : Nat) :
    (html path rootLength).toList = (if rootLength = 0 then Crumb.html .standard else []) ++
      withoutIndex (html path rootLength).toList ∧
    visible (fun _ => true) (withoutIndex (html path rootLength).toList) =
      path.toList.map shownChar ∧
    (linkTargets (withoutIndex (html path rootLength).toList)).length =
      (paths (trail path rootLength)).length ∧
    ∀ k target, (linkTargets (withoutIndex (html path rootLength).toList))[k]? = some target →
      ∃ ancestor after, path.toList = ancestor ++ '/' :: after ∧
        ancestor = List.intercalate ['/'] ((labels (trail path rootLength)).take (k + 1)) ∧
        readPath? (String.ofList target) = some (String.ofList ('/' :: ancestor)) := by
  obtain ⟨ls, last, hpath, htrail⟩ := exists_trail_eq_crumbsOf path rootLength
  obtain ⟨hpage, hindex⟩ := withoutIndex_html htrail
  obtain ⟨hlabels, hpaths⟩ := labels_paths_of_trail htrail
  have htargets : linkTargets (withoutIndex (html path rootLength).toList) =
      (paths (trail path rootLength)).map fun ancestor => pathOf ('/' :: ancestor) := by
    rw [hpage, linkTargets_flatMap linkTargets_crumb, filterMap_target?_crumbsOf, hpaths]
  refine ⟨hindex, ?_, ?_, ?_⟩
  · rw [hpage, hpath, ← flatMap_shownText_crumbsOf [] ls last]
    exact visible_eq_map (stripTags_flatMap stripTags_crumb _)
  · rw [htargets, List.length_map]
  · intro k target hk
    rw [htargets, List.getElem?_map] at hk
    obtain ⟨ancestor, hancestor, rfl⟩ := Option.map_eq_some_iff.mp hk
    rw [hpaths] at hancestor
    obtain ⟨hlt, hjoin, after, hafter⟩ := getElem?_paths_crumbsOf hancestor
    refine ⟨ancestor, after ++ last, ?_, ?_, readPath?_target ancestor⟩
    · rw [hpath, ← List.nil_append (slashed ls), ← hafter]
      simp
    · rw [hlabels, List.take_append_of_le_length hlt, hjoin, List.nil_append]

end DocPress.Breadcrumb
