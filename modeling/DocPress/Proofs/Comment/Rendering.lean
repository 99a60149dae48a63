import DocPress.Proofs.Comment.Demotion
import DocPress.Proofs.Comment.RfcLinks

/-!
# Rendered comments

What the two renderings of a plain comment are, and that they agree.

* `exists_rendered_page` — the HTML, with its headings demoted and its references linked, is a page
  that shows the blocks of the comment.
* `html_is_page_of_safe_tags` — its markup is that of the page and nothing else.
* `words_visible_html_eq_words_text` — the HTML and the text show the same words.
-/

namespace DocPress.Comment

open DocPress.Text

/-- **The HTML of a plain comment is a page** that shows the blocks of the comment. -/
theorem exists_rendered_page (indent width : Nat) (comment : String) :
    ∃ page : List Page.Element,
      ((Renderer.mk .plain indent width).html comment).toList = page.flatMap Page.Element.html ∧
      page.flatMap Page.Element.text =
        (Plain.blocks comment.toList).flatMap Page.blockText := by
  obtain ⟨page, hhtml, htext, hsolid⟩ := Page.exists_page (Plain.blocks comment.toList)
  obtain ⟨linked, hhtml', htext'⟩ := Page.exists_linked_page page hsolid
  refine ⟨linked, ?_, htext'.trans htext⟩
  rw [Renderer.html, String.toList_ofList, Markup.html, Plain.html, hhtml,
    Page.demoteHeadings_page, hhtml']

/-- **The markup of a plain comment is safe and well-formed.** Its HTML is a sequence of paragraphs,
preformatted blocks and headings of level four that hold escaped text and links, which show the
blocks of the comment; and once the tags of these elements are taken out, each attribute of which
is free of markup and each link of which has one of the four schemes, no `<` or `>` is left. -/
theorem html_is_page_of_safe_tags (indent width : Nat) (comment : String) :
    ∃ page : List Page.Element,
      ((Renderer.mk .plain indent width).html comment).toList = page.flatMap Page.Element.html ∧
      page.flatMap Page.Element.text = (Plain.blocks comment.toList).flatMap Page.blockText ∧
      ∀ c ∈ Html.stripTags Page.isPageTag ((Renderer.mk .plain indent width).html comment).toList,
        c ≠ '<' ∧ c ≠ '>' := by
  obtain ⟨page, hhtml, htext⟩ := exists_rendered_page indent width comment
  refine ⟨page, hhtml, htext, fun c hc => ?_⟩
  rw [hhtml, Page.stripTags_page (fun _ h => h)] at hc
  refine ⟨?_, ?_⟩
  · rintro rfl
    exact Html.lt_not_mem_escapeText _ hc
  · rintro rfl
    exact Html.gt_not_mem_escapeText _ hc

/-! ## The same words -/

theorem isWhite_shownChar (c : Char) : isWhite (Html.shownChar c) = isWhite c := by
  unfold Html.shownChar
  split
  · rename_i h
    subst h
    decide
  · rfl

/-- What a block shows in HTML holds the words that it shows as text. -/
theorem words_blockText (b : Block) :
    Closes (Page.blockText b) ∧ words (Page.blockText b) = b.shownWords := by
  cases b with
  | para ls =>
    refine ⟨closes_cons isWhite_newline (closes_concat isWhite_newline _), ?_⟩
    rw [Page.blockText, words_cons_white isWhite_newline, words_concat_white isWhite_newline,
      words_flatMap_newline]
    rfl
  | heading title =>
    refine ⟨closes_concat isWhite_newline _, ?_⟩
    rw [Page.blockText, words_concat_white isWhite_newline]
    rfl
  | pre ls =>
    refine ⟨closes_concat isWhite_newline _, ?_⟩
    rw [Page.blockText, words_concat_white isWhite_newline]
    exact words_flatMap_newline (fun l => l) ls

theorem words_flatMap_blockText (blocks : List Block) :
    words (blocks.flatMap Page.blockText) = blocks.flatMap Block.shownWords := by
  induction blocks with
  | nil => rfl
  | cons b blocks ih =>
    obtain ⟨hcloses, hwords⟩ := words_blockText b
    rw [List.flatMap_cons, words_append_of_closes hcloses, hwords, ih, List.flatMap_cons]

/-- **The HTML and the text of a plain comment show the same words**, for every indentation and
width: what is left of the HTML without its tags and with its entities read back has the words of
the text, in order, with NUL read as the replacement character. -/
theorem words_visible_html_eq_words_text (indent width : Nat) (comment : String) :
    words (Html.visible (fun _ => true) ((Renderer.mk .plain indent width).html comment).toList) =
      words (((Renderer.mk .plain indent width).text comment).toList.map Html.shownChar) := by
  obtain ⟨page, hhtml, htext⟩ := exists_rendered_page indent width comment
  have hlayout : words ((Renderer.mk .plain indent width).text comment).toList =
      (Plain.blocks comment.toList).flatMap Block.shownWords := by
    rw [Renderer.text, String.toList_ofList, Markup.text, words_layout (Renderer.shape_blank _)]
    rfl
  rw [hhtml, Page.visible_page (fun _ _ => rfl), htext, words_map isWhite_shownChar,
    words_map isWhite_shownChar, words_flatMap_blockText, hlayout]

end DocPress.Comment
