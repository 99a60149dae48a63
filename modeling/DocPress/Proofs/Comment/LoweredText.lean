import DocPress.Proofs.Comment.MarkdownPage
import DocPress.Proofs.Comment.PlainBlocks
import Mathlib.Data.List.Flatten

/-!
# What blocks keep of the text of events

The text of a Markdown comment is gathered event by event, and made a block wherever one begins or
ends. Paragraphs that are nothing but the mark of an item are left out.

* `withoutWhite` — a text without its white space; `visibleText` — the text that events show.
* `Run`, `runs` — the text of events, cut where blocks begin and end; `Run.shown` — what the blocks
  hold of a run.
* `Run.IsLoneHyphen` — a run that is taken for the mark of an item, although it follows none.
* `CodeClosed` — events in which code is ended and holds text only.

Principal results: `Lowering.Holds.step_cut`, `Lowering.Holds.step_text` — what one event does to
the current run; `Lowering.Holds.shown_foldl` — what any number of them leaves in the blocks;
`codeClosed_eventsOf` — the events of every comment close their code; `CodeClosed.keepsText` — what
blocks hold of such events; `blocks_keep_all_but_lone_hyphens` — blocks hold all text in order but
for hyphens that stand alone; `hyphen_paragraph_not_shown` — a comment that is such a hyphen.
-/

namespace DocPress.Comment

open DocPress.Text

/-! ## Texts without white space -/

/-- A text without its white space. -/
def withoutWhite (s : List Char) : List Char := s.filter fun c => !isWhite c

@[simp] theorem withoutWhite_nil : withoutWhite [] = [] := rfl

@[simp] theorem withoutWhite_append (s t : List Char) :
    withoutWhite (s ++ t) = withoutWhite s ++ withoutWhite t := List.filter_append ..

theorem withoutWhite_eq_nil_iff {s : List Char} : withoutWhite s = [] ↔ isBlank s = true := by
  simp [withoutWhite, isBlank]

theorem withoutWhite_blank {s : List Char} (h : isBlank s = true) : withoutWhite s = [] :=
  withoutWhite_eq_nil_iff.mpr h

theorem withoutWhite_flatten (ls : List (List Char)) :
    withoutWhite ls.flatten = ls.flatMap withoutWhite := by
  induction ls with
  | nil => rfl
  | cons l ls ih => rw [List.flatten_cons, withoutWhite_append, ih, List.flatMap_cons]

@[simp] theorem withoutWhite_trim (s : List Char) : withoutWhite (trim s) = withoutWhite s := by
  obtain ⟨b, b', hb, hb', hs⟩ := exists_eq_trim s
  calc withoutWhite (trim s)
      = withoutWhite (b ++ (trim s ++ b')) := by
        simp [withoutWhite_blank hb, withoutWhite_blank hb']
    _ = withoutWhite s := by rw [← hs]

/-- A trimmed text is a single character exactly if the text has no other one. -/
theorem trim_eq_singleton_iff {s : List Char} {c : Char} (hc : isWhite c = false) :
    trim s = [c] ↔ withoutWhite s = [c] := by
  constructor
  · intro h
    rw [← withoutWhite_trim, h]
    simp [withoutWhite, hc]
  · intro h
    obtain ⟨front, back, rfl, hfront, -, hback⟩ := List.filter_eq_cons_iff.mp h
    have hblank : isBlank front = true := by simpa [isBlank] using hfront
    have hblank' : isBlank back = true := withoutWhite_eq_nil_iff.mp hback
    rw [trim_blank_append hblank, trim, trimStart, List.dropWhile_cons_of_neg (by simp [hc]),
      trimEnd, ← List.nil_append (c :: back), List.append_cons, dropEndWhile_append hc,
      dropEndWhile, List.dropWhile_eq_nil_iff.mpr (by simpa [isBlank] using hblank')]
    rfl

theorem withoutWhite_dropReturn (l : List Char) : withoutWhite (dropReturn l) = withoutWhite l := by
  obtain ⟨w, hw, hl⟩ := exists_eq_dropReturn l
  calc withoutWhite (dropReturn l)
      = withoutWhite (dropReturn l ++ w) := by simp [withoutWhite_blank hw]
    _ = withoutWhite l := by rw [← hl]

theorem withoutWhite_intercalate (ls : List (List Char)) :
    withoutWhite (['\n'].intercalate ls) = ls.flatMap withoutWhite := by
  induction ls with
  | nil => rfl
  | cons l ls ih =>
    cases ls with
    | nil => simp
    | cons m ls =>
      have hline : withoutWhite ['\n'] = [] := withoutWhite_blank (by decide)
      rw [List.intercalate_cons_cons, withoutWhite_append, withoutWhite_append, ih, hline,
        List.append_nil]
      rfl

/-- Cutting a text into lines loses white space only. -/
theorem withoutWhite_lines (s : List Char) : withoutWhite (lines s).flatten = withoutWhite s := by
  rw [withoutWhite_flatten, flatMap_lines withoutWhite_dropReturn rfl, ← withoutWhite_intercalate,
    List.intercalate_splitOn]

namespace Markdown

open DocPress.Markdown

/-! ## Runs of text -/

/-- The text that events show. -/
def visibleText (events : List Event) : List Char := events.flatMap shownText

/-- The text of events between two places where blocks begin or end. -/
structure Run where
  /-- The run follows the mark of an item. -/
  marked : Bool
  /-- Its text, without white space. -/
  text : List Char
  /-- The run ends as a paragraph, and not as a heading or as code. -/
  paragraph : Bool
  deriving DecidableEq, Repr

/-- The text of a run behind the mark of its item. -/
def Run.whole (r : Run) : List Char := (if r.marked then ['-'] else []) ++ r.text

/-- What blocks hold of a run: all of it, unless it is a paragraph of a mark alone. -/
def Run.shown (r : Run) : List Char :=
  if r.paragraph = true ∧ r.whole = ['-'] then [] else r.whole

/-- A paragraph of a hyphen that is text and no mark. -/
def Run.IsLoneHyphen (r : Run) : Prop := r.paragraph = true ∧ r.marked = false ∧ r.text = ['-']

instance (r : Run) : Decidable r.IsLoneHyphen := inferInstanceAs (Decidable (_ ∧ _ ∧ _))

/-- Where blocks begin and end: whether the run before an event ends as a paragraph, and whether the
one behind it is marked. -/
def cutAt? : Event → Option (Bool × Bool)
  | .start (.codeBlock _) => some (true, false)
  | .start (.heading _) => some (true, false)
  | .start .item => some (true, true)
  | .stop (.codeBlock _) => some (false, false)
  | .stop (.heading _) => some (false, false)
  | .stop .paragraph => some (true, false)
  | .stop .item => some (true, false)
  | .stop .tableHead => some (true, false)
  | .stop .tableRow => some (true, false)
  | _ => none

/-- The runs of events, the first of which has begun with some text. -/
def runsFrom (marked : Bool) (text : List Char) : List Event → List Run
  | [] => [⟨marked, withoutWhite text, true⟩]
  | e :: rest =>
    match cutAt? e with
    | some (paragraph, next) => ⟨marked, withoutWhite text, paragraph⟩ :: runsFrom next [] rest
    | none => runsFrom marked (text ++ shownText e) rest

/-- The runs of events. -/
def runs (events : List Event) : List Run := runsFrom false [] events

/-- **A run is kept unless it is a lone hyphen.** -/
theorem Run.text_sublist_shown {r : Run} (h : ¬ r.IsLoneHyphen) : r.text.Sublist r.shown := by
  rw [Run.shown]
  split
  · rename_i hdropped
    obtain ⟨hparagraph, hwhole⟩ := hdropped
    cases hmarked : r.marked with
    | false => exact absurd ⟨hparagraph, hmarked, by simpa [Run.whole, hmarked] using hwhole⟩ h
    | true =>
      have htext : r.text = [] := by simpa [Run.whole, hmarked] using hwhole
      rw [htext]
  · exact List.sublist_append_right ..

/-- Only hyphens are added to a run or left out. -/
theorem Run.filter_shown (r : Run) :
    r.shown.filter (fun c => c != '-') = r.text.filter fun c => c != '-' := by
  have hwhole : r.whole.filter (fun c => c != '-') = r.text.filter fun c => c != '-' := by
    rw [Run.whole, List.filter_append]
    cases r.marked <;> rfl
  rw [Run.shown]
  split
  · rename_i hdropped
    rw [← hwhole, hdropped.2]
    rfl
  · exact hwhole

theorem shownText_of_cutAt? {e : Event} {cut : Bool × Bool} (h : cutAt? e = some cut) :
    shownText e = [] := by
  cases e with
  | start tag => rfl
  | stop tag => rfl
  | _ => cases h

/-- **The runs of events are the text that they show.** -/
theorem flatMap_text_runsFrom (marked : Bool) (text : List Char) (events : List Event) :
    (runsFrom marked text events).flatMap Run.text = withoutWhite (text ++ visibleText events) := by
  induction events generalizing marked text with
  | nil => simp [runsFrom, visibleText]
  | cons e events ih =>
    rw [runsFrom, visibleText, List.flatMap_cons, ← visibleText]
    cases hcut : cutAt? e with
    | none => simp only [ih, List.append_assoc]
    | some cut => simp [ih, shownText_of_cutAt? hcut]

/-! ## Closed code -/

/-- Whether an event begins or ends an element. -/
def isEdge : Event → Bool
  | .start _ => true
  | .stop _ => true
  | _ => false

/-- Whether an event begins or ends code. -/
def isCodeEdge : Event → Bool
  | .start (.codeBlock _) => true
  | .stop (.codeBlock _) => true
  | _ => false

/-- All code in the events is ended, and no element stands in it. -/
inductive CodeClosed : List Event → Prop
  | nil : CodeClosed []
  | cons {e : Event} {rest : List Event} (h : isCodeEdge e = false) (hrest : CodeClosed rest) :
      CodeClosed (e :: rest)
  | code (info info' : Option (List Char)) {inner rest : List Event}
      (h : ∀ e ∈ inner, isEdge e = false) (hrest : CodeClosed rest) :
      CodeClosed (.start (.codeBlock info) :: (inner ++ .stop (.codeBlock info') :: rest))

theorem CodeClosed.of_forall {events : List Event} (h : ∀ e ∈ events, isCodeEdge e = false) :
    CodeClosed events := by
  induction events with
  | nil => exact .nil
  | cons e events ih =>
    obtain ⟨he, hevents⟩ := List.forall_mem_cons.mp h
    exact .cons he (ih hevents)

theorem CodeClosed.append {events more : List Event} (h : CodeClosed events)
    (hmore : CodeClosed more) : CodeClosed (events ++ more) := by
  induction h with
  | nil => exact hmore
  | cons he _ ih => exact .cons he ih
  | code info info' hinner _ ih =>
    rw [List.cons_append, List.append_assoc, List.cons_append]
    exact .code info info' hinner ih

theorem CodeClosed.flatMap {α : Type} {f : α → List Event} {xs : List α}
    (h : ∀ x ∈ xs, CodeClosed (f x)) : CodeClosed (xs.flatMap f) := by
  induction xs with
  | nil => exact .nil
  | cons x xs ih =>
    obtain ⟨hx, hxs⟩ := List.forall_mem_cons.mp h
    exact hx.append (ih hxs)

/-- An element other than code. -/
theorem CodeClosed.within {tag : Tag} {events : List Event} (htag : isCodeEdge (.start tag) = false)
    (h : CodeClosed events) : CodeClosed (within tag events) := by
  have hsame : isCodeEdge (.stop tag) = isCodeEdge (.start tag) := by cases tag <;> rfl
  have hstop : isCodeEdge (.stop tag) = false := hsame.trans htag
  exact .cons htag (h.append (.cons hstop .nil))

mutual

theorem codeClosed_events : ∀ x : DocPress.Markdown.Inline, CodeClosed x.events
  | .text _ => .cons rfl .nil
  | .code _ => .cons rfl .nil
  | .html _ => .cons rfl .nil
  | .softBreak => .cons rfl .nil
  | .hardBreak => .cons rfl .nil
  | .emphasis xs => .within rfl (codeClosed_inlineEvents xs)
  | .strong xs => .within rfl (codeClosed_inlineEvents xs)
  | .strikethrough xs => .within rfl (codeClosed_inlineEvents xs)
  | .link _ _ _ xs => .within rfl (codeClosed_inlineEvents xs)
  | .image _ _ xs => .within rfl (codeClosed_inlineEvents xs)

theorem codeClosed_inlineEvents : ∀ xs : List DocPress.Markdown.Inline, CodeClosed (inlineEvents xs)
  | [] => .nil
  | x :: rest => (codeClosed_events x).append (codeClosed_inlineEvents rest)

end

theorem codeClosed_cellEvents (definitions : List Definition) (cells : List (List Char)) :
    CodeClosed (cellEvents definitions cells) :=
  .flatMap fun _ _ => .within rfl (codeClosed_inlineEvents _)

mutual

theorem codeClosed_block (definitions : List Definition) :
    ∀ (tight : Bool) (b : DocPress.Markdown.Block), CodeClosed (b.events definitions tight)
  | tight, .paragraph s => by
    rw [Block.events]
    split
    · exact codeClosed_inlineEvents _
    · exact .within rfl (codeClosed_inlineEvents _)
  | _, .heading _ _ => .within rfl (codeClosed_inlineEvents _)
  | _, .rule => .cons rfl .nil
  | _, .code info lines => by
    refine .code info info (fun e he => ?_) .nil
    obtain ⟨line, -, rfl⟩ := List.mem_map.mp he
    rfl
  | _, .html lines => by
    refine .within rfl (.of_forall fun e he => ?_)
    obtain ⟨line, -, rfl⟩ := List.mem_map.mp he
    rfl
  | _, .table _ header rows => by
    refine .within rfl (.append ?_ (.flatMap fun row _ => ?_))
    · exact .within rfl (codeClosed_cellEvents definitions header)
    · exact .within rfl (codeClosed_cellEvents definitions row)
  | _, .quote children => .within rfl (codeClosed_blocks definitions false children)
  | _, .list _ tight items => .within rfl (codeClosed_blocks definitions tight items)
  | tight, .item children => .within rfl (codeClosed_blocks definitions tight children)

theorem codeClosed_blocks (definitions : List Definition) :
    ∀ (tight : Bool) (bs : List DocPress.Markdown.Block),
      CodeClosed (blockEvents definitions tight bs)
  | _, [] => .nil
  | tight, b :: rest =>
    (codeClosed_block definitions tight b).append (codeClosed_blocks definitions tight rest)

end

/-- **The events of every comment close their code.** -/
theorem codeClosed_eventsOf (text : List Char) : CodeClosed (eventsOf text) :=
  codeClosed_blocks _ false _

/-! ## Lowering -/

/-- The text of blocks. -/
def blocksText (blocks : List Block) : List Char := (blocks.flatMap Block.lines).flatten

/-- The text of the blocks that are finished, without white space. -/
def Lowering.shown (l : Lowering) : List Char := withoutWhite (blocksText l.done.reverse)

theorem withoutWhite_blocksText_concat (blocks : List Block) (b : Block) :
    withoutWhite (blocksText (blocks ++ [b])) =
      withoutWhite (blocksText blocks) ++ withoutWhite b.lines.flatten := by
  simp [blocksText]

/-- No code is open, and the current text is a run that has begun with some text. -/
structure Lowering.Holds (l : Lowering) (marked : Bool) (text : List Char) : Prop where
  code : l.code = none
  current : ∀ paragraph, withoutWhite l.current = Run.whole ⟨marked, withoutWhite text, paragraph⟩

section
variable {l : Lowering} {marked : Bool} {text : List Char}

/-- **A run that ends as a paragraph.** -/
theorem Lowering.Holds.shown_flush (h : l.Holds marked text) :
    l.flush.shown = l.shown ++ Run.shown ⟨marked, withoutWhite text, true⟩ := by
  have hwhole := h.current true
  have hhyphen : trim l.current = ['-'] ↔ withoutWhite l.current = ['-'] :=
    trim_eq_singleton_iff (by decide)
  simp only [Lowering.shown, Lowering.flush, Run.shown, true_and, ← hwhole, ← hhyphen]
  by_cases hmark : trim l.current = ['-']
  · simp [hmark]
  · by_cases hblank : isBlank l.current = true
    · simp [isEmpty_trim, hblank, hmark, withoutWhite_blank hblank]
    · rw [if_neg hmark, if_neg (by simp [isEmpty_trim, hblank, hmark]), List.reverse_cons,
        withoutWhite_blocksText_concat]
      simp [Block.lines]

/-- **A run that ends as a heading.** -/
theorem Lowering.Holds.shown_heading (h : l.Holds marked text) (level : Nat) :
    (l.stop (.heading level)).shown = l.shown ++ Run.shown ⟨marked, withoutWhite text, false⟩ := by
  have hwhole := h.current false
  simp only [Lowering.shown, Lowering.stop, Run.shown, Bool.false_eq_true, false_and, if_false,
    ← hwhole, isEmpty_trim]
  by_cases hblank : isBlank l.current = true
  · simp [hblank, withoutWhite_blank hblank]
  · rw [if_neg hblank, List.reverse_cons, withoutWhite_blocksText_concat]
    simp [Block.lines]

theorem Lowering.Holds.flush (h : l.Holds marked text) : l.flush.Holds false [] :=
  ⟨h.code, fun _ => rfl⟩

/-- **An event that ends a run** leaves its text in the blocks. -/
theorem Lowering.Holds.step_cut (h : l.Holds marked text) {e : Event} {paragraph next : Bool}
    (he : isCodeEdge e = false) (hcut : cutAt? e = some (paragraph, next)) :
    (l.event e).Holds next [] ∧
      (l.event e).shown = l.shown ++ Run.shown ⟨marked, withoutWhite text, paragraph⟩ := by
  cases e with
  | start tag =>
    cases tag with
    | codeBlock _ => cases he
    | heading _ =>
      cases hcut
      exact ⟨h.flush, h.shown_flush⟩
    | item =>
      cases hcut
      have hmark : withoutWhite "- ".toList = ['-'] := by decide
      exact ⟨⟨h.code, fun _ => hmark⟩, h.shown_flush⟩
    | _ => cases hcut
  | stop tag =>
    cases tag with
    | codeBlock _ => cases he
    | heading level =>
      cases hcut
      exact ⟨⟨h.code, fun _ => rfl⟩, h.shown_heading level⟩
    | paragraph =>
      cases hcut
      exact ⟨h.flush, h.shown_flush⟩
    | item =>
      cases hcut
      exact ⟨h.flush, h.shown_flush⟩
    | tableHead =>
      cases hcut
      exact ⟨h.flush, h.shown_flush⟩
    | tableRow =>
      cases hcut
      exact ⟨h.flush, h.shown_flush⟩
    | _ => cases hcut
  | _ => cases hcut

/-- **An event that ends no run** adds its text to the current one. -/
theorem Lowering.Holds.step_text (h : l.Holds marked text) {e : Event} (hcut : cutAt? e = none) :
    (l.event e).Holds marked (text ++ shownText e) ∧ (l.event e).shown = l.shown := by
  have hput : ∀ s, (l.put s).Holds marked (text ++ s) ∧ (l.put s).shown = l.shown := by
    intro s
    have hform : l.put s = { l with current := l.current ++ s } := by rw [Lowering.put, h.code]
    rw [hform]
    exact ⟨⟨h.code, fun p => by simp [h.current p, Run.whole]⟩, rfl⟩
  have hblank : ∀ k : Lowering, k.code = none → k.done = l.done →
      withoutWhite k.current = withoutWhite l.current →
      k.Holds marked (text ++ []) ∧ k.shown = l.shown := by
    intro k hcode hdone hcurrent
    refine ⟨⟨hcode, fun p => ?_⟩, by rw [Lowering.shown, hdone, Lowering.shown]⟩
    rw [hcurrent, h.current p, List.append_nil]
  have hspace : withoutWhite (l.current ++ [' ']) = withoutWhite l.current := by
    rw [withoutWhite_append, withoutWhite_blank (by decide : isBlank [' '] = true), List.append_nil]
  cases e with
  | start tag =>
    cases tag with
    | codeBlock _ => cases hcut
    | heading _ => cases hcut
    | item => cases hcut
    | _ => exact hblank l h.code rfl rfl
  | stop tag =>
    cases tag with
    | tableCell => exact hblank _ h.code rfl hspace
    | codeBlock _ => cases hcut
    | heading _ => cases hcut
    | paragraph => cases hcut
    | item => cases hcut
    | tableHead => cases hcut
    | tableRow => cases hcut
    | _ => exact hblank l h.code rfl rfl
  | text s => exact hput s
  | code s => exact hput s
  | html s => exact hput s
  | inlineHtml s => exact hput s
  | softBreak => exact hblank _ h.code rfl hspace
  | hardBreak => exact hblank _ h.code rfl hspace
  | rule => exact hblank l h.code rfl rfl

end

/-! ## Code -/

theorem cutAt?_of_not_isEdge {e : Event} (h : isEdge e = false) : cutAt? e = none := by
  cases e with
  | start tag => cases h
  | stop tag => cases h
  | _ => rfl

/-- Events that are no edges belong to one run. -/
theorem runsFrom_append {inner : List Event} (h : ∀ e ∈ inner, isEdge e = false) (marked : Bool)
    (text : List Char) (rest : List Event) :
    runsFrom marked text (inner ++ rest) = runsFrom marked (text ++ visibleText inner) rest := by
  induction inner generalizing text with
  | nil => simp [visibleText]
  | cons e inner ih =>
    obtain ⟨he, hinner⟩ := List.forall_mem_cons.mp h
    rw [List.cons_append, runsFrom, cutAt?_of_not_isEdge he]
    simp only [ih hinner, visibleText, List.flatMap_cons, List.append_assoc]

/-- What events in code leave: all their text is code. -/
structure Lowering.InCode (l : Lowering) (body : List Char) (shown : List Char) : Prop where
  code : l.code = some body
  current : withoutWhite l.current = []
  shown : l.shown = shown

theorem Lowering.InCode.event {l : Lowering} {body shown : List Char} (h : l.InCode body shown)
    {e : Event} (he : isEdge e = false) : (l.event e).InCode (body ++ shownText e) shown := by
  have hput : ∀ s, (l.put s).InCode (body ++ s) shown := by
    intro s
    rw [Lowering.put, h.code]
    exact ⟨rfl, h.current, h.shown⟩
  have hspace : withoutWhite (l.current ++ [' ']) = [] := by
    rw [withoutWhite_append, h.current]
    decide
  cases e with
  | start tag => cases he
  | stop tag => cases he
  | text s => exact hput s
  | code s => exact hput s
  | html s => exact hput s
  | inlineHtml s => exact hput s
  | softBreak => exact ⟨h.code.trans (by simp [shownText]), hspace, h.shown⟩
  | hardBreak => exact ⟨h.code.trans (by simp [shownText]), hspace, h.shown⟩
  | rule => exact ⟨h.code.trans (by simp [shownText]), h.current, h.shown⟩

theorem Lowering.InCode.foldl {l : Lowering} {body shown : List Char} (h : l.InCode body shown)
    {inner : List Event} (hinner : ∀ e ∈ inner, isEdge e = false) :
    (inner.foldl Lowering.event l).InCode (body ++ visibleText inner) shown := by
  induction inner generalizing l body with
  | nil => simpa [visibleText] using h
  | cons e inner ih =>
    obtain ⟨he, hinner⟩ := List.forall_mem_cons.mp hinner
    have hnext := ih (h.event he) hinner
    rwa [List.append_assoc] at hnext

/-- **A run of code** is kept as it is. -/
theorem Lowering.InCode.stop {l : Lowering} {body shown : List Char} (h : l.InCode body shown)
    (info : Option (List Char)) :
    (l.event (.stop (.codeBlock info))).Holds false [] ∧
      (l.event (.stop (.codeBlock info))).shown =
        shown ++ Run.shown ⟨false, withoutWhite body, false⟩ := by
  rw [Lowering.event, Lowering.stop, h.code]
  refine ⟨⟨rfl, fun _ => h.current⟩, ?_⟩
  rw [Lowering.shown, List.reverse_cons, withoutWhite_blocksText_concat, ← Lowering.shown, h.shown,
    Block.lines, withoutWhite_lines]
  rfl

/-! ## All events -/

/-- **What events leave in the blocks**: each run as it is shown. -/
theorem Lowering.Holds.shown_foldl {l : Lowering} {marked : Bool} {text : List Char}
    (hl : l.Holds marked text) {events : List Event} (h : CodeClosed events) :
    (events.foldl Lowering.event l).flush.shown =
      l.shown ++ (runsFrom marked text events).flatMap Run.shown := by
  induction h generalizing l marked text with
  | nil => simpa [runsFrom] using hl.shown_flush
  | @cons e rest he _ ih =>
    rw [List.foldl_cons, runsFrom]
    cases hcut : cutAt? e with
    | none =>
      obtain ⟨hnext, hshown⟩ := hl.step_text hcut
      rw [ih hnext, hshown]
    | some cut =>
      obtain ⟨hnext, hshown⟩ := hl.step_cut he hcut
      rw [ih hnext, hshown, List.append_assoc]
      rfl
  | @code info info' inner rest hinner _ ih =>
    -- the run before the code ends, the code is a run of its own, and the next one is empty
    have hcode : (l.event (.start (.codeBlock info))).InCode []
        (l.shown ++ Run.shown ⟨marked, withoutWhite text, true⟩) :=
      ⟨rfl, rfl, hl.shown_flush⟩
    obtain ⟨hnext, hshown⟩ := (hcode.foldl hinner).stop info'
    have hruns : runsFrom marked text
        (.start (.codeBlock info) :: (inner ++ .stop (.codeBlock info') :: rest)) =
        ⟨marked, withoutWhite text, true⟩ ::
          ⟨false, withoutWhite (visibleText inner), false⟩ :: runsFrom false [] rest := by
      rw [runsFrom, cutAt?]
      simp only [runsFrom_append hinner]
      rfl
    rw [List.foldl_cons, List.foldl_append, List.foldl_cons, ih hnext, hshown, hruns]
    simp

/-- What blocks keep of the text of events, white space apart. -/
structure KeepsText (events : List Event) (blocks : List Block) : Prop where
  /-- The runs are the text that the events show. -/
  visible : withoutWhite (visibleText events) = (runs events).flatMap Run.text
  /-- The blocks hold each run as it is shown, in order, and nothing else. -/
  shown : withoutWhite (blocksText blocks) = (runs events).flatMap Run.shown
  /-- Each run is shown unless it is a lone hyphen, and such a one is not shown at all. -/
  each : ∀ r ∈ runs events, if r.IsLoneHyphen then r.shown = [] else r.text.Sublist r.shown
  /-- So all text is kept in order if no hyphen stands alone. -/
  sublist : (∀ r ∈ runs events, ¬ r.IsLoneHyphen) →
    (withoutWhite (visibleText events)).Sublist (withoutWhite (blocksText blocks))
  /-- All characters but hyphens are kept, each of them once, and none are added. -/
  others : (withoutWhite (blocksText blocks)).filter (fun c => c != '-') =
    (withoutWhite (visibleText events)).filter fun c => c != '-'

theorem Run.shown_of_isLoneHyphen {r : Run} (h : r.IsLoneHyphen) : r.shown = [] := by
  obtain ⟨hparagraph, hmarked, htext⟩ := h
  simp [Run.shown, Run.whole, hparagraph, hmarked, htext]

/-- **Blocks hold the text of events that close their code**, run by run. -/
theorem CodeClosed.keepsText {events : List Event} (h : CodeClosed events) :
    KeepsText events (blocksOf events) := by
  have hempty : ({} : Lowering).Holds false [] := ⟨rfl, fun _ => rfl⟩
  have hvisible : withoutWhite (visibleText events) = (runs events).flatMap Run.text :=
    (flatMap_text_runsFrom false [] events).symm
  have hshown : withoutWhite (blocksText (blocksOf events)) = (runs events).flatMap Run.shown :=
    hempty.shown_foldl h
  refine ⟨hvisible, hshown, fun r _ => ?_, fun hlone => ?_, ?_⟩
  · split
    · exact Run.shown_of_isLoneHyphen ‹_›
    · exact Run.text_sublist_shown ‹_›
  · rw [hvisible, hshown]
    exact List.Sublist.flatMap_right _ fun r hr => Run.text_sublist_shown (hlone r hr)
  · rw [hvisible, hshown, List.filter_flatMap, List.filter_flatMap]
    exact congrArg (List.flatMap · (runs events)) (funext Run.filter_shown)

/-- **Blocks keep all text but lone hyphens.** Whatever the events are, as long as they close their
code, and so for every comment, the blocks hold the text of the events in order. Only the marks of
items are added, and only a paragraph or row of a table is left out that is a hyphen and nothing
else. -/
theorem blocks_keep_all_but_lone_hyphens (events : List Event) (text : List Char) :
    (CodeClosed events → KeepsText events (blocksOf events)) ∧
      KeepsText (eventsOf text) (blocks text) :=
  ⟨fun hclosed => hclosed.keepsText, (codeClosed_eventsOf text).keepsText⟩

/-- Items with text and with code, an item without text, and a heading that is a hyphen. -/
def chores : List Char := "- to-do\n  \x60ls -l\x60\n-\n- ~~~\n  -\n  ~~~\n\n# -".toList

theorem chores_kept :
    let events := eventsOf chores
    CodeClosed events ∧ (∀ r ∈ runs events, ¬ r.IsLoneHyphen) ∧
      withoutWhite (visibleText events) = "to-dols-l--".toList ∧
      withoutWhite (blocksText (blocksOf events)) = "-to-dols-l--".toList ∧
      (withoutWhite (visibleText events)).Sublist
        (withoutWhite (blocksText (blocksOf events))) := by
  have hclosed : CodeClosed (eventsOf chores) := codeClosed_eventsOf chores
  have hlone : ∀ r ∈ runs (eventsOf chores), ¬ r.IsLoneHyphen := by decide +kernel
  exact ⟨hclosed, hlone, by decide +kernel, by decide +kernel,
    ((blocks_keep_all_but_lone_hyphens (eventsOf chores) chores).1 hclosed).sublist hlone⟩

/-- A paragraph that is an escaped hyphen shows this hyphen, and no block holds it. -/
theorem hyphen_paragraph_not_shown :
    let text := "\\-".toList
    eventsOf text = [.start .paragraph, .text ['-'], .stop .paragraph] ∧ blocks text = [] ∧
      ¬ (withoutWhite (visibleText (eventsOf text))).Sublist
        (withoutWhite (blocksText (blocks text))) := by
  have hevents : eventsOf "\\-".toList = [.start .paragraph, .text ['-'], .stop .paragraph] := by
    decide +kernel
  have hblocks : blocks "\\-".toList = [] := by decide +kernel
  simp only [hevents, hblocks]
  exact ⟨trivial, trivial, by decide⟩

end Markdown

end DocPress.Comment
