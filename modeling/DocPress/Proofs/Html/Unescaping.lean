import DocPress.Proofs.Html.Token
import DocPress.Proofs.Text.Replace

/-!
# Reading escaped text back

Entities can be read in one pass from left to right, or replaced one after the other. The two agree
if no character that is put in belongs to an entity replaced later, so the ampersand comes last.

* `Entity`, `entities` — entities, and the five that escaping writes.
* `readEntities` — a text with its entities read in one pass; `replaceEntities` — with one entity
  replaced after the other.

Principal results: `readEntities_replaceAll` — replacing one entity first leaves what is read;
`replaceEntities_eq_readEntities` — so one pass can be split into replacements;
`replaceEntities_eq_decodeEntities` — those of escaping, on every text; `ampersand_begins_entity` —
where ampersands stand in escaped text; `escape_leaves_no_markup_and_reads_back` — all together.
-/

namespace DocPress.Html

open DocPress.Text

/-! ## Entities -/

/-- An entity for one character. Its name is written between an ampersand and a semicolon. -/
structure Entity where
  name : List Char
  char : Char
  closed : '&' ∉ name ∧ ';' ∉ name

/-- The entity as it is written. -/
def Entity.form (e : Entity) : List Char := '&' :: (e.name ++ [';'])

/-- The entities that escaping writes, that of the ampersand last. -/
def entities : List Entity :=
  [⟨"lt".toList, '<', by decide⟩, ⟨"gt".toList, '>', by decide⟩, ⟨"quot".toList, '\x22', by decide⟩,
    ⟨"#x27".toList, '\x27', by decide⟩, ⟨"amp".toList, '&', by decide⟩]

/-- The first entity of a table that a text begins with. -/
def firstEntity? (table : List Entity) (s : List Char) : Option Entity :=
  table.find? fun e => e.form.isPrefixOf s

/-- The text with the entities of a table read in one pass, from left to right. -/
def readEntities (table : List Entity) (s : List Char) : List Char :=
  match s with
  | [] => []
  | c :: rest =>
    match firstEntity? table (c :: rest) with
    | some e => e.char :: readEntities table (rest.drop (e.form.length - 1))
    | none => c :: readEntities table rest
termination_by s.length
decreasing_by
  · simp only [List.length_drop, List.length_cons]; omega
  · simp

/-- The text with the entities of a table replaced, one after the other. -/
def replaceEntities (table : List Entity) (s : List Char) : List Char :=
  table.foldl (fun s e => replaceAll e.form [e.char] s) s

variable {table : List Entity} {e f : Entity}

theorem Entity.form_ne_nil : e.form ≠ [] := List.cons_ne_nil _ _

/-- No entity begins within another. -/
theorem Entity.form_isPrefix_iff {t : List Char} : e.form <+: f.form ++ t ↔ e.name = f.name := by
  constructor
  · rintro ⟨rest, h⟩
    -- both names end at the first semicolon
    have hnames : e.name ++ ';' :: rest = f.name ++ ';' :: t := by simpa [form] using h
    have hcut := congrArg (List.takeWhile fun c => c != ';') hnames
    rwa [takeWhile_bne e.closed.2, takeWhile_bne f.closed.2] at hcut
  · intro h
    rw [form, form, h]
    exact List.prefix_append _ _

theorem firstEntity?_cons (s : List Char) :
    firstEntity? (e :: table) s = if e.form <+: s then some e else firstEntity? table s := by
  simp only [firstEntity?, List.find?_cons, ← List.isPrefixOf_iff_prefix]
  cases e.form.isPrefixOf s <;> rfl

theorem firstEntity?_eq_none_iff {s : List Char} :
    firstEntity? table s = none ↔ ∀ f ∈ table, ¬ f.form <+: s := by
  simp [firstEntity?, List.find?_eq_none]

/-- No entity begins with a character that belongs to none. -/
theorem firstEntity?_eq_none_of_not_mem {c : Char} (h : ∀ f ∈ table, c ∉ f.form) (s : List Char) :
    firstEntity? table (c :: s) = none := by
  refine firstEntity?_eq_none_iff.mpr fun f hf hform => h f hf ?_
  rw [Entity.form, List.cons_prefix_cons] at hform
  rw [Entity.form, hform.1]
  exact List.mem_cons_self

theorem firstEntity?_eq_some {s : List Char} (h : firstEntity? table s = some e) :
    e ∈ table ∧ ∃ t, s = e.form ++ t := by
  rw [firstEntity?] at h
  have hform := List.find?_some h
  obtain ⟨t, ht⟩ := List.isPrefixOf_iff_prefix.mp hform
  exact ⟨List.mem_of_find?_eq_some h, t, ht.symm⟩

/-- Which entity stands at the beginning does not depend on what follows it. -/
theorem firstEntity?_form_append (e : Entity) (s t : List Char) :
    firstEntity? table (e.form ++ s) = firstEntity? table (e.form ++ t) := by
  induction table with
  | nil => rfl
  | cons f table ih => simp only [firstEntity?_cons, Entity.form_isPrefix_iff, ih]

/-! ## One pass -/

theorem readEntities_form {t : List Char} (h : firstEntity? table (e.form ++ t) = some e) :
    readEntities table (e.form ++ t) = e.char :: readEntities table t := by
  have hcons : e.form ++ t = '&' :: (e.name ++ [';'] ++ t) := rfl
  rw [hcons] at h ⊢
  rw [readEntities, h]
  exact congrArg (fun rest => e.char :: readEntities table rest)
    (drop_length_sub_one Entity.form_ne_nil hcons)

theorem readEntities_kept {c : Char} {s : List Char} (h : firstEntity? table (c :: s) = none) :
    readEntities table (c :: s) = c :: readEntities table s := by
  rw [readEntities, h]

theorem readEntities_nil (s : List Char) : readEntities [] s = s := by
  induction s with
  | nil => rw [readEntities]
  | cons c s ih => rw [readEntities_kept rfl, ih]

/-! ## One replacement -/

/-- A beginning without the replacing character was there before. -/
theorem isPrefix_of_isPrefix_replaceAll {pattern p s : List Char} {c : Char} (hne : pattern ≠ [])
    (hc : c ∉ p) (h : p <+: replaceAll pattern [c] s) : p <+: s := by
  induction s generalizing p with
  | nil => exact h
  | cons d s ih =>
    cases p with
    | nil => exact List.nil_prefix
    | cons a p =>
      rw [List.mem_cons, not_or] at hc
      by_cases hpattern : pattern <+: d :: s
      · obtain ⟨t, ht⟩ := hpattern
        rw [← ht, replaceAll_match hne, List.singleton_append, List.cons_prefix_cons] at h
        exact absurd h.1.symm hc.1
      · rw [replaceAll_cons hpattern, List.cons_prefix_cons] at h
        exact List.cons_prefix_cons.mpr ⟨h.1, ih hc.2 h.2⟩

/-- Another entity is kept. -/
theorem replaceAll_form_append (h : e.name ≠ f.name) (replacement t : List Char) :
    replaceAll e.form replacement (f.form ++ t) = f.form ++ replaceAll e.form replacement t := by
  have hstart : ¬ e.form <+: f.form ++ t := fun hform => h (Entity.form_isPrefix_iff.mp hform)
  have hname : '&' ∉ f.name ++ [';'] := by simp [f.closed.1]
  have hinside : replaceAll e.form replacement (f.name ++ [';'] ++ t) =
      f.name ++ [';'] ++ replaceAll e.form replacement t := replaceAll_append_of_head hname t
  have hcons : f.form ++ t = '&' :: (f.name ++ [';'] ++ t) := rfl
  rw [hcons] at hstart ⊢
  rw [replaceAll_cons hstart, hinside]
  rfl

/-- **Replacing one entity first leaves what is read**, if its character belongs to no entity read
afterwards: no entity arises, and none is lost. -/
theorem readEntities_replaceAll (h : ∀ f ∈ table, e.char ∉ f.form) (s : List Char) :
    readEntities table (replaceAll e.form [e.char] s) = readEntities (e :: table) s := by
  fun_induction readEntities (e :: table) s with
  | case1 => rw [replaceAll, replaceFrom, readEntities]
  | case2 c rest f hf ih =>
    obtain ⟨_, t, ht⟩ := firstEntity?_eq_some hf
    rw [drop_length_sub_one Entity.form_ne_nil ht.symm] at ih ⊢
    rw [ht, firstEntity?_cons] at hf
    rw [ht]
    split at hf
    · -- the entity itself: its character is read as it is
      obtain rfl : e = f := Option.some.inj hf
      rw [replaceAll_match Entity.form_ne_nil, List.singleton_append,
        readEntities_kept (firstEntity?_eq_none_of_not_mem h _), ih]
    · -- another entity: it is kept as a whole, and stands at the beginning as before
      rename_i hother
      have hname : e.name ≠ f.name := fun hname => hother (Entity.form_isPrefix_iff.mpr hname)
      rw [replaceAll_form_append hname, readEntities_form, ih]
      rwa [firstEntity?_form_append f _ t]
  | case3 c rest hnone ih =>
    -- no entity: replacing further on does not let one begin here
    rw [firstEntity?_eq_none_iff] at hnone
    have hkept : replaceAll e.form [e.char] (c :: rest) = c :: replaceAll e.form [e.char] rest :=
      replaceAll_cons (hnone e List.mem_cons_self)
    rw [hkept, readEntities_kept, ih]
    refine firstEntity?_eq_none_iff.mpr fun f hf hform => hnone f (List.mem_cons_of_mem e hf) ?_
    rw [← hkept] at hform
    exact isPrefix_of_isPrefix_replaceAll Entity.form_ne_nil (h f hf) hform

/-! ## One replacement after the other -/

/-- **Replacing one entity after the other is reading them in one pass**, if no character put in
belongs to an entity replaced later. -/
theorem replaceEntities_eq_readEntities (h : table.Pairwise fun e f => e.char ∉ f.form)
    (s : List Char) : replaceEntities table s = readEntities table s := by
  induction table generalizing s with
  | nil => exact (readEntities_nil s).symm
  | cons e table ih =>
    obtain ⟨hfirst, hrest⟩ := List.pairwise_cons.mp h
    calc replaceEntities (e :: table) s
        = replaceEntities table (replaceAll e.form [e.char] s) := rfl
      _ = readEntities table (replaceAll e.form [e.char] s) := ih hrest _
      _ = readEntities (e :: table) s := readEntities_replaceAll hfirst s

/-! ## The entities of escaping -/

theorem escapeChar_entity : ∀ e ∈ entities, escapeChar e.char = e.form := by
  decide

theorem decodeEntities_form (he : e ∈ entities) (t : List Char) :
    decodeEntities (e.form ++ t) = e.char :: decodeEntities t := by
  have hshown : ∀ e ∈ entities, shownChar e.char = e.char := by decide
  rw [← escapeChar_entity e he, decodeEntities_escapeChar, hshown e he]

theorem decodeEntities_kept {c : Char} {s : List Char} (h : firstEntity? entities (c :: s) = none) :
    decodeEntities (c :: s) = c :: decodeEntities s := by
  rw [firstEntity?_eq_none_iff] at h
  simp only [entities, List.forall_mem_cons, Entity.form] at h
  rw [decodeEntities.eq_def]
  -- every pattern but the last two is the form of an entity
  split <;> simp_all

theorem decodeEntities_eq_readEntities (s : List Char) :
    decodeEntities s = readEntities entities s := by
  fun_induction readEntities entities s with
  | case1 => rw [decodeEntities]
  | case2 c rest e he ih =>
    obtain ⟨hmem, t, ht⟩ := firstEntity?_eq_some he
    rw [drop_length_sub_one Entity.form_ne_nil ht.symm] at ih ⊢
    rw [ht, decodeEntities_form hmem, ih]
  | case3 c rest hnone ih => rw [decodeEntities_kept hnone, ih]

/-- **On every text the five entities of escaping may be replaced one after the other.** -/
theorem replaceEntities_eq_decodeEntities (s : List Char) :
    replaceEntities entities s = decodeEntities s := by
  rw [decodeEntities_eq_readEntities]
  exact replaceEntities_eq_readEntities (by decide) s

-- with the ampersand first, a text that looks like an entity is read twice
example : replaceEntities entities.reverse (escapeText "&lt;".toList) = "<".toList := by decide

/-! ## What stands in escaped text -/

/-- A character gives its entity, or no ampersand. -/
theorem escapeChar_entity_or_no_ampersand (c : Char) :
    (∃ e ∈ entities, e.char = c) ∨ '&' ∉ escapeChar c := by
  rcases escapeChar_cases c with ⟨hplain, hc⟩ | hc
  · have hamp : c ≠ '&' := by rintro rfl; simp [isPlainChar] at hplain
    refine Or.inr ?_
    rw [hc, List.mem_singleton]
    exact hamp.symm
  · have hforms : ∀ p ∈ specialForms, (∃ e ∈ entities, e.char = p.1) ∨ '&' ∉ p.2 := by decide
    exact hforms _ hc

/-- **Each ampersand of escaped text begins the entity of a character** of the text; what stands
before and behind it is escaped text. -/
theorem ampersand_begins_entity {s before after : List Char}
    (h : escapeText s = before ++ '&' :: after) :
    ∃ front back, ∃ e ∈ entities, s = front ++ e.char :: back ∧ before = escapeText front ∧
      '&' :: after = e.form ++ escapeText back := by
  induction s generalizing before with
  | nil => simp [escapeText] at h
  | cons c s ih =>
    rw [escapeText_cons] at h
    rcases escapeChar_entity_or_no_ampersand c with ⟨e, he, rfl⟩ | hc
    · rw [escapeChar_entity e he] at h
      cases before with
      | nil => exact ⟨[], s, e, he, rfl, rfl, h.symm⟩
      | cons b before =>
        -- not in the entity itself, whose only ampersand is its first character
        obtain ⟨rfl, htail⟩ := List.cons.inj h
        have hname : '&' ∉ e.name ++ [';'] := by simp [e.closed.1]
        obtain ⟨more, rfl, hs⟩ := eq_append_of_not_mem hname htail
        obtain ⟨front, back, f, hf, rfl, rfl, hafter⟩ := ih hs
        refine ⟨e.char :: front, back, f, hf, rfl, ?_, hafter⟩
        rw [escapeText_cons, escapeChar_entity e he]
        rfl
    · obtain ⟨more, rfl, hs⟩ := eq_append_of_not_mem hc h
      obtain ⟨front, back, e, he, rfl, rfl, hafter⟩ := ih hs
      exact ⟨c :: front, back, e, he, rfl, rfl, hafter⟩

/-- Escaped text consists of ampersands and of characters without a meaning in HTML. -/
theorem isPlainChar_of_mem_escapeText {s : List Char} {x : Char} (h : x ∈ escapeText s)
    (hx : x ≠ '&') : isPlainChar x = true := by
  obtain ⟨c, _, hc⟩ := List.mem_flatMap.mp h
  rcases escapeChar_cases c with ⟨hplain, hform⟩ | hspecial
  · rw [hform, List.mem_singleton] at hc
    rw [hc]
    exact hplain
  · have hforms : ∀ p ∈ specialForms, ∀ y ∈ p.2, y ≠ '&' → isPlainChar y = true := by
      simp [specialForms, isPlainChar]
    exact hforms _ hspecial x hc hx

/-- The replacement character that is shown for NUL is what NUL is escaped to. -/
theorem escapeText_map_shownChar (s : List Char) : escapeText (s.map shownChar) = escapeText s := by
  have hchar : ∀ c, escapeChar (shownChar c) = escapeChar c := by
    intro c
    by_cases hnul : c = '\x00'
    · subst hnul
      decide
    · rw [shownChar, if_neg hnul]
  induction s with
  | nil => rfl
  | cons c s ih => rw [List.map_cons, escapeText_cons, escapeText_cons, hchar, ih]

/-! ## Escaped strings -/

theorem toList_escape (s : String) : (escape s).toList = escapeText s.toList := String.toList_ofList

theorem escape_append (s t : String) : escape (s ++ t) = escape s ++ escape t := by
  rw [escape, String.toList_append, escapeText_append, String.ofList_append]
  rfl

/-- Escaping merges what is shown alike, and no more. -/
theorem escape_eq_iff {s t : String} :
    escape s = escape t ↔ s.toList.map shownChar = t.toList.map shownChar := by
  rw [escape, escape, String.ofList_inj]
  constructor
  · intro h
    rw [← decodeEntities_escaped, h, decodeEntities_escaped]
  · intro h
    rw [← escapeText_map_shownChar, h, escapeText_map_shownChar]

theorem escape_inj {s t : String} (hs : '\x00' ∉ s.toList) (ht : '\x00' ∉ t.toList) :
    escape s = escape t ↔ s = t := by
  rw [escape_eq_iff, map_shownChar_of_not_mem hs, map_shownChar_of_not_mem ht, String.toList_inj]

/-- **Escaped strings hold no markup and are read back.** They hold neither `<`, `>` and the quotes
nor NUL, and each ampersand begins one of the five entities, that of a character at this place of
the string. Reading these entities from left to right gives the string, up to NUL, which has become
the replacement character; so does replacing the entities one after the other, that of the ampersand
last. Strings one after the other are escaped each on its own. Only strings that are shown alike are
merged, so none without NUL. -/
theorem escape_leaves_no_markup_and_reads_back (s t : String) :
    (∀ c ∈ ['<', '>', '\x22', '\x27', '\x00'], c ∉ (escape s).toList) ∧
      (∀ before after, (escape s).toList = before ++ '&' :: after →
        ∃ front back, ∃ e ∈ entities, s.toList = front ++ e.char :: back ∧
          before = escapeText front ∧ '&' :: after = e.form ++ escapeText back) ∧
      decodeEntities (escape s).toList = s.toList.map shownChar ∧
      replaceEntities entities (escape s).toList = s.toList.map shownChar ∧
      escape (s ++ t) = escape s ++ escape t ∧
      (escape s = escape t ↔ s.toList.map shownChar = t.toList.map shownChar) ∧
      ('\x00' ∉ s.toList → '\x00' ∉ t.toList → (escape s = escape t ↔ s = t)) := by
  rw [toList_escape]
  refine ⟨?_, fun _ _ => ampersand_begins_entity, decodeEntities_escaped _, ?_, escape_append s t,
    escape_eq_iff, escape_inj⟩
  · intro c hc hmem
    have hspecial : ∀ c ∈ ['<', '>', '\x22', '\x27', '\x00'], c ≠ '&' ∧ isPlainChar c = false := by
      simp [isPlainChar]
    obtain ⟨hamp, hplain⟩ := hspecial c hc
    simp [isPlainChar_of_mem_escapeText hmem hamp] at hplain
  · rw [replaceEntities_eq_decodeEntities, decodeEntities_escaped]

/-- A text that looks like an entity is told apart from the character that it would stand for. -/
theorem entityText_escaped_apart :
    (escape "a&lt;'").toList = "a&amp;lt;".toList ++ '&' :: "#x27;".toList ∧
      (∃ front back, ∃ e ∈ entities, "a&lt;'".toList = front ++ e.char :: back ∧
        "a&amp;lt;".toList = escapeText front ∧
        '&' :: "#x27;".toList = e.form ++ escapeText back) ∧
      '\x00' ∉ "a&lt;'".toList ∧ '\x00' ∉ "a<'".toList ∧
      (escape "a&lt;'" = escape "a<'" ↔ "a&lt;'" = "a<'") := by
  obtain ⟨_, hampersand, _, _, _, _, hinj⟩ := escape_leaves_no_markup_and_reads_back "a&lt;'" "a<'"
  have hform : (escape "a&lt;'").toList = "a&amp;lt;".toList ++ '&' :: "#x27;".toList := by decide
  have hs : '\x00' ∉ "a&lt;'".toList := by decide
  have ht : '\x00' ∉ "a<'".toList := by decide
  exact ⟨hform, hampersand _ _ hform, hs, ht, hinj hs ht⟩

end DocPress.Html
