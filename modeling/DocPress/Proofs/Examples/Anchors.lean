import DocPress.Examples
import DocPress.Proofs.Html.Visible
import DocPress.Text.Alphanumeric
import Mathlib.Data.List.Nodup
import Mathlib.Data.List.Perm.Basic

/-!
# Anchors of examples

An anchor is made of the name of its owner and the name of the example. The hyphen between them
stands in no identifier, so an anchor shows both; but the name of a method is joined to that of its
type by an underscore, which identifiers may hold.

* `owners` — the items of a package that have examples; `named` — its types, functions and
  constructors; `methodItems` — its methods.
* `WellNamed` — the rules that the names of a package obey.
* `NoClash` — no joined name of a method is that of another owner with an example of the same name.

Principal results: `anchor_eq_iff_text` — writing an anchor in HTML loses nothing; `anchor_inj` — it
shows its owner's part and the example's name; `nodup_collect` — no example is collected twice;
`anchors_nodup_iff_noClash` — the anchors of a package are distinct exactly if joined names do not
clash; `underscore_clash` — they may clash.
-/

namespace DocPress.Examples

open DocPress.Doc

/-! ## Identifiers -/

/-- Whether a character may stand in an identifier. -/
def isIdentifierChar (c : Char) : Bool := Text.isAlphanumeric c || c == '_'

/-- Whether a name is an identifier: letters, digits and underscores, and not empty. -/
def isIdentifier (s : String) : Bool := !s.isEmpty && s.toList.all isIdentifierChar

theorem isIdentifierChar_of_mem {s : String} (h : isIdentifier s = true) :
    ∀ c ∈ s.toList, isIdentifierChar c = true :=
  List.all_eq_true.mp (Bool.and_eq_true_iff.mp h).2

theorem isIdentifierChar_separators :
    isIdentifierChar '-' = false ∧ isIdentifierChar '*' = false ∧ isIdentifierChar '_' = true := by
  decide +kernel

theorem isIdentifierChar_nul : isIdentifierChar '\x00' = false := by decide +kernel

theorem not_mem_of_isIdentifierChar {s : List Char} (hs : ∀ c ∈ s, isIdentifierChar c = true) {c : Char}
    (hc : isIdentifierChar c = false) : c ∉ s := by
  intro hmem
  have hid := hs c hmem
  rw [hc] at hid
  cases hid

/-- The receiver of a method names its type, with or without a star. -/
theorem receiverName_eq {recv name : String} (hname : isIdentifier name = true)
    (h : recv = name ∨ recv = "*" ++ name) :
    recv.isEmpty = false ∧ receiverName recv.toList = name.toList := by
  rcases h with rfl | rfl
  · refine ⟨by simpa using (Bool.and_eq_true_iff.mp hname).1, ?_⟩
    unfold receiverName
    split
    · rename_i rest hrest
      have hstar := isIdentifierChar_of_mem hname '*' (by rw [hrest]; simp)
      rw [isIdentifierChar_separators.2.1] at hstar
      cases hstar
    · rfl
  · exact ⟨by simp, by rw [String.toList_append]; rfl⟩

/-! ## What an anchor shows -/

/-- The part of an anchor that names the example. -/
def sampleSuffix (name : String) : List Char := if name.isEmpty then [] else '-' :: name.toList

/-- The name of an example: an identifier, or empty for the default example. -/
def IsSampleName (name : String) : Prop := name = "" ∨ isIdentifier name = true

theorem sampleSuffix_inj {x y : String} (h : sampleSuffix x = sampleSuffix y) : x = y := by
  unfold sampleSuffix at h
  split at h
  · rename_i hx
    split at h
    · rename_i hy
      rw [String.isEmpty_iff.mp hx, String.isEmpty_iff.mp hy]
    · cases h
  · split at h
    · cases h
    · exact String.toList_inj.mp (List.cons.inj h).2

/-- The hyphen before the name of the example tells where it begins. -/
theorem append_sampleSuffix_inj {a b : List Char} (ha : '-' ∉ a) (hb : '-' ∉ b) {x y : String}
    (h : a ++ sampleSuffix x = b ++ sampleSuffix y) : a = b ∧ x = y := by
  have hhead : ∀ (z : String) (c : Char) (s : List Char), sampleSuffix z = c :: s → c = '-' := by
    intro z c s hz
    unfold sampleSuffix at hz
    split at hz
    · cases hz
    · exact (List.cons.inj hz).1.symm
  induction a generalizing b with
  | nil =>
    cases b with
    | nil => exact ⟨rfl, sampleSuffix_inj h⟩
    | cons c b => exact absurd List.mem_cons_self (hhead x c _ h ▸ hb)
  | cons c a ih =>
    cases b with
    | nil => exact absurd List.mem_cons_self (hhead y c _ h.symm ▸ ha)
    | cons d b =>
      obtain ⟨rfl, hrest⟩ := List.cons.inj h
      obtain ⟨rfl, rfl⟩ := ih (fun ha' => ha (List.mem_cons_of_mem _ ha'))
        (fun hb' => hb (List.mem_cons_of_mem _ hb')) hrest
      exact ⟨rfl, rfl⟩

/-- Whether the part of an anchor that names the owner has only characters of identifiers. -/
def Owner.Plain (o : Owner) : Prop := ∀ c ∈ o.suffix, isIdentifierChar c = true

/-- The text of an anchor, before it is written in HTML. -/
def anchorText (o : Owner) (name : String) : List Char :=
  anchorStart.toList ++ (o.suffix ++ sampleSuffix name)

theorem anchor_eq (o : Owner) (name : String) :
    anchor o name = String.ofList (Html.escapeText (anchorText o name)) := by
  rw [anchor, List.append_assoc]
  rfl

/-- Whether the part of an anchor that names the owner can be told from what follows it, and is kept
by HTML. -/
structure Owner.Clear (o : Owner) : Prop where
  hyphen : '-' ∉ o.suffix
  nul : '\x00' ∉ o.suffix

theorem Owner.Plain.clear {o : Owner} (ho : o.Plain) : o.Clear :=
  ⟨not_mem_of_isIdentifierChar ho isIdentifierChar_separators.1,
    not_mem_of_isIdentifierChar ho isIdentifierChar_nul⟩

theorem IsSampleName.nul_not_mem {name : String} (h : IsSampleName name) : '\x00' ∉ name.toList := by
  rcases h with rfl | h
  · simp
  · exact not_mem_of_isIdentifierChar (isIdentifierChar_of_mem h) isIdentifierChar_nul

theorem Owner.Clear.nul_not_mem {o : Owner} (ho : o.Clear) {name : String}
    (hname : '\x00' ∉ name.toList) : '\x00' ∉ anchorText o name := by
  intro hmem
  simp only [anchorText, List.mem_append] at hmem
  rcases hmem with hmem | hmem | hmem
  · simp [anchorStart] at hmem
  · exact ho.nul hmem
  · unfold sampleSuffix at hmem
    split at hmem
    · cases hmem
    · rcases List.mem_cons.mp hmem with hhyphen | hmem
      · cases hhyphen
      · exact hname hmem

section
variable {o o' : Owner} (ho : o.Clear) (ho' : o'.Clear) {x y : String} (hx : '\x00' ∉ x.toList)
  (hy : '\x00' ∉ y.toList)
include ho ho' hx hy

/-- Writing anchors in HTML does not merge them. -/
theorem anchor_eq_iff_text : anchor o x = anchor o' y ↔ anchorText o x = anchorText o' y := by
  rw [anchor_eq, anchor_eq, String.ofList_inj]
  exact Html.escapeText_inj (ho.nul_not_mem hx) (ho'.nul_not_mem hy)

/-- **An anchor shows its owner's part and the name of the example.** -/
theorem anchor_inj : anchor o x = anchor o' y ↔ o.suffix = o'.suffix ∧ x = y := by
  rw [anchor_eq_iff_text ho ho' hx hy, anchorText, anchorText, List.append_cancel_left_eq]
  constructor
  · exact append_sampleSuffix_inj ho.hyphen ho'.hyphen
  · rintro ⟨hsuffix, rfl⟩
    rw [hsuffix]

end

/-! ## Owners -/

/-- The examples of an item. -/
def samplesOf : Item → List Example
  | .package p => p.examples
  | .type t => t.examples
  | .func f => f.examples

/-- The name of an item. -/
def nameOf : Item → String
  | .package p => p.name
  | .type t => t.name
  | .func f => f.name

/-- The items that have examples, in display order. -/
def owners (p : Package) : List Item :=
  .package p :: (p.funcs.map Item.func ++
    p.types.flatMap fun t => .type t :: (t.funcs ++ t.methods).map Item.func)

/-- The functions of a package and the constructors of its types. -/
def plainFuncs (p : Package) : List FuncEntry := p.funcs ++ p.types.flatMap TypeEntry.funcs

/-- The types, functions and constructors of a package. -/
def named (p : Package) : List Item := p.types.map Item.type ++ (plainFuncs p).map Item.func

/-- The methods of a package. -/
def methodItems (p : Package) : List Item := (p.types.flatMap TypeEntry.methods).map Item.func

theorem collect_eq (p : Package) :
    collect p = (owners p).flatMap fun o => ofItem o (samplesOf o) := by
  have hfuncs : ∀ fs : List FuncEntry, (fs.map Item.func).flatMap (fun o => ofItem o (samplesOf o)) =
      fs.flatMap ofFunc := fun fs => by rw [List.flatMap_map]; rfl
  have htypes : (fun t : TypeEntry => (Item.type t :: (t.funcs ++ t.methods).map Item.func).flatMap
      fun o => ofItem o (samplesOf o)) = ofType := by
    funext t
    rw [List.flatMap_cons, hfuncs, List.flatMap_append, ← List.append_assoc]
    rfl
  rw [owners, List.flatMap_cons, List.flatMap_append, hfuncs, List.flatMap_assoc, htypes,
    ← List.append_assoc]
  rfl

theorem mem_collect {p : Package} {x : ExampleRef} :
    x ∈ collect p ↔ x.owner ∈ owners p ∧ x.sample ∈ samplesOf x.owner := by
  rw [collect_eq, List.mem_flatMap]
  constructor
  · rintro ⟨o, ho, hx⟩
    obtain ⟨sample, hsample, rfl⟩ := List.mem_map.mp hx
    exact ⟨ho, hsample⟩
  · rintro ⟨ho, hsample⟩
    exact ⟨x.owner, ho, List.mem_map.mpr ⟨x.sample, hsample, rfl⟩⟩

/-- The owners are the package, its types, functions and constructors, and its methods. -/
theorem owners_perm (p : Package) :
    (owners p).Perm (.package p :: (named p ++ methodItems p)) := by
  refine List.Perm.cons _ ?_
  have hsplit : (p.types.flatMap fun t => Item.type t :: (t.funcs ++ t.methods).map Item.func).Perm
      (p.types.map Item.type ++ ((p.types.flatMap TypeEntry.funcs).map Item.func ++
        (p.types.flatMap TypeEntry.methods).map Item.func)) := by
    refine (List.map_append_flatMap_perm _ _ _).symm.trans (List.Perm.append_left _ ?_)
    simp only [List.map_append, List.map_flatMap]
    exact (List.flatMap_append_perm _ _ _).symm
  refine (List.Perm.append_left _ hsplit).trans ?_
  simp only [named, plainFuncs, methodItems, List.map_append, ← List.append_assoc]
  refine List.Perm.append_right _ (List.Perm.append_right _ ?_)
  exact List.perm_append_comm

theorem mem_owners {p : Package} {o : Item} :
    o ∈ owners p ↔ o = .package p ∨ o ∈ named p ∨ o ∈ methodItems p := by
  rw [(owners_perm p).mem_iff, List.mem_cons, List.mem_append]

theorem mem_methodItems {p : Package} {o : Item} :
    o ∈ methodItems p ↔ ∃ t ∈ p.types, ∃ m ∈ t.methods, o = .func m := by
  rw [methodItems, List.mem_map]
  constructor
  · rintro ⟨m, hm, rfl⟩
    obtain ⟨t, ht, hm⟩ := List.mem_flatMap.mp hm
    exact ⟨t, ht, m, hm, rfl⟩
  · rintro ⟨t, ht, m, hm, rfl⟩
    exact ⟨m, List.mem_flatMap.mpr ⟨t, ht, hm⟩, rfl⟩

/-- The joined name of a method. -/
def joinedName (t : TypeEntry) (m : FuncEntry) : String := t.name ++ "_" ++ m.name

/-- **The rules that the names of a package obey**: they are identifiers; types, functions and
constructors have distinct names, as have the methods of a type and the examples of an owner; a
function has no receiver, and the receiver of a method names its type. -/
structure WellNamed (p : Package) : Prop where
  identifiers : ∀ o ∈ named p ++ methodItems p, isIdentifier (nameOf o) = true
  samples : ∀ x ∈ collect p, IsSampleName x.sample.name
  distinct : ((named p).map nameOf).Nodup
  distinctMethods : ∀ t ∈ p.types, (t.methods.map FuncEntry.name).Nodup
  distinctSamples : ∀ o ∈ owners p, ((samplesOf o).map Example.name).Nodup
  noReceiver : ∀ f ∈ plainFuncs p, f.recv = ""
  receiver : ∀ t ∈ p.types, ∀ m ∈ t.methods, m.recv = t.name ∨ m.recv = "*" ++ t.name

/-- Two owners have examples of the same name. -/
def ShareSample (xs ys : List Example) : Prop := ∃ x ∈ xs, ∃ y ∈ ys, x.name = y.name

/-- **No joined names clash**: where the joined name of a method is the name of a type, function or
constructor, or the joined name of a method of another type, the two have no examples of the same
name. -/
def NoClash (p : Package) : Prop :=
  ∀ t ∈ p.types, ∀ m ∈ t.methods,
    (∀ o ∈ named p, nameOf o = joinedName t m → ¬ ShareSample (samplesOf o) m.examples) ∧
    (∀ t' ∈ p.types, ∀ m' ∈ t'.methods, t'.name ≠ t.name → joinedName t' m' = joinedName t m →
      ¬ ShareSample m'.examples m.examples)

section
variable {p : Package} (h : WellNamed p)
include h

theorem WellNamed.isIdentifier_type {t : TypeEntry} (ht : t ∈ p.types) :
    isIdentifier t.name = true :=
  h.identifiers (.type t) (by simp [named, ht])

theorem WellNamed.eq_of_nameOf_eq {o o' : Item} (ho : o ∈ named p) (ho' : o' ∈ named p)
    (hname : nameOf o = nameOf o') : o = o' :=
  List.inj_on_of_nodup_map h.distinct ho ho' hname

theorem WellNamed.type_eq {t t' : TypeEntry} (ht : t ∈ p.types) (ht' : t' ∈ p.types)
    (hname : t.name = t'.name) : t = t' := by
  have hitem : Item.type t = .type t' :=
    h.eq_of_nameOf_eq (by simp [named, ht]) (by simp [named, ht']) hname
  exact Item.type.inj hitem

/-- A method belongs to the type that its receiver names. -/
theorem WellNamed.type_eq_of_method {t t' : TypeEntry} {m : FuncEntry} (ht : t ∈ p.types)
    (ht' : t' ∈ p.types) (hm : m ∈ t.methods) (hm' : m ∈ t'.methods) : t = t' := by
  have hname := (receiverName_eq (h.isIdentifier_type ht) (h.receiver t ht m hm)).2
  have hname' := (receiverName_eq (h.isIdentifier_type ht') (h.receiver t' ht' m hm')).2
  exact h.type_eq ht ht' (String.toList_inj.mp (hname.symm.trans hname'))

/-- No method is a function or constructor, which have no receiver. -/
theorem WellNamed.not_mem_named {t : TypeEntry} {m : FuncEntry} (ht : t ∈ p.types)
    (hm : m ∈ t.methods) : .func m ∉ named p := by
  intro hmem
  have hplain : m ∈ plainFuncs p := by simpa [named] using hmem
  have hrecv := (receiverName_eq (h.isIdentifier_type ht) (h.receiver t ht m hm)).1
  rw [h.noReceiver m hplain] at hrecv
  cases hrecv

theorem WellNamed.suffix_named {o : Item} (ho : o ∈ named p) :
    (Owner.ofItem o).suffix = '_' :: (nameOf o).toList := by
  rcases List.mem_append.mp ho with ho | ho
  · obtain ⟨t, _, rfl⟩ := List.mem_map.mp ho
    rfl
  · obtain ⟨f, hf, rfl⟩ := List.mem_map.mp ho
    simp [Owner.ofItem, Owner.suffix, h.noReceiver f hf, nameOf]

theorem WellNamed.suffix_method {t : TypeEntry} {m : FuncEntry} (ht : t ∈ p.types)
    (hm : m ∈ t.methods) :
    (Owner.ofItem (.func m)).suffix = '_' :: (joinedName t m).toList := by
  obtain ⟨hne, hrecv⟩ := receiverName_eq (h.isIdentifier_type ht) (h.receiver t ht m hm)
  simp [Owner.ofItem, Owner.suffix, hne, hrecv, joinedName]

theorem WellNamed.plain {o : Item} (ho : o ∈ owners p) : (Owner.ofItem o).Plain := by
  have hcons : ∀ s : List Char, (∀ c ∈ s, isIdentifierChar c = true) →
      ∀ c ∈ '_' :: s, isIdentifierChar c = true := by
    intro s hs c hc
    rcases List.mem_cons.mp hc with rfl | hc
    · exact isIdentifierChar_separators.2.2
    · exact hs c hc
  rcases mem_owners.mp ho with rfl | hnamed | hmethod
  · intro c hc
    cases hc
  · rw [Owner.Plain, h.suffix_named hnamed]
    exact hcons _ (isIdentifierChar_of_mem (h.identifiers o (List.mem_append_left _ hnamed)))
  · obtain ⟨t, ht, m, hm, rfl⟩ := mem_methodItems.mp hmethod
    have hid := h.identifiers _ (List.mem_append_right _ hmethod)
    rw [Owner.Plain, h.suffix_method ht hm]
    refine hcons _ fun c hc => ?_
    simp only [joinedName, String.toList_append, List.mem_append] at hc
    rcases hc with (hc | hc) | hc
    · exact isIdentifierChar_of_mem (h.isIdentifier_type ht) c hc
    · obtain rfl : c = '_' := by simpa using hc
      exact isIdentifierChar_separators.2.2
    · exact isIdentifierChar_of_mem hid c hc

/-! ## No example is collected twice -/

theorem WellNamed.nodup_methodItems : (methodItems p).Nodup := by
  refine List.Nodup.map (fun _ _ => Item.func.inj) (List.nodup_flatMap.mpr ⟨?_, ?_⟩)
  · exact fun t ht => (h.distinctMethods t ht).of_map _
  · have hnames : (p.types.map TypeEntry.name).Nodup := by
      have hmap := (List.nodup_append.mp (List.map_append ▸ h.distinct)).1
      rwa [List.map_map] at hmap
    have htypes := List.Pairwise.and_mem.mp (hnames.of_map _)
    refine htypes.imp ?_
    rintro t t' ⟨ht, ht', hne⟩ m hm hm'
    exact hne (h.type_eq_of_method ht ht' hm hm')

theorem WellNamed.nodup_owners : (owners p).Nodup := by
  rw [(owners_perm p).nodup_iff, List.nodup_cons, List.nodup_append]
  refine ⟨?_, h.distinct.of_map _, h.nodup_methodItems, ?_⟩
  · simp [named, methodItems]
  · rintro o ho _ ho' rfl
    obtain ⟨t, ht, m, hm, rfl⟩ := mem_methodItems.mp ho'
    exact h.not_mem_named ht hm ho

/-- **No example is collected twice.** -/
theorem WellNamed.nodup_collect : (collect p).Nodup := by
  rw [collect_eq, List.nodup_flatMap]
  refine ⟨fun o ho => ?_, h.nodup_owners.imp ?_⟩
  · exact List.Nodup.map (fun _ _ heq => (ExampleRef.mk.inj heq).2)
      ((h.distinctSamples o ho).of_map _)
  · intro o o' hne x hx hx'
    obtain ⟨_, _, rfl⟩ := List.mem_map.mp hx
    obtain ⟨_, _, heq⟩ := List.mem_map.mp hx'
    exact hne (ExampleRef.mk.inj heq).1.symm

/-! ## Clashes -/

/-- Two collected examples have the same anchor exactly if their owners have the same part in it and
they have the same name. -/
theorem WellNamed.anchorOf_eq_iff {x y : ExampleRef} (hx : x ∈ collect p) (hy : y ∈ collect p) :
    anchorOf x = anchorOf y ↔
      (Owner.ofItem x.owner).suffix = (Owner.ofItem y.owner).suffix ∧
        x.sample.name = y.sample.name :=
  anchor_inj (h.plain (mem_collect.mp hx).1).clear (h.plain (mem_collect.mp hy).1).clear
    (h.samples x hx).nul_not_mem (h.samples y hy).nul_not_mem

/-- Owners with the same part in their anchors and with examples of the same name are the same, if
joined names do not clash. -/
theorem WellNamed.owner_eq (hno : NoClash p) {o o' : Item} (ho : o ∈ owners p) (ho' : o' ∈ owners p)
    (hsuffix : (Owner.ofItem o).suffix = (Owner.ofItem o').suffix)
    (hshare : ShareSample (samplesOf o) (samplesOf o')) : o = o' := by
  have hsymm : ShareSample (samplesOf o') (samplesOf o) := by
    obtain ⟨x, hx, y, hy, hxy⟩ := hshare
    exact ⟨y, hy, x, hx, hxy.symm⟩
  rcases mem_owners.mp ho with rfl | hnamed | hmethod
  · rcases mem_owners.mp ho' with rfl | hnamed' | hmethod'
    · rfl
    · rw [h.suffix_named hnamed'] at hsuffix
      cases hsuffix
    · obtain ⟨t, ht, m, hm, rfl⟩ := mem_methodItems.mp hmethod'
      rw [h.suffix_method ht hm] at hsuffix
      cases hsuffix
  · rw [h.suffix_named hnamed] at hsuffix
    rcases mem_owners.mp ho' with rfl | hnamed' | hmethod'
    · cases hsuffix
    · rw [h.suffix_named hnamed'] at hsuffix
      exact h.eq_of_nameOf_eq hnamed hnamed' (String.toList_inj.mp (List.cons.inj hsuffix).2)
    · obtain ⟨t, ht, m, hm, rfl⟩ := mem_methodItems.mp hmethod'
      rw [h.suffix_method ht hm] at hsuffix
      have hname := String.toList_inj.mp (List.cons.inj hsuffix).2
      exact absurd hshare ((hno t ht m hm).1 o hnamed hname)
  · obtain ⟨t, ht, m, hm, rfl⟩ := mem_methodItems.mp hmethod
    rw [h.suffix_method ht hm] at hsuffix
    rcases mem_owners.mp ho' with rfl | hnamed' | hmethod'
    · cases hsuffix
    · rw [h.suffix_named hnamed'] at hsuffix
      have hname := String.toList_inj.mp (List.cons.inj hsuffix).2
      exact absurd hsymm ((hno t ht m hm).1 o' hnamed' hname.symm)
    · obtain ⟨t', ht', m', hm', rfl⟩ := mem_methodItems.mp hmethod'
      rw [h.suffix_method ht' hm'] at hsuffix
      have hjoined := String.toList_inj.mp (List.cons.inj hsuffix).2
      by_cases htypes : t.name = t'.name
      · obtain rfl := h.type_eq ht ht' htypes
        have hname : m.name = m'.name := by
          simpa [joinedName, String.append_right_inj] using hjoined
        rw [List.inj_on_of_nodup_map (h.distinctMethods t ht) hm hm' hname]
      · exact absurd hshare ((hno t' ht' m' hm').2 t ht m hm htypes hjoined)

end

/-- **The anchors of a package are distinct exactly if joined names do not clash.** Types, functions
and constructors never clash with each other, nor do methods of one type: an anchor is taken twice
only where the name of a method, joined to that of its type by an underscore, is the name of another
owner that has an example of the same name. -/
theorem anchors_nodup_iff_noClash (p : Package) (h : WellNamed p) :
    ((collect p).map anchorOf).Nodup ↔ NoClash p := by
  rw [List.nodup_map_iff_inj_on h.nodup_collect]
  constructor
  · intro hinj t ht m hm
    have hmethod : ∀ {u : TypeEntry} {n : FuncEntry}, u ∈ p.types → n ∈ u.methods →
        .func n ∈ owners p := fun hu hn =>
      mem_owners.mpr (Or.inr (Or.inr (mem_methodItems.mpr ⟨_, hu, _, hn, rfl⟩)))
    -- owners that share a sample and a part of their anchors are the same item
    have heq : ∀ o ∈ owners p,
        (Owner.ofItem o).suffix = (Owner.ofItem (.func m)).suffix →
          ShareSample (samplesOf o) m.examples → o = .func m := by
      rintro o ho hsuffix ⟨x, hx, y, hy, hxy⟩
      have hxmem : ⟨o, x⟩ ∈ collect p := mem_collect.mpr ⟨ho, hx⟩
      have hymem : ⟨.func m, y⟩ ∈ collect p := mem_collect.mpr ⟨hmethod ht hm, hy⟩
      have := hinj _ hxmem _ hymem ((h.anchorOf_eq_iff hxmem hymem).mpr ⟨hsuffix, hxy⟩)
      exact (ExampleRef.mk.inj this).1
    constructor
    · intro o ho hname hshare
      have hsuffix : (Owner.ofItem o).suffix = (Owner.ofItem (.func m)).suffix := by
        rw [h.suffix_named ho, h.suffix_method ht hm, hname]
      have := heq o (mem_owners.mpr (Or.inr (Or.inl ho))) hsuffix hshare
      exact h.not_mem_named ht hm (this ▸ ho)
    · intro t' ht' m' hm' htypes hjoined hshare
      have hsuffix : (Owner.ofItem (.func m')).suffix = (Owner.ofItem (.func m)).suffix := by
        rw [h.suffix_method ht' hm', h.suffix_method ht hm, hjoined]
      obtain rfl := Item.func.inj (heq _ (hmethod ht' hm') hsuffix hshare)
      exact htypes (congrArg TypeEntry.name (h.type_eq_of_method ht' ht hm' hm))
  · intro hno x hx y hy heq
    obtain ⟨hsuffix, hname⟩ := (h.anchorOf_eq_iff hx hy).mp heq
    obtain ⟨hxo, hxs⟩ := mem_collect.mp hx
    obtain ⟨hyo, hys⟩ := mem_collect.mp hy
    have howner := h.owner_eq hno hxo hyo hsuffix ⟨_, hxs, _, hys, hname⟩
    have hsample : x.sample = y.sample :=
      List.inj_on_of_nodup_map (h.distinctSamples _ hxo) hxs (howner ▸ hys) hname
    obtain ⟨o, sample⟩ := x
    obtain ⟨o', sample'⟩ := y
    rw [show o = o' from howner, show sample = sample' from hsample]

/-- A package with a type, a constructor, methods with both forms of receiver, and named examples. -/
def bufferPackage : Package where
  importPath := "bytes"
  examples := [{}]
  funcs := [{ name := "Compare" }, { name := "Equal", examples := [{}, { name := "Basic" }] }]
  types := [
    { name := "Buffer"
      examples := [{ name := "reader" }]
      funcs := [{ name := "New_Buffer", examples := [{}] }]
      methods := [{ name := "Write", recv := "*Buffer", examples := [{}, { name := "reader" }] },
        { name := "Len", recv := "Buffer", examples := [{}] }] }]

theorem wellNamed_bufferPackage : WellNamed bufferPackage where
  identifiers := by decide +kernel
  samples := by simp only [IsSampleName]; decide +kernel
  distinct := by decide
  distinctMethods := by decide
  distinctSamples := by decide
  noReceiver := by decide
  receiver := by decide

/-- The names of that package do not clash, since its anchors are distinct. -/
theorem bufferPackage_noClash : WellNamed bufferPackage ∧ NoClash bufferPackage :=
  ⟨wellNamed_bufferPackage,
    (anchors_nodup_iff_noClash bufferPackage wellNamed_bufferPackage).mp (by decide +kernel)⟩

/-- A package with a function whose name is the joined name of a method. -/
def underscorePackage : Package where
  funcs := [{ name := "T_M", examples := [{}] }]
  types := [{ name := "T", methods := [{ name := "M", recv := "*T", examples := [{}] }] }]

/-- **Joined names may clash**: the names of this package obey all rules, and the method and the
function have the same anchor. -/
theorem underscore_clash :
    WellNamed underscorePackage ∧ ¬ ((collect underscorePackage).map anchorOf).Nodup :=
  ⟨{ identifiers := by decide +kernel
     samples := by simp only [IsSampleName]; decide +kernel
     distinct := by decide
     distinctMethods := by decide
     distinctSamples := by decide
     noReceiver := by decide
     receiver := by decide }, by decide +kernel⟩

end DocPress.Examples
