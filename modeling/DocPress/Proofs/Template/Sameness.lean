import DocPress.Proofs.Json.Parts
import DocPress.Proofs.Template.Entries

/-!
# Structural equality

Two values have the same structure if the same is found in both of them along every path. Structural
equality decides this, although it asks only for the keys of one of two maps: maps with as many keys
have the same keys as soon as all keys of one are keys of the other.

* `Value.IsData` — the values that data is made of, at any depth.
* `Value.Step`, `Value.at?` — a path through lists and maps, and what is found at its end.
* `Value.Node`, `Value.node` — what one place of a value says without its parts.
* `SameStructure` — the same nodes along all paths.

Principal results: `sameStructure_list_iff`, `sameStructure_map_iff` — lists are compared item by item
and maps key by key; `keys_eq_of_subset` — the keys of one map suffice; `deepEqual_iff_sameStructure` —
structural equality on data; `isData_ofJson` — what is made from data is such data;
`deepEqual_decides_sameStructure` — structural equality of what was read from JSON texts.
-/

namespace DocPress.Template.Value

/-- The values that data is made of. Numbers are numbers of the format, and keys are distinct. -/
inductive IsData : Value → Prop where
  | none : IsData .none
  | bool (b : Bool) : IsData (.bool b)
  | int (n : Int) : IsData (.int n)
  | float {x : Number.Binary64} (h : x.magnitude.Canonical) : IsData (.float x)
  | str (s : String) : IsData (.str s)
  | list {items : List Value} (h : ∀ x ∈ items, IsData x) : IsData (.list items)
  | map {entries : List (String × Value)} (hkeys : (entries.map Prod.fst).Nodup)
    (h : ∀ e ∈ entries, IsData e.2) : IsData (.map entries)

/-- A step of a path: to an item of a list, or to the value under a key of a map. -/
inductive Step where
  | item (index : Nat)
  | entry (key : String)

/-- What is found with one step. -/
def child? : Value → Step → Option Value
  | .list items, .item index => items[index]?
  | .map entries, .entry key => entries.lookup key
  | _, _ => Option.none

/-- What is found at the end of a path. -/
def at? (v : Value) : List Step → Option Value
  | [] => some v
  | step :: rest => (v.child? step).bind (at? · rest)

/-- What one place of a value says without its parts: its kind and, by kind, a truth value, an integer,
the number that a number with a fraction is, a text, how many items there are, or which keys. -/
inductive Node where
  | undefined
  | none
  | bool (value : Bool)
  | int (value : Int)
  | float (value : ℚ)
  | text (value : String)
  | list (length : Nat)
  | map (keys : Set String)

/-- The node at the root of a value. -/
def node : Value → Node
  | .undefined => .undefined
  | .none => .none
  | .bool b => .bool b
  | .int n => .int n
  | .float x => .float x.value
  | .str s => .text s
  | .safe s => .text s
  | .list items => .list items.length
  | .map entries => .map {key | key ∈ entries.map Prod.fst}

/-- Whether a node has a part after a step. -/
def Node.HasChild : Node → Step → Prop
  | .list length, .item index => index < length
  | .map keys, .entry key => key ∈ keys
  | _, _ => False

/-- Along every path there are the same nodes, or there is nothing in both values. -/
def SameStructure (a b : Value) : Prop :=
  ∀ path, (a.at? path).map node = (b.at? path).map node

/-! ## One step -/

theorem exists_child?_iff (v : Value) (step : Step) :
    (∃ x, v.child? step = some x) ↔ v.node.HasChild step := by
  cases v <;> cases step <;> simp only [child?, node, Node.HasChild, reduceCtorEq, exists_false]
  · simp [List.getElem?_eq_some_iff]
  · exact mem_keys_iff.symm

theorem SameStructure.node_eq {a b : Value} (h : SameStructure a b) : a.node = b.node :=
  Option.some.inj (h [])

theorem SameStructure.child {a b x y : Value} {step : Step} (h : SameStructure a b)
    (hx : a.child? step = some x) (hy : b.child? step = some y) : SameStructure x y := by
  intro rest
  have hrest := h (step :: rest)
  rwa [at?, at?, hx, hy] at hrest

/-- **Values have the same structure if their nodes are the same and their parts have the same
structure**: the nodes say which parts there are. -/
theorem sameStructure_iff {a b : Value} : SameStructure a b ↔ a.node = b.node ∧
    ∀ step x y, a.child? step = some x → b.child? step = some y → SameStructure x y := by
  refine ⟨fun h => ⟨h.node_eq, fun _ _ _ => h.child⟩, ?_⟩
  rintro ⟨hnode, hchild⟩ (_ | ⟨step, rest⟩)
  · exact congrArg some hnode
  · have hboth : (∃ x, a.child? step = some x) ↔ ∃ y, b.child? step = some y := by
      rw [exists_child?_iff, exists_child?_iff, hnode]
    rw [at?, at?]
    cases hx : a.child? step with
    | none =>
      cases hy : b.child? step with
      | none => rfl
      | some y =>
        obtain ⟨x, hx'⟩ := hboth.mpr ⟨y, hy⟩
        rw [hx] at hx'
        cases hx'
    | some x =>
      obtain ⟨y, hy⟩ := hboth.mp ⟨x, hx⟩
      rw [hy]
      exact hchild step x y hx hy rest

/-- A value without parts has the same structure as those with the same node. -/
theorem sameStructure_iff_of_leaf {a b : Value} (ha : ∀ step, ¬ a.node.HasChild step) :
    SameStructure a b ↔ a.node = b.node := by
  refine sameStructure_iff.trans (and_iff_left fun step x _ hx _ => ?_)
  exact absurd ((exists_child?_iff a step).mp ⟨x, hx⟩) (ha step)

/-- **Lists have the same structure if they are as long and their items have it.** -/
theorem sameStructure_list_iff {xs ys : List Value} : SameStructure (.list xs) (.list ys) ↔
    xs.length = ys.length ∧
      ∀ (i : Nat) x y, xs[i]? = some x → ys[i]? = some y → SameStructure x y := by
  rw [sameStructure_iff]
  simp only [node, Node.list.injEq]
  refine and_congr_right fun _ => ⟨fun h i => h (.item i), fun h step => ?_⟩
  cases step with
  | item i => exact h i
  | entry key => exact nofun

/-- **Maps have the same structure if they have the same keys and their values have it.** -/
theorem sameStructure_map_iff {xs ys : List (String × Value)} : SameStructure (.map xs) (.map ys) ↔
    (∀ key, key ∈ xs.map Prod.fst ↔ key ∈ ys.map Prod.fst) ∧
      ∀ key x y, xs.lookup key = some x → ys.lookup key = some y → SameStructure x y := by
  rw [sameStructure_iff]
  simp only [node, Node.map.injEq, Set.ext_iff, Set.mem_ofPred_eq]
  refine and_congr_right fun _ => ⟨fun h key => h (.entry key), fun h step => ?_⟩
  cases step with
  | item i => exact nofun
  | entry key => exact h key

/-! ## Structural equality -/

/-- As far as both lists go, the items at each place are equal. -/
theorem itemsEqual_eq_true_iff {xs ys : List Value} : itemsEqual xs ys = true ↔
    ∀ (i : Nat) x y, xs[i]? = some x → ys[i]? = some y → x.deepEqual y = true := by
  induction xs generalizing ys with
  | nil => simp [itemsEqual]
  | cons a xs ih =>
    cases ys with
    | nil => simp [itemsEqual]
    | cons b ys =>
      rw [itemsEqual, Bool.and_eq_true, ih]
      constructor
      · rintro ⟨hfirst, hrest⟩ (_ | i) x y hx hy
        · cases hx
          cases hy
          exact hfirst
        · exact hrest i x y hx hy
      · exact fun h => ⟨h 0 a b rfl rfl, fun i => h (i + 1)⟩

/-- Each entry has an equal one of its key. -/
theorem entriesEqual_eq_true_iff {xs ys : List (String × Value)} : entriesEqual xs ys = true ↔
    ∀ e ∈ xs, ∃ y, ys.lookup e.1 = some y ∧ y.isUndefined = false ∧ e.2.deepEqual y = true := by
  induction xs with
  | nil => simp [entriesEqual]
  | cons e xs ih =>
    obtain ⟨key, x⟩ := e
    rw [entriesEqual, Bool.and_eq_true, ih, List.forall_mem_cons]
    refine and_congr_left fun _ => ?_
    cases ys.lookup key <;> simp

/-- **The keys of one map suffice**: maps with as many keys have the same ones if all keys of one are
keys of the other. -/
theorem keys_eq_of_subset {xs ys : List (String × Value)} (hkeys : (xs.map Prod.fst).Nodup)
    (hsubset : xs.map Prod.fst ⊆ ys.map Prod.fst) (hlength : xs.length = ys.length) (key : String) :
    key ∈ xs.map Prod.fst ↔ key ∈ ys.map Prod.fst := by
  have hperm : (xs.map Prod.fst).Perm (ys.map Prod.fst) :=
    (List.subperm_of_subset hkeys hsubset).perm_of_length_le (by simp [hlength])
  exact hperm.mem_iff

/-- Maps with the same distinct keys are as long. -/
theorem length_eq_of_keys_eq {xs ys : List (String × Value)} (hxs : (xs.map Prod.fst).Nodup)
    (hys : (ys.map Prod.fst).Nodup)
    (h : ∀ key, key ∈ xs.map Prod.fst ↔ key ∈ ys.map Prod.fst) : xs.length = ys.length := by
  have hperm : (xs.map Prod.fst).Perm (ys.map Prod.fst) := (List.perm_ext_iff_of_nodup hxs hys).mpr h
  simpa using hperm.length_eq

theorem IsData.isUndefined_eq_false {v : Value} (h : v.IsData) : v.isUndefined = false := by
  cases h <;> rfl

/-- Maps are equal exactly if they have the same keys, with equal values. -/
theorem deepEqual_map_iff {xs ys : List (String × Value)} (hxs : (xs.map Prod.fst).Nodup)
    (hys : (ys.map Prod.fst).Nodup) (hdata : ∀ e ∈ ys, IsData e.2) :
    (Value.map xs).deepEqual (.map ys) = true ↔
      (∀ key, key ∈ xs.map Prod.fst ↔ key ∈ ys.map Prod.fst) ∧
        ∀ key x y, xs.lookup key = some x → ys.lookup key = some y → x.deepEqual y = true := by
  rw [deepEqual, Bool.and_eq_true, beq_iff_eq, entriesEqual_eq_true_iff]
  constructor
  · rintro ⟨hlength, hentries⟩
    have hsubset : xs.map Prod.fst ⊆ ys.map Prod.fst := by
      intro key hkey
      obtain ⟨e, he, rfl⟩ := List.mem_map.mp hkey
      obtain ⟨y, hy, -, -⟩ := hentries e he
      exact mem_keys_iff.mpr ⟨y, hy⟩
    refine ⟨keys_eq_of_subset hxs hsubset hlength, fun key x y hx hy => ?_⟩
    obtain ⟨y', hy', -, hequal⟩ := hentries (key, x) ((lookup_eq_some_iff_mem hxs).mp hx)
    rw [hy] at hy'
    cases hy'
    exact hequal
  · rintro ⟨hkeys, hvalues⟩
    refine ⟨length_eq_of_keys_eq hxs hys hkeys, fun e he => ?_⟩
    obtain ⟨y, hy⟩ := mem_keys_iff.mp ((hkeys e.1).mp (List.mem_map_of_mem he))
    have hundefined := (hdata _ ((lookup_eq_some_iff_mem hys).mp hy)).isUndefined_eq_false
    exact ⟨y, hy, hundefined, hvalues e.1 e.2 y ((lookup_eq_some_iff_mem hxs).mpr he) hy⟩

/-- **Structural equality of data is having the same structure.** -/
theorem deepEqual_iff_sameStructure {a b : Value} (ha : a.IsData) (hb : b.IsData) :
    a.deepEqual b = true ↔ SameStructure a b := by
  -- induction on how the first value is made; a second one of another kind has another node
  induction ha generalizing b with
  | none | bool | int | str =>
    rw [sameStructure_iff_of_leaf fun _ => id]
    cases hb <;> simp [deepEqual, node]
  | float hx =>
    rw [sameStructure_iff_of_leaf fun _ => id]
    cases hb with
    | float hy => simp [deepEqual, node, Number.Binary64.equal_eq_true_iff hx hy]
    | _ => simp [deepEqual, node]
  | list _ ih =>
    cases hb with
    | list hy =>
      rw [deepEqual, Bool.and_eq_true, beq_iff_eq, itemsEqual_eq_true_iff, sameStructure_list_iff]
      refine and_congr_right fun _ => forall_congr' fun i => forall₂_congr fun x y => ?_
      refine imp_congr_right fun hxi => imp_congr_right fun hyi => ?_
      exact ih x (List.mem_of_getElem? hxi) (hy y (List.mem_of_getElem? hyi))
    | _ => exact iff_of_false nofun fun h => nomatch h.node_eq
  | map hkeys _ ih =>
    cases hb with
    | map hkeys' hy =>
      rw [deepEqual_map_iff hkeys hkeys' hy, sameStructure_map_iff]
      refine and_congr_right fun _ => forall_congr' fun key => forall₂_congr fun x y => ?_
      refine imp_congr_right fun hxk => imp_congr_right fun hyk => ?_
      exact ih _ ((lookup_eq_some_iff_mem hkeys).mp hxk) (hy _ ((lookup_eq_some_iff_mem hkeys').mp hyk))
    | _ => exact iff_of_false nofun fun h => nomatch h.node_eq

theorem SameStructure.equivalence : Equivalence SameStructure :=
  ⟨fun _ _ => rfl, fun h path => (h path).symm, fun h h' path => (h path).trans (h' path)⟩

/-! ## Data that was read -/

theorem mem_ofFields {entries : List (String × Value)} {fields : List (String × Json)}
    {e : String × Value} (h : e ∈ ofFields entries fields) :
    e ∈ entries ∨ ∃ f ∈ fields, e = (f.1, ofJson f.2) := by
  induction fields generalizing entries with
  | nil =>
    rw [ofFields] at h
    exact .inl h
  | cons f fields ih =>
    rw [ofFields] at h
    rcases ih h with h | ⟨g, hg, heq⟩
    · rcases eq_or_mem_of_mem_insert h with heq | h
      · exact .inr ⟨f, List.mem_cons_self, heq⟩
      · exact .inl h
    · exact .inr ⟨g, List.mem_cons_of_mem _ hg, heq⟩

/-- **What is made from data is data**, if every part of it has a value. -/
theorem isData_ofJson : ∀ x : Json, x.InFormat → x.Readable → (ofJson x).IsData
  | .null, _, _ => .none
  | .bool b, _, _ => .bool b
  | .int n, _, _ => .int n
  | .float x, hformat, _ => .float (hformat x .self)
  | .str s, _, _ => .str s
  | .unreadable, _, hread => absurd .self hread
  | .arr items, hformat, hread => by
    rw [ofJson, ofItems_eq]
    refine .list fun v hv => ?_
    obtain ⟨x, hx, rfl⟩ := List.mem_map.mp hv
    exact isData_ofJson x (fun f hf => hformat f (.item hx hf)) fun h => hread (.item hx h)
  | .obj fields, hformat, hread => by
    rw [ofJson]
    have hascending : Ascending (ofFields [] fields) := Ascending.ofFields List.Pairwise.nil fields
    refine .map hascending.nodup_keys fun e he => ?_
    rcases mem_ofFields he with h | ⟨g, hg, rfl⟩
    · cases h
    · exact isData_ofJson g.2 (fun f hf => hformat f (.field hg hf)) fun h => hread (.field hg h)
termination_by x => sizeOf x
decreasing_by
  · have hlt := List.sizeOf_lt_of_mem hx
    simp only [Json.arr.sizeOf_spec]
    omega
  · have hlt := List.sizeOf_lt_of_mem hg
    obtain ⟨name, y⟩ := g
    simp only [Json.obj.sizeOf_spec, Prod.mk.sizeOf_spec] at hlt ⊢
    omega

/-- **Structural equality holds of data exactly if it has the same structure**, so it is an equivalence
there; the values made from readable JSON texts are such data. -/
theorem deepEqual_decides_sameStructure :
    (∀ text x, Json.parse? text = some x → x.Readable → (ofJson x).IsData) ∧
      (∀ a b : Value, a.IsData → b.IsData → (a.deepEqual b = true ↔ SameStructure a b)) ∧
      Equivalence fun a b : {v : Value // v.IsData} => a.1.deepEqual b.1 = true := by
  refine ⟨fun _ x hx => isData_ofJson x (Json.inFormat_of_parse? hx),
    fun _ _ => deepEqual_iff_sameStructure, fun a => ?_, fun {a b} h => ?_, fun {a b c} h h' => ?_⟩
  · exact (deepEqual_iff_sameStructure a.2 a.2).mpr (SameStructure.equivalence.refl a.1)
  · rw [deepEqual_iff_sameStructure a.2 b.2] at h
    exact (deepEqual_iff_sameStructure b.2 a.2).mpr (SameStructure.equivalence.symm h)
  · rw [deepEqual_iff_sameStructure a.2 b.2] at h
    rw [deepEqual_iff_sameStructure b.2 c.2] at h'
    exact (deepEqual_iff_sameStructure a.2 c.2).mpr (SameStructure.equivalence.trans h h')

/-- The order of the keys does not count. -/
theorem reorderedMap_sameStructure :
    (Value.map [("a", .int 1), ("b", .list [.none])]).IsData ∧
      (Value.map [("b", .list [.none]), ("a", .int 1)]).IsData ∧
      SameStructure (.map [("a", .int 1), ("b", .list [.none])])
        (.map [("b", .list [.none]), ("a", .int 1)]) := by
  have hlist : (Value.list [.none]).IsData := .list (List.forall_mem_singleton.mpr .none)
  have hleft : (Value.map [("a", .int 1), ("b", .list [.none])]).IsData :=
    .map (by decide) (List.forall_mem_cons.mpr ⟨.int 1, List.forall_mem_singleton.mpr hlist⟩)
  have hright : (Value.map [("b", .list [.none]), ("a", .int 1)]).IsData :=
    .map (by decide) (List.forall_mem_cons.mpr ⟨hlist, List.forall_mem_singleton.mpr (.int 1)⟩)
  exact ⟨hleft, hright,
    (deepEqual_decides_sameStructure.2.1 _ _ hleft hright).mp (by decide)⟩

-- the kind of a number does
example : (Value.int 1).deepEqual (.float ⟨false, 0x10000000000000, -52⟩) = false := by decide

end DocPress.Template.Value
