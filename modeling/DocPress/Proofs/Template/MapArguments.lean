import DocPress.Proofs.Template.Entries

/-!
# Maps of alternating keys and values

* `keyAt?` — the key at a position of the arguments; keys stand at the even ones.
* `FirstNonKey` — the first position of a key where no string stands.
* `Absent` — a key that does not occur; `LastPair` — the last occurrence of one, with its value.

Principal results: `mapFrom_eq_error_iff` — reading pairs fails at the first key that is no string;
`lookup_mapFrom` — otherwise each key has its last value, or the one it had before;
`buildMap_eq_ok_iff` — the map of the arguments, which is the only one with the last values;
`buildMap_keeps_last_values` — all outcomes.
-/

namespace DocPress.Template

open DocPress.Template.Value (Ascending)

/-! ## Keys and their places -/

/-- The key at a position: the string there, if the position is even. -/
def keyAt? (args : List Value) (i : Nat) : Option String :=
  if i % 2 = 0 then args[i]?.bind Value.string? else none

/-- Strings stand at all places of keys. -/
def KeysAreStrings (args : List Value) : Prop :=
  ∀ i < args.length, i % 2 = 0 → ∃ key, keyAt? args i = some key

/-- The first place of a key where no string stands. -/
structure FirstNonKey (args : List Value) (i : Nat) : Prop where
  even : i % 2 = 0
  inside : i < args.length
  here : keyAt? args i = none
  before : ∀ j < i, j % 2 = 0 → ∃ key, keyAt? args j = some key

/-- The key does not occur. -/
def Absent (key : String) (args : List Value) : Prop := ∀ i, keyAt? args i ≠ some key

/-- The key stands at a position with its value behind it, and not again later. -/
structure LastPair (args : List Value) (i : Nat) (key : String) (value : Value) : Prop where
  stands : keyAt? args i = some key
  follows : args[i + 1]? = some value
  last : ∀ j, i < j → keyAt? args j ≠ some key

@[simp] theorem keyAt?_cons_cons (a w : Value) (rest : List Value) (i : Nat) :
    keyAt? (a :: w :: rest) (i + 2) = keyAt? rest i := by
  rw [keyAt?, keyAt?, Nat.add_mod_right]
  rfl

theorem even_of_keyAt? {args : List Value} {i : Nat} {key : String} (h : keyAt? args i = some key) :
    i % 2 = 0 := by
  unfold keyAt? at h
  split at h
  · assumption
  · cases h

theorem lt_of_keyAt? {args : List Value} {i : Nat} {key : String} (h : keyAt? args i = some key) :
    i < args.length := by
  rw [keyAt?, if_pos (even_of_keyAt? h)] at h
  obtain ⟨v, hv, -⟩ := Option.bind_eq_some_iff.mp h
  exact (List.getElem?_eq_some_iff.mp hv).1

section
variable {key : String} {value : Value} {front rest : List Value}

theorem keyAt?_append_left {i : Nat} (hi : i < front.length) (rest : List Value) :
    keyAt? (front ++ rest) i = keyAt? front i := by
  rw [keyAt?, keyAt?, List.getElem?_append_left hi]

/-- Places of keys behind an even number of arguments. -/
theorem keyAt?_append_right (heven : front.length % 2 = 0) (rest : List Value) (i : Nat) :
    keyAt? (front ++ rest) (front.length + i) = keyAt? rest i := by
  have hparity : (front.length + i) % 2 = i % 2 := by omega
  rw [keyAt?, keyAt?, List.getElem?_append_right (Nat.le_add_right ..), hparity,
    Nat.add_sub_cancel_left]

theorem absent_nil : Absent key [] := by
  intro i h
  exact Nat.not_lt_zero i (lt_of_keyAt? h)

theorem keysAreStrings_append (heven : front.length % 2 = 0) :
    KeysAreStrings (front ++ rest) ↔ KeysAreStrings front ∧ KeysAreStrings rest := by
  constructor
  · intro h
    constructor
    · intro i hi hparity
      rw [← keyAt?_append_left hi rest]
      exact h i (by rw [List.length_append]; omega) hparity
    · intro i hi hparity
      rw [← keyAt?_append_right heven rest]
      exact h (front.length + i) (by rw [List.length_append]; omega) (by omega)
  · rintro ⟨hfront, hrest⟩ i hi hparity
    rw [List.length_append] at hi
    rcases Nat.lt_or_ge i front.length with hlt | hge
    · rw [keyAt?_append_left hlt]
      exact hfront i hlt hparity
    · obtain ⟨j, rfl⟩ := Nat.exists_eq_add_of_le hge
      rw [keyAt?_append_right heven]
      exact hrest j (by omega) (by omega)

theorem absent_append (heven : front.length % 2 = 0) :
    Absent key (front ++ rest) ↔ Absent key front ∧ Absent key rest := by
  constructor
  · intro h
    constructor
    · intro i hkey
      exact h i ((keyAt?_append_left (lt_of_keyAt? hkey) rest).trans hkey)
    · intro i hkey
      exact h (front.length + i) ((keyAt?_append_right heven rest i).trans hkey)
  · rintro ⟨hfront, hrest⟩ i hkey
    rcases Nat.lt_or_ge i front.length with hlt | hge
    · exact hfront i ((keyAt?_append_left hlt rest).symm.trans hkey)
    · obtain ⟨j, rfl⟩ := Nat.exists_eq_add_of_le hge
      exact hrest j ((keyAt?_append_right heven rest j).symm.trans hkey)

/-- **The last occurrence of a key** is the last one behind an even number of arguments; if there is
none, it is the last one among these. -/
theorem exists_lastPair_append (heven : front.length % 2 = 0) :
    (∃ i, LastPair (front ++ rest) i key value) ↔
      (∃ i, LastPair rest i key value) ∨ (∃ i, LastPair front i key value) ∧ Absent key rest := by
  have hvalues : ∀ i, (front ++ rest)[front.length + i + 1]? = rest[i + 1]? := by
    intro i
    rw [Nat.add_assoc, List.getElem?_append_right (Nat.le_add_right ..), Nat.add_sub_cancel_left]
  constructor
  · rintro ⟨i, hkey, hvalue, hlast⟩
    rcases Nat.lt_or_ge i front.length with hlt | hge
    · have hparity := even_of_keyAt? hkey
      refine .inr ⟨⟨i, ?_, ?_, ?_⟩, ?_⟩
      · rwa [keyAt?_append_left hlt] at hkey
      · rwa [List.getElem?_append_left (by omega)] at hvalue
      · intro j hj hagain
        exact hlast j hj ((keyAt?_append_left (lt_of_keyAt? hagain) rest).trans hagain)
      · intro j hagain
        exact hlast (front.length + j) (by omega) ((keyAt?_append_right heven rest j).trans hagain)
    · obtain ⟨j, rfl⟩ := Nat.exists_eq_add_of_le hge
      refine .inl ⟨j, ?_, ?_, ?_⟩
      · rwa [keyAt?_append_right heven] at hkey
      · rwa [hvalues] at hvalue
      · intro k hk hagain
        exact hlast (front.length + k) (by omega) ((keyAt?_append_right heven rest k).trans hagain)
  · rintro (⟨i, hkey, hvalue, hlast⟩ | ⟨⟨i, hkey, hvalue, hlast⟩, habsent⟩)
    · refine ⟨front.length + i, ?_, ?_, ?_⟩
      · rwa [keyAt?_append_right heven]
      · rwa [hvalues]
      · intro j hj hagain
        obtain ⟨k, rfl⟩ := Nat.exists_eq_add_of_le (Nat.le_trans (Nat.le_add_right _ i) hj.le)
        rw [keyAt?_append_right heven] at hagain
        exact hlast k (by omega) hagain
    · have hi' := (List.getElem?_eq_some_iff.mp hvalue).1
      refine ⟨i, ?_, ?_, ?_⟩
      · rwa [keyAt?_append_left (lt_of_keyAt? hkey)]
      · rwa [List.getElem?_append_left hi']
      · intro j hj hagain
        rcases Nat.lt_or_ge j front.length with hlt | hge
        · exact hlast j hj ((keyAt?_append_left hlt rest).symm.trans hagain)
        · obtain ⟨k, rfl⟩ := Nat.exists_eq_add_of_le hge
          exact habsent k ((keyAt?_append_right heven rest k).symm.trans hagain)

end

/-! ## One pair -/

section
variable {a w value : Value} {key : String} {rest : List Value}

theorem keyAt?_pair {i : Nat} : keyAt? [a, w] i = some key ↔ i = 0 ∧ a.string? = some key := by
  constructor
  · intro h
    have hlt : i < 2 := lt_of_keyAt? h
    obtain rfl : i = 0 := by
      have := even_of_keyAt? h
      omega
    exact ⟨rfl, h⟩
  · rintro ⟨rfl, h⟩
    exact h

theorem keysAreStrings_cons_cons :
    KeysAreStrings (a :: w :: rest) ↔ (∃ key, a.string? = some key) ∧ KeysAreStrings rest := by
  have hpair : KeysAreStrings [a, w] ↔ ∃ key, a.string? = some key := by
    constructor
    · exact fun h => h 0 (by simp) rfl
    · intro h i hi heven
      have hlt : i < 2 := hi
      obtain rfl : i = 0 := by omega
      exact h
  rw [← hpair]
  exact @keysAreStrings_append [a, w] rest (by simp)

theorem absent_cons_cons : Absent key (a :: w :: rest) ↔ a.string? ≠ some key ∧ Absent key rest := by
  have hpair : Absent key [a, w] ↔ a.string? ≠ some key := by simp [Absent, keyAt?_pair]
  rw [← hpair]
  exact @absent_append key [a, w] rest (by simp)

theorem exists_lastPair_cons_cons :
    (∃ i, LastPair (a :: w :: rest) i key value) ↔
      (∃ i, LastPair rest i key value) ∨ (a.string? = some key ∧ w = value) ∧ Absent key rest := by
  have hpair : (∃ i, LastPair [a, w] i key value) ↔ a.string? = some key ∧ w = value := by
    constructor
    · rintro ⟨i, hkey, hvalue, -⟩
      obtain ⟨rfl, hkey⟩ := keyAt?_pair.mp hkey
      exact ⟨hkey, Option.some.inj hvalue⟩
    · rintro ⟨hkey, rfl⟩
      refine ⟨0, hkey, rfl, fun j hj hagain => ?_⟩
      have := (keyAt?_pair.mp hagain).1
      omega
  rw [← hpair]
  exact @exists_lastPair_append key value [a, w] rest (by simp)

end

/-- Where the first key that is no string stands, by the first pair. -/
theorem firstNonKey_cons_cons {a w : Value} {rest : List Value} {i : Nat} :
    FirstNonKey (a :: w :: rest) i ↔
      (i = 0 ∧ a.string? = none) ∨
        (∃ key, a.string? = some key) ∧ ∃ j, i = j + 2 ∧ FirstNonKey rest j := by
  constructor
  · intro h
    rcases Nat.eq_zero_or_pos i with rfl | hpos
    · exact .inl ⟨rfl, h.here⟩
    · have heven := h.even
      obtain ⟨j, rfl⟩ : ∃ j, i = j + 2 := ⟨i - 2, by omega⟩
      refine .inr ⟨h.before 0 (by omega) rfl, j, rfl, ?_⟩
      refine ⟨by omega, by simpa using h.inside, by simpa using h.here, fun k hk hparity => ?_⟩
      simpa using h.before (k + 2) (by omega) (by omega)
  · rintro (⟨rfl, hnone⟩ | ⟨hfirst, j, rfl, h⟩)
    · exact ⟨rfl, by simp, hnone, fun j hj => absurd hj (Nat.not_lt_zero j)⟩
    · have heven := h.even
      refine ⟨by omega, by simpa using h.inside, by simpa using h.here, fun k hk hparity => ?_⟩
      rcases Nat.eq_zero_or_pos k with rfl | hpos
      · exact hfirst
      · obtain ⟨k, rfl⟩ : ∃ m, k = m + 2 := ⟨k - 2, by omega⟩
        simpa using h.before k (by omega) (by omega)

theorem not_firstNonKey_iff {args : List Value} :
    (∀ i, ¬ FirstNonKey args i) ↔ KeysAreStrings args := by
  constructor
  · intro h i
    -- the least place without a string would be the first such place
    induction i using Nat.strongRecOn with
    | ind i ih =>
      intro hi heven
      by_contra hnone
      refine h i ⟨heven, hi, ?_, fun j hj => ih j hj (by omega)⟩
      exact Option.eq_none_iff_forall_ne_some.mpr (not_exists.mp hnone)
  · intro h i hfirst
    obtain ⟨key, hkey⟩ := h i hfirst.inside hfirst.even
    rw [hfirst.here] at hkey
    cases hkey

/-! ## Reading pairs -/

theorem even_of_cons_cons {a w : Value} {rest : List Value} (h : (a :: w :: rest).length % 2 = 0) :
    rest.length % 2 = 0 := by
  simp only [List.length_cons] at h
  omega

theorem eq_nil_of_even {args : List Value} (heven : args.length % 2 = 0)
    (h : ∀ a w rest, args ≠ a :: w :: rest) : args = [] :=
  match args with
  | [] => rfl
  | [_] => nomatch heven
  | a :: w :: rest => absurd rfl (h a w rest)

/-- **Reading pairs fails at the first key that is no string**, and only there. -/
theorem mapFrom_eq_error_iff {args : List Value} (heven : args.length % 2 = 0) {position : Nat}
    {entries : List (String × Value)} {cause : MapError} :
    mapFrom position entries args = .error cause ↔
      ∃ i, FirstNonKey args i ∧ cause = .keyNotString (position + i) := by
  fun_induction mapFrom position entries args with
  | case1 position entries a w rest k hk ih =>
    rw [ih (even_of_cons_cons heven)]
    simp only [firstNonKey_cons_cons, hk]
    constructor
    · rintro ⟨i, hfirst, rfl⟩
      exact ⟨i + 2, .inr ⟨⟨k, rfl⟩, i, rfl, hfirst⟩, by rw [Nat.add_assoc, Nat.add_comm 2]⟩
    · rintro ⟨i, ⟨-, hnone⟩ | ⟨-, j, rfl, hfirst⟩, rfl⟩
      · cases hnone
      · exact ⟨j, hfirst, by rw [Nat.add_assoc, Nat.add_comm 2]⟩
  | case2 position entries a w rest hnone =>
    simp only [firstNonKey_cons_cons, hnone]
    constructor
    · intro h
      cases h
      exact ⟨0, .inl ⟨rfl, trivial⟩, rfl⟩
    · rintro ⟨i, ⟨rfl, -⟩ | ⟨⟨key, hkey⟩, -⟩, rfl⟩
      · rfl
      · cases hkey
  | case3 args position entries hother =>
    obtain rfl := eq_nil_of_even heven hother
    constructor
    · intro h
      cases h
    · rintro ⟨i, hfirst, -⟩
      exact absurd hfirst.inside (Nat.not_lt_zero i)

/-- **Each key has its last value**, or else the one that it had before. -/
theorem lookup_mapFrom {args : List Value} {position : Nat} {entries out : List (String × Value)}
    (h : mapFrom position entries args = .ok out) (heven : args.length % 2 = 0) (key : String)
    (value : Value) :
    out.lookup key = some value ↔
      (∃ i, LastPair args i key value) ∨ Absent key args ∧ entries.lookup key = some value := by
  fun_induction mapFrom position entries args with
  | case1 position entries a w rest k hk ih =>
    rw [ih h (even_of_cons_cons heven), exists_lastPair_cons_cons, absent_cons_cons, lookup_insert, hk]
    by_cases hkey : key = k
    · subst hkey
      simp [and_comm]
    · simp [hkey, Ne.symm hkey]
  | case2 => cases h
  | case3 args position entries hother =>
    cases h
    obtain rfl := eq_nil_of_even heven hother
    have hnone : ¬ ∃ i, LastPair [] i key value := fun ⟨i, hlast⟩ => absent_nil i hlast.stands
    simp [hnone, absent_nil]

/-- Reading pairs keeps the keys ascending. -/
theorem ascending_mapFrom {args : List Value} {position : Nat} {entries out : List (String × Value)}
    (h : mapFrom position entries args = .ok out) (hentries : Ascending entries) : Ascending out := by
  fun_induction mapFrom position entries args with
  | case1 position entries a w rest k hk ih => exact ih h (hentries.insert k w)
  | case2 => cases h
  | case3 => cases h; exact hentries

/-! ## Whole argument lists -/

/-- A key that occurs has a last value. -/
theorem absent_or_exists_lastPair (key : String) : ∀ args : List Value, args.length % 2 = 0 →
    Absent key args ∨ ∃ value i, LastPair args i key value
  | [], _ => .inl absent_nil
  | [_], heven => nomatch heven
  | a :: w :: rest, heven => by
    rcases absent_or_exists_lastPair key rest (even_of_cons_cons heven) with habsent | ⟨v, hlast⟩
    · by_cases hkey : a.string? = some key
      · exact .inr ⟨w, exists_lastPair_cons_cons.mpr (.inr ⟨⟨hkey, rfl⟩, habsent⟩)⟩
      · exact .inl (absent_cons_cons.mpr ⟨hkey, habsent⟩)
    · exact .inr ⟨v, exists_lastPair_cons_cons.mpr (.inl hlast)⟩

/-- **The two ways to fail.** -/
theorem buildMap_eq_error_iff {args : List Value} {cause : MapError} :
    buildMap args = .error cause ↔
      (args.length % 2 = 1 ∧ cause = .oddCount args.length) ∨
        args.length % 2 = 0 ∧ ∃ i, FirstNonKey args i ∧ cause = .keyNotString i := by
  unfold buildMap
  split
  · rename_i heven
    rw [mapFrom_eq_error_iff heven]
    simp [heven]
  · rename_i hodd
    have hone : args.length % 2 = 1 := by omega
    simp [hone, eq_comm]

/-- **The map of the arguments**: there is one exactly if each key is a string and has a value, and it
is the only one in which each key has its last value. -/
theorem buildMap_eq_ok_iff {args : List Value} {entries : List (String × Value)} :
    buildMap args = .ok entries ↔
      args.length % 2 = 0 ∧ KeysAreStrings args ∧ Ascending entries ∧
        ∀ key value, entries.lookup key = some value ↔ ∃ i, LastPair args i key value := by
  have hread : ∀ out, mapFrom 0 [] args = .ok out → args.length % 2 = 0 →
      Ascending out ∧ ∀ key value, out.lookup key = some value ↔ ∃ i, LastPair args i key value := by
    intro out hout heven
    refine ⟨ascending_mapFrom hout .nil, fun key value => ?_⟩
    rw [lookup_mapFrom hout heven]
    simp
  unfold buildMap
  split
  · rename_i heven
    constructor
    · intro hout
      refine ⟨heven, not_firstNonKey_iff.mp fun i hfirst => ?_, hread entries hout heven⟩
      rw [(mapFrom_eq_error_iff heven).mpr ⟨i, hfirst, rfl⟩] at hout
      cases hout
    · rintro ⟨-, hkeys, hascending, hlookup⟩
      cases hout : mapFrom 0 [] args with
      | error cause =>
        obtain ⟨i, hfirst, -⟩ := (mapFrom_eq_error_iff heven).mp hout
        exact absurd hfirst (not_firstNonKey_iff.mpr hkeys i)
      | ok out =>
        obtain ⟨hascending', hlookup'⟩ := hread out hout heven
        rw [hascending'.ext hascending fun key value => (hlookup' key value).trans
          (hlookup key value).symm]
  · rename_i hodd
    constructor
    · intro h
      cases h
    · intro h
      exact absurd h.1 hodd

/-- **A pair whose key occurs again later does not matter.** -/
theorem buildMap_without_pair {front back : List Value} {key value : Value} {k : String}
    (heven : front.length % 2 = 0) (hkey : key.string? = some k) (hagain : ¬ Absent k back)
    (entries : List (String × Value)) :
    buildMap (front ++ back) = .ok entries ↔ buildMap (front ++ key :: value :: back) = .ok entries := by
  have hlength : (front ++ key :: value :: back).length % 2 = (front ++ back).length % 2 := by
    simp only [List.length_append, List.length_cons]
    omega
  have hkeys : KeysAreStrings (front ++ key :: value :: back) ↔ KeysAreStrings (front ++ back) := by
    rw [keysAreStrings_append heven, keysAreStrings_append heven, keysAreStrings_cons_cons]
    simp [hkey]
  have hlast : ∀ key' value', (∃ i, LastPair (front ++ key :: value :: back) i key' value') ↔
      ∃ i, LastPair (front ++ back) i key' value' := by
    intro key' value'
    rw [exists_lastPair_append heven, exists_lastPair_append heven, exists_lastPair_cons_cons,
      absent_cons_cons, hkey]
    by_cases hk : k = key'
    · subst hk
      simp [hagain]
    · simp [hk]
  rw [buildMap_eq_ok_iff, buildMap_eq_ok_iff, hlength, hkeys]
  simp only [hlast]

/-- **All outcomes of making a map.** It fails for an odd number of arguments, with this number; for
an even number it fails exactly if some key is no string, with the first place of such a key; else it
gives the map whose keys are the strings at even positions, each with the value behind its last
occurrence. A pair whose key occurs again later can be left out. -/
theorem buildMap_keeps_last_values (args : List Value) :
    (∀ count, buildMap args = .error (.oddCount count) ↔
      args.length % 2 = 1 ∧ count = args.length) ∧
    (∀ i, buildMap args = .error (.keyNotString i) ↔ args.length % 2 = 0 ∧ FirstNonKey args i) ∧
    (args.length % 2 = 0 → KeysAreStrings args →
      ∃ entries, buildMap args = .ok entries ∧ Ascending entries ∧
        (∀ key, key ∈ entries.map Prod.fst ↔ ∃ i, keyAt? args i = some key) ∧
        ∀ key value, entries.lookup key = some value ↔ ∃ i, LastPair args i key value) ∧
    ∀ front key value back k, args = front ++ key :: value :: back → front.length % 2 = 0 →
      key.string? = some k → (∃ i, keyAt? back i = some k) →
        ∀ entries, buildMap (front ++ back) = .ok entries ↔ buildMap args = .ok entries := by
  refine ⟨fun count => ?_, fun i => ?_, fun heven hkeys => ?_, ?_⟩
  · rw [buildMap_eq_error_iff]
    simp
  · rw [buildMap_eq_error_iff]
    simp
  · cases hbuild : buildMap args with
    | error cause =>
      rcases buildMap_eq_error_iff.mp hbuild with ⟨hodd, -⟩ | ⟨-, i, hfirst, -⟩
      · omega
      · exact absurd hfirst (not_firstNonKey_iff.mpr hkeys i)
    | ok entries =>
      obtain ⟨-, -, hascending, hlookup⟩ := buildMap_eq_ok_iff.mp hbuild
      refine ⟨entries, rfl, hascending, fun key => ?_, hlookup⟩
      rw [Value.mem_keys_iff]
      simp only [hlookup]
      constructor
      · rintro ⟨value, i, hlast⟩
        exact ⟨i, hlast.stands⟩
      · rintro ⟨i, hkey⟩
        rcases absent_or_exists_lastPair key args heven with habsent | hlast
        · exact absurd hkey (habsent i)
        · exact hlast
  · rintro front key value back k rfl heven hkey ⟨i, hagain⟩
    exact buildMap_without_pair heven hkey fun habsent => habsent i hagain

/-- The last value of a repeated key counts. -/
theorem repeatedKey_lookup :
    KeysAreStrings [.str "k", .int 1, .str "a", .none, .str "k", .int 2] ∧
      ∃ entries, buildMap [.str "k", .int 1, .str "a", .none, .str "k", .int 2] = .ok entries ∧
        entries.lookup "k" = some (.int 2) := by
  have hkeys : KeysAreStrings [.str "k", .int 1, .str "a", .none, .str "k", .int 2] :=
    keysAreStrings_cons_cons.mpr ⟨⟨"k", rfl⟩, keysAreStrings_cons_cons.mpr ⟨⟨"a", rfl⟩,
      keysAreStrings_cons_cons.mpr ⟨⟨"k", rfl⟩, fun _ hi => absurd hi (Nat.not_lt_zero _)⟩⟩⟩
  obtain ⟨entries, hbuild, -, -, hlookup⟩ := (buildMap_keeps_last_values _).2.2.1 rfl hkeys
  refine ⟨hkeys, entries, hbuild, (hlookup "k" (.int 2)).mpr ⟨4, rfl, rfl, fun j hj hagain => ?_⟩⟩
  have hlt : j < 6 := lt_of_keyAt? hagain
  have heven := even_of_keyAt? hagain
  omega

-- a bad key is reported by its place
example : (buildMap [.str "a", .int 1, .int 2, .int 3]).map (List.map Prod.fst) =
    .error (.keyNotString 2) := by decide +kernel

end DocPress.Template
