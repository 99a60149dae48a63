import DocPress.Proofs.Template.Data
import DocPress.Proofs.Template.Expression
import Mathlib.Data.List.Perm.Subperm
import Mathlib.Data.String.Basic

/-!
# Entries of maps

Maps keep their entries with ascending keys, so that there is one list of entries for each map.

* `Value.Ascending` — the keys of entries ascend.

Principal results: `Ascending.insert`, `Ascending.ofFields` — inserting keeps the keys ascending, and
so does the making of a map from fields; `lookup_eq_some_iff_mem` — what is found under a key is the
entry of this key; `Ascending.ext` — a map is determined by what is found in it.
-/

namespace DocPress.Template.Value

/-- The keys of entries ascend. -/
def Ascending (entries : List (String × Value)) : Prop :=
  entries.Pairwise fun e f => e.1 < f.1

theorem eq_or_mem_of_mem_insert {key : String} {v : Value} {entries : List (String × Value)}
    {e : String × Value} (h : e ∈ insert key v entries) : e = (key, v) ∨ e ∈ entries := by
  induction entries with
  | nil => exact .inl (List.mem_singleton.mp h)
  | cons f entries ih =>
    obtain ⟨k, w⟩ := f
    rw [insert] at h
    split at h
    · exact (List.mem_cons.mp h).imp_right (List.mem_cons_of_mem _)
    · split at h
      · exact List.mem_cons.mp h
      · rcases List.mem_cons.mp h with rfl | h
        · exact .inr List.mem_cons_self
        · exact (ih h).imp_right (List.mem_cons_of_mem _)

theorem Ascending.insert {entries : List (String × Value)} (h : Ascending entries) (key : String)
    (v : Value) : Ascending (insert key v entries) := by
  induction entries with
  | nil => exact List.pairwise_singleton ..
  | cons f entries ih =>
    obtain ⟨k, w⟩ := f
    obtain ⟨hfirst, hrest⟩ := List.pairwise_cons.mp h
    rw [Value.insert]
    split
    · rename_i heq
      subst heq
      exact List.pairwise_cons.mpr ⟨hfirst, hrest⟩
    · rename_i hne
      split
      · rename_i hlt
        refine List.pairwise_cons.mpr ⟨fun e he => ?_, h⟩
        rcases List.mem_cons.mp he with rfl | he
        · exact hlt
        · exact lt_trans hlt (hfirst e he)
      · rename_i hle
        refine List.pairwise_cons.mpr ⟨fun e he => ?_, ih hrest⟩
        rcases eq_or_mem_of_mem_insert he with rfl | he
        · exact lt_of_le_of_ne (not_lt.mp hle) (Ne.symm hne)
        · exact hfirst e he

/-- **The map of fields has ascending keys.** -/
theorem Ascending.ofFields {entries : List (String × Value)} (h : Ascending entries)
    (fields : List (String × Json)) : Ascending (ofFields entries fields) := by
  induction fields generalizing entries with
  | nil =>
    rw [Value.ofFields]
    exact h
  | cons f fields ih =>
    rw [Value.ofFields]
    exact ih (h.insert f.1 (ofJson f.2))

theorem Ascending.nodup_keys {entries : List (String × Value)} (h : Ascending entries) :
    (entries.map Prod.fst).Nodup :=
  List.pairwise_map.mpr (h.imp fun hlt => ne_of_lt hlt)

/-- **What is found under a key is the entry of this key.** -/
theorem lookup_eq_some_iff_mem {entries : List (String × Value)}
    (h : (entries.map Prod.fst).Nodup) {key : String} {v : Value} :
    entries.lookup key = some v ↔ (key, v) ∈ entries := by
  refine ⟨fun hfound => ?_, Doc.lookup_eq_of_mem (Doc.length_filter_name_le h key)⟩
  obtain ⟨before, after, rfl, -⟩ := List.lookup_eq_some_iff.mp hfound
  simp

theorem mem_keys_iff {entries : List (String × Value)} {key : String} :
    key ∈ entries.map Prod.fst ↔ ∃ v, entries.lookup key = some v := by
  induction entries with
  | nil => simp
  | cons e entries ih =>
    rw [List.map_cons, List.mem_cons, ih, lookup_cons_eq_ite]
    by_cases heq : key = e.1 <;> simp [heq]

/-- **A map is determined by what is found in it.** -/
theorem Ascending.ext {xs ys : List (String × Value)} (hxs : Ascending xs) (hys : Ascending ys)
    (h : ∀ key v, xs.lookup key = some v ↔ ys.lookup key = some v) : xs = ys := by
  have hperm : xs.Perm ys := by
    refine (List.perm_ext_iff_of_nodup hxs.nodup_keys.of_map hys.nodup_keys.of_map).mpr ?_
    rintro ⟨key, v⟩
    rw [← lookup_eq_some_iff_mem hxs.nodup_keys, ← lookup_eq_some_iff_mem hys.nodup_keys]
    exact h key v
  refine hperm.eq_of_pairwise (fun e f _ _ hef hfe => ?_) hxs hys
  exact absurd hef (lt_asymm hfe)

end DocPress.Template.Value
