import DocPress.Files.Tree
import DocPress.Proofs.Basic
import Mathlib.Data.List.Infix

/-!
# Reading what was written

A file that is written is read back by the same path, and all other files read as before.

* `lookup_insertEntry` — entries after one is put in.
* `Node.find?_append` — a location is reached in two parts.
* `Node.find?_put_self`, `Node.find?_put_directory`, `Node.find?_put_file` — a tree after a file is
  put at a location where no directory is: the file, the directories, and the other files.
* `walk_put` — paths lead to the same locations as before.
* `exists_place_of_target` — where a file is written.

Principal results: `Disk.read_write`, `Disk.read_write_other`.
-/

namespace DocPress.Files

theorem lookup_insertEntry (name x : Name) (node : Node) (entries : List (Name × Node)) :
    (insertEntry name node entries).lookup x = if x = name then some node else entries.lookup x := by
  induction entries with
  | nil => rw [insertEntry, lookup_cons_eq_ite]
  | cons entry rest ih =>
    obtain ⟨n, y⟩ := entry
    rw [insertEntry]
    split
    · rename_i hname
      subst hname
      rw [lookup_cons_eq_ite, lookup_cons_eq_ite]
      split <;> rfl
    · rename_i hne
      split
      · rw [lookup_cons_eq_ite]
      · rw [lookup_cons_eq_ite, lookup_cons_eq_ite, ih]
        by_cases h : x = n
        · rw [if_pos h, if_pos h, if_neg (fun heq => hne (heq.symm.trans h))]
        · rw [if_neg h, if_neg h]

namespace Node

theorem find?_append (node : Node) (place more : List Name) :
    node.find? (place ++ more) = (node.find? place).bind fun inner => inner.find? more := by
  induction place generalizing node with
  | nil => rfl
  | cons name rest ih =>
    simp only [List.cons_append, find?]
    cases node.entries.lookup name with
    | none => rfl
    | some inner => exact ih inner

/-- Below a file there is nothing. -/
theorem find?_file_eq_some {content : List UInt8} {place : List Name} {node : Node}
    (h : (Node.file content).find? place = some node) : place = [] ∧ node = .file content := by
  cases place with
  | nil => exact ⟨rfl, (Option.some_inj.mp h).symm⟩
  | cons name rest => cases h

theorem find?_put_cons (node content : Node) (name x : Name) (rest more : List Name) :
    (node.put content (name :: rest)).find? (x :: more) =
      if x = name then (((node.entries.lookup name).getD (.directory [])).put content rest).find? more
      else node.find? (x :: more) := by
  simp only [put, find?, entries, lookup_insertEntry]
  by_cases h : x = name
  · rw [if_pos h, if_pos h]
  · rw [if_neg h, if_neg h]

/-- What was put at a location is there. -/
theorem find?_put_self (node content : Node) (place : List Name) :
    (node.put content place).find? place = some content := by
  induction place generalizing node with
  | nil => rfl
  | cons name rest ih => rw [find?_put_cons, if_pos rfl, ih]

section
variable {node : Node} (content : Node) {target place : List Name}

/-- **Directories stay**, with all their entries, if none is at the location. -/
theorem find?_put_directory {entries : List (Name × Node)}
    (hfree : ∀ inner, node.find? target ≠ some (.directory inner))
    (h : node.find? place = some (.directory entries)) :
    ∃ entries', (node.put content target).find? place = some (.directory entries') ∧
      ∀ name, (entries.lookup name).isSome → (entries'.lookup name).isSome := by
  induction target generalizing node place with
  | nil =>
    cases node with
    | file bytes => cases (find?_file_eq_some h).2
    | directory inner => exact absurd rfl (hfree inner)
  | cons x rest ih =>
    cases place with
    | nil =>
      cases h
      refine ⟨_, rfl, fun name hname => ?_⟩
      rw [lookup_insertEntry]
      split
      · rfl
      · exact hname
    | cons y more =>
      rw [find?_put_cons]
      split
      · rename_i hxy
        subst hxy
        simp only [find?] at h hfree
        cases hlookup : node.entries.lookup y with
        | none => simp [hlookup] at h
        | some inner =>
          simp only [hlookup] at h hfree
          exact ih hfree h
      · exact ⟨entries, h, fun _ hname => hname⟩

/-- **Other files stay**, if the location is in a directory and none is there. -/
theorem find?_put_file {bytes : List UInt8} {inner : List (Name × Node)} {name : Name}
    (hdirectory : node.find? target = some (.directory inner))
    (hfree : ∀ deeper, node.find? (target ++ [name]) ≠ some (.directory deeper))
    (hne : place ≠ target ++ [name]) (h : node.find? place = some (.file bytes)) :
    (node.put content (target ++ [name])).find? place = some (.file bytes) := by
  induction target generalizing node place with
  | nil =>
    cases place with
    | nil =>
      cases h
      cases hdirectory
    | cons y more =>
      rw [List.nil_append, find?_put_cons]
      split
      · rename_i hy
        subst hy
        simp only [find?, List.nil_append] at h hfree
        cases hlookup : node.entries.lookup y with
        | none => simp [hlookup] at h
        | some below =>
          simp only [hlookup] at h hfree
          cases below with
          | file content => exact absurd (by rw [(find?_file_eq_some h).1]; rfl) hne
          | directory deeper => exact absurd rfl (hfree deeper)
      · exact h
  | cons x rest ih =>
    cases place with
    | nil =>
      cases h
      cases (find?_file_eq_some hdirectory).1
    | cons y more =>
      rw [List.cons_append, find?_put_cons]
      split
      · rename_i hy
        subst hy
        simp only [find?, List.cons_append] at h hfree hdirectory
        cases hlookup : node.entries.lookup y with
        | none => simp [hlookup] at h
        | some below =>
          simp only [hlookup] at h hfree hdirectory
          exact ih hdirectory hfree (fun heq => hne (by rw [heq]; rfl)) h
      · exact h

end

end Node

/-! ## Paths -/

theorem walk_append (root : Node) (place : List Name) (pieces more : List (List Char)) :
    walk root place (pieces ++ more) = (walk root place pieces >>= fun p => walk root p more) := by
  induction pieces generalizing place with
  | nil => rfl
  | cons piece rest ih =>
    simp only [List.cons_append, walk]
    split
    · rfl
    · rfl
    · split
      · exact ih place
      · split
        · exact ih _
        · split
          · exact ih _
          · rfl

/-- **Paths lead where they did** after a file is put where no directory is. -/
theorem walk_put {root : Node} (content : Node) {target place reached : List Name}
    {pieces : List (List Char)}
    (hfree : ∀ inner, root.find? target ≠ some (.directory inner))
    (h : walk root place pieces = .ok reached) :
    walk (root.put content target) place pieces = .ok reached := by
  induction pieces generalizing place with
  | nil => exact h
  | cons piece rest ih =>
    simp only [walk] at h ⊢
    split at h
    · cases h
    · cases h
    · rename_i entries hfind
      obtain ⟨entries', hfind', hkeeps⟩ := Node.find?_put_directory content hfree hfind
      rw [hfind']
      dsimp only
      split at h
      · rename_i hvoid
        rw [if_pos hvoid]
        exact ih h
      · rename_i hvoid
        rw [if_neg hvoid]
        split at h
        · rename_i hup
          rw [if_pos hup]
          exact ih h
        · rename_i hup
          rw [if_neg hup]
          split at h
          · rename_i inner hlookup
            obtain ⟨inner', hlookup'⟩ :=
              Option.isSome_iff_exists.mp (hkeeps _ (by rw [hlookup]; rfl))
            rw [hlookup']
            exact ih h
          · cases h

/-! ## Reading and writing -/

namespace Disk
variable {disk disk' : Disk} {path : String} {content : List UInt8}

theorem node_eq_ok_iff {node : Node} :
    disk.node path = .ok node ↔
      ∃ place, disk.locate path = .ok place ∧ disk.root.find? place = some node := by
  constructor
  · intro h
    obtain ⟨place, hlocate, h⟩ := exists_of_bind_eq_ok h
    split at h
    · rename_i hfind
      cases h
      exact ⟨place, hlocate, hfind⟩
    · cases h
  · rintro ⟨place, hlocate, hfind⟩
    unfold Disk.node
    rw [hlocate]
    simp only [bind, Except.bind, hfind]
    rfl

theorem read_eq_ok_iff :
    disk.read path = .ok content ↔
      ∃ place, disk.locate path = .ok place ∧ disk.root.find? place = some (.file content) := by
  rw [← node_eq_ok_iff]
  constructor
  · intro h
    obtain ⟨node, hnode, h⟩ := exists_of_bind_eq_ok h
    cases node with
    | file bytes =>
      cases h
      exact hnode
    | directory entries => cases h
  · intro h
    unfold Disk.read
    rw [h]
    rfl

theorem isPrefix_trimmed (pieces : List (List Char)) :
    (pieces.reverse.dropWhile (· = [])).reverse <+: pieces := by
  rw [← List.reverse_suffix, List.reverse_reverse]
  exact List.dropWhile_suffix _

/-- A file is written into a directory that a path leads to, under the name that the path ends in. -/
theorem exists_place_of_target {target : List Name} (h : disk.target path = .ok target) :
    ∃ pieces name place entries, path.isEmpty = false ∧ disk.pieces path = pieces ++ [name] ∧
      isVoid name = false ∧ name ≠ ['.', '.'] ∧ walk disk.root [] pieces = .ok place ∧
      disk.root.find? place = some (.directory entries) ∧
      target = place ++ [Text.Utf8.encode name] ∧
      ∀ deeper, entries.lookup (Text.Utf8.encode name) ≠ some (.directory deeper) := by
  unfold Disk.target at h
  split at h
  · cases h
  · rename_i hpath
    obtain ⟨place, hwalk, h⟩ := exists_of_bind_eq_ok h
    split at h
    · cases h
    · cases h
    · cases h
    · rename_i name entries hlast hfind
      split at h
      · cases h
      · rename_i hgood
        simp only [Bool.or_eq_true, decide_eq_true_eq, not_or, Nat.not_lt] at hgood
        obtain ⟨⟨hlength, hvoid⟩, hup⟩ := hgood
        -- no empty piece was dropped at the end
        have hnamed := (isPrefix_trimmed (disk.pieces path)).eq_of_length_le hlength
        rw [hnamed] at hwalk hlast
        have hpieces := List.dropLast_append_getLast? name hlast
        dsimp only at h
        split at h
        · cases h
        · rename_i hfree
          cases h
          exact ⟨_, name, place, entries, by simpa using hpath, hpieces.symm, by simpa using hvoid,
            hup, hwalk, hfind, rfl, hfree⟩

theorem exists_target_of_write (h : disk.write path content = .ok disk') :
    ∃ target, disk.target path = .ok target ∧
      disk' = { disk with root := disk.root.put (.file content) target } := by
  obtain ⟨target, htarget, h⟩ := exists_of_bind_eq_ok h
  cases h
  exact ⟨target, htarget, rfl⟩

/-- No directory gives place to a file. -/
theorem target_free {target : List Name} (h : disk.target path = .ok target)
    (deeper : List (Name × Node)) : disk.root.find? target ≠ some (.directory deeper) := by
  obtain ⟨pieces, name, place, entries, -, -, -, -, -, hfind, rfl, hfree⟩ := exists_place_of_target h
  rw [Node.find?_append, hfind]
  intro hdeeper
  apply hfree deeper
  simp only [Option.bind_some, Node.find?, Node.entries] at hdeeper
  split at hdeeper
  · rename_i inner hlookup
    rw [hlookup, hdeeper]
  · cases hdeeper

/-- Paths lead where they did before a file was written. -/
theorem locate_write (h : disk.write path content = .ok disk') {other : String} {place : List Name}
    (hother : disk.locate other = .ok place) : disk'.locate other = .ok place := by
  obtain ⟨target, htarget, rfl⟩ := exists_target_of_write h
  unfold Disk.locate at hother ⊢
  split at hother
  · cases hother
  · rename_i hempty
    rw [if_neg hempty]
    exact walk_put (.file content) (target_free htarget) hother

/-- **What was written is read back.** -/
theorem read_write (h : disk.write path content = .ok disk') : disk'.read path = .ok content := by
  obtain ⟨target, htarget, rfl⟩ := exists_target_of_write h
  obtain ⟨pieces, name, place, entries, hpath, hpieces, hvoid, hup, hwalk, hfind, heq, -⟩ :=
    exists_place_of_target htarget
  have hself := Node.find?_put_self disk.root (.file content) target
  refine read_eq_ok_iff.mpr ⟨target, ?_, hself⟩
  obtain ⟨entries', hfind', -⟩ :=
    Node.find?_put_directory (.file content) (target_free htarget) hfind
  -- the last piece leads from the directory to the file that was put there
  have hstep : (entries'.lookup (Text.Utf8.encode name)).isSome := by
    rw [heq, Node.find?_append, ← heq, hfind'] at hself
    simp only [Option.bind_some, Node.find?, Node.entries] at hself
    split at hself
    · rename_i hlookup
      rw [hlookup]
      rfl
    · cases hself
  obtain ⟨inner, hlookup⟩ := Option.isSome_iff_exists.mp hstep
  have hwalk' := walk_put (.file content) (target_free htarget) hwalk
  rw [Disk.locate, if_neg (by simp [hpath])]
  change walk _ [] (disk.pieces path) = _
  rw [hpieces, walk_append, hwalk']
  change walk _ place [name] = _
  rw [walk, hfind']
  simp [hvoid, hup, hlookup, walk, heq]

/-- **All other files are read as before.** -/
theorem read_write_other (h : disk.write path content = .ok disk') {other : String}
    {bytes : List UInt8} (hread : disk.read other = .ok bytes)
    (hother : disk.locate other ≠ disk.target path) : disk'.read other = .ok bytes := by
  obtain ⟨reached, hlocate, hfile⟩ := read_eq_ok_iff.mp hread
  refine read_eq_ok_iff.mpr ⟨reached, locate_write h hlocate, ?_⟩
  obtain ⟨target, htarget, rfl⟩ := exists_target_of_write h
  have hfree := target_free htarget
  obtain ⟨pieces, name, place, entries, -, -, -, -, -, hfind, rfl, -⟩ :=
    exists_place_of_target htarget
  refine Node.find?_put_file (.file content) hfind hfree ?_ hfile
  rintro rfl
  exact hother (hlocate.trans htarget.symm)

end Disk

end DocPress.Files
