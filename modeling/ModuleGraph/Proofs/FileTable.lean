/-
This file shows that the stored paths are in normal form, and that a probe finds a stored file.
-/

import ModuleGraph.FileTable.Probe
import ModuleGraph.Proofs.Path
import Std.Data.TreeMap.Lemmas

namespace ModuleGraph

namespace FileTable

variable {table : FileTable}

/-- Every stored path is inside the root and in normal form. -/
def IsNormal (table : FileTable) : Prop :=
  ∀ path ∈ table.files, Path.escapesRoot path = false ∧ Path.normalize path = path

theorem isNormal_empty : empty.IsNormal := by
  intro path stored
  exact absurd stored Std.TreeMap.not_mem_emptyc

theorem IsNormal.write (normal : table.IsNormal) (path : String)
    (content : Content) : (table.write path content).IsNormal := by
  rw [FileTable.write]
  split
  · exact normal
  rename_i inside
  rw [Bool.not_eq_true] at inside
  intro other stored
  rcases Std.TreeMap.mem_insert.mp stored with equal | stored
  · obtain rfl := Std.LawfulEqCmp.eq_of_compare equal
    exact ⟨by rw [Path.escapesRoot_normalize, inside], Path.normalize_normalize path⟩
  · exact normal other stored

theorem IsNormal.delete (normal : table.IsNormal) (path : String) :
    (table.delete path).IsNormal := by
  intro other stored
  exact normal other (Std.TreeMap.mem_of_mem_erase stored)

theorem isNormal_ofFiles (files : List (String × Content)) : (ofFiles files).IsNormal := by
  have kept (table : FileTable) (normal : table.IsNormal) :
      (files.foldl (fun table file => table.write file.1 file.2) table).IsNormal := by
    induction files generalizing table with
    | nil => exact normal
    | cons file files ih => exact ih _ (normal.write file.1 file.2)
  exact kept empty isNormal_empty

/-- A stored path finds its file. -/
theorem IsNormal.find?_isSome (normal : table.IsNormal) {path : String}
    (stored : path ∈ table.files) : (table.find? path).isSome = true := by
  obtain ⟨inside, same⟩ := normal path stored
  rw [find?, inside, same]
  exact Std.TreeMap.mem_iff_isSome_getElem?.mp stored

/-- Deleting a file answers with what the path finds, since no stored path is outside the root. -/
theorem IsNormal.deleted?_eq_find? (normal : table.IsNormal) (path : String) :
    table.deleted? path = table.find? path := by
  rw [deleted?, find?]
  cases inside : Path.escapesRoot path with
  | false => rfl
  | true =>
      have absent : Path.normalize path ∉ table.files := by
        intro stored
        have := (normal _ stored).1
        rw [Path.escapesRoot_normalize, inside] at this
        cases this
      rw [Std.TreeMap.getElem?_eq_none absent]
      rfl

theorem find?_delete_of_ne (table : FileTable) {path other : String}
    (different : Path.normalize other ≠ Path.normalize path) :
    (table.delete path).find? other = table.find? other := by
  have apart : compare (Path.normalize path) (Path.normalize other) ≠ .eq := fun equal =>
    different (Std.LawfulEqCmp.eq_of_compare equal).symm
  rw [find?, find?, delete, Std.TreeMap.getElem?_erase, if_neg apart]

section Answers

theorem read_eq_ok_iff {path : String} {content : Content} :
    table.read path = .ok content ↔ table.find? path = some content := by
  rw [read]
  cases table.find? path <;> simp

theorem eq_of_read_eq_error {path : String} {error : Error}
    (missing : table.read path = .error error) : error = .fileNotFound path none := by
  rw [read] at missing
  split at missing
  · cases missing
  · exact (Except.error.inj missing).symm

theorem contains_iff {path : String} :
    table.contains path = true ↔ ∃ content, table.find? path = some content :=
  Option.isSome_iff_exists

theorem contains_eq_false_iff {path : String} :
    table.contains path = false ↔ table.find? path = none :=
  Option.isSome_eq_false_iff.trans Option.isNone_iff_eq_none

/-- Tables that read a path alike find the same there. -/
theorem find?_eq_of_read_eq {other : FileTable} {path : String}
    (same : other.read path = table.read path) : other.find? path = table.find? path := by
  rw [read, read] at same
  cases first : other.find? path <;> cases second : table.find? path <;> simp_all

theorem find?_normalize (path : String) : table.find? (Path.normalize path) = table.find? path := by
  rw [find?, find?, Path.escapesRoot_normalize, Path.normalize_normalize]

/-- What is found lies under a stored path inside the root. -/
theorem mem_of_find? {path : String} {content : Content} (found : table.find? path = some content) :
    Path.normalize path ∈ table.files ∧ Path.escapesRoot path = false := by
  rw [find?] at found
  split at found
  · cases found
  · rename_i inside
    rw [Std.TreeMap.mem_iff_isSome_getElem?, found]
    exact ⟨rfl, (Bool.not_eq_true _).mp inside⟩

theorem hit?_eq (candidate : String) : table.hit? candidate =
    (table.find? candidate).map fun content => ⟨Path.normalize candidate, content⟩ := by
  rw [hit?, find?_normalize]

theorem hit?_eq_some_iff {candidate : String} {file : FoundFile} :
    table.hit? candidate = some file ↔
      table.find? candidate = some file.content ∧ file.path = Path.normalize candidate := by
  obtain ⟨path, content⟩ := file
  rw [hit?_eq, Option.map_eq_some_iff]
  simp [eq_comm]

theorem hit?_eq_none_iff {candidate : String} :
    table.hit? candidate = none ↔ table.contains candidate = false := by
  rw [hit?_eq, Option.map_eq_none_iff, contains_eq_false_iff]

/-- The path of a file that a probe finds is stored, and stays inside the root. -/
theorem mem_of_probe? {target : String} {file : FoundFile}
    (probed : table.probe? target = some file) :
    file.path ∈ table.files ∧ Path.escapesRoot file.path = false := by
  obtain ⟨candidate, _, hit⟩ := List.exists_of_findSome?_eq_some probed
  obtain ⟨found, path⟩ := hit?_eq_some_iff.mp hit
  rw [path, Path.escapesRoot_normalize]
  exact mem_of_find? found

/-- Only a listed extension replaces another. -/
theorem exists_ending_of_mem_exchanged {target candidate : String}
    (member : candidate ∈ table.exchanged target) :
    ∃ ending ∈ table.extensions, candidate = Path.stem target ++ ending := by
  rw [exchanged] at member
  split at member
  · obtain ⟨ending, listed, rfl⟩ := List.mem_map.mp member
    exact ⟨ending, (List.mem_filter.mp listed).1, rfl⟩
  · cases member

end Answers

end FileTable

end ModuleGraph
