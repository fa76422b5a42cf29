/-
This file shows that a table of files answers by the last edit under the normal form of a path,
whatever was done to it before.
-/

import ModuleGraph.Proofs.FileTable
import ModuleGraph.Proofs.Text.ByteOrder

namespace ModuleGraph.FileTable

/-- Something that is done to a table. -/
inductive Operation where
  /-- A new table takes the place of the old one. -/
  | ofFiles (files : List (String × Content))
  | write (path : String) (content : Content)
  | delete (path : String)
  | withLists (extensions indexFiles : List String)

def apply (table : FileTable) : Operation → FileTable
  | .ofFiles files => ofFiles files
  | .write path content => table.write path content
  | .delete path => table.delete path
  | .withLists extensions indexFiles => table.withLists extensions indexFiles

/-- The table that a history of operations leaves, beginning with an empty one. -/
def ofHistory (history : List Operation) : FileTable :=
  history.foldl apply empty

section Edits

/-- A change to the file of one path, or the removal of all files. -/
inductive Edit where
  | reset
  | write (path : String) (content : Content)
  | delete (path : String)

/-- The changes that an operation makes, in order. -/
def Operation.edits : Operation → List Edit
  | .ofFiles files => .reset :: files.map fun file => .write file.1 file.2
  | .write path content => [.write path content]
  | .delete path => [.delete path]
  | .withLists _ _ => []

/-- Whether an edit changes what is stored under a normal form. -/
def Edit.Touches (normal : String) : Edit → Prop
  | .reset => True
  | .write path _ => Path.normalize path = normal
  | .delete path => Path.normalize path = normal

/-- The content was written to some spelling of the path, and no later edit touches it. -/
def LastWritten (history : List Operation) (path : String) (content : Content) : Prop :=
  ∃ before written after,
    history.flatMap Operation.edits = before ++ .write written content :: after ∧
      Path.normalize written = Path.normalize path ∧
        ∀ edit ∈ after, ¬ edit.Touches (Path.normalize path)

/-- The files after an edit. -/
def amend (files : Std.TreeMap String Content) : Edit → Std.TreeMap String Content
  | .reset => ∅
  | .write path content =>
      if Path.escapesRoot path then files else files.insert (Path.normalize path) content
  | .delete path => files.erase (Path.normalize path)

theorem files_write (table : FileTable) (path : String) (content : Content) :
    (table.write path content).files = amend table.files (.write path content) := by
  rw [write, amend]
  split <;> rfl

/-- The files of a new table are those written one after the other. -/
theorem files_ofFiles (files : List (String × Content)) :
    (ofFiles files).files =
      (files.map fun file => Edit.write file.1 file.2).foldl amend ∅ := by
  have written (table : FileTable) :
      (files.foldl (fun table file => table.write file.1 file.2) table).files =
        (files.map fun file => Edit.write file.1 file.2).foldl amend table.files := by
    induction files generalizing table with
    | nil => rfl
    | cons file files ih =>
        rw [List.foldl_cons, ih, files_write]
        rfl
  exact written empty

theorem files_apply (table : FileTable) (operation : Operation) :
    (table.apply operation).files = operation.edits.foldl amend table.files := by
  cases operation with
  | ofFiles files => exact files_ofFiles files
  | write path content => exact files_write table path content
  | delete path => rfl
  | withLists extensions indexFiles => rfl

theorem files_ofHistory (history : List Operation) :
    (ofHistory history).files = (history.flatMap Operation.edits).foldl amend ∅ := by
  have run (table : FileTable) : (history.foldl apply table).files =
      (history.flatMap Operation.edits).foldl amend table.files := by
    induction history generalizing table with
    | nil => rfl
    | cons operation history ih =>
        rw [List.foldl_cons, ih, files_apply, List.flatMap_cons, List.foldl_append]
  exact run empty

end Edits

section Contents

variable {normal : String}

/-- An edit leaves alone what it does not touch. -/
theorem getElem?_amend_of_not_touches (files : Std.TreeMap String Content) {edit : Edit}
    (untouched : ¬ edit.Touches normal) : (amend files edit)[normal]? = files[normal]? := by
  cases edit with
  | reset => exact absurd trivial untouched
  | write path content =>
      rw [amend]
      split
      · rfl
      · have different : compare (Path.normalize path) normal ≠ .eq := fun equal =>
          untouched (Std.LawfulEqCmp.eq_of_compare equal)
        rw [Std.TreeMap.getElem?_insert, if_neg different]
  | delete path =>
      have different : compare (Path.normalize path) normal ≠ .eq := fun equal =>
        untouched (Std.LawfulEqCmp.eq_of_compare equal)
      rw [amend, Std.TreeMap.getElem?_erase, if_neg different]

/-- What an edit leaves under the normal form that it touches. -/
def Edit.left? : Edit → Option Content
  | .reset => none
  | .write path content => if Path.escapesRoot path then none else some content
  | .delete _ => none

/-- An edit decides what is stored under the normal form that it touches, unless that lies outside
the root. -/
theorem getElem?_amend_of_touches (files : Std.TreeMap String Content) {edit : Edit}
    (touches : edit.Touches normal) (inside : Path.escapesRoot normal = false) :
    (amend files edit)[normal]? = edit.left? := by
  cases edit with
  | reset => exact Std.TreeMap.getElem?_emptyc
  | write path content =>
      obtain rfl : Path.normalize path = normal := touches
      rw [Path.escapesRoot_normalize] at inside
      simp [amend, Edit.left?, inside]
  | delete path =>
      obtain rfl : Path.normalize path = normal := touches
      rw [amend, Std.TreeMap.getElem?_erase_self, Edit.left?]

theorem getElem?_foldl_amend_of_untouched (files : Std.TreeMap String Content) {edits : List Edit}
    (untouched : ∀ edit ∈ edits, ¬ edit.Touches normal) :
    (edits.foldl amend files)[normal]? = files[normal]? := by
  induction edits generalizing files with
  | nil => rfl
  | cons edit edits ih =>
      rw [List.foldl_cons, ih _ fun later member => untouched later (List.mem_cons_of_mem _ member)]
      exact getElem?_amend_of_not_touches files (untouched edit (List.mem_cons_self ..))

/-- The last edit that touches a normal form decides what is stored there. -/
theorem getElem?_foldl_amend_of_last {edits before after : List Edit} {edit : Edit}
    (split : edits = before ++ edit :: after) (touches : edit.Touches normal)
    (untouched : ∀ later ∈ after, ¬ later.Touches normal)
    (inside : Path.escapesRoot normal = false) :
    (edits.foldl amend ∅)[normal]? = edit.left? := by
  rw [split, List.foldl_append, List.foldl_cons, getElem?_foldl_amend_of_untouched _ untouched]
  exact getElem?_amend_of_touches _ touches inside

/-- If any edit touches a normal form, then one is the last to do so. -/
theorem untouched_or_exists_last (normal : String) (edits : List Edit) :
    (∀ edit ∈ edits, ¬ edit.Touches normal) ∨
      ∃ before edit after, edits = before ++ edit :: after ∧ edit.Touches normal ∧
        ∀ later ∈ after, ¬ later.Touches normal := by
  induction edits with
  | nil => exact .inl fun _ absurd => nomatch absurd
  | cons edit edits ih =>
      rcases ih with untouched | ⟨before, last, after, rfl, touches, untouched⟩
      · by_cases touches : edit.Touches normal
        · exact .inr ⟨[], edit, edits, rfl, touches, untouched⟩
        · exact .inl (List.forall_mem_cons.mpr ⟨touches, untouched⟩)
      · exact .inr ⟨edit :: before, last, after, rfl, touches, untouched⟩

/-- Under a normal form inside the root stands what was last written there. -/
theorem getElem?_foldl_amend_eq_some_iff {edits : List Edit} {content : Content}
    (inside : Path.escapesRoot normal = false) :
    (edits.foldl amend ∅)[normal]? = some content ↔
      ∃ before written after, edits = before ++ .write written content :: after ∧
        Path.normalize written = normal ∧ ∀ edit ∈ after, ¬ edit.Touches normal := by
  constructor
  · intro stored
    rcases untouched_or_exists_last normal edits with
      untouched | ⟨before, last, after, split, touches, untouched⟩
    · rw [getElem?_foldl_amend_of_untouched _ untouched, Std.TreeMap.getElem?_emptyc] at stored
      cases stored
    · rw [getElem?_foldl_amend_of_last split touches untouched inside] at stored
      cases last with
      | write written other =>
          simp only [Edit.left?] at stored
          split at stored
          · cases stored
          · cases stored
            exact ⟨before, written, after, split, touches, untouched⟩
      | _ => cases stored
  · rintro ⟨before, written, after, split, same, untouched⟩
    have kept : Path.escapesRoot written = false := by
      rw [← Path.escapesRoot_normalize, same, inside]
    rw [getElem?_foldl_amend_of_last split same untouched inside, Edit.left?, kept]
    rfl

end Contents

section Refinement

theorem isNormal_ofHistory (history : List Operation) : (ofHistory history).IsNormal := by
  have kept (table : FileTable) (normal : table.IsNormal) :
      (history.foldl apply table).IsNormal := by
    induction history generalizing table with
    | nil => exact normal
    | cons operation history ih =>
        apply ih
        cases operation with
        | ofFiles files => exact isNormal_ofFiles files
        | write path content => exact normal.write path content
        | delete path => exact normal.delete path
        | withLists extensions indexFiles => exact normal
  exact kept empty isNormal_empty

/-- A path inside the root finds what was last written to it, and any other path finds nothing. -/
theorem find?_ofHistory_eq_some_iff {history : List Operation} {path : String}
    {content : Content} :
    (ofHistory history).find? path = some content ↔
      Path.escapesRoot path = false ∧ LastWritten history path content := by
  rw [find?]
  cases inside : Path.escapesRoot path with
  | true => simp
  | false =>
      have normal : Path.escapesRoot (Path.normalize path) = false := by
        rw [Path.escapesRoot_normalize, inside]
      rw [if_neg Bool.false_ne_true, files_ofHistory, getElem?_foldl_amend_eq_some_iff normal]
      exact ⟨fun written => ⟨rfl, written⟩, And.right⟩

/-- Stored paths are listed in the order of their bytes. -/
theorem paths_increasing (table : FileTable) :
    table.paths.Pairwise fun first second => Text.bytes first < Text.bytes second := by
  have ordered := Std.TreeMap.ordered_keys (t := table.files)
  refine ordered.imp fun {first second} before => Text.bytes_lt_of_lt ?_
  have less : compareOfLessAndEq first second = .lt := before
  exact compareOfLessAndEq_eq_lt.mp less

/-- A table is a finite map from normal forms, with the content that its history gives each. -/
structure Refines (table : FileTable) (history : List Operation) : Prop where
  stored : ∀ path ∈ table.paths, Path.isRooted path = true ∧ Path.normalize path = path ∧
    Path.up ∉ Text.split '/' path.toList
  increasing : table.paths.Pairwise fun first second => Text.bytes first < Text.bytes second
  counted : table.paths.length = table.size
  read : ∀ path content, table.read path = .ok content ↔
    Path.escapesRoot path = false ∧ LastWritten history path content
  missing : ∀ path error, table.read path = .error error → error = .fileNotFound path none
  contains : ∀ path, table.contains path = true ↔
    Path.escapesRoot path = false ∧ ∃ content, LastWritten history path content
  outside : ∀ path, Path.escapesRoot path = true → table.contains path = false ∧
    table.read path = .error (.fileNotFound path none)
  refused : ∀ path content, (accepts path = false ↔ Path.escapesRoot path = true) ∧
    (accepts path = false → table.write path content = table)
  deleted : ∀ path, table.deleted? path = (table.read path).toOption
  kept : ∀ path other, Path.normalize other ≠ Path.normalize path →
    (table.delete path).read other = table.read other

/-- Whatever is done to a table, it refines the finite map of what was last written. -/
theorem refines_ofHistory (history : List Operation) : (ofHistory history).Refines history where
  stored := by
    intro path member
    obtain ⟨inside, same⟩ := isNormal_ofHistory history path (Std.TreeMap.mem_keys.mp member)
    have rooted := Path.isRooted_normalize inside
    rw [same] at rooted
    exact ⟨rooted, same, Path.up_not_mem_split inside⟩
  increasing := paths_increasing _
  counted := Std.TreeMap.length_keys
  read := fun path content => read_eq_ok_iff.trans find?_ofHistory_eq_some_iff
  missing := fun path error => eq_of_read_eq_error
  contains := by
    intro path
    rw [contains_iff]
    simp only [find?_ofHistory_eq_some_iff, exists_and_left]
  outside := by
    intro path outside
    have missing : (ofHistory history).find? path = none := by rw [find?, if_pos outside]
    rw [FileTable.contains, FileTable.read, missing]
    exact ⟨rfl, rfl⟩
  refused := by
    intro path content
    rw [accepts]
    cases outside : Path.escapesRoot path with
    | false => simp
    | true =>
        refine ⟨by simp, fun _ => ?_⟩
        rw [write, if_pos outside]
  deleted := by
    intro path
    have same := (isNormal_ofHistory history).deleted?_eq_find? path
    rw [same, FileTable.read]
    cases (ofHistory history).find? path <;> rfl
  kept := by
    intro path other different
    have same : ((ofHistory history).delete path).find? other = (ofHistory history).find? other :=
      find?_delete_of_ne _ different
    rw [FileTable.read, FileTable.read, same]

/-- The spelling of a path does not matter, and a deletion does not reach other paths. -/
example : ((ofHistory [.write "a//b" (.text "old"), .write "./c" (.text "kept"), .delete "c/d",
    .write "/a/./b" (.text "new")]).read "a/b/").toOption = some (.text "new") := by
  decide +kernel

end Refinement

end ModuleGraph.FileTable
