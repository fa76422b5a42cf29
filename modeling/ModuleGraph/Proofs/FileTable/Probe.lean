/-
This file lists the paths that a specifier may stand for, and shows that resolving it gives the
first of them that is a file.
-/

import ModuleGraph.Proofs.FileTable.History

namespace ModuleGraph.FileTable

/-- The paths that a target may stand for, in order of preference: itself, itself with an extension,
itself with another extension, and its index files. -/
def options (table : FileTable) (target : String) : List String :=
  [target] ++ table.extensions.map (target ++ ·) ++
    (if Path.extension target ∈ table.extensions then
      (table.extensions.filter (· != Path.extension target)).map (Path.stem target ++ ·)
    else []) ++
    table.indexFiles.map
      (String.ofList (Text.trimSlashes target.toList) ++ "/" ++ ·)

/-- The option names a file, and none of those before it does. -/
structure Wins (table : FileTable) (options before : List String) (option : String) : Prop where
  split : ∃ after, options = before ++ option :: after
  missing : ∀ earlier ∈ before, table.contains earlier = false
  found : table.contains option = true

section Search

variable {table : FileTable}

/-- What was tried before is not found when it is tried again. -/
theorem findSome?_append_of_subset {options again : List String}
    (tried : ∀ option ∈ again, option ∈ options) :
    (options ++ again).findSome? table.hit? = options.findSome? table.hit? := by
  rw [List.findSome?_append]
  cases found : options.findSome? table.hit? with
  | some file => rfl
  | none =>
      rw [Option.none_or, List.findSome?_eq_none_iff]
      exact fun option member => List.findSome?_eq_none_iff.mp found option (tried option member)

theorem options_eq_candidates {target : String} (extended : Path.extension target ≠ "") :
    table.options target = table.candidates target := by
  have listed : (Path.extension target != "" && table.extensions.contains (Path.extension target)) =
      decide (Path.extension target ∈ table.extensions) := by
    simp [extended]
  rw [options, candidates, exchanged, listed]
  simp [FileTable.extended, indexed]

/-- Without an extension the exchange offers nothing that was not tried before. -/
theorem findSome?_options (target : String) :
    (table.options target).findSome? table.hit? = table.probe? target := by
  by_cases bare : Path.extension target = ""
  · have stem : Path.stem target = target := by simp [Path.stem, bare]
    have unexchanged : table.exchanged target = [] := by simp [exchanged, bare]
    have again : ∀ option ∈ (if Path.extension target ∈ table.extensions then
        (table.extensions.filter (· != Path.extension target)).map (Path.stem target ++ ·)
        else []), option ∈ [target] ++ table.extensions.map (target ++ ·) := by
      intro option member
      split at member
      · obtain ⟨ending, kept, rfl⟩ := List.mem_map.mp member
        rw [stem]
        exact List.mem_append_right _ (List.mem_map_of_mem (List.mem_filter.mp kept |>.1))
      · cases member
    rw [options, List.findSome?_append, findSome?_append_of_subset again, ← List.findSome?_append,
      probe?, candidates, unexchanged]
    simp [extended, indexed]
  · rw [options_eq_candidates bare, probe?]

/-- The search finds the file of the option that wins. -/
theorem findSome?_eq_some_iff {options : List String} {file : FoundFile} :
    options.findSome? table.hit? = some file ↔
      ∃ before option, table.Wins options before option ∧
        table.find? option = some file.content ∧ file.path = Path.normalize option := by
  rw [List.findSome?_eq_some_iff]
  constructor
  · rintro ⟨before, option, after, split, hit, missing⟩
    obtain ⟨found, path⟩ := hit?_eq_some_iff.mp hit
    exact ⟨before, option, ⟨⟨after, split⟩, fun earlier member =>
      hit?_eq_none_iff.mp (missing earlier member), contains_iff.mpr ⟨_, found⟩⟩, found, path⟩
  · rintro ⟨before, option, ⟨⟨after, split⟩, missing, -⟩, found, path⟩
    exact ⟨before, option, after, split, hit?_eq_some_iff.mpr ⟨found, path⟩, fun earlier member =>
      hit?_eq_none_iff.mpr (missing earlier member)⟩

theorem findSome?_eq_none_iff {options : List String} :
    options.findSome? table.hit? = none ↔ ∀ option ∈ options, table.contains option = false := by
  rw [List.findSome?_eq_none_iff]
  exact forall₂_congr fun option _ => hit?_eq_none_iff

/-- Tables that read every option alike find the same file. -/
theorem findSome?_hit?_congr {other : FileTable} {options : List String}
    (same : ∀ option ∈ options, other.read option = table.read option) :
    options.findSome? other.hit? = options.findSome? table.hit? := by
  induction options with
  | nil => rw [List.findSome?_nil, List.findSome?_nil]
  | cons option options ih =>
      have here : other.hit? option = table.hit? option := by
        rw [hit?_eq, hit?_eq, find?_eq_of_read_eq (same option (List.mem_cons_self ..))]
      rw [List.findSome?_cons, List.findSome?_cons, here,
        ih fun later member => same later (List.mem_cons_of_mem _ member)]

/-- The options behind the winning one are not looked at. -/
theorem Wins.findSome?_eq {options before : List String} {option : String}
    (wins : table.Wins options before option) :
    options.findSome? table.hit? = (before ++ [option]).findSome? table.hit? := by
  obtain ⟨⟨after, rfl⟩, -, found⟩ := wins
  obtain ⟨content, found⟩ := contains_iff.mp found
  have hit : table.hit? option = some ⟨Path.normalize option, content⟩ := by
    rw [hit?_eq, found, Option.map_some]
  simp [hit]

end Search

section Resolution

variable {table : FileTable} {base specifier : String}

/-- The options decide what a specifier stands for. -/
theorem resolve_eq : table.resolve base specifier =
    match (table.options (Path.resolve base specifier)).findSome? table.hit? with
    | some file => .ok file
    | none => .error (.fileNotFound specifier (some base)) := by
  rw [findSome?_options]
  unfold resolve
  generalize table.probe? (Path.resolve base specifier) = probed
  cases probed with
  | none => rfl
  | some file => rfl

theorem resolve_eq_ok_iff {file : FoundFile} : table.resolve base specifier = .ok file ↔
    (table.options (Path.resolve base specifier)).findSome? table.hit? = some file := by
  rw [resolve_eq]
  split
  · rename_i found hit
    simp [hit]
  · rename_i missing
    simp [missing]

theorem resolve_eq_error_iff {error : Error} : table.resolve base specifier = .error error ↔
    (table.options (Path.resolve base specifier)).findSome? table.hit? = none ∧
      error = .fileNotFound specifier (some base) := by
  rw [resolve_eq]
  split
  · rename_i found hit
    simp [hit]
  · rename_i missing
    simp [missing, eq_comm]

/-- The file that a specifier stands for is stored under its path. -/
theorem mem_and_find?_of_resolve {file : FoundFile}
    (resolved : table.resolve base specifier = .ok file) :
    file.path ∈ table.files ∧ table.find? file.path = some file.content := by
  obtain ⟨before, option, -, found, path⟩ :=
    findSome?_eq_some_iff.mp (resolve_eq_ok_iff.mp resolved)
  rw [path, find?_normalize]
  exact ⟨(mem_of_find? found).1, found⟩

/-- A stored path stands for its own file, wherever it is written. -/
theorem resolve_of_mem {path : String} {content : Content} (normal : table.IsNormal)
    (stored : path ∈ table.files) (found : table.find? path = some content) :
    table.resolve base path = .ok ⟨path, content⟩ := by
  obtain ⟨inside, same⟩ := normal path stored
  have rooted : Path.isRooted path = true := by
    rw [← same]
    exact Path.isRooted_normalize inside
  have hit : table.hit? path = some ⟨path, content⟩ := by rw [hit?_eq, found, same, Option.map_some]
  rw [resolve_eq_ok_iff, Path.resolve, if_pos rooted, same, options]
  simp [hit]

/-- A specifier stands for the first of its options that is a file. -/
structure Settles (table : FileTable) (base specifier : String) : Prop where
  /-- The extension that is exchanged is the end of the target. -/
  cut : Path.stem (Path.resolve base specifier) ++ Path.extension (Path.resolve base specifier) =
    Path.resolve base specifier
  fails : (∃ error, table.resolve base specifier = .error error) ↔
    ∀ option ∈ table.options (Path.resolve base specifier), table.contains option = false
  names : ∀ error, table.resolve base specifier = .error error →
    error = .fileNotFound specifier (some base)
  first : ∀ file, table.resolve base specifier = .ok file →
    ∃ before option, table.Wins (table.options (Path.resolve base specifier)) before option ∧
      table.read option = .ok file.content ∧ file.path = Path.normalize option
  stored : ∀ file, table.resolve base specifier = .ok file →
    file.path ∈ table.paths ∧ Path.up ∉ Text.split '/' file.path.toList ∧
      table.read file.path = .ok file.content ∧ file.kind = ContentKind.ofPath file.path
  /-- What else another table holds does not matter. -/
  localized : ∀ file before option (other : FileTable),
    table.resolve base specifier = .ok file →
    table.Wins (table.options (Path.resolve base specifier)) before option →
    other.extensions = table.extensions → other.indexFiles = table.indexFiles →
    (∀ tried ∈ before ++ [option], other.read tried = table.read tried) →
    other.resolve base specifier = .ok file
  again : ∀ file elsewhere, table.resolve base specifier = .ok file →
    table.resolve elsewhere file.path = .ok file

theorem IsNormal.settles (normal : table.IsNormal) (base specifier : String) :
    table.Settles base specifier where
  cut := (Path.isNormalForm_resolve base specifier).stem_append_extension
  fails := by
    rw [← findSome?_eq_none_iff]
    constructor
    · rintro ⟨error, failed⟩
      exact (resolve_eq_error_iff.mp failed).1
    · intro missing
      exact ⟨_, resolve_eq_error_iff.mpr ⟨missing, rfl⟩⟩
  names := fun error failed => (resolve_eq_error_iff.mp failed).2
  first := by
    intro file resolved
    obtain ⟨before, option, wins, found, path⟩ :=
      findSome?_eq_some_iff.mp (resolve_eq_ok_iff.mp resolved)
    exact ⟨before, option, wins, read_eq_ok_iff.mpr found, path⟩
  stored := by
    intro file resolved
    obtain ⟨member, found⟩ := mem_and_find?_of_resolve resolved
    exact ⟨Std.TreeMap.mem_keys.mpr member, Path.up_not_mem_split (normal _ member).1,
      read_eq_ok_iff.mpr found, rfl⟩
  localized := by
    intro file before option other resolved wins extensions indexFiles same
    have found := resolve_eq_ok_iff.mp resolved
    have options : other.options (Path.resolve base specifier) =
        table.options (Path.resolve base specifier) := by
      rw [FileTable.options, FileTable.options, extensions, indexFiles]
    rw [wins.findSome?_eq, ← findSome?_hit?_congr same] at found
    obtain ⟨after, split⟩ := wins.split
    rw [resolve_eq_ok_iff, options, split, List.append_cons, List.findSome?_append, found,
      Option.some_or]
  again := by
    intro file elsewhere resolved
    obtain ⟨member, found⟩ := mem_and_find?_of_resolve resolved
    exact resolve_of_mem normal member found

end Resolution

/-- Whatever was done to a table before, a specifier stands for the first of its options that is a
file. -/
theorem settles_ofHistory (history : List Operation) (base specifier : String) :
    (ofHistory history).Settles base specifier :=
  (isNormal_ofHistory history).settles base specifier

end ModuleGraph.FileTable
