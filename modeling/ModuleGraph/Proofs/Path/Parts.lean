/-
This file takes a path apart into its directory, its name and the ending of the name, and shows
that another ending names another file of the same directory.
-/

import ModuleGraph.Proofs.FileTable
import ModuleGraph.Proofs.Path.Walk

namespace ModuleGraph.Path

section Endings

/-- What may stand behind a name: a dot, and then anything but a slash. -/
structure IsEnding (ending : String) : Prop where
  dotted : Text.startsWith ending "." = true
  separate : '/' ∉ ending.toList

/-- The ending of a segment is one that may stand behind a name. -/
theorem HasEnding.eq_empty_or_isEnding {ending : String} {name : Segment}
    (ends : HasEnding name ending.toList) (valid : IsSegment name) :
    ending = "" ∨ IsEnding ending := by
  have separate := valid.2.2
  obtain ⟨cut, split, -⟩ := ends.exists_cut
  rw [split, List.mem_append, not_or] at separate
  generalize given : ending.toList = chars at ends
  cases ends with
  | none dotless => exact .inl (by simpa using given)
  | hidden dotless => exact .inl (by simpa using given)
  | @cut front rest nonempty dotless =>
      refine .inr ⟨Text.startsWith_iff.mpr ⟨String.ofList rest, ?_⟩, separate.2⟩
      rw [← String.toList_inj, given]
      simp

/-- With an ending behind it, whatever is left of a name is a name again. -/
theorem IsEnding.isSegment_append {ending : String} (allowed : IsEnding ending) {cut : Segment}
    (nonempty : cut ≠ []) (separate : '/' ∉ cut) : IsSegment (cut ++ ending.toList) := by
  obtain ⟨rest, rfl⟩ := Text.startsWith_iff.mp allowed.dotted
  refine ⟨List.append_ne_nil_of_left_ne_nil nonempty _, ?_, ?_⟩
  · -- A single dot is too short: the name has a character left, and the ending has another.
    intro single
    have lengths := congrArg List.length single
    have left := List.length_pos_iff.mpr nonempty
    simp at lengths
    omega
  · intro slash
    rcases List.mem_append.mp slash with slash | slash
    · exact separate slash
    · exact allowed.separate slash

end Endings

section Directories

variable {path : String}

theorem directory_of_isRooted (rooted : isRooted path = true) :
    directory path = render false (segments path).dropLast := by
  rw [directory, climbs_of_isRooted rooted]

theorem isSegment_of_mem_dropLast :
    ∀ segment ∈ (segments path).dropLast, IsSegment segment := fun _ member =>
  isSegment_of_mem_segments (List.dropLast_subset _ member)

theorem segments_directory (rooted : isRooted path = true) :
    segments (directory path) = (segments path).dropLast := by
  rw [directory_of_isRooted rooted, segments_render isSegment_of_mem_dropLast]

theorem normalize_directory (rooted : isRooted path = true) :
    normalize (directory path) = directory path := by
  rw [directory_of_isRooted rooted]
  exact (IsNormalForm.rooted isSegment_of_mem_dropLast).normalize_eq

end Directories

section Openings

variable {init : List Segment} {last : Segment}

theorem segments_opening_concat (valid : ∀ segment ∈ init ++ [last], IsSegment segment) :
    segments (opening init ++ String.ofList last) = init ++ [last] := by
  rw [← render_concat, segments_render valid]

theorem normalize_opening_concat (valid : ∀ segment ∈ init ++ [last], IsSegment segment) :
    normalize (opening init ++ String.ofList last) = opening init ++ String.ofList last := by
  rw [← render_concat]
  exact (IsNormalForm.rooted valid).normalize_eq

/-- What stands behind the opening of a directory is in that directory. -/
theorem directory_opening_concat (valid : ∀ segment ∈ init ++ [last], IsSegment segment) :
    directory (opening init ++ String.ofList last) = render false init := by
  rw [directory_of_isRooted (isRooted_append (isRooted_opening init) _),
    segments_opening_concat valid, List.dropLast_concat]

end Openings

/-- The ending of a path is cut off inside its name, where any other ending may follow. -/
structure Exchanges (path cut : String) : Prop where
  left : cut ≠ ""
  whole : basename path = cut ++ extension path
  normal : ∀ ending, IsEnding ending → normalize (stem path ++ ending) = stem path ++ ending
  beside : ∀ ending, IsEnding ending → directory (stem path ++ ending) = directory path
  named : ∀ ending, IsEnding ending → basename (stem path ++ ending) = cut ++ ending

theorem Exchanges.length_extension_lt {path cut : String} (exchanges : Exchanges path cut) :
    (extension path).length < (basename path).length := by
  have left : 0 < cut.toList.length := List.length_pos_iff.mpr (by simpa using exchanges.left)
  rw [String.length_toList] at left
  rw [exchanges.whole, String.length_append]
  omega

/-- Whatever file is found when the extension is exchanged is in the same directory. -/
theorem Exchanges.stays {path cut candidate : String} (exchanges : Exchanges path cut)
    {table : FileTable} (allowed : ∀ ending ∈ table.extensions, IsEnding ending)
    (member : candidate ∈ table.exchanged path) :
    normalize candidate = candidate ∧ directory candidate = directory path ∧
      ∀ file, table.hit? candidate = some file →
        file.path = candidate ∧ escapesRoot file.path = false := by
  obtain ⟨ending, listed, rfl⟩ := FileTable.exists_ending_of_mem_exchanged member
  have same := exchanges.normal ending (allowed ending listed)
  refine ⟨same, exchanges.beside ending (allowed ending listed), ?_⟩
  intro file hit
  obtain ⟨found, path⟩ := FileTable.hit?_eq_some_iff.mp hit
  rw [path, same]
  exact ⟨rfl, (FileTable.mem_of_find? found).2⟩

section Names

variable {path : String} (rooted : isRooted path = true) (normal : normalize path = path)
  (proper : path ≠ "/")

include rooted normal proper

/-- A rooted normal form other than the root is a name behind the opening of a directory. -/
theorem exists_opening_concat :
    ∃ init last, (∀ segment ∈ init ++ [last], IsSegment segment) ∧
      path = opening init ++ String.ofList last := by
  have valid : ∀ segment ∈ segments path, IsSegment segment := fun _ => isSegment_of_mem_segments
  rw [normalize_of_isRooted rooted] at normal
  rcases List.eq_nil_or_concat (segments path) with root | ⟨init, last, split⟩
  · rw [root] at normal
    exact absurd normal.symm proper
  · rw [List.concat_eq_append] at split
    rw [split] at valid normal
    exact ⟨init, last, valid, by rw [← render_concat, normal]⟩

theorem isSegment_basename : IsSegment (basename path).toList := by
  obtain ⟨init, last, valid, rfl⟩ := exists_opening_concat rooted normal proper
  have named : IsSegment last := valid last (by simp)
  rw [basename_opening_append init named, String.toList_ofList]
  exact named

/-- A path leads through its directory to its name. -/
theorem segments_eq_concat :
    segments path = segments (directory path) ++ [(basename path).toList] := by
  rw [segments_directory rooted]
  obtain ⟨init, last, valid, rfl⟩ := exists_opening_concat rooted normal proper
  rw [basename_opening_append init (valid last (by simp)), segments_opening_concat valid,
    List.dropLast_concat, String.toList_ofList]

/-- From its directory, the name leads back to the path. -/
theorem resolve_basename (inside : up ∉ segments path) : resolve path (basename path) = path := by
  have named := isSegment_basename rooted normal proper
  have relative : isRooted (basename path) = false := by
    rw [Bool.eq_false_iff]
    intro slash
    obtain ⟨rest, equal⟩ := isRooted_iff.mp slash
    exact named.2.2 (by simp [equal])
  have last : segments (basename path) = [(basename path).toList] := by
    have alone := segments_ofList named
    rwa [String.ofList_toList] at alone
  rw [resolve_eq_joinDirectory, joinDirectory_of_relative relative, last,
    ← segments_eq_concat rooted normal proper, collapse_eq_self inside,
    ← normalize_of_isRooted rooted, normal]

theorem exists_exchanges : ∃ cut, Exchanges path cut := by
  obtain ⟨init, last, valid, rfl⟩ := exists_opening_concat rooted normal proper
  have named : IsSegment last := valid last (by simp)
  obtain ⟨cut, nonempty, separate, split, starts⟩ := exists_stem_eq init named
  have known (ending : String) (allowed : IsEnding ending) :
      ∀ segment ∈ init ++ [cut ++ ending.toList], IsSegment segment := by
    intro segment member
    rcases List.mem_append.mp member with member | member
    · exact valid segment (List.mem_append_left _ member)
    · rw [List.mem_singleton.mp member]
      exact allowed.isSegment_append nonempty separate
  -- The path with another ending is again a name behind the same opening.
  have exchanged (ending : String) :
      stem (opening init ++ String.ofList last) ++ ending =
        opening init ++ String.ofList (cut ++ ending.toList) := by
    rw [starts, String.append_assoc, String.ofList_append, String.ofList_toList]
  refine ⟨String.ofList cut, ?_, ?_, ?_, ?_, ?_⟩
  · simpa using nonempty
  · rw [basename_opening_append init named, ← String.toList_inj, String.toList_append,
      String.toList_ofList, String.toList_ofList, ← split]
  · intro ending allowed
    rw [exchanged, normalize_opening_concat (known ending allowed)]
  · intro ending allowed
    rw [exchanged, directory_opening_concat (known ending allowed), directory_opening_concat valid]
  · intro ending allowed
    rw [exchanged, basename_opening_append init (known ending allowed _ (by simp)),
      String.ofList_append, String.ofList_toList]

end Names

/-- A path that names a file decomposes into a directory and a name, and the name into what is
left of it and its ending. -/
structure Decomposes (path : String) : Prop where
  normal : normalize (directory path) = directory path
  leads : segments path = segments (directory path) ++ [(basename path).toList]
  returns : resolve path (basename path) = path
  joins : stem path ++ extension path = path
  ends : HasEnding (basename path).toList (extension path).toList
  allowed : extension path = "" ∨ IsEnding (extension path)
  shorter : (extension path).length < (basename path).length
  exchanges : ∃ cut, Exchanges path cut
  stays (table : FileTable) : (∀ ending ∈ table.extensions, IsEnding ending) →
    ∀ candidate ∈ table.exchanged path,
      normalize candidate = candidate ∧ directory candidate = directory path ∧
        ∀ file, table.hit? candidate = some file →
          file.path = candidate ∧ escapesRoot file.path = false

theorem decomposes_of_normalize {path : String} (rooted : isRooted path = true)
    (normal : normalize path = path) (proper : path ≠ "/") (inside : up ∉ segments path) :
    Decomposes path := by
  have ends := hasEnding_extension path
  obtain ⟨cut, exchanges⟩ := exists_exchanges rooted normal proper
  exact {
    normal := normalize_directory rooted
    leads := segments_eq_concat rooted normal proper
    returns := resolve_basename rooted normal proper inside
    joins := (normalize_eq_self_iff.mp normal).stem_append_extension
    ends := ends
    allowed := ends.eq_empty_or_isEnding (isSegment_basename rooted normal proper)
    shorter := exchanges.length_extension_lt
    exchanges := ⟨cut, exchanges⟩
    stays := fun table allowed candidate member => exchanges.stays allowed member }

/-- Only the first dot of this name is left of it: with a single dot for an ending it would climb,
and still be a name in the same directory. -/
theorem dotted_decomposes :
    isRooted "/lib.d/..ts" = true ∧ normalize "/lib.d/..ts" = "/lib.d/..ts" ∧
      "/lib.d/..ts" ≠ "/" ∧ up ∉ segments "/lib.d/..ts" ∧ extension "/lib.d/..ts" = ".ts" ∧
      stem "/lib.d/..ts" = "/lib.d/." ∧ Decomposes "/lib.d/..ts" :=
  ⟨by decide, by decide, by decide, by decide, by decide, by decide,
    decomposes_of_normalize (by decide) (by decide) (by decide) (by decide)⟩

end ModuleGraph.Path
