/-
This file shows that a specifier that an import map rewrites into a directory leads to no file
outside of that directory.
-/

import ModuleGraph.Proofs.FileTable
import ModuleGraph.Proofs.ImportMap.Target
import ModuleGraph.Proofs.Workspace

namespace ModuleGraph

open Hook

namespace FileTable

open ModuleGraph.Path

variable {table : FileTable}

/-- Every extension that is tried starts with a dot. -/
def IsDotted (table : FileTable) : Prop :=
  ∀ ending ∈ table.extensions, Text.startsWith ending "." = true

instance (table : FileTable) : Decidable table.IsDotted :=
  inferInstanceAs (Decidable (∀ ending ∈ table.extensions, _))

/-- Whatever a target stands for leads somewhere behind the directory that the target is in. -/
theorem exists_name_of_mem_candidates (dotted : table.IsDotted) {directory : List Segment}
    {last : Segment} (valid : IsSegment last) {candidate : String}
    (member : candidate ∈ table.candidates (opening directory ++ String.ofList last)) :
    ∃ name, segments name ≠ [] ∧ candidate = opening directory ++ name := by
  have here : segments (String.ofList last) ≠ [] := by
    rw [segments_ofList valid]
    exact List.cons_ne_nil last []
  simp only [candidates, List.mem_cons, List.mem_append, or_assoc] at member
  rcases member with rfl | extended | exchanged | indexed
  · exact ⟨_, here, rfl⟩
  · obtain ⟨ending, listed, rfl⟩ := List.mem_map.mp extended
    refine ⟨_, segments_append_dotted valid.2.2 valid.1 (dotted ending listed), ?_⟩
    rw [String.append_assoc]
  · obtain ⟨ending, listed, rfl⟩ := exists_ending_of_mem_exchanged exchanged
    -- Something of the last segment stays in front of the new extension.
    obtain ⟨cut, nonempty, separate, -, stem⟩ := exists_stem_eq directory valid
    refine ⟨_, segments_append_dotted separate nonempty (dotted ending listed), ?_⟩
    rw [stem, String.append_assoc]
  · obtain ⟨index, _, rfl⟩ := List.mem_map.mp indexed
    refine ⟨String.ofList last ++ "/" ++ index, ?_, ?_⟩
    · rw [segments_append_slash]
      exact List.append_ne_nil_of_left_ne_nil here _
    · rw [String.toList_append, String.toList_ofList, trimSlashes_append valid,
        String.ofList_append, String.ofList_toList]
      simp only [String.append_assoc]

/-- A file that is found for a target inside a directory is inside that directory as well. -/
theorem startsWith_of_probe? (dotted : table.IsDotted) {directory rest : List Segment}
    (valid : ∀ segment ∈ directory ++ rest, IsSegment segment) (leads : rest ≠ [])
    {file : FoundFile} (probed : table.probe? (render false (directory ++ rest)) = some file) :
    Text.startsWith file.path (opening directory) = true := by
  obtain ⟨init, last, rfl⟩ := (List.eq_nil_or_concat rest).resolve_left leads
  rw [List.concat_eq_append, ← List.append_assoc] at valid probed
  rw [render_concat] at probed
  obtain ⟨candidate, member, hit⟩ := List.exists_of_findSome?_eq_some probed
  obtain ⟨found, path⟩ := hit?_eq_some_iff.mp hit
  obtain ⟨name, leads, rfl⟩ := exists_name_of_mem_candidates dotted (valid last (by simp)) member
  have inside : Inside directory (opening (directory ++ init) ++ name) :=
    inside_opening_append (fun segment early => valid segment (List.mem_append_left _ early)) leads
  rw [path]
  exact inside.startsWith_normalize

end FileTable

namespace Workspace

variable {workspace : Workspace} {request : ResolveRequest}

theorem claim_of_no_handlers (silent : workspace.chain.resolveHandlers = [])
    (asked : ResolveRequest) (session : Session) :
    (workspace.claim asked session).1 = .ok none := by
  have passed : (workspace.chain.resolve asked session).1 = .ok none := by
    rw [Chain.resolve, silent, Chain.offer]
  rw [claim_fst, passed]
  rfl

/-- Without plugins, the target of the import map is looked for. -/
theorem resolve_of_no_handlers (silent : workspace.chain.resolveHandlers = []) {target : String}
    (remapped : workspace.remap request = .ok (some target)) (session : Session) :
    (workspace.resolve request session).1 = workspace.resolveUnclaimed request target := by
  rw [resolve_fst, claim_of_no_handlers silent, remapped]
  simp only [claim_of_no_handlers silent, ite_self]

/-- A rooted target names a file, if it is not missing. -/
theorem resolveUnclaimed_of_isRooted (among : request.space = fileSpace) {target : String}
    (rooted : Path.isRooted target = true) :
    workspace.resolveUnclaimed request target =
      match workspace.files.probe? (Path.normalize target) with
      | some file => .ok ⟨file.path, fileSpace, false⟩
      | none => .error (.fileNotFound request.path request.importer) := by
  have elsewhere : ¬ (request.space != fileSpace) = true := by simp [among]
  have standing : Path.resolve (referrer request) target = Path.normalize target := by
    rw [Path.resolve, if_pos rooted]
  rw [resolveUnclaimed, Path.isPathSpecifier, rooted, Bool.true_or, if_pos rfl,
    resolveUnclaimed.find, standing]
  refine (if_neg elsewhere).trans ?_
  generalize workspace.files.probe? (Path.normalize target) = probed
  cases probed with
  | none => rfl
  | some file => rfl

/-- A request that an import map rewrites into a directory fails or leads to a file of that
directory, however the rest of the specifier climbs. -/
theorem contained_of_rewrites {document : Json} {base target rest : String} {map : ImportMap}
    (silent : workspace.chain.resolveHandlers = []) (dotted : workspace.files.IsDotted)
    (parsed : ImportMap.ofJson document base = .ok map) (virtual : Url.canonical? base = none)
    (present : workspace.importMap = some map) (among : request.space = fileSpace)
    (rewrites : map.Rewrites request.path (referrer request) target rest)
    (rooted : Text.startsWith target "/" = true)
    (leads : ∃ piece ∈ Text.split '/' rest.toList, piece ≠ [] ∧ piece ≠ ['.'])
    (session : Session) :
    (∃ error, (workspace.resolve request session).1 = .error error) ∨
      ∃ path ∈ workspace.files.paths, Path.up ∉ Text.split '/' path.toList ∧
        Text.startsWith path target = true ∧
        (workspace.resolve request session).1 = .ok ⟨path, fileSpace, false⟩ := by
  have remapped : workspace.remap request = .ok (some (target ++ rest)) := by
    rw [remap, present]
    simp only [rewrites.resolved]
  have inside : Path.isRooted target = true := by
    rw [Path.isRooted_iff]
    exact Text.startsWith_iff.mp rooted
  obtain ⟨directory, valid, rfl⟩ := rewrites.exists_opening parsed virtual inside
  have whole : Path.isRooted (Path.opening directory ++ rest) = true :=
    Path.isRooted_append inside rest
  have normal : Path.normalize (Path.opening directory ++ rest) =
      Path.render false (directory ++ Path.segments rest) := by
    rw [Path.normalize_of_isRooted whole, Path.segments_opening_append valid]
  have more : Path.segments rest ≠ [] := by
    obtain ⟨piece, member, nonempty, elsewhere⟩ := leads
    refine List.ne_nil_of_mem (a := piece) ?_
    rw [Path.segments_eq, Path.significant, List.mem_filter]
    simp [member, nonempty, elsewhere]
  rw [resolve_of_no_handlers silent remapped, resolveUnclaimed_of_isRooted among whole, normal]
  cases probed : workspace.files.probe? (Path.render false (directory ++ Path.segments rest)) with
  | none => exact .inl ⟨_, rfl⟩
  | some file =>
      have valid : ∀ segment ∈ directory ++ Path.segments rest, Path.IsSegment segment := by
        intro segment member
        rcases List.mem_append.mp member with member | member
        · exact valid segment member
        · exact Path.isSegment_of_mem_segments member
      -- The text of the path starts with the target even if the rest climbs; that it is stored
      -- rules the climbing out.
      have starts := FileTable.startsWith_of_probe? dotted valid more probed
      obtain ⟨stored, confined⟩ := FileTable.mem_of_probe? probed
      exact .inr ⟨file.path, Std.TreeMap.mem_keys.mpr stored,
        Path.up_not_mem_split confined, starts, rfl⟩

/-- A document that maps a package into a directory. -/
def vendorDocument : Json :=
  .object [("imports", .object [("lib/", .string "./vendor/lib/")])]

def vendorMap : ImportMap :=
  ⟨.directory "/", [("lib/", .address "/vendor/lib/")], [], []⟩

theorem ofJson_vendorDocument : ImportMap.ofJson vendorDocument "/" = .ok vendorMap := by
  change Except.ok (ImportMap.mk (.directory "/")
    (ImportMap.sortByLength Prod.fst [("lib/", .address "/vendor/lib/")])
    (ImportMap.sortByLength ImportMap.Scope.start []) []) = _
  rw [ImportMap.sortByLength_singleton, ImportMap.sortByLength, List.mergeSort_nil]
  rfl

/-- A file of the package, and one beside it with the same start. -/
def vendor : Workspace :=
  { Workspace.new (FileTable.ofFiles
      [("/vendor/lib/main.js", .text ""), ("/vendor/library.js", .text "")]) Config.default with
    importMap := some vendorMap }

def vendorRequest : ResolveRequest :=
  requestOf "lib/.//main" none

theorem vendor_rewrites : vendorMap.Rewrites vendorRequest.path (referrer vendorRequest)
    "/vendor/lib/" ".//main" where
  entry := by
    have held : ("lib/", ImportMap.Target.address "/vendor/lib/") ∈ vendorMap.imports :=
      List.mem_singleton_self _
    have covers : ImportMap.Table.Covers "lib/" "lib/.//main" := ⟨⟨"lib", rfl⟩, ".//main", rfl⟩
    refine ⟨vendorMap.imports, "lib/", "lib/.//main", rfl, ?_, ?_, rfl, by decide⟩
    · exact .imports (fun _ absurd => nomatch absurd) ⟨_, held, .inr covers⟩
    · refine .longest ?_ held covers ?_
      · intro target member
        have same : "lib/.//main" = "lib/" := congrArg Prod.fst (List.mem_singleton.mp member)
        exact absurd same (by decide)
      · intro other member _
        have same : other.1 = "lib/" := congrArg Prod.fst (List.mem_singleton.mp member)
        exact Nat.le_of_eq (congrArg String.utf8ByteSize same)
  resolved := rfl

theorem vendor_contained :
    (vendor.resolve vendorRequest Session.start).1.toOption =
        some ⟨"/vendor/lib/main.js", fileSpace, false⟩ ∧
      Text.startsWith "/vendor/lib/main.js" "/vendor/lib/" = true := by
  have resolved : (vendor.resolve vendorRequest Session.start).1.toOption =
      some ⟨"/vendor/lib/main.js", fileSpace, false⟩ := by decide +kernel
  have leads : ∃ piece ∈ Text.split '/' ".//main".toList, piece ≠ [] ∧ piece ≠ ['.'] :=
    ⟨"main".toList, by decide, by decide, by decide⟩
  have silent : vendor.chain.resolveHandlers = [] := rfl
  refine ⟨resolved, ?_⟩
  rcases contained_of_rewrites silent (by decide) ofJson_vendorDocument rfl rfl rfl vendor_rewrites
      (by decide) leads Session.start with ⟨error, failed⟩ | ⟨path, _, _, starts, found⟩
  · rw [failed] at resolved
    cases resolved
  · rw [found] at resolved
    cases resolved
    exact starts

end Workspace

end ModuleGraph
