/-
This file shows that an importer matters only by the directory that it is in and by the scopes that
it matches.
-/

import ModuleGraph.Proofs.ImportMap.Canonical
import ModuleGraph.Proofs.Workspace.Containment

namespace ModuleGraph

open Hook

/-- Two importers match the same scopes of a map. -/
def ImportMap.MatchesAlike (map : ImportMap) (first second : String) : Prop :=
  ∀ scope ∈ map.scopes,
    scope.Matches (Path.normalize first) ↔ scope.Matches (Path.normalize second)

/-- Two paths in one directory have the same answer from a map that they match alike. -/
theorem ImportMap.resolve_eq_of_matchesAlike {map : ImportMap} {first second here : String}
    (virtual : map.base = .directory here) (bareFirst : Url.canonical? first = none)
    (bareSecond : Url.canonical? second = none)
    (together : Path.directory first = Path.directory second)
    (alike : map.MatchesAlike first second) (specifier : String) :
    map.resolve specifier first = map.resolve specifier second := by
  have tables : map.tables (Path.normalize first) = map.tables (Path.normalize second) := by
    have same :
        (map.scopes.filter fun scope => Text.startsWith (Path.normalize first) scope.start) =
          map.scopes.filter fun scope => Text.startsWith (Path.normalize second) scope.start := by
      refine List.filter_congr fun scope member => ?_
      rw [Bool.eq_iff_iff, Text.startsWith_iff, Text.startsWith_iff]
      exact alike scope member
    rw [ImportMap.tables, ImportMap.tables, same]
  rw [ImportMap.resolve, ImportMap.resolve, canonicalReferrer_of_directory virtual bareFirst,
    canonicalReferrer_of_directory virtual bareSecond, canonicalSpecifier_normalize,
    canonicalSpecifier_normalize, together, tables]

/-- The request as another importer makes it. -/
def ResolveRequest.ofImporter (request : ResolveRequest) (importer : String) : ResolveRequest :=
  { request with importer := some importer }

namespace Workspace

/-- Two importers that are no URLs are in one directory, and match the same scopes. -/
structure Neighbours (workspace : Workspace) (first second : String) : Prop where
  bareFirst : Url.canonical? first = none
  bareSecond : Url.canonical? second = none
  together : Path.directory first = Path.directory second
  alike : ∀ map, workspace.importMap = some map → map.MatchesAlike first second

variable {workspace : Workspace} {first second : String}

theorem path_ofImporter (request : ResolveRequest) (importer : String) :
    (request.ofImporter importer).path = request.path :=
  rfl

theorem referrer_ofImporter (request : ResolveRequest) (importer : String) :
    referrer (request.ofImporter importer) = importer :=
  rfl

/-- The import map rewrites a specifier to the same target for both importers. -/
theorem remap_ofImporter (neighbours : workspace.Neighbours first second)
    (virtual : ∀ map, workspace.importMap = some map → ∃ here, map.base = .directory here)
    (request : ResolveRequest) :
    workspace.remap (request.ofImporter first) = workspace.remap (request.ofImporter second) := by
  unfold remap
  cases held : workspace.importMap with
  | none => rfl
  | some map =>
      obtain ⟨here, directory⟩ := virtual map held
      have same := ImportMap.resolve_eq_of_matchesAlike directory neighbours.bareFirst
        neighbours.bareSecond neighbours.together (neighbours.alike map held) request.path
      simp only [path_ofImporter, referrer_ofImporter, same]

/-- A path leads to the same file from every importer of a directory. -/
theorem find_ofImporter (together : Path.directory first = Path.directory second)
    (request : ResolveRequest) (target : String) :
    (resolveUnclaimed.find workspace (request.ofImporter first) target).mapError Error.code =
      (resolveUnclaimed.find workspace (request.ofImporter second) target).mapError Error.code := by
  have place : Path.resolve first target = Path.resolve second target := by
    rw [Path.resolve_eq_joinDirectory, Path.resolve_eq_joinDirectory, together]
  unfold resolveUnclaimed.find
  rw [referrer_ofImporter, referrer_ofImporter, place]
  generalize workspace.files.probe? (Path.resolve second target) = probed
  by_cases elsewhere : (request.space != fileSpace) = true
  · have outside (importer : String) : ((request.ofImporter importer).space != fileSpace) = true :=
      elsewhere
    simp only [if_pos (outside _)]
    rfl
  · have among (importer : String) : ¬ ((request.ofImporter importer).space != fileSpace) = true :=
      elsewhere
    simp only [if_neg (among _)]
    cases probed with
    | none => rfl
    | some file => rfl

theorem resolveUnclaimed_ofImporter (together : Path.directory first = Path.directory second)
    (request : ResolveRequest) (target : String) :
    (workspace.resolveUnclaimed (request.ofImporter first) target).mapError Error.code =
      (workspace.resolveUnclaimed (request.ofImporter second) target).mapError Error.code := by
  unfold resolveUnclaimed
  simp only [apply_ite (Except.mapError Error.code), find_ofImporter together]
  rfl

/-- Without plugins, the importers of one directory that match the same scopes are led to the same
module, or fail with the same code. -/
theorem resolve_neighbours (silent : workspace.chain.resolveHandlers = [])
    (virtual : ∀ map, workspace.importMap = some map → ∃ here, map.base = .directory here)
    (neighbours : workspace.Neighbours first second) (request : ResolveRequest)
    (session other : Session) :
    (workspace.resolve (request.ofImporter first) session).1.mapError Error.code =
      (workspace.resolve (request.ofImporter second) other).1.mapError Error.code := by
  have unclaimed := @resolveUnclaimed_ofImporter workspace _ _ neighbours.together request
  rw [resolve_fst, resolve_fst, claim_of_no_handlers silent, claim_of_no_handlers silent,
    remap_ofImporter neighbours virtual]
  simp only [claim_of_no_handlers silent, ite_self]
  split
  · rfl
  · exact unclaimed _
  · exact unclaimed _

/-- A workspace with one scope inside another. -/
def nested : Workspace :=
  { Workspace.new (FileTable.ofFiles [("/lib/x/z.js", .text "")]) Config.default with
    importMap := some ImportMap.nestedScopesMap }

theorem nested_neighbours : nested.Neighbours "/a/b/c.js" "a/.//b/d.js" where
  bareFirst := rfl
  bareSecond := rfl
  together := by decide
  alike := by
    rintro map ⟨⟩ scope member
    rw [ImportMap.Scope.Matches, ImportMap.Scope.Matches, ← Text.startsWith_iff,
      ← Text.startsWith_iff]
    rcases List.mem_pair.mp member with rfl | rfl <;> decide

/-- The outer scope blocks a specifier for both files in the directory of the inner scope. -/
theorem nested_blocked :
    nested.chain.resolveHandlers = [] ∧ nested.Neighbours "/a/b/c.js" "a/.//b/d.js" ∧
      (nested.resolve (requestOf "x/z" (some "a/.//b/d.js")) Session.start).1.mapError
        Error.code = .error "IMPORT_MAP_BLOCKED" := by
  have virtual : ∀ map, nested.importMap = some map → ∃ here, map.base = .directory here := by
    rintro map ⟨⟩
    exact ⟨"/", rfl⟩
  have blocked : (nested.resolve (requestOf "x/z" (some "/a/b/c.js")) Session.start).1.mapError
      Error.code = .error "IMPORT_MAP_BLOCKED" := by rfl
  have same := resolve_neighbours rfl virtual nested_neighbours
    (requestOf "x/z" (some "/a/b/c.js")) Session.start Session.start
  exact ⟨rfl, nested_neighbours, same.symm.trans blocked⟩

end Workspace

end ModuleGraph
