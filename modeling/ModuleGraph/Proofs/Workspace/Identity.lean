/-
This file shows that a stored file is known by the path it is stored under, as long as plugins name
it by a path that starts at the root.
-/

import ModuleGraph.Hook.Scripted
import ModuleGraph.Proofs.Build.BreadthFirst
import ModuleGraph.Proofs.FileTable.History

namespace ModuleGraph

open Hook

namespace FileTable

variable {table : FileTable}

/-- The path of a stored file, however it is spelled, as long as it starts at the root. -/
structure Names (table : FileTable) (path : String) : Prop where
  rooted : Path.isRooted path = true
  stored : Path.normalize path ∈ table.paths

instance (table : FileTable) (path : String) : Decidable (table.Names path) :=
  decidable_of_iff (Path.isRooted path = true ∧ Path.normalize path ∈ table.paths)
    ⟨fun named => ⟨named.1, named.2⟩, fun named => ⟨named.rooted, named.stored⟩⟩

/-- A file that a probe finds has the path that it is stored under. -/
theorem IsNormal.normalize_of_probe? (normal : table.IsNormal) {target : String}
    {file : FoundFile} (probed : table.probe? target = some file) :
    Path.normalize file.path = file.path :=
  (normal file.path (mem_of_probe? probed).1).2

/-- A probe of the path of a stored file finds a file. -/
theorem IsNormal.probe?_ne_none (normal : table.IsNormal) {path : String}
    (stored : Path.normalize path ∈ table.paths) : table.probe? (Path.normalize path) ≠ none := by
  have found := normal.find?_isSome (Std.TreeMap.mem_keys.mp stored)
  obtain ⟨content, found⟩ := Option.isSome_iff_exists.mp found
  rw [probe?, candidates, List.findSome?_cons, hit?_eq, found]
  exact Option.some_ne_none _

end FileTable

namespace Workspace

variable {workspace : Workspace}

/-- A module that is among the files, and whose path names a stored file. -/
structure Among (workspace : Workspace) (resolved : ResolvedModule) : Prop where
  inside : resolved.external = false
  space : resolved.space = fileSpace
  named : workspace.files.Names resolved.path

/-- An answer of a plugin that names a stored file names it by the path that it is stored under. -/
theorem normalize_settle (normal : workspace.files.IsNormal) {answer : ResolveAnswer}
    (among : workspace.Among (workspace.settle answer)) :
    Path.normalize (workspace.settle answer).path = (workspace.settle answer).path := by
  obtain ⟨inside, space, rooted, stored⟩ := among
  rcases workspace.settle_cases answer with ⟨file, probed, settled⟩ | ⟨settled, missing⟩
  · rw [settled]
    exact normal.normalize_of_probe? probed
  · rw [settled] at inside space rooted stored
    exact absurd (missing space inside rooted) (normal.probe?_ne_none stored)

/-- Whatever leads to a module that names a stored file, it leads to the path of that file. -/
theorem Answers.normalize_path (normal : workspace.files.IsNormal) {request : ResolveRequest}
    {resolved : ResolvedModule} (answers : workspace.Answers request (.ok resolved))
    (among : workspace.Among resolved) : Path.normalize resolved.path = resolved.path := by
  cases answers with
  | claimed answer => exact normalize_settle normal among
  | remote specifier => exact absurd among.inside Bool.noConfusion
  | found target file probed => exact normal.normalize_of_probe? probed

/-- A module of a report among the files that names a stored file. -/
def Lists (workspace : Workspace) (built : BuiltModule) : Prop :=
  built.space = fileSpace ∧ workspace.files.Names built.path

instance (workspace : Workspace) (built : BuiltModule) : Decidable (workspace.Lists built) :=
  inferInstanceAs (Decidable (_ ∧ _))

/-- A stored file is known by its stored path: a specifier that leads to it leads to that path, and
no report lists it twice. -/
structure KnowsFiles (workspace : Workspace) : Prop where
  resolve : ∀ request session resolved, (workspace.resolve request session).1 = .ok resolved →
    resolved.external = false → resolved.space = fileSpace →
    workspace.files.Names resolved.path → Path.normalize resolved.path = resolved.path
  build : ∀ toolchain limit entries session report last,
    workspace.build toolchain limit entries session = some (report, last) →
    ((report.modules.filter fun built => workspace.Lists built).map fun built =>
      Path.normalize built.path).Nodup

section Takes

variable {toolchain : Toolchain} {entries : List String} {session last : Session} {course : Course}
  {final : Walk}

/-- Every module of a report has the path of a stored file if it names one. -/
theorem Takes.normalize_path (takes : workspace.Takes toolchain entries session course final last)
    (normal : workspace.files.IsNormal) {built : BuiltModule}
    (member : built ∈ final.report.modules) (lists : workspace.Lists built) :
    Path.normalize built.path = built.path := by
  rw [takes.modules] at member
  obtain ⟨visit, visited, added⟩ := List.mem_flatMap.mp member
  have identity := (takes.steps.finds visit visited).identity (Option.mem_toList.mp added)
  obtain ⟨space, path⟩ := Prod.mk.inj identity
  obtain ⟨inside, request, answer⟩ := takes.answers visit visited
  have normalized := answer.normalize_path normal
  rw [← path] at normalized
  exact normalized ⟨inside, space ▸ lists.1, path ▸ lists.2⟩

end Takes

theorem knowsFiles_of_isNormal (normal : workspace.files.IsNormal) : workspace.KnowsFiles where
  resolve := by
    intro request session resolved led inside space named
    have answers := workspace.answers_resolve request session
    rw [led] at answers
    exact answers.normalize_path normal ⟨inside, space, named⟩
  build := by
    intro toolchain limit entries session report last built
    obtain ⟨course, final, takes, rfl, _⟩ := build_eq_some_iff.mp built
    -- The modules that are listed differ in their paths, since they are in one space.
    have distinct := takes.nodup_modules.of_map
    refine List.Nodup.map_on ?_ (distinct.filter _)
    intro first memberFirst second memberSecond same
    obtain ⟨memberFirst, listsFirst⟩ := List.mem_filter.mp memberFirst
    obtain ⟨memberSecond, listsSecond⟩ := List.mem_filter.mp memberSecond
    have listsFirst := of_decide_eq_true listsFirst
    have listsSecond := of_decide_eq_true listsSecond
    rw [takes.normalize_path normal memberFirst listsFirst,
      takes.normalize_path normal memberSecond listsSecond] at same
    have identity : first.identity = second.identity :=
      Prod.ext (listsFirst.1.trans listsSecond.1.symm) same
    exact List.inj_on_of_nodup_map takes.nodup_modules memberFirst memberSecond identity

/-- Whatever was done to the files of a workspace, and whatever its plugins answer, a stored file is
known by its stored path wherever it is named by a path that starts at the root. -/
theorem knowsFiles_ofHistory (workspace : Workspace) (history : List FileTable.Operation) :
    KnowsFiles { workspace with files := .ofHistory history } :=
  knowsFiles_of_isNormal (FileTable.isNormal_ofHistory history)

/-- One file, and a plugin that names it without the slash at the start. -/
def unrooted : Workspace :=
  { Workspace.new (FileTable.ofFiles [("/a.js", .text "")]) Config.default with
    chain := ⟨["alias"], [⟨"alias", .startingWith ["alias"],
      Scripted.onResolve "alias" 0 (.answer "a.js") none false⟩], []⟩ }

/-- A path that does not start at the root is not looked up, and so the file has two identities. -/
theorem unrooted_two_spellings :
    (unrooted.resolve (requestOf "alias" none) Session.start).1.toOption =
        some ⟨"a.js", fileSpace, false⟩ ∧
      Path.normalize "a.js" ∈ unrooted.files.paths ∧ Path.normalize "a.js" ≠ "a.js" ∧
      (unrooted.build Toolchain.scan 2 ["alias", "/a.js"] Session.start).map
          (fun outcome => outcome.1.modules.map BuiltModule.identity) =
        some [(fileSpace, "a.js"), (fileSpace, "/a.js")] := by
  decide +kernel

end Workspace

end ModuleGraph
