/-
This file walks the module graph of a workspace, breadth first from the entries.
-/

import ModuleGraph.Report
import ModuleGraph.Toolchain
import ModuleGraph.Workspace

namespace ModuleGraph

open Hook

/-- A module to load, with the import that reached it first. -/
structure Pending where
  resolved : ResolvedModule
  specifier : String
  importer : Option String

/-- A walk under way. -/
structure Walk where
  report : Report
  /-- The identities of all modules that were ever queued. -/
  seen : List (String × String)
  queue : List Pending

namespace Walk

def start (workspace : Workspace) : Walk :=
  let warnings := match workspace.importMap with
    | none => []
    | some map => map.warnings.map ImportMap.Warning.message
  ⟨{ Report.empty with warnings := warnings }, [], []⟩

def record (walk : Walk) (error : Error) (specifier : String) (importer : Option String) : Walk :=
  { walk with report := walk.report.fail ⟨error, specifier, importer⟩ }

/-- Queues a module unless it was queued before. -/
def enqueue (walk : Walk) (pending : Pending) : Walk :=
  if walk.seen.contains pending.resolved.identity then walk
  else
    { walk with
      seen := walk.seen ++ [pending.resolved.identity]
      queue := walk.queue ++ [pending] }

/-- Takes in what one specifier resolved to. -/
def visit (walk : Walk) (importer : Option String) (specifier : String)
    (result : Except Error ResolvedModule) : Walk :=
  match result with
  | .error error => walk.record error specifier importer
  | .ok resolved =>
      if resolved.external then { walk with report := walk.report.addExternal resolved.path }
      else walk.enqueue ⟨resolved, specifier, importer⟩

/-- Takes in results in order, up to the first fatal error. -/
def visitAll (importer : Option String) :
    Walk → List (String × Except Error ResolvedModule) → Walk
  | walk, [] => walk
  | walk, (specifier, result) :: results =>
      let walk := walk.visit importer specifier result
      if walk.report.aborted then walk else visitAll importer walk results

/-- Resolves requests one after the other. -/
def resolveAll (workspace : Workspace) : List ResolveRequest → Session →
    List (String × Except Error ResolvedModule) × Session
  | [], session => ([], session)
  | request :: requests, session =>
      let (result, session) := workspace.resolve request session
      let (results, session) := resolveAll workspace requests session
      ((request.path, result) :: results, session)

/-- Whether a result lets the walk go on. -/
def goesOn (result : String × Except Error ResolvedModule) : Bool :=
  match result.2 with
  | .ok _ => true
  | .error error => !error.isFatal

def path? (result : String × Except Error ResolvedModule) : Option String :=
  match result.2 with
  | .ok resolved => some resolved.path
  | .error _ => none

/-- The paths that imports lead to, up to the first fatal error. -/
def dependencies (results : List (String × Except Error ResolvedModule)) : List String :=
  (results.takeWhile goesOn).filterMap path?

/-- A file that is missing is reported with the importer that reached it first. -/
def blame (importer : Option String) : Error → Error
  | .fileNotFound path none => .fileNotFound path importer
  | error => error

/-- The text of a module that a toolchain can transform. -/
def sourceOf (loaded : LoadedModule) : Option String :=
  if loaded.loader.isTextual then loaded.contents.toText? else none

def importRequest (loaded : LoadedModule) (written : Import) : ResolveRequest :=
  ⟨written.specifier, some loaded.path, loaded.space, written.kind⟩

/-- Follows the imports of a transformed module and adds it to the report. -/
def follow (workspace : Workspace) (walk : Walk) (loaded : LoadedModule)
    (transformed : Transformed) (session : Session) : Walk × Session :=
  let (results, session) :=
    resolveAll workspace (transformed.imports.map (importRequest loaded)) session
  let walk := visitAll (some loaded.path) walk results
  let built : BuiltModule :=
    ⟨loaded.path, loaded.space, loaded.loader, some transformed.code, dependencies results⟩
  ({ walk with report := walk.report.addModule built }, session)

/-- Loads and transforms one module. -/
def process (workspace : Workspace) (toolchain : Toolchain) (walk : Walk) (pending : Pending)
    (session : Session) : Walk × Session :=
  match workspace.load pending.resolved session with
  | (.error error, session) =>
      (walk.record (blame pending.importer error) pending.specifier pending.importer, session)
  | (.ok loaded, session) =>
      match sourceOf loaded with
      | none =>
          let built : BuiltModule := ⟨loaded.path, loaded.space, loaded.loader, none, []⟩
          ({ walk with report := walk.report.addModule built }, session)
      | some source =>
          match toolchain source ⟨loaded.path, loaded.space, loaded.loader⟩ with
          | .error cause =>
              (walk.record (.transform loaded.path cause) loaded.path none, session)
          | .ok transformed => walk.follow workspace loaded transformed session

/-- Processes the queue; the walk has no report if more than `limit` modules are queued. -/
def run (workspace : Workspace) (toolchain : Toolchain) :
    Nat → Walk → Session → Option (Report × Session)
  | limit, walk, session =>
      if walk.report.aborted then some (walk.report, session)
      else
        match walk.queue, limit with
        | [], _ => some (walk.report, session)
        | _ :: _, 0 => none
        | pending :: queue, limit + 1 =>
            let (walk, session) :=
              process workspace toolchain { walk with queue := queue } pending session
            run workspace toolchain limit walk session

end Walk

namespace Workspace

def entryRequest (entry : String) : ResolveRequest :=
  requestOf entry none

/-- Builds the graph of everything that the entries lead to, if that is at most `limit` modules.
The build collects the errors that are not fatal, and stops at the first that is. -/
def build (workspace : Workspace) (toolchain : Toolchain) (limit : Nat) (entries : List String)
    (session : Session) : Option (Report × Session) :=
  let (results, session) := Walk.resolveAll workspace (entries.map entryRequest) session
  (Walk.visitAll none (Walk.start workspace) results).run workspace toolchain limit session

end Workspace

end ModuleGraph
