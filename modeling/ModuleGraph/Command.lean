/-
This file runs the commands of the command line and presents what comes of them.
-/

import ModuleGraph.Build
import ModuleGraph.Project

namespace ModuleGraph

open Hook

inductive Command where
  | resolve (specifier : String) (importer : Option String)
  /-- Without entries the build starts from those of the project. -/
  | build (entries : List String) (emitCode : Bool)

/-- What comes of a command. -/
inductive Outcome where
  | resolved (specifier : String) (importer : Option String)
      (result : Except Error ResolvedModule)
  /-- The project was not in order. -/
  | refused (entries : List String) (error : Error)
  | built (entries : List String) (report : Report) (emitCode : Bool)

/-- The lines that a command prints. -/
structure Lines where
  out : List String
  err : List String
  deriving DecidableEq

namespace Command

/-- A project that is ready to be worked on. -/
def setUp (path : String) (manifest : Option ByteArray) (web : Option Remote.Web) :
    Except Error (Project × Workspace) := do
  let project ← Project.load path manifest
  let workspace ← project.workspace web
  return (project, workspace)

/-- Runs a command on a manifest. There is no outcome if more than `limit` modules are queued. -/
def run (command : Command) (path : String) (manifest : Option ByteArray)
    (web : Option Remote.Web) (limit : Nat) : Option Outcome :=
  match command, setUp path manifest web with
  | resolve specifier importer, .error error => some (.resolved specifier importer (.error error))
  | resolve specifier importer, .ok (project, workspace) =>
      some (.resolved specifier importer
        (workspace.resolveSpecifier specifier importer project.session).1)
  | build entries _, .error error => some (.refused entries error)
  | build entries emitCode, .ok (project, workspace) =>
      let entries := if entries.isEmpty then project.entries else entries
      (workspace.build Toolchain.scan limit entries project.session).map fun (report, _) =>
        .built entries report emitCode

end Command

namespace Outcome

def succeeded : Outcome → Bool
  | resolved _ _ result => result.toBool
  | refused _ _ => false
  | built _ report _ => report.ok

def exitCode (outcome : Outcome) : Nat :=
  if outcome.succeeded then 0 else 1

/-- The text of an error. Where the time is not told, the words of the JSON reader are cut too. -/
def errorText (elapsed : Option Nat) (error : Error) : String :=
  match elapsed with
  | none => error.messageWith fun _ => "..."
  | some _ => error.message

def errorJson (elapsed : Option Nat) (error : Error) : Json :=
  .object [("code", .string error.code), ("message", .string (errorText elapsed error))]

/-- The outcome of a build begins with its entries, and how long it took if that is known. -/
def buildMembers (ok : Bool) (entries : List String) (elapsed : Option Nat) :
    List (String × Json) :=
  [("ok", .bool ok), ("entries", .strings entries)] ++
    (match elapsed with
    | none => []
    | some elapsed => [("duration_ms", .ofNat elapsed)])

/-- The outcome as one JSON document. -/
def toJson (elapsed : Option Nat) : Outcome → Json
  | resolved specifier importer result =>
      let (found, error) := match result with
        | .ok found => (some found.toJson, none)
        | .error error => (none, some (errorJson elapsed error))
      .present [
        ("ok", some (.bool result.toBool)),
        ("specifier", some (.string specifier)),
        ("importer", importer.map .string),
        ("resolved", found),
        ("error", error)]
  | refused entries error =>
      .object (buildMembers false entries elapsed ++ [("error", errorJson elapsed error)])
  | built entries report emitCode =>
      let shown := if emitCode then report else report.withoutCode
      .object (buildMembers report.ok entries elapsed ++ shown.members)

def errorLine (elapsed : Option Nat) (error : Error) : String :=
  s!"error[{error.code}]: {errorText elapsed error}"

def moduleLines (built : BuiltModule) : List String :=
  s!"  {built.path} [{built.space}, {built.loader.tag}]" ::
    built.dependencies.map fun path => s!"    -> {path}"

def failureLines (elapsed : Option Nat) (failure : BuildFailure) : List String :=
  errorLine elapsed failure.error ::
    (failure.error.plugin?.map fun name => s!"  in plugin {name}").toList

def summary (report : Report) (elapsed : Option Nat) : String :=
  let status := if report.aborted then "aborted" else "done"
  let duration := match elapsed with
    | none => ""
    | some elapsed => s!" ({elapsed}ms)"
  s!"{status}: {report.modules.length} modules, {report.externals.length} externals, " ++
    s!"{report.failures.length} errors" ++ duration

/-- The outcome as lines for a reader. -/
def toLines (elapsed : Option Nat) : Outcome → Lines
  | resolved _ _ (.ok found) =>
      ⟨[if found.external then s!"{found.path} (external)"
        else s!"{found.path} [{found.space}]"], []⟩
  | resolved _ _ (.error error) => ⟨[], [errorLine elapsed error]⟩
  | refused _ error => ⟨[], [errorLine elapsed error]⟩
  | built _ report _ =>
      ⟨report.modules.flatMap moduleLines ++
          report.externals.map (fun path => s!"  {path} (external)") ++
          [summary report elapsed],
        report.warnings.map (fun warning => s!"  warning: {warning}") ++
          report.failures.flatMap (failureLines elapsed)⟩

end Outcome

end ModuleGraph
