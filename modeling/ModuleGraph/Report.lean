/-
This file holds the outcome of a build.
-/

import ModuleGraph.Content
import ModuleGraph.Error

namespace ModuleGraph

/-- A module of the graph; one of bytes has no code. -/
structure BuiltModule where
  path : String
  space : String
  loader : ContentKind
  code : Option String
  /-- The paths that the imports lead to, in order. -/
  dependencies : List String
  deriving DecidableEq

/-- A failure, and the import that it happened to. -/
structure BuildFailure where
  error : Error
  specifier : String
  importer : Option String
  deriving DecidableEq

structure Report where
  modules : List BuiltModule
  /-- The paths of modules that stay out of the graph, each once. -/
  externals : List String
  failures : List BuildFailure
  warnings : List String
  /-- Whether a fatal error stopped the build. -/
  aborted : Bool
  deriving DecidableEq

def BuiltModule.toJson (built : BuiltModule) : Json :=
  .present [
    ("path", some (.string built.path)),
    ("namespace", some (.string built.space)),
    ("loader", some (.string built.loader.tag)),
    ("code", built.code.map .string),
    ("dependencies", some (.strings built.dependencies))]

def BuildFailure.toJson (failure : BuildFailure) : Json :=
  .present [
    ("code", some (.string failure.error.code)),
    ("message", some (.string failure.error.message)),
    ("specifier", some (.string failure.specifier)),
    ("importer", failure.importer.map .string),
    ("plugin", failure.error.plugin?.map .string)]

namespace Report

def empty : Report :=
  ⟨[], [], [], [], false⟩

/-- A build is in order if nothing failed. -/
def ok (report : Report) : Bool :=
  report.failures.isEmpty && !report.aborted

def addExternal (report : Report) (path : String) : Report :=
  if report.externals.contains path then report
  else { report with externals := report.externals ++ [path] }

def addModule (report : Report) (built : BuiltModule) : Report :=
  { report with modules := report.modules ++ [built] }

/-- Adds a failure; a fatal one aborts the build. -/
def fail (report : Report) (failure : BuildFailure) : Report :=
  { report with
    failures := report.failures ++ [failure]
    aborted := report.aborted || failure.error.isFatal }

def find? (report : Report) (path : String) : Option BuiltModule :=
  report.modules.find? fun built => built.path == path

/-- The report without the code of its modules. -/
def withoutCode (report : Report) : Report :=
  { report with modules := report.modules.map fun built => { built with code := none } }

def members (report : Report) : List (String × Json) :=
  [("modules", .array (report.modules.map BuiltModule.toJson)),
    ("externals", .strings report.externals),
    ("failures", .array (report.failures.map BuildFailure.toJson)),
    ("warnings", .strings report.warnings),
    ("aborted", .bool report.aborted)]

def toJson (report : Report) : Json :=
  .object report.members

end Report

end ModuleGraph
