/-
This file resolves and loads the modules of one project: plugins first, then the import map, then
the files.
-/

import ModuleGraph.Config
import ModuleGraph.FileTable.Probe
import ModuleGraph.Hook.Chain
import ModuleGraph.ImportMap.Resolve

namespace ModuleGraph

/-- A module that a specifier leads to. -/
structure ResolvedModule where
  path : String
  space : String
  /-- Whether the module stays out of the graph. -/
  external : Bool
  deriving DecidableEq

namespace ResolvedModule

def ofAnswer (answer : ResolveAnswer) : ResolvedModule :=
  ⟨answer.path, answer.effectiveSpace, answer.external⟩

/-- A module is known by its space and its path. -/
def identity (resolved : ResolvedModule) : String × String :=
  (resolved.space, resolved.path)

def toJson (resolved : ResolvedModule) : Json :=
  .object [("path", .string resolved.path), ("namespace", .string resolved.space),
    ("external", .bool resolved.external)]

end ResolvedModule

/-- A module with what it holds. -/
structure LoadedModule where
  path : String
  space : String
  contents : Content
  loader : ContentKind
  deriving DecidableEq

structure Workspace where
  files : FileTable
  importMap : Option ImportMap
  chain : Hook.Chain
  config : Config

namespace Workspace

open Hook

/-- A workspace over files; the lists of the settings take the place of those of the files. -/
def new (files : FileTable) (config : Config) : Workspace :=
  ⟨files.withLists config.extensions config.indexFiles, none, Chain.empty, config⟩

def register (workspace : Workspace) (plugin : Plugin) : Except PluginError Workspace :=
  (workspace.chain.register plugin).map fun chain => { workspace with chain := chain }

/-- The module that a plugin's answer stands for. A file may be named without its extension or by
its directory, and then the file found takes the place of the name. -/
def settle (workspace : Workspace) (answer : ResolveAnswer) : ResolvedModule :=
  let resolved := ResolvedModule.ofAnswer answer
  if resolved.space == fileSpace && !resolved.external && Path.isRooted resolved.path then
    match workspace.files.probe? (Path.normalize resolved.path) with
    | some file => { resolved with path := file.path }
    | none => resolved
  else resolved

/-- Offers a request to the plugins. -/
def claim (workspace : Workspace) (request : ResolveRequest) (session : Session) :
    Except Error (Option ResolvedModule) × Session :=
  match workspace.chain.resolve request session with
  | (.error error, session) => (.error (.plugin error), session)
  | (.ok answer, session) => (.ok (answer.map workspace.settle), session)

/-- What a request without an importer is resolved against. -/
def referrer (request : ResolveRequest) : String :=
  request.importer.getD "/"

/-- The target that the import map has for a request. -/
def remap (workspace : Workspace) (request : ResolveRequest) : Except Error (Option String) :=
  match workspace.importMap with
  | none => .ok none
  | some map =>
      match map.resolve request.path (referrer request) with
      | .ok target => .ok target
      | .error error => .error (.importMap error)

/-- Resolves a specifier that no plugin claims: a URL is external, and a path names a file. The
error names the specifier of the request. -/
def resolveUnclaimed (workspace : Workspace) (request : ResolveRequest) (specifier : String) :
    Except Error ResolvedModule :=
  if Path.isPathSpecifier specifier then find specifier
  else if (Url.parse specifier).toOption.isSome then .ok ⟨specifier, fileSpace, true⟩
  else if request.kind = .entryPoint then find (Path.normalize specifier)
  else .error (.unmapped request.path request.importer)
where
  find (specifier : String) : Except Error ResolvedModule :=
    let missing : Error := .fileNotFound request.path request.importer
    if request.space != fileSpace then .error missing
    else
      match workspace.files.probe? (Path.resolve (referrer request) specifier) with
      | some file => .ok ⟨file.path, fileSpace, false⟩
      | none => .error missing

/-- Resolves a request. The plugins are asked first, and again for the target of the import map if
that is another specifier. -/
def resolve (workspace : Workspace) (request : ResolveRequest) (session : Session) :
    Except Error ResolvedModule × Session :=
  match workspace.claim request session with
  | (.error error, session) => (.error error, session)
  | (.ok (some resolved), session) => (.ok resolved, session)
  | (.ok none, session) =>
      match workspace.remap request with
      | .error error => (.error error, session)
      | .ok none => (workspace.resolveUnclaimed request request.path, session)
      | .ok (some target) =>
          if target = request.path then (workspace.resolveUnclaimed request target, session)
          else
            match workspace.claim { request with path := target } session with
            | (.error error, session) => (.error error, session)
            | (.ok (some resolved), session) => (.ok resolved, session)
            | (.ok none, session) => (workspace.resolveUnclaimed request target, session)

/-- The request of an import in a file, or of an entry point if there is no importer. -/
def requestOf (specifier : String) (importer : Option String) : ResolveRequest :=
  ⟨specifier, importer, fileSpace,
    if importer.isSome then .importStatement else .entryPoint⟩

def resolveSpecifier (workspace : Workspace) (specifier : String) (importer : Option String)
    (session : Session) : Except Error ResolvedModule × Session :=
  workspace.resolve (requestOf specifier importer) session

/-- The contents of a module that no plugin loads. -/
def loadFile (workspace : Workspace) (resolved : ResolvedModule) : Except Error LoadedModule :=
  if resolved.space != fileSpace then .error (.fileNotFound resolved.path none)
  else
    match workspace.files.read resolved.path with
    | .error error => .error error
    | .ok contents =>
        .ok ⟨resolved.path, resolved.space, contents, ContentKind.ofPath resolved.path⟩

def load (workspace : Workspace) (resolved : ResolvedModule) (session : Session) :
    Except Error LoadedModule × Session :=
  match workspace.chain.load ⟨resolved.path, resolved.space⟩ session with
  | (.error error, session) => (.error (.plugin error), session)
  | (.ok (some answer), session) =>
      let loader := answer.loader.getD (ContentKind.ofPath resolved.path)
      (.ok ⟨resolved.path, resolved.space, answer.contents, loader⟩, session)
  | (.ok none, session) => (workspace.loadFile resolved, session)

end Workspace

end ModuleGraph
