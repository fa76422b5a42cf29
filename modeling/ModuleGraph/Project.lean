/-
This file reads project manifests and sets workspaces up from them.
-/

import ModuleGraph.Hook.External
import ModuleGraph.Hook.Remote
import ModuleGraph.Hook.Virtual
import ModuleGraph.ImportMap.Document
import ModuleGraph.Workspace

namespace ModuleGraph

/-- A project as its manifest describes it. -/
structure Project where
  files : Std.TreeMap String String
  importMap : Option Json
  entries : List String
  /-- The specifiers that stay out of the graph. -/
  external : List String
  /-- The modules that exist only in memory, under their ids. -/
  virtual : Std.TreeMap String String
  config : Config

namespace Project

open Hook

def empty : Project :=
  ⟨∅, none, [], [], ∅, Config.default⟩

/-- The members under their names; of two with one name the later counts. -/
def tableOf (members : List (String × String)) : Std.TreeMap String String :=
  members.foldl (fun table member => table.insert member.1 member.2) ∅

/-- The containers that a value may nest inside a manifest, which is one itself. -/
def valueDepth : Nat :=
  Json.nestingLimit - 1

def fields : List (Json.Field Project) :=
  [Json.field "files" Json.readStringTable fun project value =>
      { project with files := tableOf value },
    Json.field "importMap" (Json.readOptional (Json.readValue valueDepth)) fun project value =>
      { project with importMap := value },
    Json.field "entries" Json.readStrings fun project value => { project with entries := value },
    Json.field "external" Json.readStrings fun project value =>
      { project with external := value },
    Json.field "virtual" Json.readStringTable fun project value =>
      { project with virtual := tableOf value },
    Json.field "config" Config.read fun project value => { project with config := value }]

def read : Json.Reader Project :=
  Json.readRecord "Project" fields empty

def load (path : String) (file : Option ByteArray) : Except Error Project :=
  readJsonFile read path file

def fileTable (project : Project) : FileTable :=
  FileTable.ofFiles (project.files.toList.map fun (path, text) => (path, .text text))

def virtualModules (project : Project) : Virtual.Modules :=
  project.virtual.toList.foldl (fun modules (id, code) => Virtual.add modules id code none) ∅

/-- The plugins of a project in the order of their registration. -/
def plugins (project : Project) (web : Option Remote.Web) : List Plugin :=
  (if project.virtual.isEmpty then [] else [Virtual.plugin project.virtualModules]) ++
    (if project.external.isEmpty then [] else [External.plugin project.external]) ++
    (match web with
    | none => []
    | some web => [Remote.plugin web 0])

def registerAll : List Plugin → Workspace → Except PluginError Workspace
  | [], workspace => .ok workspace
  | plugin :: plugins, workspace =>
      match workspace.register plugin with
      | .error error => .error error
      | .ok workspace => registerAll plugins workspace

def readImportMap (project : Project) : Except ImportMapError (Option ImportMap) :=
  match project.importMap with
  | none => .ok none
  | some document => (ImportMap.ofJson document project.config.baseUrl).map some

/-- The workspace of a project. Without the web, URLs are external. -/
def workspace (project : Project) (web : Option Remote.Web) : Except Error Workspace :=
  match project.readImportMap with
  | .error error => .error (.importMap error)
  | .ok importMap =>
      let start := { Workspace.new project.fileTable project.config with importMap := importMap }
      match registerAll (project.plugins web) start with
      | .error error => .error (.plugin error)
      | .ok workspace => .ok workspace

/-- The session that a project starts with: one empty cache. -/
def session (project : Project) : Session :=
  { Session.start with
    caches := [Cache.new project.config.cache.maxSize project.config.cache.lifetime] }

end Project

end ModuleGraph
