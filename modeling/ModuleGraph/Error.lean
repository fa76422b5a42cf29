/-
This file names what can go wrong, and words it for reports.
-/

import ModuleGraph.Json.Fault
import ModuleGraph.PackageName

namespace ModuleGraph

/-- What is wrong with an import map, or with a specifier that it maps. -/
inductive ImportMapError where
  | invalidJson (fault : Json.Fault)
  | notAnObject (field : String)
  | invalidScope (scope : String)
  | missingSlash (key target : String)
  | blocked (specifier : String)
  deriving DecidableEq

namespace ImportMapError

/-- The text of the error; `words` says what is wrong with a text that is not JSON. -/
def messageWith (words : Json.Fault → String) : ImportMapError → String
  | invalidJson fault => s!"Invalid import map JSON: {words fault}"
  | notAnObject field => s!"Import map field \"{field}\" must be a JSON object"
  | invalidScope scope => s!"Import map scope \"{scope}\" must map to a JSON object"
  | missingSlash key target =>
      s!"Import map entry \"{key}\" maps a prefix to \"{target}\", which does not end in '/'"
  | blocked specifier => s!"Specifier \"{specifier}\" is blocked by the import map"

def message (error : ImportMapError) : String :=
  error.messageWith Json.Fault.message

def isBlocked : ImportMapError → Bool
  | blocked _ => true
  | _ => false

end ImportMapError

/-- The part of a plugin that was at work. -/
inductive HookStage where
  | setup
  | resolve
  | load
  deriving DecidableEq, Repr

def HookStage.tag : HookStage → String
  | setup => "setup"
  | resolve => "on_resolve"
  | load => "on_load"

/-- A failure inside a plugin; a failure of its setup concerns no path. -/
structure PluginError where
  plugin : String
  stage : HookStage
  path : Option String
  cause : String
  deriving DecidableEq

def PluginError.message (error : PluginError) : String :=
  let path := match error.path with
    | none => ""
    | some path => s!" ({path})"
  s!"[{error.plugin}] {error.stage.tag}{path}: {error.cause}"

inductive Error where
  | fileNotFound (path : String) (importer : Option String)
  | importMap (error : ImportMapError)
  | plugin (error : PluginError)
  | unmapped (specifier : String) (importer : Option String)
  | transform (path cause : String)
  | configRead (path cause : String)
  | configParse (path : String) (fault : Json.Fault)
  deriving DecidableEq

namespace Error

def importedFrom : Option String → String
  | none => ""
  | some importer => s!" imported from '{importer}'"

/-- What to add to the import map so that a bare specifier resolves. -/
def suggestion? (specifier : String) : Option String :=
  let package := (PackageName.split specifier).1
  if package.isEmpty then none
  else some s!"add \"{package}\" to the \"imports\" of your import map"

def hint : Option String → String
  | none => ""
  | some suggestion => s!" (hint: {suggestion})"

def messageWith (words : Json.Fault → String) : Error → String
  | fileNotFound path importer => s!"Cannot find '{path}'" ++ importedFrom importer
  | importMap error => error.messageWith words
  | plugin error => error.message
  | unmapped specifier importer =>
      s!"Cannot resolve bare specifier '{specifier}'" ++ importedFrom importer ++
        hint (suggestion? specifier)
  | transform path cause => s!"Failed to transform {path}: {cause}"
  | configRead path cause => s!"Failed to read config at {path}: {cause}"
  | configParse path fault => s!"Failed to parse config at {path}: {words fault}"

def message (error : Error) : String :=
  error.messageWith Json.Fault.message

def code : Error → String
  | fileNotFound _ _ => "FILE_NOT_FOUND"
  | importMap error => if error.isBlocked then "IMPORT_MAP_BLOCKED" else "IMPORT_MAP_INVALID"
  | plugin _ => "PLUGIN_FAILED"
  | unmapped _ _ => "UNRESOLVED_SPECIFIER"
  | transform _ _ => "TRANSFORM_FAILED"
  | configRead _ _ => "CONFIG_READ"
  | configParse _ _ => "CONFIG_PARSE"

/-- A fatal error stops a build; a blocked specifier concerns its own import alone. -/
def isFatal : Error → Bool
  | importMap error => !error.isBlocked
  | plugin _ => true
  | configRead _ _ => true
  | configParse _ _ => true
  | fileNotFound _ _ => false
  | unmapped _ _ => false
  | transform _ _ => false

/-- The plugin to blame, if it is one. -/
def plugin? : Error → Option String
  | plugin error => some error.plugin
  | _ => none

/-- How the text was at fault, where an error comes from reading JSON. -/
def fault? : Error → Option Json.Fault
  | importMap (.invalidJson fault) => some fault
  | configParse _ fault => some fault
  | _ => none

end Error

end ModuleGraph
