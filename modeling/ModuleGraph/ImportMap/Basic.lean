/-
This file holds import maps: tables of keys and targets, some of them for certain referrers only.
-/

import ModuleGraph.Error
import ModuleGraph.Path
import ModuleGraph.Url.Parse

namespace ModuleGraph

namespace ImportMap

/-- What a key maps to. -/
inductive Target where
  | address (text : String)
  /-- The key must not resolve. -/
  | blocked
  deriving DecidableEq

/-- Keys and their targets, longer keys first. -/
abbrev Table := List (String × Target)

/-- A table for the referrers whose location starts with `start`. -/
structure Scope where
  start : String
  table : Table

/-- What the relative addresses of a map are resolved against. -/
inductive Base where
  | url (value : Url)
  | directory (path : String)

/-- The table that a member stands in. -/
inductive Context where
  | imports
  | scope (written : String)

def Context.tag : Context → String
  | imports => "imports"
  | scope written => s!"scopes[\"{written}\"]"

/-- A member of the document that the map leaves out. -/
inductive Warning where
  | notString (key : String) (context : Context)
  | duplicateKey (key : String) (context : Context) (normal : String)
  | duplicateScope (scope normal : String)

def Warning.message : Warning → String
  | notString key context => s!"Ignored non-string value for \"{key}\" in {context.tag}"
  | duplicateKey key context normal =>
      s!"Ignored duplicate key \"{key}\" in {context.tag} (normalizes to \"{normal}\")"
  | duplicateScope scope normal =>
      s!"Ignored duplicate scope \"{scope}\" (normalizes to \"{normal}\")"

end ImportMap

structure ImportMap where
  base : ImportMap.Base
  imports : ImportMap.Table
  /-- The scopes, longer starts first. -/
  scopes : List ImportMap.Scope
  warnings : List ImportMap.Warning

namespace ImportMap

def isEmpty (map : ImportMap) : Bool :=
  map.imports.isEmpty && map.scopes.isEmpty

/-- Whether an address is written relative to a place. -/
def isPlaced (address : String) : Bool :=
  Text.startsWith address "./" || Text.startsWith address "../" || Path.isRooted address

namespace Base

/-- A base that is no URL names a directory if it ends in a slash, and a file otherwise. -/
def parse (written : String) : Base :=
  match Url.parse written with
  | .ok value => url value
  | .error _ =>
      if written.isEmpty || Text.endsWith written "/" then directory (Path.normalize written)
      else directory (Path.directory written)

/-- The address as seen from the base; one that cannot be joined to it stays as it is. -/
def join (base : Base) (address : String) : String :=
  match base with
  | url value =>
      match value.join address with
      | .ok joined => joined.toText
      | .error _ => address
  | directory path => Path.keepSlash address (Path.joinDirectory path address)

/-- The normal form of a key or a target; bare specifiers are their own. -/
def normalize (base : Base) (address : String) : String :=
  match Url.canonical? address with
  | some text => text
  | none => if isPlaced address then base.join address else address

/-- The normal form of the start of a scope, which names a location even when it is bare. -/
def normalizeScope (base : Base) (start : String) : String :=
  match Url.canonical? start with
  | some text => text
  | none => base.join start

end Base

end ImportMap

end ModuleGraph
