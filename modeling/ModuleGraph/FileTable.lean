/-
This file keeps files under the normal forms of their paths.
-/

import ModuleGraph.Content
import ModuleGraph.Error
import Std.Data.TreeMap.Basic

namespace ModuleGraph

/-- The files of a project, and what to try for a path that names none of them. -/
structure FileTable where
  files : Std.TreeMap String Content
  extensions : List String
  indexFiles : List String

namespace FileTable

def defaultExtensions : List String :=
  [".ts", ".tsx", ".js", ".jsx", ".mjs", ".json"]

def defaultIndexFiles : List String :=
  ["index.ts", "index.tsx", "index.js", "index.jsx", "index.mjs"]

def empty : FileTable :=
  ⟨∅, defaultExtensions, defaultIndexFiles⟩

/-- Stores a file, unless its path points outside the root. -/
def write (table : FileTable) (path : String) (content : Content) : FileTable :=
  if Path.escapesRoot path then table
  else { table with files := table.files.insert (Path.normalize path) content }

/-- Whether a file can be stored under the path. -/
def accepts (path : String) : Bool :=
  !Path.escapesRoot path

def ofFiles (files : List (String × Content)) : FileTable :=
  files.foldl (fun table file => table.write file.1 file.2) empty

def withLists (table : FileTable) (extensions indexFiles : List String) : FileTable :=
  { table with extensions := extensions, indexFiles := indexFiles }

/-- The file that any spelling of its path finds. -/
def find? (table : FileTable) (path : String) : Option Content :=
  if Path.escapesRoot path then none else table.files[Path.normalize path]?

def contains (table : FileTable) (path : String) : Bool :=
  (table.find? path).isSome

def read (table : FileTable) (path : String) : Except Error Content :=
  match table.find? path with
  | some content => .ok content
  | none => .error (.fileNotFound path none)

/-- Reads a file as text; a file of other bytes counts as missing. -/
def readText (table : FileTable) (path : String) : Except Error String :=
  match (table.find? path).bind Content.toText? with
  | some text => .ok text
  | none => .error (.fileNotFound path none)

/-- What `delete` removes. -/
def deleted? (table : FileTable) (path : String) : Option Content :=
  table.files[Path.normalize path]?

def delete (table : FileTable) (path : String) : FileTable :=
  { table with files := table.files.erase (Path.normalize path) }

/-- The stored paths in order. -/
def paths (table : FileTable) : List String :=
  table.files.keys

def size (table : FileTable) : Nat :=
  table.files.size

end FileTable

end ModuleGraph
