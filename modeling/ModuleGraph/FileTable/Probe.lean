/-
This file finds the file that a path stands for when its extension or its index file is left out.
-/

import ModuleGraph.FileTable

namespace ModuleGraph

/-- A file that a specifier stands for. -/
structure FoundFile where
  path : String
  content : Content

def FoundFile.kind (file : FoundFile) : ContentKind :=
  ContentKind.ofPath file.path

namespace FileTable

/-- The target with each extension added. -/
def extended (table : FileTable) (target : String) : List String :=
  table.extensions.map (target ++ ·)

/-- The target with its extension exchanged for each other, if it is one of those tried. -/
def exchanged (table : FileTable) (target : String) : List String :=
  let current := Path.extension target
  if current != "" && table.extensions.contains current then
    (table.extensions.filter (· != current)).map (Path.stem target ++ ·)
  else []

/-- The index files of the target as a directory. -/
def indexed (table : FileTable) (target : String) : List String :=
  let directory := String.ofList (Text.trimSlashes target.toList)
  table.indexFiles.map fun index => directory ++ "/" ++ index

/-- Every path that the target may stand for, the preferred first. -/
def candidates (table : FileTable) (target : String) : List String :=
  target :: (table.extended target ++ table.exchanged target ++ table.indexed target)

/-- The file of a candidate, under its stored path. -/
def hit? (table : FileTable) (candidate : String) : Option FoundFile :=
  let path := Path.normalize candidate
  (table.find? path).map fun content => ⟨path, content⟩

/-- The file of the first candidate that has one. -/
def probe? (table : FileTable) (target : String) : Option FoundFile :=
  (table.candidates target).findSome? table.hit?

/-- The file that a specifier written in `base` stands for. -/
def resolve (table : FileTable) (base specifier : String) : Except Error FoundFile :=
  match table.probe? (Path.resolve base specifier) with
  | some file => .ok file
  | none => .error (.fileNotFound specifier (some base))

end FileTable

end ModuleGraph
