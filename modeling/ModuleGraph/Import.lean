/-
This file names the imports of a module.
-/

namespace ModuleGraph

/-- Why a specifier is to be resolved. -/
inductive ResolveKind where
  | entryPoint
  | importStatement
  | dynamicImport
  | requireCall
  deriving DecidableEq, Repr, Inhabited

namespace ResolveKind

def tag : ResolveKind → String
  | entryPoint => "entry-point"
  | importStatement => "import-statement"
  | dynamicImport => "dynamic-import"
  | requireCall => "require-call"

def ofTag? (written : String) : Option ResolveKind :=
  [entryPoint, importStatement, dynamicImport, requireCall].find? fun kind =>
    kind.tag == written

end ResolveKind

/-- One import of a module: the specifier as it is written, and the form of the import. -/
structure Import where
  specifier : String
  kind : ResolveKind
  deriving DecidableEq, Repr

end ModuleGraph
