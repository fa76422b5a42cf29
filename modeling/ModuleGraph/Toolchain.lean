/-
This file describes what turns the text of a module into code and imports.
-/

import ModuleGraph.Content
import ModuleGraph.ImportScan

namespace ModuleGraph

/-- The module that a toolchain is given. -/
structure TransformRequest where
  path : String
  space : String
  loader : ContentKind
  deriving DecidableEq

/-- The code of a module, and its imports in order. -/
structure Transformed where
  code : String
  imports : List Import
  deriving DecidableEq

/-- A toolchain rejects a module by giving the cause. -/
abbrev Toolchain := String → TransformRequest → Except String Transformed

namespace Toolchain

/-- Leaves the code as it is; only scripts have imports. -/
def scan : Toolchain := fun code request =>
  .ok ⟨code, if request.loader.isScript then ImportScan.scan code else []⟩

end Toolchain

end ModuleGraph
