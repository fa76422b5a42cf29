/-
This file keeps chosen specifiers out of the module graph.
-/

import ModuleGraph.Hook.Basic

namespace ModuleGraph.Hook.External

/-- A pattern that ends in an asterisk stands for every specifier with the same start. Any other
stands for a package and the paths inside it. -/
def covers (pattern specifier : String) : Bool :=
  match Text.dropEnd? pattern "*" with
  | some start => Text.startsWith specifier start
  | none => specifier == pattern || Text.startsWith specifier (pattern ++ "/")

def resolve (patterns : List String) : Callback ResolveRequest ResolveAnswer :=
  fun request session =>
    if patterns.any fun pattern => covers pattern request.path then
      (.ok (some ⟨request.path, none, true⟩), session)
    else (.ok none, session)

def plugin (patterns : List String) : Plugin where
  name := "external"
  setup := fun registration =>
    if patterns.isEmpty then .ok registration
    else .ok (registration.onResolve Filter.any (resolve patterns))

end ModuleGraph.Hook.External
