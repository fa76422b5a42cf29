/-
This file describes plugins whose handlers act by a fixed script.
-/

import ModuleGraph.Hook.Basic

namespace ModuleGraph.Hook.Scripted

/-- What a script does with a specifier. -/
inductive ResolveAction where
  | pass
  | fail (cause : String)
  | answer (path : String)
  /-- Answers with the parts of the request. -/
  | echo
  /-- Answers with another start, if the path has the given one. -/
  | replaceStart (start replacement : String)

/-- What a script does with a module. -/
inductive LoadAction where
  | pass
  | fail (cause : String)
  | answer (contents : Content)
  | echo

/-- The action of a handler, and how its answers are marked. -/
inductive Action where
  | resolve (action : ResolveAction) (space : Option String) (external : Bool)
  | load (action : LoadAction) (loader : Option ContentKind)

structure Script where
  pattern : String
  space : Option String
  action : Action

/-- The parts of a request in one text. -/
def describe (request : ResolveRequest) : String :=
  let importer := request.importer.getD "<none>"
  request.kind.tag ++ "|" ++ request.space ++ "|" ++ importer ++ "|" ++ request.path

def resolvePath? (request : ResolveRequest) : ResolveAction → Except String (Option String)
  | .pass => .ok none
  | .fail cause => .error cause
  | .answer path => .ok (some path)
  | .echo => .ok (some (describe request))
  | .replaceStart start replacement =>
      .ok ((Text.dropStart? request.path start).map (replacement ++ ·))

def loadContents? (request : LoadRequest) : LoadAction → Except String (Option Content)
  | .pass => .ok none
  | .fail cause => .error cause
  | .answer contents => .ok (some contents)
  | .echo => .ok (some (.text (request.space ++ "|" ++ request.path)))

def onResolve (name : String) (number : Nat) (action : ResolveAction) (space : Option String)
    (external : Bool) : Callback ResolveRequest ResolveAnswer :=
  fun request session =>
    ((resolvePath? request action).map fun path => path.map fun path => ⟨path, space, external⟩,
      session.record (.called name number .resolve request.path))

def onLoad (name : String) (number : Nat) (action : LoadAction) (loader : Option ContentKind) :
    Callback LoadRequest LoadAnswer :=
  fun request session =>
    ((loadContents? request action).map fun contents =>
      contents.map fun contents => ⟨contents, loader⟩,
      session.record (.called name number .load request.path))

def addScript (name : String) (registration : Registration) (script : Script × Nat) :
    Except String Registration :=
  let (script, number) := script
  match Filter.parse script.pattern with
  | .error error => .error error.message
  | .ok filter =>
      let filter := { filter with space := script.space }
      match script.action with
      | .resolve action space external =>
          .ok (registration.onResolve filter (onResolve name number action space external))
      | .load action loader => .ok (registration.onLoad filter (onLoad name number action loader))

/-- A plugin that adds a handler for each script, and then fails if a cause is given. -/
def plugin (name : String) (scripts : List Script) (failure : Option String) : Plugin where
  name := name
  setup := fun registration => do
    let registration ← scripts.zipIdx.foldlM (addScript name) registration
    match failure with
    | some cause => throw cause
    | none => return registration

end ModuleGraph.Hook.Scripted
