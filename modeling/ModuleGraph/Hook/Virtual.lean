/-
This file serves modules that exist only in memory.
-/

import ModuleGraph.Hook.Basic
import Std.Data.TreeMap.Basic

namespace ModuleGraph.Hook.Virtual

/-- The space of modules that exist only in memory. -/
def space : String :=
  "virtual"

/-- What specifiers of virtual modules start with. -/
def scheme : String :=
  "virtual:"

structure Module where
  code : String
  /-- How to treat the module; its id tells if none is given. -/
  loader : Option ContentKind

/-- Virtual modules under their ids. -/
abbrev Modules := Std.TreeMap String Module

def add (modules : Modules) (id code : String) (loader : Option ContentKind) : Modules :=
  modules.insert id ⟨code, loader⟩

/-- The text without the scheme at its start, however often it is repeated. -/
def dropScheme : List Char → List Char
  | 'v' :: 'i' :: 'r' :: 't' :: 'u' :: 'a' :: 'l' :: ':' :: rest => dropScheme rest
  | text => text

/-- The id that a specifier names. -/
def idOf (specifier : String) : String :=
  String.ofList (dropScheme specifier.toList)

def resolve (modules : Modules) : Callback ResolveRequest ResolveAnswer :=
  fun request session =>
    let id := idOf request.path
    if modules.contains id then (.ok (some ⟨id, some space, false⟩), session)
    else (.ok none, session)

def load (modules : Modules) : Callback LoadRequest LoadAnswer :=
  fun request session =>
    match modules[request.path]? with
    | none => (.ok none, session)
    | some entry =>
        let loader := entry.loader.getD (ContentKind.ofPath request.path)
        (.ok (some ⟨.text entry.code, some loader⟩), session)

def plugin (modules : Modules) : Plugin where
  name := "virtual"
  setup := fun registration =>
    .ok ((registration.onResolve (Filter.startingWith [scheme]) (resolve modules)).onLoad
      (Filter.inSpace space) (load modules))

end ModuleGraph.Hook.Virtual
