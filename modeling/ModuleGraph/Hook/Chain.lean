/-
This file keeps the handlers of plugins in order and offers requests to them.
-/

import ModuleGraph.Hook.Basic

namespace ModuleGraph.Hook

/-- A callback with its filter and the plugin that it belongs to. -/
structure Handler (request answer : Type) where
  plugin : String
  filter : Filter
  callback : Callback request answer

/-- The plugins in the order of their registration, and their handlers. -/
structure Chain where
  plugins : List String
  resolveHandlers : List (Handler ResolveRequest ResolveAnswer)
  loadHandlers : List (Handler LoadRequest LoadAnswer)

namespace Chain

def empty : Chain :=
  ⟨[], [], []⟩

/-- The handlers of a plugin. -/
def handlersOf {request answer : Type} (plugin : String)
    (handlers : List (Filter × Callback request answer)) : List (Handler request answer) :=
  handlers.map fun (filter, callback) => ⟨plugin, filter, callback⟩

/-- Sets a plugin up and adds its handlers; a setup that fails adds none. -/
def register (chain : Chain) (plugin : Plugin) : Except PluginError Chain :=
  match plugin.setup Registration.empty with
  | .error cause => .error ⟨plugin.name, .setup, none, cause⟩
  | .ok registration =>
      .ok ⟨chain.plugins ++ [plugin.name],
        chain.resolveHandlers ++ handlersOf plugin.name registration.resolve,
        chain.loadHandlers ++ handlersOf plugin.name registration.load⟩

def hasPlugins (chain : Chain) : Bool :=
  !chain.plugins.isEmpty

/-- Offers a request to the handlers that see it, up to the first that does not pass it on. -/
def offer {request answer : Type} (stage : HookStage) (path space : request → String)
    (asked : request) : List (Handler request answer) → Session →
    Except PluginError (Option answer) × Session
  | [], session => (.ok none, session)
  | handler :: handlers, session =>
      if handler.filter.accepts (path asked) (space asked) then
        match handler.callback asked session with
        | (.error cause, session) =>
            (.error ⟨handler.plugin, stage, some (path asked), cause⟩, session)
        | (.ok (some answer), session) => (.ok (some answer), session)
        | (.ok none, session) => offer stage path space asked handlers session
      else offer stage path space asked handlers session

def resolve (chain : Chain) (request : ResolveRequest) (session : Session) :
    Except PluginError (Option ResolveAnswer) × Session :=
  offer .resolve ResolveRequest.path ResolveRequest.space request chain.resolveHandlers session

def load (chain : Chain) (request : LoadRequest) (session : Session) :
    Except PluginError (Option LoadAnswer) × Session :=
  offer .load LoadRequest.path LoadRequest.space request chain.loadHandlers session

end Chain

end ModuleGraph.Hook
