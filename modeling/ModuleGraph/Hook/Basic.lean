/-
This file describes the requests that plugins may answer, and the plugins themselves.
-/

import ModuleGraph.Cache
import ModuleGraph.Content
import ModuleGraph.Error
import ModuleGraph.Import
import ModuleGraph.Pattern.Match
import ModuleGraph.Pattern.Parse

namespace ModuleGraph

/-- The space of the ordinary files of a project. -/
def fileSpace : String :=
  "file"

/-- A specifier to resolve, with the module that imports it; entry points have no importer. -/
structure ResolveRequest where
  path : String
  importer : Option String
  /-- The space of the importer. -/
  space : String
  kind : ResolveKind
  deriving DecidableEq

/-- Where a plugin says that a specifier leads. -/
structure ResolveAnswer where
  path : String
  /-- The space of the module; the files if none is given. -/
  space : Option String
  external : Bool
  deriving DecidableEq

def ResolveAnswer.effectiveSpace (answer : ResolveAnswer) : String :=
  answer.space.getD fileSpace

/-- A module to load. -/
structure LoadRequest where
  path : String
  space : String
  deriving DecidableEq

/-- What a plugin says that a module holds. -/
structure LoadAnswer where
  contents : Content
  /-- How to treat the module; its path tells if none is given. -/
  loader : Option ContentKind
  deriving DecidableEq

namespace Hook

/-- Something that a plugin did. -/
inductive Event where
  /-- The handler of the given number was called. -/
  | called (plugin : String) (handler : Nat) (stage : HookStage) (path : String)
  | fetched (url : String)
  deriving DecidableEq

/-- What plugins remember between requests. -/
structure Session where
  /-- The caches of remote resources, each plugin that has one knowing its own. -/
  caches : List (Cache ByteArray)
  /-- The time in milliseconds. -/
  now : Nat
  events : List Event

def Session.start : Session :=
  ⟨[], 0, []⟩

def Session.record (session : Session) (event : Event) : Session :=
  { session with events := session.events ++ [event] }

/-- A callback answers a request, passes it on by answering nothing, or fails. -/
abbrev Callback (request answer : Type) :=
  request → Session → Except String (Option answer) × Session

/-- Which requests a handler sees: those with a path that passes a test, in one space if that is
given. -/
structure Filter where
  test : String → Bool
  space : Option String

namespace Filter

/-- Sees the requests with a path that the written pattern matches. -/
def parse (pattern : String) : Except Pattern.SyntaxError Filter :=
  (Pattern.parse pattern).map fun pattern => ⟨pattern.isMatch, none⟩

/-- Sees the requests of any path. -/
def any : Filter :=
  ⟨fun _ => true, none⟩

/-- Sees the requests of any path in one space. -/
def inSpace (space : String) : Filter :=
  ⟨fun _ => true, some space⟩

/-- Sees the requests with a path that starts with any of the given texts. -/
def startingWith (starts : List String) : Filter :=
  ⟨fun path => starts.any fun start => Text.startsWith path start, none⟩

def accepts (filter : Filter) (path space : String) : Bool :=
  (filter.space.map (· == space)).getD true && filter.test path

end Filter

/-- What a plugin contributes while it is set up: handlers in order. -/
structure Registration where
  resolve : List (Filter × Callback ResolveRequest ResolveAnswer)
  load : List (Filter × Callback LoadRequest LoadAnswer)

namespace Registration

def empty : Registration :=
  ⟨[], []⟩

def onResolve (registration : Registration) (filter : Filter)
    (callback : Callback ResolveRequest ResolveAnswer) : Registration :=
  { registration with resolve := registration.resolve ++ [(filter, callback)] }

def onLoad (registration : Registration) (filter : Filter)
    (callback : Callback LoadRequest LoadAnswer) : Registration :=
  { registration with load := registration.load ++ [(filter, callback)] }

end Registration

/-- A plugin adds its handlers during its setup, which may fail at any point. -/
structure Plugin where
  name : String
  setup : Registration → Except String Registration

end Hook

end ModuleGraph
