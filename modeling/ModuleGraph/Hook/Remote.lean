/-
This file loads modules from the web, each resource through a cache.
-/

import ModuleGraph.Cache.Key
import ModuleGraph.Hook.Basic
import ModuleGraph.Url.Parse

namespace ModuleGraph.Hook.Remote

/-- The space of modules from the web. -/
def space : String :=
  "http-url"

/-- Why a resource could not be fetched. -/
inductive FetchError where
  | request (url cause : String)
  | status (url : String) (code : Nat)
  deriving DecidableEq

def FetchError.message : FetchError → String
  | request url cause => s!"Request to {url} failed: {cause}"
  | status url code => s!"Request to {url} returned HTTP {code}"

/-- The web, as far as resources are fetched from it. -/
abbrev Web := String → Except FetchError ByteArray

/-- The web without a connection. A text that is no URL cannot even be sent. -/
def offline : Web := fun url =>
  match Url.parse url with
  | .ok _ => .error (.request url "error sending request")
  | .error _ => .error (.request url "builder error")

/-- Sees the specifiers that are URLs of the web. -/
def webUrls : Filter :=
  Filter.startingWith ["http://", "https://"]

def claim : Callback ResolveRequest ResolveAnswer :=
  fun request session => (.ok (some ⟨request.path, some space, false⟩), session)

/-- The URL that a specifier names inside a remote module. -/
def join (importer specifier : String) : Except Url.ParseError String := do
  let base ← Url.parse importer
  let url ← base.join specifier
  return url.toText

/-- Resolves the paths that a remote module imports against its URL. -/
def resolve : Callback ResolveRequest ResolveAnswer :=
  fun request session =>
    match request.importer with
    | none => (.ok none, session)
    | some importer =>
        if Path.isPathSpecifier request.path then
          match join importer request.path with
          | .ok url => (.ok (some ⟨url, some space, false⟩), session)
          | .error error => (.error error.message, session)
        else (.ok none, session)

def kindOf (url : String) : ContentKind :=
  match Url.parse url with
  | .ok parsed => ContentKind.ofPath parsed.path.toText
  | .error _ => ContentKind.ofPath url

def answer (url : String) (body : ByteArray) : LoadAnswer :=
  ⟨Content.ofBytes body, some (kindOf url)⟩

/-- The body of a resource: the one in the cache, or else a fetched one, which is then cached. -/
def body (web : Web) (slot : Nat) (url : String) (session : Session) :
    Except FetchError ByteArray × Session :=
  match session.caches[slot]? with
  | none => (web url, session.record (.fetched url))
  | some cache =>
      match cache.get session.now (Cache.key url []) with
      | (some body, cache) =>
          (.ok body, { session with caches := session.caches.set slot cache })
      | (none, cache) =>
          let session := session.record (.fetched url)
          match web url with
          | .error error =>
              (.error error, { session with caches := session.caches.set slot cache })
          | .ok body =>
              let cache := cache.set session.now (Cache.key url []) body
              (.ok body, { session with caches := session.caches.set slot cache })

def load (web : Web) (slot : Nat) : Callback LoadRequest LoadAnswer :=
  fun request session =>
    match body web slot request.path session with
    | (.ok body, session) => (.ok (some (answer request.path body)), session)
    | (.error error, session) => (.error error.message, session)

/-- The plugin for the web, with the cache at `slot` as its own. -/
def plugin (web : Web) (slot : Nat) : Plugin where
  name := "http"
  setup := fun registration =>
    .ok (((registration.onResolve webUrls claim).onResolve (Filter.inSpace space) resolve).onLoad
      (Filter.inSpace space) (load web slot))

end ModuleGraph.Hook.Remote
