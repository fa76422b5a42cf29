/-
This file shows that the cache of the plugin for the web cannot be told from its answers: they are
those of a plugin that fetches every resource anew.
-/

import ModuleGraph.Hook.Remote
import ModuleGraph.Proofs.Cache
import ModuleGraph.Proofs.Hook.Functional

namespace ModuleGraph.Hook

section Caches

/-- Two sessions differ at most in the cache at one place, and in what was done. -/
structure Alike (slot : Nat) (session other : Session) : Prop where
  now : session.now = other.now
  caches : ∀ index, index ≠ slot → session.caches[index]? = other.caches[index]?

/-- A callback that neither sees nor changes the cache at one place. -/
structure Ignores {request answer : Type} (slot : Nat) (callback : Callback request answer) :
    Prop where
  agree : Agree (Alike slot) callback callback
  cache : ∀ asked session, (callback asked session).2.caches[slot]? = session.caches[slot]?

/-- All callbacks of a plugin ignore the cache at one place. -/
structure Plugin.Ignores (slot : Nat) (plugin : Plugin) : Prop where
  resolve : ∀ handler ∈ plugin.resolveHandlers, Hook.Ignores slot handler.callback
  load : ∀ handler ∈ plugin.loadHandlers, Hook.Ignores slot handler.callback

theorem Alike.refl (slot : Nat) (session : Session) : Alike slot session session :=
  ⟨rfl, fun _ _ => rfl⟩

/-- A callback that remembers nothing ignores every cache. -/
theorem Ignores.of_unchanged {request answer : Type} {callback : Callback request answer}
    (slot : Nat) (functional : ∀ asked session other,
      (callback asked session).1 = (callback asked other).1)
    (unchanged : ∀ asked session, (callback asked session).2 = session) :
    Ignores slot callback where
  agree := by
    intro asked session other alike
    refine ⟨functional asked session other, ?_⟩
    rw [unchanged, unchanged]
    exact alike
  cache := fun asked session => by rw [unchanged]

end Caches

namespace Remote

section Transparency

/-- What a load returns that fetches the resource. -/
def reply (web : Web) (request : LoadRequest) : Except String (Option LoadAnswer) :=
  match web request.path with
  | .ok body => .ok (some (answer request.path body))
  | .error error => .error error.message

/-- Loads a module without a cache. -/
def fetch (web : Web) : Callback LoadRequest LoadAnswer :=
  fun request session => (reply web request, session.record (.fetched request.path))

/-- The plugin for the web without a cache. -/
def uncached (web : Web) : Plugin where
  name := "http"
  setup := fun registration =>
    .ok (((registration.onResolve webUrls claim).onResolve (Filter.inSpace space) resolve).onLoad
      (Filter.inSpace space) (fetch web))

/-- A workspace with the plugin for the web among others that ignore its cache, and the same
workspace with the plugin that has none. -/
inductive Hosts (web : Web) (slot : Nat) (workspace : Workspace) : Workspace → Prop
  | intro {before after : List Call}
      (ignoring : ∀ other, .register other ∈ before ++ after → other.Ignores slot)
      (registered : workspace.chain =
        Chain.ofCalls (before ++ .register (plugin web slot) :: after)) :
      Hosts web slot workspace
        (workspace.withChain (Chain.ofCalls (before ++ .register (uncached web) :: after)))

/-- The sessions that are reached from an empty cache by loads and builds, while others remove what
is stored, and while time passes. -/
inductive Reached (web : Web) (slot : Nat) : Session → Prop
  | new {session : Session} {size : Nat} {lifetime : Option Nat}
      (empty : session.caches[slot]? = some (Cache.new size lifetime)) : Reached web slot session
  | load {session : Session} (reached : Reached web slot session) (request : LoadRequest) :
      Reached web slot (load web slot request session).2
  | upkeep {session : Session} {cache : Cache ByteArray} (reached : Reached web slot session)
      (held : session.caches[slot]? = some cache) {operation : Cache.Operation ByteArray}
      (unset : ∀ key, ¬ operation.Sets key) :
      Reached web slot
        { session with caches := session.caches.set slot (cache.apply operation) }
  | elsewhere {session next : Session} (reached : Reached web slot session)
      (same : next.caches[slot]? = session.caches[slot]?) : Reached web slot next
  | build {session last : Session} {report : Report} {workspace plain : Workspace}
      {toolchain : Toolchain} {limit : Nat} {entries : List String}
      (reached : Reached web slot session) (hosts : Hosts web slot workspace plain)
      (built : workspace.build toolchain limit entries session = some (report, last)) :
      Reached web slot last

/-- Every body in a cache is the one that a fetch would return. -/
def Copies (web : Web) (cache : Cache ByteArray) : Prop :=
  ∀ entry ∈ cache.entries, web entry.key = .ok entry.value

def Faithful (web : Web) (slot : Nat) (caches : List (Cache ByteArray)) : Prop :=
  ∀ cache, caches[slot]? = some cache → Copies web cache

/-- The cache holds the resource, and its time is not over. -/
def Live (slot : Nat) (url : String) (session : Session) : Prop :=
  ∃ cache entry, session.caches[slot]? = some cache ∧ cache.find? url = some entry ∧
    cache.isExpired session.now entry = false

/-- Loads and builds have the results that they have without the cache. -/
structure Transparent (web : Web) (slot : Nat) (session : Session) : Prop where
  loads : ∀ workspace plain, Hosts web slot workspace plain →
    ∀ request other, Alike slot session other →
      (workspace.chain.load request session).1 = (plain.chain.load request other).1
  faithful : Faithful web slot session.caches
  /-- A live resource is not fetched. -/
  spared : ∀ request, Live slot request.path session →
    (load web slot request session).2.events = session.events
  /-- Any other resource is fetched once. -/
  fetched : ∀ request, ¬ Live slot request.path session →
    (load web slot request session).2.events = session.events ++ [.fetched request.path]
  /-- A fetch that fails stores nothing. -/
  failed : ∀ request error, web request.path = .error error →
    (load web slot request session).2.caches = session.caches
  builds : ∀ workspace plain, Hosts web slot workspace plain →
    ∀ toolchain limit entries other, Alike slot session other →
      (workspace.build toolchain limit entries session).map Prod.fst =
        (plain.build toolchain limit entries other).map Prod.fst
  /-- What is left in the cache has no influence on later builds. -/
  independent : ∀ workspace plain, Hosts web slot workspace plain →
    ∀ toolchain limit entries other, Reached web slot other → Alike slot session other →
      (workspace.build toolchain limit entries session).map Prod.fst =
        (workspace.build toolchain limit entries other).map Prod.fst

end Transparency

section Copies

variable {web : Web} {cache : Cache ByteArray} {url : String}

/-- What cannot be fetched is not stored. -/
theorem Copies.not_mem_keys (copies : Copies web cache) {error : FetchError}
    (failed : web url = .error error) : url ∉ cache.keys := by
  intro member
  obtain ⟨entry, stored, rfl⟩ := List.mem_map.mp member
  rw [copies entry stored] at failed
  cases failed

theorem Copies.get (copies : Copies web cache) (now : Nat) (url : String) :
    Copies web (cache.get now url).2 :=
  fun entry member => copies entry (Cache.mem_of_mem_get member)

/-- A hit returns what a fetch would. -/
theorem Copies.of_get_some (copies : Copies web cache) {now : Nat} {contents : ByteArray}
    (hit : (cache.get now url).1 = some contents) : web url = .ok contents := by
  obtain ⟨entry, member, rfl, rfl⟩ := Cache.exists_of_get_some hit
  exact copies entry member

theorem Copies.set (copies : Copies web cache) {contents : ByteArray}
    (fetched : web url = .ok contents) (now : Nat) : Copies web (cache.set now url contents) := by
  intro entry member
  rcases Cache.mem_set member with rfl | ⟨member, _⟩
  · exact fetched
  · exact copies entry member

/-- Removing entries leaves copies. -/
theorem Copies.apply (copies : Copies web cache) {operation : Cache.Operation ByteArray}
    (unset : ∀ key, ¬ operation.Sets key) : Copies web (cache.apply operation) := by
  intro entry member
  rcases Cache.mem_apply member with rfl | ⟨member, _⟩
  · exact absurd rfl (unset entry.key)
  · exact copies entry member

theorem Faithful.set {slot : Nat} (caches : List (Cache ByteArray)) (copies : Copies web cache) :
    Faithful web slot (caches.set slot cache) := by
  intro stored held
  rw [List.getElem?_set_self'] at held
  obtain ⟨_, _, rfl⟩ := Option.map_eq_some_iff.mp held
  exact copies

end Copies

section Loads

variable {web : Web} {slot : Nat} {session other : Session}

/-- What a load does to the caches. -/
structure Keeps (web : Web) (slot : Nat) (url : String) (before after : List (Cache ByteArray)) :
    Prop where
  elsewhere : ∀ index, index ≠ slot → after[index]? = before[index]?
  faithful : Faithful web slot after
  failed : ∀ error, web url = .error error → after = before

theorem Keeps.refl (faithful : Faithful web slot session.caches) (url : String) :
    Keeps web slot url session.caches session.caches :=
  ⟨fun _ _ => rfl, faithful, fun _ _ => rfl⟩

/-- A resource that can be fetched may be stored. -/
theorem Keeps.set {url : String} {cache : Cache ByteArray} {contents : ByteArray}
    (fetched : web url = .ok contents) (copies : Copies web cache)
    (caches : List (Cache ByteArray)) : Keeps web slot url caches (caches.set slot cache) where
  elsewhere := fun index different => List.getElem?_set_ne different.symm
  faithful := .set caches copies
  failed := by
    intro error failed
    rw [fetched] at failed
    cases failed

/-- Storing the cache that is there changes nothing. -/
theorem set_of_getElem? {caches : List (Cache ByteArray)} {cache : Cache ByteArray}
    (held : caches[slot]? = some cache) : caches.set slot cache = caches := by
  obtain ⟨inside, rfl⟩ := List.getElem?_eq_some_iff.mp held
  exact List.set_getElem_self inside

theorem live_iff {cache : Cache ByteArray} {url : String}
    (held : session.caches[slot]? = some cache) :
    Live slot url session ↔ (cache.get session.now url).1.isSome = true := by
  rw [Cache.isSome_get_iff]
  constructor
  · rintro ⟨_, entry, present, live⟩
    rw [held] at present
    cases present
    exact ⟨entry, live⟩
  · rintro ⟨entry, live⟩
    exact ⟨cache, entry, held, live⟩

/-- A body is the one that a fetch would return, and it is fetched unless it is live. -/
theorem exists_body (faithful : Faithful web slot session.caches) (url : String) :
    ∃ caches, Keeps web slot url session.caches caches ∧
      ((Live slot url session ∧
        body web slot url session = (web url, { session with caches := caches })) ∨
      (¬ Live slot url session ∧ body web slot url session =
        (web url, { session.record (.fetched url) with caches := caches }))) := by
  have key : Cache.key url [] = url := rfl
  cases held : session.caches[slot]? with
  | none =>
      refine ⟨session.caches, .refl faithful url, .inr ⟨?_, ?_⟩⟩
      · rintro ⟨cache, _, present, _⟩
        rw [held] at present
        cases present
      · simp only [body, held]
        rfl
  | some cache =>
      have copies := faithful cache held
      rw [live_iff held]
      cases fetched : web url with
      | error error =>
          have missed : cache.get session.now url = (none, cache) :=
            Cache.get_of_not_mem (copies.not_mem_keys fetched)
          refine ⟨session.caches, .refl faithful url, .inr ⟨by simp [missed], ?_⟩⟩
          simp only [body, held, key, missed, fetched, Session.record, set_of_getElem? held]
      | ok contents =>
          have left := copies.get session.now url
          rcases getting : cache.get session.now url with ⟨_ | found, next⟩
          · rw [getting] at left
            refine ⟨_, .set fetched (left.set fetched session.now) session.caches,
              .inr ⟨Bool.false_ne_true, ?_⟩⟩
            simp only [body, held, key, getting, fetched]
            rfl
          · have same := (copies.of_get_some (congrArg Prod.fst getting)).symm.trans fetched
            rw [getting] at left
            refine ⟨_, .set fetched left session.caches, .inl ⟨rfl, ?_⟩⟩
            simp only [body, held, key, getting, same]

/-- A load replies what a fetch would, and fetches unless the resource is live. -/
theorem exists_load (faithful : Faithful web slot session.caches) (request : LoadRequest) :
    ∃ caches, Keeps web slot request.path session.caches caches ∧
      ((Live slot request.path session ∧
        load web slot request session = (reply web request, { session with caches := caches })) ∨
      (¬ Live slot request.path session ∧
        load web slot request session =
          (reply web request,
            { session.record (.fetched request.path) with caches := caches }))) := by
  obtain ⟨caches, keeps, ⟨live, loading⟩ | ⟨dead, loading⟩⟩ := exists_body faithful request.path
  · refine ⟨caches, keeps, .inl ⟨live, ?_⟩⟩
    unfold load reply
    rw [loading]
    cases web request.path <;> rfl
  · refine ⟨caches, keeps, .inr ⟨dead, ?_⟩⟩
    unfold load reply
    rw [loading]
    cases web request.path <;> rfl

/-- A session with a faithful cache beside one that differs in that cache alone. -/
structure Mirrors (web : Web) (slot : Nat) (session other : Session) : Prop where
  faithful : Faithful web slot session.caches
  alike : Alike slot session other

/-- Loading through the cache agrees with fetching. -/
theorem load_agree (web : Web) (slot : Nat) :
    Agree (Mirrors web slot) (load web slot) (fetch web) := by
  intro request session other mirrors
  obtain ⟨caches, keeps, ⟨_, loading⟩ | ⟨_, loading⟩⟩ := exists_load mirrors.faithful request <;>
  · rw [loading]
    exact ⟨rfl, keeps.faithful, mirrors.alike.now, fun index different =>
      (keeps.elsewhere index different).trans (mirrors.alike.caches index different)⟩

/-- A callback that ignores the cache agrees with itself. -/
theorem agree_of_ignores {request answer : Type} {callback : Callback request answer}
    (ignores : Ignores slot callback) : Agree (Mirrors web slot) callback callback := by
  intro asked session other mirrors
  have matching := ignores.agree asked session other mirrors.alike
  refine ⟨matching.result, ?_, matching.session⟩
  intro cache held
  rw [ignores.cache] at held
  exact mirrors.faithful cache held

theorem ignores_claim (slot : Nat) : Ignores slot claim :=
  .of_unchanged slot (fun _ _ _ => rfl) fun _ _ => rfl

theorem ignores_resolve (slot : Nat) : Ignores slot resolve := by
  refine .of_unchanged slot ?_ ?_
  · intro request session other
    unfold resolve
    repeat' split
    all_goals rfl
  · intro request session
    unfold resolve
    repeat' split
    all_goals rfl

/-- The plugin with the cache agrees with the one without. -/
theorem plugin_agree (web : Web) (slot : Nat) :
    (plugin web slot).Agree (Mirrors web slot) (uncached web) where
  succeeds := rfl
  resolve := .cons ⟨rfl, rfl, agree_of_ignores (ignores_claim slot)⟩
    (.cons ⟨rfl, rfl, agree_of_ignores (ignores_resolve slot)⟩ .nil)
  load := .cons ⟨rfl, rfl, load_agree web slot⟩ .nil

/-- A plugin that ignores the cache agrees with itself. -/
theorem agree_self {other : Plugin} (ignores : other.Ignores slot) :
    other.Agree (Mirrors web slot) other where
  succeeds := rfl
  resolve := List.forall₂_same.mpr fun handler member =>
    ⟨rfl, rfl, agree_of_ignores (ignores.resolve handler member)⟩
  load := List.forall₂_same.mpr fun handler member =>
    ⟨rfl, rfl, agree_of_ignores (ignores.load handler member)⟩

/-- Calls for plugins that ignore the cache do the same to chains that agree. -/
theorem calls_agree {calls : List Call}
    (ignoring : ∀ other, .register other ∈ calls → other.Ignores slot) :
    List.Forall₂ (Call.Agree (Mirrors web slot)) calls calls := by
  refine List.forall₂_same.mpr fun call member => ?_
  cases call with
  | register other => exact .register (agree_self (ignoring other member))
  | clear => exact .clear

/-- The chains of a workspace with the cache and of one without it agree. -/
theorem Hosts.exists_chain {workspace plain : Workspace} (hosts : Hosts web slot workspace plain) :
    ∃ chain, plain = workspace.withChain chain ∧
      workspace.chain.Agree (Mirrors web slot) chain := by
  cases hosts with
  | intro ignoring registered =>
      refine ⟨_, rfl, ?_⟩
      rw [registered]
      refine Chain.ofCalls_agree (List.rel_append ?_ (.cons (.register (plugin_agree web slot)) ?_))
      · exact calls_agree fun other member => ignoring other (List.mem_append_left _ member)
      · exact calls_agree fun other member => ignoring other (List.mem_append_right _ member)

theorem Hosts.build_matches {workspace plain : Workspace} (hosts : Hosts web slot workspace plain)
    (toolchain : Toolchain) (limit : Nat) (entries : List String)
    (mirrors : Mirrors web slot session other) :
    Option.Rel (Matches (Mirrors web slot)) (workspace.build toolchain limit entries session)
      (plain.build toolchain limit entries other) := by
  obtain ⟨chain, rfl, agree⟩ := hosts.exists_chain
  exact Workspace.build_matches agree toolchain limit entries mirrors

/-- Whatever is done, the cache stays faithful. -/
theorem Reached.faithful (reached : Reached web slot session) :
    Faithful web slot session.caches := by
  induction reached with
  | new empty =>
      intro cache held
      rw [empty] at held
      cases held
      exact fun _ member => absurd member List.not_mem_nil
  | load reached request ih =>
      obtain ⟨caches, keeps, ⟨_, loading⟩ | ⟨_, loading⟩⟩ := exists_load ih request <;>
      · rw [loading]
        exact keeps.faithful
  | @upkeep session cache reached held operation unset ih =>
      exact .set session.caches ((ih cache held).apply unset)
  | elsewhere reached same ih =>
      intro cache held
      exact ih cache (same ▸ held)
  | @build session last report workspace plain toolchain limit entries reached hosts built ih =>
      have matching := hosts.build_matches toolchain limit entries ⟨ih, .refl slot session⟩
      rw [built] at matching
      generalize plain.build toolchain limit entries session = twin at matching
      cases matching with
      | some matching => exact matching.session.faithful

theorem Hosts.load_eq {workspace plain : Workspace} (hosts : Hosts web slot workspace plain)
    (request : LoadRequest) (mirrors : Mirrors web slot session other) :
    (workspace.chain.load request session).1 = (plain.chain.load request other).1 := by
  obtain ⟨chain, rfl, agree⟩ := hosts.exists_chain
  exact (offer_matches _ _ _ request agree.load mirrors).result

theorem Hosts.build_eq {workspace plain : Workspace} (hosts : Hosts web slot workspace plain)
    (toolchain : Toolchain) (limit : Nat) (entries : List String)
    (mirrors : Mirrors web slot session other) :
    (workspace.build toolchain limit entries session).map Prod.fst =
      (plain.build toolchain limit entries other).map Prod.fst :=
  map_fst_eq_of_rel (hosts.build_matches toolchain limit entries mirrors)

/-- Whatever was loaded, built and removed before, the cache cannot be told from its absence. -/
theorem transparent_of_reached (reached : Reached web slot session) :
    Transparent web slot session where
  loads := fun _ _ hosts request _ alike => hosts.load_eq request ⟨reached.faithful, alike⟩
  faithful := reached.faithful
  spared := by
    intro request live
    obtain ⟨caches, _, ⟨_, loading⟩ | ⟨dead, _⟩⟩ := exists_load reached.faithful request
    · rw [loading]
    · exact absurd live dead
  fetched := by
    intro request dead
    obtain ⟨caches, _, ⟨live, _⟩ | ⟨_, loading⟩⟩ := exists_load reached.faithful request
    · exact absurd live dead
    · rw [loading]
      rfl
  failed := by
    intro request error failed
    obtain ⟨caches, keeps, ⟨_, loading⟩ | ⟨_, loading⟩⟩ := exists_load reached.faithful request <;>
    · rw [loading]
      exact keeps.failed error failed
  builds := fun _ _ hosts toolchain limit entries _ alike =>
    hosts.build_eq toolchain limit entries ⟨reached.faithful, alike⟩
  independent := by
    intro workspace plain hosts toolchain limit entries other reachedOther alike
    rw [hosts.build_eq toolchain limit entries ⟨reached.faithful, alike⟩,
      hosts.build_eq toolchain limit entries ⟨reachedOther.faithful, .refl slot other⟩]

/-- A web with one module. -/
def oneModule : Web := fun url =>
  if url = "https://cdn.example/a.js" then .ok "export {}".toUTF8
  else .error (.status url 404)

def oneRequest : LoadRequest :=
  ⟨"https://cdn.example/a.js", space⟩

/-- Before the first load. -/
def cold : Session :=
  { Session.start with caches := [Cache.new 1 none] }

/-- After the first load, and a second later. -/
def warm : Session :=
  { (load oneModule 0 oneRequest cold).2 with now := 1000 }

def hosting : Workspace :=
  { Workspace.new FileTable.empty Config.default with
    chain := Chain.ofCalls [.register (plugin oneModule 0)] }

theorem hosts_hosting : Hosts oneModule 0 hosting
    (hosting.withChain (Chain.ofCalls [.register (uncached oneModule)])) :=
  @Hosts.intro _ _ _ [] [] (fun _ absurd => nomatch absurd) rfl

theorem reached_warm : Reached oneModule 0 warm :=
  .elsewhere (.load (.new rfl) oneRequest) rfl

theorem live_warm : Live 0 oneRequest.path warm :=
  ⟨_, _, rfl, rfl, rfl⟩

/-- The second load does not fetch, and a build is the same as one without the cache. -/
theorem warm_transparent : Reached oneModule 0 warm ∧ Live 0 oneRequest.path warm ∧
    (load oneModule 0 oneRequest warm).2.events = [.fetched "https://cdn.example/a.js"] ∧
    (hosting.build Toolchain.scan 1 ["https://cdn.example/a.js"] warm).map Prod.fst =
      ((hosting.withChain (Chain.ofCalls [.register (uncached oneModule)])).build Toolchain.scan 1
        ["https://cdn.example/a.js"] warm).map Prod.fst :=
  ⟨reached_warm, live_warm, (transparent_of_reached reached_warm).spared oneRequest live_warm,
    (transparent_of_reached reached_warm).builds _ _ hosts_hosting _ _ _ _ (.refl 0 warm)⟩

end Loads

section Others

theorem ignores_external (slot : Nat) (patterns : List String) :
    (External.plugin patterns).Ignores slot where
  resolve := by
    intro handler member
    rw [External.callback_of_mem member]
    exact .of_unchanged slot (External.isFunctional_resolve patterns)
      (External.session_of_resolve patterns)
  load := by
    rw [External.loadHandlers_plugin]
    exact List.forall_mem_nil _

theorem ignores_virtual (slot : Nat) (modules : Virtual.Modules) :
    (Virtual.plugin modules).Ignores slot where
  resolve := by
    intro handler member
    rw [List.mem_singleton.mp member]
    exact .of_unchanged slot (Virtual.isFunctional_resolve modules)
      (Virtual.session_of_resolve modules)
  load := by
    intro handler member
    rw [List.mem_singleton.mp member]
    exact .of_unchanged slot (Virtual.isFunctional_load modules) (Virtual.session_of_load modules)

end Others

end Remote

end ModuleGraph.Hook
