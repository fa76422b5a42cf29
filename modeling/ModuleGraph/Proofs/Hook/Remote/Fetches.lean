/-
This file shows how often a resource is fetched: at most once by a build, and with success at most
once by all builds together if the cache is large enough and keeps its entries.
-/

import ModuleGraph.Proofs.Build.Gain
import ModuleGraph.Proofs.Cache.Recency
import ModuleGraph.Proofs.Hook.Invariant
import ModuleGraph.Proofs.Hook.Remote

namespace ModuleGraph.Hook

section Sessions

def Event.url? : Event → Option String
  | .called _ _ _ _ => none
  | .fetched url => some url

/-- The URLs that were fetched, in order. -/
def Session.fetches (session : Session) : List String :=
  session.events.filterMap Event.url?

theorem Session.fetches_record (session : Session) (url : String) :
    (session.record (.fetched url)).fetches = session.fetches ++ [url] :=
  List.filterMap_append

/-- Nothing was fetched between two sessions, and the cache at one place is the same. -/
structure Session.Spared (slot : Nat) (session next : Session) : Prop where
  fetches : next.fetches = session.fetches
  cache : next.caches[slot]? = session.caches[slot]?

/-- A callback neither fetches nor changes the cache at one place. -/
def Spares {request answer : Type} (slot : Nat) (callback : Callback request answer) : Prop :=
  ∀ asked session, Session.Spared slot session (callback asked session).2

structure Plugin.Spares (slot : Nat) (plugin : Plugin) : Prop where
  resolve : ∀ handler ∈ plugin.resolveHandlers, Hook.Spares slot handler.callback
  load : ∀ handler ∈ plugin.loadHandlers, Hook.Spares slot handler.callback

/-- A callback that leaves its session as it is spares every cache. -/
theorem Spares.of_unchanged {request answer : Type} {callback : Callback request answer}
    (slot : Nat) (unchanged : ∀ asked session, (callback asked session).2 = session) :
    Spares slot callback := by
  intro asked session
  rw [unchanged]
  exact ⟨rfl, rfl⟩

theorem Session.Spared.trans {slot : Nat} {session between last : Session}
    (early : session.Spared slot between) (late : between.Spared slot last) :
    session.Spared slot last :=
  ⟨late.fetches.trans early.fetches, late.cache.trans early.cache⟩

/-- Some of the given URLs were fetched between two sessions, in the order given. -/
def Session.Fetched (urls : List String) (session next : Session) : Prop :=
  ∃ part : List String, part.Sublist urls ∧ next.fetches = session.fetches ++ part

theorem Session.Spared.fetched {slot : Nat} {session next : Session}
    (spared : session.Spared slot next) (urls : List String) : Session.Fetched urls session next :=
  ⟨[], List.nil_sublist urls, by rw [spared.fetches, List.append_nil]⟩

theorem Session.Fetched.refl (urls : List String) (session : Session) :
    Session.Fetched urls session session :=
  ⟨[], List.nil_sublist urls, (List.append_nil _).symm⟩

theorem Session.Fetched.trans {first second : List String} {session between last : Session}
    (early : Session.Fetched first session between) (late : Session.Fetched second between last) :
    Session.Fetched (first ++ second) session last := by
  obtain ⟨part, inside, fetched⟩ := early
  obtain ⟨rest, within, refetched⟩ := late
  exact ⟨part ++ rest, inside.append within, by rw [refetched, fetched, List.append_assoc]⟩

end Sessions

namespace Remote

section Law

/-- Whether a resource can be fetched. -/
def Web.serves (web : Web) (url : String) : Bool :=
  (web url).isOk

/-- In a history of calls the plugin for the web is registered once, among others that spare its
cache. -/
def RegisteredAmong (web : Web) (slot : Nat) (calls : List Call) : Prop :=
  ∃ before after, calls = before ++ .register (plugin web slot) :: after ∧
    ∀ other, .register other ∈ before ++ after → other.Spares slot

/-- The workspaces and sessions that are reached from a session by builds, finished or not, while
files are written and deleted, and while time passes. -/
inductive Continues (workspace : Workspace) (start : Session) : Workspace → Session → Prop
  | start : Continues workspace start workspace start
  | build {next : Workspace} {session last : Session} {toolchain : Toolchain}
      {entries : List String} {visits : List Walk.Visit}
      (reached : Continues workspace start next session)
      (building : next.Building toolchain entries session visits last) :
      Continues workspace start next last
  | write {next : Workspace} {session : Session}
      (reached : Continues workspace start next session) (path : String) (content : Content) :
      Continues workspace start { next with files := next.files.write path content } session
  | delete {next : Workspace} {session : Session}
      (reached : Continues workspace start next session) (path : String) :
      Continues workspace start { next with files := next.files.delete path } session
  | wait {next : Workspace} {session : Session}
      (reached : Continues workspace start next session) (now : Nat) :
      Continues workspace start next { session with now := now }

/-- How often resources are fetched. -/
structure FetchesOnce (web : Web) (slot : Nat) (workspace : Workspace) : Prop where
  /-- A build fetches no resource twice, whatever the cache keeps. -/
  within : ∀ start next session, Continues workspace start next session →
    ∀ toolchain entries visits last, next.Building toolchain entries session visits last →
      ∃ urls, last.fetches = session.fetches ++ urls ∧ urls.Nodup
  /-- No resource is fetched twice with success if the cache keeps its entries for any time and has
  room for all that are fetched with success. -/
  across : ∀ start size, start.caches[slot]? = some (Cache.new size none) →
    ∀ next last, Continues workspace start next last →
      ∃ urls, last.fetches = start.fetches ++ urls ∧
        ((urls.filter web.serves).toFinset.card ≤ max 1 size → (urls.filter web.serves).Nodup)

end Law

section Handlers

variable {web : Web} {slot : Nat}

/-- The handler that loads modules from the web. -/
def loader (web : Web) (slot : Nat) : Handler LoadRequest LoadAnswer :=
  ⟨"http", Filter.inSpace space, load web slot⟩

/-- What a load leaves: without a cache it fetches, with one it fetches what it does not find there,
and what it fetches with success is stored. -/
inductive Leaves (web : Web) (slot : Nat) (url : String) (session : Session) : Session → Prop
  | uncached (absent : session.caches[slot]? = none) :
      Leaves web slot url session (session.record (.fetched url))
  | hit {cache : Cache ByteArray} (held : session.caches[slot]? = some cache)
      (found : (cache.get session.now url).1.isSome = true) :
      Leaves web slot url session
        { session with caches := session.caches.set slot (cache.get session.now url).2 }
  | failed {cache : Cache ByteArray} (held : session.caches[slot]? = some cache)
      (missed : (cache.get session.now url).1 = none) (unserved : web.serves url = false) :
      Leaves web slot url session
        { session.record (.fetched url) with
          caches := session.caches.set slot (cache.get session.now url).2 }
  | stored {cache : Cache ByteArray} {body : ByteArray}
      (held : session.caches[slot]? = some cache)
      (missed : (cache.get session.now url).1 = none) (served : web.serves url = true) :
      Leaves web slot url session
        { session.record (.fetched url) with
          caches := session.caches.set slot
            ((cache.get session.now url).2.set session.now url body) }

theorem leaves_load (web : Web) (slot : Nat) (request : LoadRequest) (session : Session) :
    Leaves web slot request.path session (load web slot request session).2 := by
  have left : (load web slot request session).2 = (body web slot request.path session).2 := by
    unfold load
    rcases body web slot request.path session with ⟨error | contents, next⟩ <;> rfl
  have key : Cache.key request.path [] = request.path := rfl
  rw [left]
  unfold body
  cases held : session.caches[slot]? with
  | none => exact .uncached held
  | some cache =>
      have getting : cache.get session.now request.path =
        ((cache.get session.now request.path).1, (cache.get session.now request.path).2) := rfl
      cases found : (cache.get session.now request.path).1 with
      | some contents =>
          rw [found] at getting
          simp only [key]
          rw [getting]
          exact .hit held (by rw [found]; rfl)
      | none =>
          rw [found] at getting
          cases served : web request.path with
          | error error =>
              simp only [key]
              rw [getting]
              simp only
              exact .failed held found (by rw [Web.serves, served]; rfl)
          | ok contents =>
              simp only [key]
              rw [getting]
              exact .stored held found (by rw [Web.serves, served]; rfl)

/-- All handlers spare the cache, apart from those that load through it. -/
structure Guards (web : Web) (slot : Nat) (chain : Chain) : Prop where
  resolve : ∀ handler ∈ chain.resolveHandlers, Spares slot handler.callback
  load : ∀ handler ∈ chain.loadHandlers, Spares slot handler.callback ∨ handler = loader web slot

theorem spares_claim (slot : Nat) : Spares slot claim :=
  .of_unchanged slot fun _ _ => rfl

theorem spares_resolve (slot : Nat) : Spares slot resolve := by
  refine .of_unchanged slot fun request session => ?_
  unfold resolve
  repeat' split
  all_goals rfl

theorem RegisteredAmong.guards {calls : List Call} (registered : RegisteredAmong web slot calls) :
    Guards web slot (Chain.ofCalls calls) := by
  obtain ⟨before, after, rfl, sparing⟩ := registered
  have known : ∀ other ∈ Call.standing (before ++ .register (plugin web slot) :: after),
      other = plugin web slot ∨ other.Spares slot := by
    intro other standing
    rcases List.mem_append.mp (Call.mem_of_mem_standing standing) with early | late
    · exact .inr (sparing other (List.mem_append_left _ early))
    · rcases List.mem_cons.mp late with same | late
      · cases same
        exact .inl rfl
      · exact .inr (sparing other (List.mem_append_right _ late))
  rw [Chain.ofCalls_eq]
  constructor
  · intro handler member
    obtain ⟨other, standing, member⟩ := List.mem_flatMap.mp member
    rcases known other standing with rfl | spares
    · rcases List.mem_pair.mp member with rfl | rfl
      · exact spares_claim slot
      · exact spares_resolve slot
    · exact spares.resolve handler member
  · intro handler member
    obtain ⟨other, standing, member⟩ := List.mem_flatMap.mp member
    rcases known other standing with rfl | spares
    · exact .inr (List.mem_singleton.mp member)
    · exact .inl (spares.load handler member)

end Handlers

section Within

variable {web : Web} {slot : Nat} {workspace : Workspace} {session last : Session}

/-- The URL of a module from the web. -/
def url? (identity : String × String) : Option String :=
  if identity.1 = space then some identity.2 else none

/-- A load fetches its own URL at most. -/
theorem load_fetched (web : Web) (slot : Nat) (request : LoadRequest) (session : Session) :
    Session.Fetched [request.path] session (load web slot request session).2 := by
  have fetched : [request.path].Sublist [request.path] := List.Sublist.refl _
  have leaves := leaves_load web slot request session
  generalize (load web slot request session).2 = next at leaves ⊢
  cases leaves with
  | uncached => exact ⟨_, fetched, session.fetches_record request.path⟩
  | hit => exact .refl _ session
  | failed => exact ⟨_, fetched, session.fetches_record request.path⟩
  | stored => exact ⟨_, fetched, session.fetches_record request.path⟩

theorem load_ne_passed (web : Web) (slot : Nat) (request : LoadRequest) (session : Session) :
    (load web slot request session).1 ≠ .ok none := by
  unfold load
  split <;> exact fun passed => nomatch passed

/-- Resolving fetches nothing. -/
theorem Guards.resolveAll_spared (guards : Guards web slot workspace.chain)
    (requests : List ResolveRequest) (session : Session) :
    session.Spared slot (Walk.resolveAll workspace requests session).2 :=
  Walk.resolveAll_preserves
    (fun handler member asked _ spared => spared.trans (guards.resolve handler member asked _))
    requests ⟨rfl, rfl⟩

/-- Offering a module to the handlers fetches nothing but the module itself, and that only from the
web. -/
theorem offer_fetched {handlers : List (Handler LoadRequest LoadAnswer)}
    (known : ∀ handler ∈ handlers, Spares slot handler.callback ∨ handler = loader web slot)
    (asked : LoadRequest) (session : Session) :
    Session.Fetched (url? (asked.space, asked.path)).toList session
      (Chain.offer .load LoadRequest.path LoadRequest.space asked handlers session).2 := by
  induction handlers generalizing session with
  | nil => exact .refl _ session
  | cons handler handlers ih =>
      have rest := ih fun later member => known later (List.mem_cons_of_mem _ member)
      unfold Chain.offer
      split
      · rename_i accepted
        rcases known handler (List.mem_cons_self ..) with spares | rfl
        · have spared := spares asked session
          generalize handler.callback asked session = answered at spared ⊢
          obtain ⟨cause | _ | answer, next⟩ := answered
          · exact spared.fetched _
          · exact (spared.fetched []).trans (rest next)
          · exact spared.fetched _
        · have among : space = asked.space := by
            simpa [loader, Filter.inSpace, Filter.accepts] using accepted
          have fetched := load_fetched web slot asked session
          have decided := load_ne_passed web slot asked session
          have callback : (loader web slot).callback = load web slot := rfl
          rw [url?, if_pos among.symm, callback]
          generalize load web slot asked session = answered at fetched decided ⊢
          obtain ⟨cause | _ | answer, next⟩ := answered
          · exact fetched
          · exact absurd rfl decided
          · exact fetched
      · exact rest session

theorem Guards.examine_fetched (guards : Guards web slot workspace.chain) (toolchain : Toolchain)
    (resolved : ResolvedModule) (session : Session) :
    Session.Fetched (url? resolved.identity).toList session
      (Walk.examine workspace toolchain resolved session).2 := by
  obtain ⟨requests, same⟩ := Walk.exists_examine_snd workspace toolchain resolved session
  have loading := offer_fetched guards.load ⟨resolved.path, resolved.space⟩ session
  rw [same, Workspace.load_snd, ← List.append_nil (url? resolved.identity).toList]
  exact loading.trans ((guards.resolveAll_spared requests _).fetched [])

/-- Steps fetch modules from the web that they visit, each once at most. -/
theorem Guards.steps_fetched (guards : Guards web slot workspace.chain) {toolchain : Toolchain}
    {walk final : Walk} {visits : List Walk.Visit}
    (steps : Walk.Steps workspace toolchain walk session visits final last) :
    Session.Fetched ((visits.map fun visit => visit.pending.identity).filterMap url?)
      session last := by
  induction steps with
  | refl walk session => exact .refl _ session
  | @step _ session pending _ _ _ _ going queued rest ih =>
      have first := guards.examine_fetched toolchain pending.resolved session
      have all := first.trans ih
      rw [List.map_cons, List.filterMap_cons]
      cases named : url? pending.resolved.identity with
      | none => simpa [named, Pending.identity] using all
      | some url => simpa [named, Pending.identity] using all

/-- No two modules from the web have the same URL. -/
theorem nodup_filterMap_url? {identities : List (String × String)} (distinct : identities.Nodup) :
    (identities.filterMap url?).Nodup := by
  refine distinct.filterMap fun first second url named other => ?_
  rw [Option.mem_def, url?, Option.ite_none_right_eq_some] at named other
  exact Prod.ext (named.1.trans other.1.symm)
    ((Option.some.inj named.2).trans (Option.some.inj other.2).symm)

theorem Guards.building_fetched (guards : Guards web slot workspace.chain) {toolchain : Toolchain}
    {entries : List String} {visits : List Walk.Visit}
    (building : workspace.Building toolchain entries session visits last) :
    ∃ urls, last.fetches = session.fetches ++ urls ∧ urls.Nodup := by
  obtain ⟨final, steps⟩ := building
  have distinct := Workspace.nodup_pending steps
  rw [List.map_append, List.map_map] at distinct
  obtain ⟨urls, part, fetched⟩ :=
    ((guards.resolveAll_spared _ session).fetched []).trans (guards.steps_fetched steps)
  exact ⟨urls, fetched, (nodup_filterMap_url? (List.nodup_append.mp distinct).1).sublist part⟩

end Within

section Across

variable {web : Web} {slot size : Nat} {workspace : Workspace} {start session : Session}

/-- A cache that keeps its entries for any time holds only what was stored in it, and all of that as
long as there is room. -/
structure Stores (cache : Cache ByteArray) (stored : List String) : Prop where
  lasting : cache.Lasting
  inside : cache.keys ⊆ stored
  complete : stored.toFinset.card ≤ cache.capacity → stored.Nodup ∧ stored ⊆ cache.keys

variable {cache : Cache ByteArray} {stored : List String} {url : String} {now : Nat}

theorem stores_new (size : Nat) : Stores (Cache.new size none) [] where
  lasting := Cache.lasting_ofHistory size []
  inside := List.nil_subset _
  complete := fun _ => ⟨List.nodup_nil, List.nil_subset _⟩

/-- Finding a resource leaves the cache with the same keys. -/
theorem Stores.found (stores : Stores cache stored)
    (found : (cache.get now url).1.isSome = true) : Stores (cache.get now url).2 stored := by
  have same (key : String) : key ∈ (cache.get now url).2.keys ↔ key ∈ cache.keys := by
    rcases stores.lasting.get_cases now url with ⟨_, result⟩ | ⟨held, _, moved⟩
    · rw [result] at found
      cases found
    · rw [moved, Cache.front]
      by_cases same : key = url
      · simp [same, held]
      · simp [same]
  have capacity : (cache.get now url).2.capacity = cache.capacity :=
    Cache.apply_capacity (.get now url)
  refine ⟨stores.lasting.apply (.get now url), ?_, ?_⟩
  · exact fun key member => stores.inside ((same key).mp member)
  · intro room
    rw [capacity] at room
    obtain ⟨distinct, kept⟩ := stores.complete room
    exact ⟨distinct, fun key member => (same key).mpr (kept member)⟩

/-- Nothing but absence keeps a resource from being found. -/
theorem Stores.of_missed (stores : Stores cache stored)
    (missed : (cache.get now url).1 = none) :
    url ∉ cache.keys ∧ (cache.get now url).2 = cache := by
  rcases stores.lasting.get_cases now url with ⟨absent, result⟩ | ⟨_, found, _⟩
  · exact ⟨absent, congrArg Prod.snd result⟩
  · rw [missed] at found
    cases found

/-- A resource that was absent is stored for the first time if there is room for it. -/
theorem Stores.set (stores : Stores cache stored) (absent : url ∉ cache.keys) (now : Nat)
    (body : ByteArray) : Stores (cache.set now url body) (stored ++ [url]) := by
  have touched : cache.touched? (.set now url body) = some url := rfl
  have front : Cache.front url cache.keys = url :: cache.keys := by
    rw [Cache.front, List.filter_eq_self.mpr]
    exact fun key member => bne_iff_ne.mpr fun same => absent (same ▸ member)
  have keys : (cache.set now url body).keys = (url :: cache.keys).take cache.capacity :=
    front ▸ stores.lasting.keys_of_touched touched
  have listed : url :: cache.keys ⊆ stored ++ [url] := by
    intro key member
    rcases List.mem_cons.mp member with rfl | member
    · exact List.mem_append_right _ (List.mem_singleton_self key)
    · exact List.mem_append_left _ (stores.inside member)
  refine ⟨stores.lasting.apply (.set now url body), ?_, ?_⟩
  · rw [keys]
    exact fun key member => listed (List.mem_of_mem_take member)
  · intro room
    have less := Cache.card_toFinset_le (List.subset_append_left stored [url])
    obtain ⟨distinct, kept⟩ := stores.complete (less.trans room)
    have fresh : url ∉ stored := fun member => absent (kept member)
    -- The keys differ and were all stored, so that there is room for them and the new one.
    have apart : (url :: cache.keys).Nodup :=
      List.nodup_cons.mpr ⟨absent, stores.lasting.distinct⟩
    have whole : (url :: cache.keys).length ≤ cache.capacity :=
      (Cache.length_le_card_toFinset apart listed).trans room
    rw [keys, List.take_of_length_le whole]
    constructor
    · refine List.nodup_append.mpr ⟨distinct, List.nodup_singleton url, ?_⟩
      rintro key member _ last rfl
      exact fresh (List.mem_singleton.mp last ▸ member)
    · intro key member
      rcases List.mem_append.mp member with member | member
      · exact List.mem_cons_of_mem _ (kept member)
      · rw [List.mem_singleton.mp member]
        exact List.mem_cons_self ..

/-- Since a session, whatever was fetched with success was stored in the cache. -/
def Stocked (web : Web) (slot size : Nat) (start session : Session) : Prop :=
  ∃ urls cache, session.fetches = start.fetches ++ urls ∧
    session.caches[slot]? = some cache ∧ cache.capacity = max 1 size ∧
    Stores cache (urls.filter web.serves)

theorem stocked_start (empty : start.caches[slot]? = some (Cache.new size none)) :
    Stocked web slot size start start :=
  ⟨[], _, (List.append_nil _).symm, empty, rfl, stores_new size⟩

theorem Stocked.of_spared {next : Session} (stocked : Stocked web slot size start session)
    (spared : session.Spared slot next) : Stocked web slot size start next := by
  obtain ⟨urls, cache, fetched, held, capacity, stores⟩ := stocked
  exact ⟨urls, cache, spared.fetches.trans fetched, spared.cache.trans held, capacity, stores⟩

theorem Stocked.of_leaves {next : Session} (stocked : Stocked web slot size start session)
    (leaves : Leaves web slot url session next) : Stocked web slot size start next := by
  obtain ⟨urls, cache, fetched, held, capacity, stores⟩ := stocked
  have placed (other : Cache ByteArray) :
      (session.caches.set slot other)[slot]? = some other := by
    rw [List.getElem?_set_self', held]
    rfl
  have refetched : (session.record (.fetched url)).fetches = start.fetches ++ (urls ++ [url]) := by
    rw [session.fetches_record, fetched, List.append_assoc]
  cases leaves with
  | uncached absent =>
      rw [held] at absent
      cases absent
  | hit present found =>
      cases held.symm.trans present
      have same : (cache.get session.now url).2.capacity = cache.capacity :=
        Cache.apply_capacity (.get session.now url)
      exact ⟨urls, _, fetched, placed _, same.trans capacity, stores.found found⟩
  | failed present missed unserved =>
      cases held.symm.trans present
      have kept : (urls ++ [url]).filter web.serves = urls.filter web.serves := by
        simp [List.filter_append, unserved]
      rw [(stores.of_missed missed).2]
      exact ⟨urls ++ [url], cache, refetched, placed cache, capacity, kept ▸ stores⟩
  | @stored _ body present missed served =>
      cases held.symm.trans present
      have grown : (urls ++ [url]).filter web.serves = urls.filter web.serves ++ [url] := by
        simp [List.filter_append, served]
      obtain ⟨absent, same⟩ := stores.of_missed missed
      rw [same]
      exact ⟨urls ++ [url], _, refetched, placed _, capacity,
        grown ▸ stores.set absent session.now body⟩

theorem Guards.preserves (guards : Guards web slot workspace.chain) (size : Nat) (start : Session) :
    workspace.chain.Preserves (Stocked web slot size start) where
  resolve := fun handler member asked session stocked =>
    stocked.of_spared (guards.resolve handler member asked session)
  load := by
    intro handler member asked session stocked
    rcases guards.load handler member with spares | rfl
    · exact stocked.of_spared (spares asked session)
    · exact stocked.of_leaves (leaves_load web slot asked session)

theorem Continues.chain_eq {next : Workspace} (reached : Continues workspace start next session) :
    next.chain = workspace.chain := by
  induction reached with
  | start => rfl
  | build _ _ ih => exact ih
  | write _ _ _ ih => exact ih
  | delete _ _ ih => exact ih
  | wait _ _ ih => exact ih

theorem Continues.stocked {next : Workspace} (reached : Continues workspace start next session)
    (guards : Guards web slot workspace.chain)
    (empty : start.caches[slot]? = some (Cache.new size none)) :
    Stocked web slot size start session := by
  induction reached with
  | start => exact stocked_start empty
  | build reached building ih =>
      have preserves := guards.preserves size start
      rw [← reached.chain_eq] at preserves
      exact building.preserves preserves ih
  | write _ _ _ ih => exact ih
  | delete _ _ ih => exact ih
  | wait _ _ ih => exact ih

theorem Guards.fetchesOnce (guards : Guards web slot workspace.chain) :
    FetchesOnce web slot workspace where
  within := by
    intro start next session reached toolchain entries visits last building
    rw [← reached.chain_eq] at guards
    exact guards.building_fetched building
  across := by
    intro start size empty next last reached
    obtain ⟨urls, cache, fetched, _, capacity, stores⟩ := reached.stocked guards empty
    exact ⟨urls, fetched, fun room => (stores.complete (capacity ▸ room)).1⟩

/-- A workspace with the plugin for the web fetches each resource at most once in a build, and at
most once with success if the cache is large enough and keeps its entries. -/
theorem fetchesOnce_of_registeredAmong {calls : List Call}
    (registered : RegisteredAmong web slot calls) (held : workspace.chain = Chain.ofCalls calls) :
    FetchesOnce web slot workspace := by
  have guards : Guards web slot workspace.chain := held ▸ registered.guards
  exact guards.fetchesOnce

theorem spares_external (slot : Nat) (patterns : List String) :
    (External.plugin patterns).Spares slot where
  resolve := by
    intro handler member
    rw [External.callback_of_mem member]
    exact .of_unchanged slot (External.session_of_resolve patterns)
  load := by
    rw [External.loadHandlers_plugin]
    exact List.forall_mem_nil _

theorem spares_virtual (slot : Nat) (modules : Virtual.Modules) :
    (Virtual.plugin modules).Spares slot where
  resolve := by
    intro handler member
    rw [List.mem_singleton.mp member]
    exact .of_unchanged slot (Virtual.session_of_resolve modules)
  load := by
    intro handler member
    rw [List.mem_singleton.mp member]
    exact .of_unchanged slot (Virtual.session_of_load modules)

/-- The plugin for the web behind one that keeps a package out of the graph. -/
def sharing : Workspace :=
  { Workspace.new FileTable.empty Config.default with
    chain := Chain.ofCalls
      [.register (External.plugin ["react"]), .register (plugin oneModule 0)] }

theorem registeredAmong_sharing : RegisteredAmong oneModule 0
    [.register (External.plugin ["react"]), .register (plugin oneModule 0)] := by
  refine ⟨[.register (External.plugin ["react"])], [], rfl, fun other member => ?_⟩
  cases List.mem_singleton.mp member
  exact spares_external 0 ["react"]

/-- The second build does not fetch again. -/
theorem sharing_fetchesOnce : FetchesOnce oneModule 0 sharing ∧
    ∃ report middle again last,
      sharing.build .scan 1 ["https://cdn.example/a.js"] cold = some (report, middle) ∧
      sharing.build .scan 1 ["https://cdn.example/a.js"] middle = some (again, last) ∧
      Continues sharing cold sharing last ∧ last.fetches = ["https://cdn.example/a.js"] := by
  refine ⟨fetchesOnce_of_registeredAmong registeredAmong_sharing rfl, ?_⟩
  have outcome : (sharing.build .scan 1 ["https://cdn.example/a.js"] cold).bind (fun first =>
      (sharing.build .scan 1 ["https://cdn.example/a.js"] first.2).map fun second =>
        second.2.fetches) = some ["https://cdn.example/a.js"] := by decide +kernel
  obtain ⟨⟨report, middle⟩, built, outcome⟩ := Option.bind_eq_some_iff.mp outcome
  obtain ⟨⟨again, last⟩, rebuilt, fetched⟩ := Option.map_eq_some_iff.mp outcome
  obtain ⟨_, first⟩ := Workspace.building_of_build built
  obtain ⟨_, second⟩ := Workspace.building_of_build rebuilt
  exact ⟨report, middle, again, last, built, rebuilt, .build (.build .start first) second, fetched⟩

end Across

end Remote

end ModuleGraph.Hook
