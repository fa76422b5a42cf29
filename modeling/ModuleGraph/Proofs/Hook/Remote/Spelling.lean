/-
This file shows where requests lead that the plugin for the web answers. A relative path and a
specifier that the import map lists lead to the normal form of their URLs, but a URL that is written
out leads to its own spelling.
-/

import ModuleGraph.Proofs.Build.BreadthFirst
import ModuleGraph.Proofs.Hook.Remote.Fetches
import ModuleGraph.Proofs.ImportMap.Target
import ModuleGraph.Proofs.Path

namespace ModuleGraph.Hook.Remote

section Law

/-- Of the handlers that a request is offered to, one of the plugin for the web answers it. -/
inductive Claims (web : Web) (slot : Nat) (chain : Chain) (request : ResolveRequest)
    (session : Session) : Prop
  | intro {before after : List (Handler ResolveRequest ResolveAnswer)}
      {handler : Handler ResolveRequest ResolveAnswer} {between last : Session}
      {given : ResolveAnswer} (own : handler ∈ (plugin web slot).resolveHandlers)
      (split : seeing request.path request.space chain.resolveHandlers =
        before ++ handler :: after)
      (passes : Passes request before session between)
      (answers : handler.callback request between = (.ok (some given), last)) :
      Claims web slot chain request session

/-- The ways in which a request that the plugin claims names a URL, with the spelling that is used
of the URL. -/
inductive Names (web : Web) (slot : Nat) (workspace : Workspace) (request : ResolveRequest)
    (session : Session) (url : Url) : String → Prop
  | absolute (claimed : Claims web slot workspace.chain request session)
      (written : webUrls.test request.path = true) (parsed : Url.parse request.path = .ok url) :
      Names web slot workspace request session url request.path
  | relative {importer : String} {base : Url}
      (claimed : Claims web slot workspace.chain request session)
      (written : Path.isPathSpecifier request.path = true)
      (imported : request.importer = some importer) (parsed : Url.parse importer = .ok base)
      (joined : base.join request.path = .ok url) :
      Names web slot workspace request session url url.toText
  /-- No plugin claims the specifier, and the import map has an entry for it. -/
  | listed {document : Json} {place : String} {map : ImportMap} {between : Session}
      (passed : workspace.chain.resolve request session = (.ok none, between))
      (held : workspace.importMap = some map) (read : ImportMap.ofJson document place = .ok map)
      (lists : map.Lists request.path (Workspace.referrer request) url)
      (other : url.toText ≠ request.path)
      (claimed : Claims web slot workspace.chain { request with path := url.toText } between)
      (written : webUrls.test url.toText = true) :
      Names web slot workspace request session url url.toText
  /-- No plugin claims the specifier, and the import map rewrites it in whatever way. -/
  | mapped {target : String} {between : Session}
      (passed : workspace.chain.resolve request session = (.ok none, between))
      (rewritten : workspace.remap request = .ok (some target)) (other : target ≠ request.path)
      (claimed : Claims web slot workspace.chain { request with path := target } between)
      (written : webUrls.test target = true) (parsed : Url.parse target = .ok url) :
      Names web slot workspace request session url target

/-- The module of a URL in its normal form. -/
def moduleOf (url : Url) : ResolvedModule :=
  ⟨url.toText, space, false⟩

/-- Modules from the web are known by the spelling of their URLs, and so URLs in normal form by
themselves. -/
structure KnowsSpellings (web : Web) (slot : Nat) (workspace : Workspace) : Prop where
  leads : ∀ request session url spelling, Names web slot workspace request session url spelling →
    (workspace.resolve request session).1 = .ok ⟨spelling, space, false⟩
  /-- Two requests for one URL lead to one module exactly if they spell it alike. -/
  same_iff : ∀ first second session other url spelling respelling,
    Names web slot workspace first session url spelling →
    Names web slot workspace second other url respelling →
    ((workspace.resolve first session).1 = (workspace.resolve second other).1 ↔
      spelling = respelling)
  modules : ∀ toolchain limit entries session report last,
    workspace.build toolchain limit entries session = some (report, last) →
      ∀ url, (report.modules.map BuiltModule.identity).count (moduleOf url).identity ≤ 1
  fetches : ∀ toolchain entries session visits last,
    workspace.Building toolchain entries session visits last →
      ∃ urls, last.fetches = session.fetches ++ urls ∧ ∀ url : Url, urls.count url.toText ≤ 1

end Law

section Handlers

variable {web : Web} {slot : Nat} {workspace : Workspace} {request : ResolveRequest}
  {session : Session}

/-- A URL of the web is not written as a path. -/
theorem isPathSpecifier_of_webUrls {text : String} (written : webUrls.test text = true) :
    Path.isPathSpecifier text = false := by
  have letter : text.toList.head? = some 'h' := by
    obtain ⟨start, among, starts⟩ := List.any_eq_true.mp written
    obtain ⟨rest, rfl⟩ := Text.startsWith_iff.mp starts
    simp only [List.mem_cons, List.not_mem_nil, or_false] at among
    rcases among with rfl | rfl <;> simp
  refine Bool.eq_false_iff.mpr fun path => ?_
  rcases Path.head?_of_isPathSpecifier path with slash | dot
  · exact absurd (letter.symm.trans slash) (by decide)
  · exact absurd (letter.symm.trans dot) (by decide)

/-- What a relative path names is written in normal form. -/
theorem join_of_parsed {importer specifier : String} {base url : Url}
    (parsed : Url.parse importer = .ok base) (joined : base.join specifier = .ok url) :
    join importer specifier = .ok url.toText := by
  rw [join, parsed]
  change (base.join specifier >>= fun url => .ok url.toText) = _
  rw [joined]
  rfl

/-- The answer to a relative path is the URL that it is joined to. -/
theorem join_of_resolve {between last : Session} {given : ResolveAnswer}
    (answers : resolve request between = (.ok (some given), last)) :
    ∃ importer text, request.importer = some importer ∧
      Path.isPathSpecifier request.path = true ∧ join importer request.path = .ok text ∧
      given = ⟨text, some space, false⟩ := by
  unfold resolve at answers
  split at answers
  · cases answers
  rename_i importer imported
  split at answers
  · rename_i path
    split at answers
    · rename_i text joined
      cases answers
      exact ⟨importer, text, imported, path, joined, rfl⟩
    · cases answers
  · cases answers

/-- A request that the plugin claims is answered with its own text if that is a URL of the web, and
with the URL that it is joined to if it is a path. -/
theorem Claims.answered (claimed : Claims web slot workspace.chain request session) :
    ∃ text, (workspace.chain.resolve request session).1 = .ok (some ⟨text, some space, false⟩) ∧
      (webUrls.test request.path = true ∧ text = request.path ∨
        ∃ importer, request.importer = some importer ∧
          Path.isPathSpecifier request.path = true ∧ join importer request.path = .ok text) := by
  cases claimed with
  | @intro before after handler between last given own split passes answers =>
      have offered : workspace.chain.resolve request session = (.ok (some given), last) :=
        Chain.offer_eq_iff_offers.mpr (.answered split passes answers)
      have seen : handler ∈ seeing request.path request.space workspace.chain.resolveHandlers := by
        rw [split]
        exact List.mem_append_right _ (List.mem_cons_self ..)
      have sees : handler.filter.Sees request.path request.space :=
        of_decide_eq_true (List.mem_filter.mp seen).2
      rw [offered]
      rcases List.mem_pair.mp own with rfl | rfl
      · cases answers
        exact ⟨request.path, rfl, .inl ⟨sees.2, rfl⟩⟩
      · obtain ⟨importer, text, imported, path, joined, rfl⟩ := join_of_resolve answers
        exact ⟨text, rfl, .inr ⟨importer, imported, path, joined⟩⟩

/-- A URL that is written out leads to its own spelling. -/
theorem Claims.of_written (claimed : Claims web slot workspace.chain request session)
    (written : webUrls.test request.path = true) :
    (workspace.chain.resolve request session).1 =
      .ok (some ⟨request.path, some space, false⟩) := by
  obtain ⟨text, answered, ⟨_, rfl⟩ | ⟨_, _, path, _⟩⟩ := claimed.answered
  · exact answered
  · rw [isPathSpecifier_of_webUrls written] at path
    cases path

theorem Names.leads {url : Url} {spelling : String}
    (names : Names web slot workspace request session url spelling) :
    (workspace.resolve request session).1 = .ok ⟨spelling, space, false⟩ := by
  have settled (text : String) :
      workspace.settle ⟨text, some space, false⟩ = ⟨text, space, false⟩ :=
    Workspace.settle_of_space rfl (by decide)
  rw [← settled]
  cases names with
  | absolute claimed written parsed =>
      exact Workspace.resolve_of_answered (claimed.of_written written)
  | @relative importer base claimed written imported parsed joined =>
      obtain ⟨text, answered, ⟨absolute, _⟩ | ⟨other, named, _, reached⟩⟩ := claimed.answered
      · rw [isPathSpecifier_of_webUrls absolute] at written
        cases written
      · cases imported.symm.trans named
        cases (join_of_parsed parsed joined).symm.trans reached
        exact Workspace.resolve_of_answered answered
  | listed passed held read lists other claimed written =>
      have rewritten : workspace.remap request = .ok (some url.toText) := by
        simp only [Workspace.remap, held, lists.resolved read]
      exact Workspace.resolve_of_rewritten passed rewritten other (claimed.of_written written)
  | mapped passed rewritten other claimed written parsed =>
      exact Workspace.resolve_of_rewritten passed rewritten other (claimed.of_written written)

end Handlers

theorem Guards.knowsSpellings {web : Web} {slot : Nat} {workspace : Workspace}
    (guards : Guards web slot workspace.chain) : KnowsSpellings web slot workspace where
  leads := fun _ _ _ _ names => names.leads
  same_iff := by
    intro first second session other url spelling respelling names renames
    rw [names.leads, renames.leads]
    simp
  modules := by
    intro toolchain limit entries session report last built url
    obtain ⟨course, final, takes, rfl, _⟩ := Workspace.build_eq_some_iff.mp built
    exact List.nodup_iff_count_le_one.mp takes.nodup_modules _
  fetches := by
    intro toolchain entries session visits last building
    obtain ⟨urls, fetched, distinct⟩ := guards.building_fetched building
    exact ⟨urls, fetched, fun url => List.nodup_iff_count_le_one.mp distinct url.toText⟩

/-- A workspace with the plugin for the web leads each URL to the module of its spelling, and holds
and fetches a URL in normal form at most once in a build. -/
theorem knowsSpellings_of_registeredAmong {web : Web} {slot : Nat} {workspace : Workspace}
    {calls : List Call} (registered : RegisteredAmong web slot calls)
    (held : workspace.chain = Chain.ofCalls calls) : KnowsSpellings web slot workspace := by
  have guards : Guards web slot workspace.chain := held ▸ registered.guards
  exact guards.knowsSpellings

section Detour

theorem eq_ok_of_toOption {error value : Type} {result : Except error value} {given : value}
    (succeeded : result.toOption = some given) : result = .ok given := by
  cases result with
  | error cause => cases succeeded
  | ok found => exact congrArg Except.ok (Option.some.inj succeeded)

/-- A web that has the same module under every URL. -/
def everywhere : Web := fun _ =>
  .ok "export {}".toUTF8

def browsing : Workspace :=
  { Workspace.new FileTable.empty Config.default with
    chain := Chain.ofCalls [.register (plugin everywhere 0)] }

/-- An import map that lists a URL that is written with a detour. -/
def aliases : Json :=
  .object [("imports", .object [("a", .string "https://cdn.example/lib/../a.js")])]

def aliasesMap : ImportMap where
  base := .directory "/"
  imports := [("a", .address "https://cdn.example/a.js")]
  scopes := []
  warnings := []

def aliased : Workspace :=
  { browsing with importMap := some aliasesMap }

/-- The URL `https://cdn.example/a.js`. -/
def moduleUrl : Url :=
  ⟨"https", some (.ofHost (.name "cdn.example")), .segmented ["a.js"], none, none⟩

/-- The URL `https://cdn.example/lib/main.js`. -/
def libraryUrl : Url :=
  { moduleUrl with path := .segmented ["lib", "main.js"] }

theorem toText_moduleUrl : moduleUrl.toText = "https://cdn.example/a.js" := by
  decide +kernel

theorem parse_straight : Url.parse "https://cdn.example/a.js" = .ok moduleUrl :=
  eq_ok_of_toOption (by decide +kernel)

/-- An import in a module of the library. -/
def climbing : ResolveRequest :=
  ⟨"../a.js", some "https://cdn.example/lib/main.js", space, .importStatement⟩

theorem names_straight : Names everywhere 0 browsing
    (Workspace.entryRequest "https://cdn.example/a.js") cold moduleUrl moduleUrl.toText := by
  rw [toText_moduleUrl]
  have claimed : Claims everywhere 0 browsing.chain
      (Workspace.entryRequest "https://cdn.example/a.js") cold :=
    @Claims.intro _ _ _ _ _ [] [] _ _ _ _ (List.mem_cons_self ..) rfl (.nil cold) rfl
  exact .absolute claimed (by decide +kernel) parse_straight

theorem names_climbing : Names everywhere 0 aliased climbing cold moduleUrl moduleUrl.toText := by
  have parsed : Url.parse "https://cdn.example/lib/main.js" = .ok libraryUrl :=
    eq_ok_of_toOption (by decide +kernel)
  have joined : libraryUrl.join "../a.js" = .ok moduleUrl := eq_ok_of_toOption (by decide +kernel)
  have answers :
      resolve climbing cold = (.ok (some ⟨moduleUrl.toText, some space, false⟩), cold) := by
    have path : Path.isPathSpecifier "../a.js" = true := by decide +kernel
    simp only [resolve, climbing, if_pos path, join_of_parsed parsed joined]
  have claimed : Claims everywhere 0 aliased.chain climbing cold :=
    @Claims.intro _ _ _ _ _ [] [] _ _ _ _ (List.mem_cons_of_mem _ (List.mem_cons_self ..)) rfl
      (.nil cold) answers
  exact .relative claimed (by decide +kernel) rfl parsed joined

theorem parse_detour : Url.parse "https://cdn.example/lib/../a.js" = .ok moduleUrl :=
  eq_ok_of_toOption (by decide +kernel)

/-- The address with a detour names the URL without it. -/
theorem names_detour {base : ImportMap.Base} :
    base.Names "https://cdn.example/lib/../a.js" moduleUrl :=
  .absolute parse_detour

theorem ofJson_aliases : ImportMap.ofJson aliases "/" = .ok aliasesMap := by
  change Except.ok (ImportMap.mk (.directory "/")
    (ImportMap.sortByLength Prod.fst [("a", .address
      ((ImportMap.Base.directory "/").normalize "https://cdn.example/lib/../a.js"))])
    (ImportMap.sortByLength ImportMap.Scope.start []) []) = _
  rw [ImportMap.sortByLength_singleton, names_detour.normalize_eq, toText_moduleUrl,
    ImportMap.sortByLength, List.mergeSort_nil]
  rfl

theorem names_aliased : Names everywhere 0 aliased (Workspace.entryRequest "a") cold moduleUrl
    moduleUrl.toText := by
  have member : ("a", ImportMap.Target.address
      (aliasesMap.base.normalize "https://cdn.example/lib/../a.js")) ∈ aliasesMap.imports := by
    rw [names_detour.normalize_eq, toText_moduleUrl]
    exact List.mem_cons_self ..
  have lists : aliasesMap.Lists "a" (Workspace.referrer (Workspace.entryRequest "a")) moduleUrl :=
    ⟨_, _, _, rfl, .imports (fun _ absurd => nomatch absurd) ⟨_, member, .inl rfl⟩, member,
      names_detour⟩
  have claimed : Claims everywhere 0 aliased.chain
      { Workspace.entryRequest "a" with path := moduleUrl.toText } cold := by
    rw [toText_moduleUrl]
    exact @Claims.intro _ _ _ _ _ [] [] _ _ _ _ (List.mem_cons_self ..) rfl (.nil cold) rfl
  exact .listed rfl rfl ofJson_aliases lists (by decide +kernel) claimed (by decide +kernel)

/-- A specifier that is listed with a detour leads to the module that a path leads to. -/
theorem aliased_knowsSpellings : KnowsSpellings everywhere 0 aliased ∧
    (aliased.resolve (Workspace.entryRequest "a") cold).1 = (aliased.resolve climbing cold).1 := by
  have knows : KnowsSpellings everywhere 0 aliased :=
    knowsSpellings_of_registeredAmong ⟨[], [], rfl, fun _ absurd => nomatch absurd⟩ rfl
  exact ⟨knows, (knows.same_iff _ _ _ _ _ _ _ names_aliased names_climbing).mpr rfl⟩

/-- Both requests name one URL, but the one that writes it with a detour leads to another module,
which is fetched as well. -/
theorem browsing_detour :
    Names everywhere 0 browsing (Workspace.entryRequest "https://cdn.example/a.js") cold
      moduleUrl moduleUrl.toText ∧
    Names everywhere 0 browsing (Workspace.entryRequest "https://cdn.example/lib/../a.js") cold
      moduleUrl "https://cdn.example/lib/../a.js" ∧
    (browsing.resolve (Workspace.entryRequest "https://cdn.example/lib/../a.js") cold).1 ≠
      (browsing.resolve (Workspace.entryRequest "https://cdn.example/a.js") cold).1 ∧
    (browsing.build .scan 2 ["https://cdn.example/a.js", "https://cdn.example/lib/../a.js"]
        cold).map (fun built => (built.1.modules.map BuiltModule.path, built.2.fetches)) =
      some (["https://cdn.example/a.js", "https://cdn.example/lib/../a.js"],
        ["https://cdn.example/a.js", "https://cdn.example/lib/../a.js"]) := by
  have claimed : Claims everywhere 0 browsing.chain
      (Workspace.entryRequest "https://cdn.example/lib/../a.js") cold :=
    @Claims.intro _ _ _ _ _ [] [] _ _ _ _ (List.mem_cons_self ..) rfl (.nil cold) rfl
  have names : Names everywhere 0 browsing
      (Workspace.entryRequest "https://cdn.example/lib/../a.js") cold moduleUrl _ :=
    .absolute claimed (by decide +kernel) parse_detour
  refine ⟨names_straight, names, ?_, by decide +kernel⟩
  rw [names.leads, names_straight.leads, toText_moduleUrl]
  simp [Workspace.entryRequest, Workspace.requestOf]

end Detour

end ModuleGraph.Hook.Remote
