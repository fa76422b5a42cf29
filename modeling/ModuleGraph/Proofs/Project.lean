/-
This file shows that a project that does without the web has a finite stock of modules, and that its
builds end and load whatever they reach. A project with the web loads through a cache.
-/

import ModuleGraph.Project
import ModuleGraph.Proofs.Build.Closed
import ModuleGraph.Proofs.FileTable
import ModuleGraph.Proofs.Hook.Remote.Spelling

namespace ModuleGraph

open Hook

namespace Project

theorem eq_of_register {plugin : Plugin} {workspace next : Workspace}
    (registered : workspace.register plugin = .ok next) :
    plugin.succeeds = true ∧ next = workspace.withChain (workspace.chain.extend [plugin]) := by
  rw [Workspace.register] at registered
  cases result : workspace.chain.register plugin with
  | error error =>
      rw [result] at registered
      cases registered
  | ok chain =>
      obtain ⟨succeeds, rfl⟩ := Chain.register_eq_ok_iff.mp result
      rw [result] at registered
      cases registered
      exact ⟨succeeds, rfl⟩

/-- Plugins that are all registered extend the chain of a workspace, and nothing else. -/
theorem eq_of_registerAll {plugins : List Plugin} {workspace next : Workspace}
    (registered : registerAll plugins workspace = .ok next) :
    (∀ plugin ∈ plugins, plugin.succeeds = true) ∧
      next = workspace.withChain (workspace.chain.extend plugins) := by
  induction plugins generalizing workspace with
  | nil =>
      cases registered
      exact ⟨fun _ member => absurd member List.not_mem_nil, by rw [Chain.extend_nil]; rfl⟩
  | cons plugin plugins ih =>
      rw [registerAll] at registered
      split at registered
      · cases registered
      rename_i between first
      obtain ⟨succeeds, rfl⟩ := eq_of_register first
      obtain ⟨succeed, rfl⟩ := ih registered
      refine ⟨List.forall_mem_cons.mpr ⟨succeeds, succeed⟩, ?_⟩
      rw [Workspace.withChain, Workspace.withChain, Workspace.withChain, Chain.extend_extend]
      rfl

variable {project : Project} {workspace : Workspace}

/-- An open project has registered all of its plugins. -/
theorem exists_start_of_workspace {web : Option Remote.Web}
    (opened : project.workspace web = .ok workspace) :
    (∀ plugin ∈ project.plugins web, plugin.succeeds = true) ∧
      ∃ importMap, workspace =
        { Workspace.new project.fileTable project.config with importMap := importMap }.withChain
          (Chain.empty.extend (project.plugins web)) := by
  rw [Project.workspace] at opened
  split at opened
  · cases opened
  simp only at opened
  split at opened
  · cases opened
  rename_i registered
  cases opened
  obtain ⟨succeed, same⟩ := eq_of_registerAll registered
  exact ⟨succeed, _, same⟩

/-- What is left out under a condition each leaves at most the two. -/
theorem eq_or_eq_of_mem {α : Type} {first second other : α} {withoutFirst withoutSecond : Bool}
    (member : other ∈ (if withoutFirst then [] else [first]) ++
      (if withoutSecond then [] else [second])) : other = first ∨ other = second := by
  rcases List.mem_append.mp member with member | member
  · split at member
    · cases member
    · exact .inl (List.mem_singleton.mp member)
  · split at member
    · cases member
    · exact .inr (List.mem_singleton.mp member)

/-- The handler that resolves virtual modules. -/
def virtualResolver (project : Project) : Handler ResolveRequest ResolveAnswer :=
  ⟨"virtual", Filter.startingWith [Virtual.scheme], Virtual.resolve project.virtualModules⟩

/-- The handler that loads virtual modules. -/
def virtualLoader (project : Project) : Handler LoadRequest LoadAnswer :=
  ⟨"virtual", Filter.inSpace Virtual.space, Virtual.load project.virtualModules⟩

def externalResolver (project : Project) : Handler ResolveRequest ResolveAnswer :=
  ⟨"external", Filter.any, External.resolve project.external⟩

/-- A workspace holds the files of a project and the handlers that its plugins have without the
web. -/
structure Opens (project : Project) (workspace : Workspace) : Prop where
  files : workspace.files.files = project.fileTable.files
  resolveHandlers : workspace.chain.resolveHandlers =
    (if project.virtual.isEmpty then [] else [project.virtualResolver]) ++
      (if project.external.isEmpty then [] else [project.externalResolver])
  loadHandlers : workspace.chain.loadHandlers =
    if project.virtual.isEmpty then [] else [project.virtualLoader]

theorem opens_of_workspace (opened : project.workspace none = .ok workspace) :
    project.Opens workspace := by
  obtain ⟨-, importMap, rfl⟩ := exists_start_of_workspace opened
  have virtual : (Virtual.plugin project.virtualModules).resolveHandlers =
      [project.virtualResolver] := rfl
  have loads : (Virtual.plugin project.virtualModules).loadHandlers =
      [project.virtualLoader] := rfl
  constructor
  · rfl
  · rw [plugins]
    cases absent : project.virtual.isEmpty <;> cases missing : project.external.isEmpty <;>
      simp [Workspace.withChain, Workspace.new, Chain.extend, Chain.empty, virtual,
        External.resolveHandlers_plugin, missing, externalResolver]
  · rw [plugins]
    cases absent : project.virtual.isEmpty <;> cases missing : project.external.isEmpty <;>
      simp [Workspace.withChain, Workspace.new, Chain.extend, Chain.empty, loads,
        External.loadHandlers_plugin]

/-- The virtual modules have the ids that the manifest gives. -/
theorem mem_virtualModules_iff {id : String} :
    id ∈ project.virtualModules ↔ id ∈ project.virtual := by
  have added (entries : List (String × String)) (modules : Virtual.Modules) :
      id ∈ entries.foldl (fun modules entry => Virtual.add modules entry.1 entry.2 none) modules ↔
        id ∈ modules ∨ id ∈ entries.map Prod.fst := by
    induction entries generalizing modules with
    | nil => simp
    | cons entry entries ih =>
        have one : id ∈ Virtual.add modules entry.1 entry.2 none ↔ id ∈ modules ∨ id = entry.1 := by
          unfold Virtual.add
          rw [Std.TreeMap.mem_insert, Std.LawfulEqCmp.compare_eq_iff_eq, or_comm,
            @eq_comm _ entry.1]
        rw [List.foldl_cons, ih, one, List.map_cons, List.mem_cons, or_assoc]
  have whole : id ∈ project.virtualModules ↔ id ∈ (∅ : Virtual.Modules) ∨ _ :=
    added project.virtual.toList ∅
  rw [whole, Std.TreeMap.map_fst_toList_eq_keys, Std.TreeMap.mem_keys]
  exact or_iff_right Std.TreeMap.not_mem_emptyc

/-- The identities of the files and of the virtual modules of a project. -/
def stock (project : Project) : List (String × String) :=
  project.fileTable.paths.map (fileSpace, ·) ++ project.virtual.keys.map (Virtual.space, ·)

theorem length_stock (project : Project) :
    project.stock.length = project.fileTable.size + project.virtual.size := by
  rw [stock, List.length_append, List.length_map, List.length_map, FileTable.paths,
    Std.TreeMap.length_keys, Std.TreeMap.length_keys, FileTable.size]

theorem mem_stock_file {path : String} (stored : path ∈ project.fileTable.files) :
    (fileSpace, path) ∈ project.stock :=
  List.mem_append_left _ (List.mem_map_of_mem (Std.TreeMap.mem_keys.mpr stored))

theorem mem_stock_virtual {id : String} (held : id ∈ project.virtual) :
    (Virtual.space, id) ∈ project.stock :=
  List.mem_append_right _ (List.mem_map_of_mem (Std.TreeMap.mem_keys.mpr held))

/-- A module in stock is a stored file or a virtual module. -/
theorem of_mem_stock {resolved : ResolvedModule} (stocked : resolved.identity ∈ project.stock) :
    (resolved.space = fileSpace ∧ resolved.path ∈ project.fileTable.files) ∨
      (resolved.space = Virtual.space ∧ resolved.path ∈ project.virtual) := by
  rcases List.mem_append.mp stocked with member | member
  · obtain ⟨path, stored, same⟩ := List.mem_map.mp member
    obtain ⟨space, rfl⟩ := Prod.mk.inj same
    exact .inl ⟨space.symm, Std.TreeMap.mem_keys.mp stored⟩
  · obtain ⟨id, held, same⟩ := List.mem_map.mp member
    obtain ⟨space, rfl⟩ := Prod.mk.inj same
    exact .inr ⟨space.symm, Std.TreeMap.mem_keys.mp held⟩

namespace Opens

theorem mem_resolveHandlers (opens : project.Opens workspace)
    {handler : Handler ResolveRequest ResolveAnswer}
    (member : handler ∈ workspace.chain.resolveHandlers) :
    handler = project.virtualResolver ∨ handler = project.externalResolver := by
  rw [opens.resolveHandlers] at member
  exact eq_or_eq_of_mem member

theorem resolve_ne_error (opens : project.Opens workspace) (asked : ResolveRequest)
    (session : Session) (error : PluginError) :
    (workspace.chain.resolve asked session).1 ≠ .error error := by
  refine Chain.offer_ne_error ?_ session error
  intro handler member between cause
  rcases opens.mem_resolveHandlers member with rfl | rfl
  · exact Virtual.resolve_ne_error _ asked between cause
  · exact External.resolve_ne_error _ asked between cause

/-- A plugin's answer is external or names a virtual module. -/
theorem of_resolve (opens : project.Opens workspace) {asked : ResolveRequest} {session : Session}
    {answer : ResolveAnswer}
    (answered : (workspace.chain.resolve asked session).1 = .ok (some answer)) :
    answer.external = true ∨ (answer.path ∈ project.virtual ∧
      answer.space = some Virtual.space ∧ answer.external = false) := by
  obtain ⟨handler, member, between, called⟩ := Chain.exists_of_offer_some answered
  rcases opens.mem_resolveHandlers member with rfl | rfl
  · obtain ⟨held, space, inside⟩ := Virtual.mem_of_resolve called
    exact .inr ⟨mem_virtualModules_iff.mp held, space, inside⟩
  · exact .inl (External.external_of_resolve called)

/-- No plugin loads a file. -/
theorem load_file (opens : project.Opens workspace) (path : String) (session : Session) :
    workspace.chain.load ⟨path, fileSpace⟩ session = (.ok none, session) := by
  rw [Chain.load, opens.loadHandlers]
  split
  · rfl
  · rfl

/-- A virtual module is loaded by its plugin. -/
theorem load_virtual (opens : project.Opens workspace) {id : String} (held : id ∈ project.virtual)
    (session : Session) : ∃ answer,
      workspace.chain.load ⟨id, Virtual.space⟩ session = (.ok (some answer), session) := by
  have present : project.virtual.isEmpty = false :=
    Std.TreeMap.isEmpty_eq_false_iff_exists_mem.mpr ⟨id, held⟩
  have kept : id ∈ project.virtualModules := mem_virtualModules_iff.mpr held
  have accepted : project.virtualLoader.filter.accepts id Virtual.space = true := rfl
  obtain ⟨answer, loads⟩ : ∃ answer, project.virtualLoader.callback ⟨id, Virtual.space⟩ session =
      (.ok (some answer), session) := Virtual.load_of_mem kept Virtual.space session
  refine ⟨answer, ?_⟩
  rw [Chain.load, opens.loadHandlers, present, if_neg Bool.false_ne_true, Chain.offer,
    if_pos accepted, loads]

theorem isNormal (opens : project.Opens workspace) : workspace.files.IsNormal := by
  intro path stored
  rw [opens.files] at stored
  exact FileTable.isNormal_ofFiles _ path stored

/-- Whatever a request leads to is external or in stock. -/
theorem identity_mem_stock (opens : project.Opens workspace) {request : ResolveRequest}
    {resolved : ResolvedModule} (answers : workspace.Answers request (.ok resolved))
    (inside : resolved.external = false) : resolved.identity ∈ project.stock := by
  cases answers with
  | claimed answer asked session answered =>
      rw [Workspace.external_settle] at inside
      rcases opens.of_resolve answered with external | ⟨held, space, _⟩
      · rw [inside] at external
        cases external
      · rw [Workspace.settle_of_space space (by decide)]
        exact mem_stock_virtual held
  | remote => cases inside
  | found target file probed =>
      have stored := (FileTable.mem_of_probe? probed).1
      rw [opens.files] at stored
      exact mem_stock_file stored

/-- A module in stock can be loaded. -/
theorem exists_load (opens : project.Opens workspace) {resolved : ResolvedModule}
    (stocked : resolved.identity ∈ project.stock) (session : Session) :
    ∃ loaded, (workspace.load resolved session).1 = .ok loaded := by
  obtain ⟨path, space, external⟩ := resolved
  rw [Workspace.load_fst]
  rcases of_mem_stock stocked with ⟨rfl, stored⟩ | ⟨rfl, held⟩
  · rw [← opens.files] at stored
    obtain ⟨content, found⟩ := Option.isSome_iff_exists.mp (opens.isNormal.find?_isSome stored)
    rw [opens.load_file]
    exact ⟨_, Workspace.loadFile_of_find? found⟩
  · obtain ⟨answer, loads⟩ := opens.load_virtual held session
    rw [loads]
    exact ⟨_, rfl⟩

theorem supplies (opens : project.Opens workspace) : workspace.Supplies project.stock where
  safe := by
    intro request error answers
    cases answers with
    | refused _ asked session failed => exact opens.resolve_ne_error asked session error failed
  inside := fun _ _ answers inside => opens.identity_mem_stock answers inside
  loads := fun _ session stocked => opens.exists_load stocked session

/-- Without the web, plugins answer as functions of their requests. -/
theorem isFunctional (opens : project.Opens workspace) : workspace.chain.IsFunctional where
  resolve := by
    intro handler member
    rcases opens.mem_resolveHandlers member with rfl | rfl
    · exact Virtual.isFunctional_resolve _
    · exact External.isFunctional_resolve _
  load := by
    intro handler member
    rw [opens.loadHandlers] at member
    split at member
    · cases member
    obtain rfl := List.mem_singleton.mp member
    exact Virtual.isFunctional_load _

end Opens

/-- A build of a project without the web ends after at most as many modules as the project has files
and virtual modules. Every module that it reaches is loaded, so that it fails at specifiers alone
and holds whatever its modules depend on. -/
theorem isClosed_of_workspace (opened : project.workspace none = .ok workspace) (limit : Nat)
    (entries : List String) (session : Session) :
    (project.fileTable.size + project.virtual.size ≤ limit →
      ∃ report last, workspace.build .scan limit entries session = some (report, last)) ∧
    (∀ request between resolved, (workspace.resolve request between).1 = .ok resolved →
      resolved.external = false →
      ∀ later, ∃ loaded, (workspace.load resolved later).1 = .ok loaded) ∧
    ∀ report last, workspace.build .scan limit entries session = some (report, last) →
      report.modules.length ≤ project.fileTable.size + project.virtual.size ∧
      ∃ course final, workspace.Takes .scan entries session course final last ∧
        final.report = report ∧ course.IsClosed report := by
  have opens := opens_of_workspace opened
  have supplies := opens.supplies
  rw [← length_stock]
  refine ⟨fun enough => supplies.exists_build enough .scan entries session, ?_, ?_⟩
  · intro request between resolved leads inside later
    have answers := workspace.answers_resolve request between
    rw [leads] at answers
    exact opens.exists_load (opens.identity_mem_stock answers inside) later
  · intro report last built
    obtain ⟨course, final, takes, rfl, _⟩ := Workspace.build_eq_some_iff.mp built
    exact ⟨takes.length_modules_le supplies, course, final, takes, rfl,
      takes.isClosed supplies Toolchain.isTotal_scan⟩

/-- A file that imports a virtual module, and an external package. -/
def small : Project :=
  { empty with
    files := tableOf [("/main.js", "import \"virtual:greeting\"")]
    external := ["react"]
    virtual := tableOf [("greeting", "import \"react\"")] }

theorem small_isClosed :
    ∃ workspace, small.workspace none = .ok workspace ∧
      ∃ report last, workspace.build .scan 2 ["/main.js"] small.session = some (report, last) ∧
        report.modules.length ≤ small.fileTable.size + small.virtual.size ∧
        ∃ course, Course.IsClosed course report := by
  have opened : small.workspace none = .ok _ := rfl
  have enough : small.fileTable.size + small.virtual.size ≤ 2 := by decide +kernel
  obtain ⟨ends, _, closed⟩ := isClosed_of_workspace opened 2 ["/main.js"] small.session
  obtain ⟨report, last, built⟩ := ends enough
  obtain ⟨bound, course, _, _, _, isClosed⟩ := closed report last built
  exact ⟨_, opened, report, last, built, bound, course, isClosed⟩

/-- A project that is opened with the web registers its plugin last. -/
theorem calls_of_workspace {web : Remote.Web}
    (opened : project.workspace (some web) = .ok workspace) :
    ∃ before, workspace.chain = Chain.ofCalls (before ++ [.register (Remote.plugin web 0)]) ∧
      ∀ other, .register other ∈ before →
        other = Virtual.plugin project.virtualModules ∨
          other = External.plugin project.external := by
  obtain ⟨succeed, importMap, rfl⟩ := exists_start_of_workspace opened
  have history := (Chain.foldl_register succeed Chain.empty).symm
  rw [plugins, List.map_append] at history
  refine ⟨_, history, fun other member => ?_⟩
  obtain ⟨known, member, same⟩ := List.mem_map.mp member
  cases same
  exact eq_or_eq_of_mem member

/-- A project that is opened with the web hosts its plugin, and begins with an empty cache. -/
theorem hosts_of_workspace {web : Remote.Web}
    (opened : project.workspace (some web) = .ok workspace) :
    Remote.Reached web 0 project.session ∧ ∃ plain, Remote.Hosts web 0 workspace plain := by
  obtain ⟨before, history, known⟩ := calls_of_workspace opened
  refine ⟨.new rfl, _, .intro (fun other member => ?_) history⟩
  rw [List.append_nil] at member
  rcases known other member with rfl | rfl
  · exact Remote.ignores_virtual 0 _
  · exact Remote.ignores_external 0 _

theorem guards_of_workspace {web : Remote.Web}
    (opened : project.workspace (some web) = .ok workspace) :
    Remote.Guards web 0 workspace.chain := by
  obtain ⟨before, history, known⟩ := calls_of_workspace opened
  rw [history]
  refine Remote.RegisteredAmong.guards ⟨before, [], rfl, fun other member => ?_⟩
  rw [List.append_nil] at member
  rcases known other member with rfl | rfl
  · exact Remote.spares_virtual 0 _
  · exact Remote.spares_external 0 _

/-- A project that is opened with the web fetches each resource at most once in a build. -/
theorem fetchesOnce_of_workspace {web : Remote.Web}
    (opened : project.workspace (some web) = .ok workspace) :
    Remote.FetchesOnce web 0 workspace :=
  (guards_of_workspace opened).fetchesOnce

/-- A project that is opened with the web leads each URL to the module of its spelling. -/
theorem knowsSpellings_of_workspace {web : Remote.Web}
    (opened : project.workspace (some web) = .ok workspace) :
    Remote.KnowsSpellings web 0 workspace :=
  (guards_of_workspace opened).knowsSpellings

end Project

end ModuleGraph
