/-
This file shows that a build loads exactly the modules that the entries lead to, each once and in
breadth-first order.
-/

import ModuleGraph.Proofs.Build.Failures
import ModuleGraph.Proofs.Graph
import ModuleGraph.Proofs.Hook.Functional

namespace ModuleGraph

open Hook

def BuiltModule.identity (built : BuiltModule) : String × String :=
  (built.space, built.path)

namespace Walk

/-- The identities of the modules that results lead to. -/
def targets (results : List (String × Except Error ResolvedModule)) : List (String × String) :=
  results.filterMap fun result =>
    match result.2 with
    | .error _ => none
    | .ok resolved => if resolved.external then none else some resolved.identity

/-- The modules that the imports of a transformed module lead to; any other module leads nowhere. -/
def Finding.targets : Finding → List (String × String)
  | followed _ _ results => Walk.targets results
  | _ => []

theorem map_identity_arrivals (importer : Option String)
    (results : List (String × Except Error ResolvedModule)) :
    (Gain.ofResults importer results).arrivals.map Pending.identity = targets results := by
  rw [Gain.ofResults, targets, List.map_filterMap]
  congr 1
  funext result
  obtain ⟨specifier, error | resolved⟩ := result
  · rfl
  · cases external : resolved.external <;> simp [Gain.arrival?, external, Pending.identity]

theorem Visit.map_identity_arrivals (visit : Visit) :
    visit.gain.arrivals.map Pending.identity = visit.finding.targets := by
  obtain ⟨pending, finding⟩ := visit
  cases finding with
  | followed loaded transformed results => exact Walk.map_identity_arrivals _ results
  | _ => rfl

theorem external_of_mem_arrivals {importer : Option String}
    {results : List (String × Except Error ResolvedModule)} {arrival : Pending}
    (member : arrival ∈ (Gain.ofResults importer results).arrivals) :
    arrival.resolved.external = false := by
  obtain ⟨_, _, _, inside, _⟩ := Gain.mem_arrivals_ofResults.mp member
  exact inside

theorem Visit.external_of_mem_arrivals {visit : Visit} {arrival : Pending}
    (member : arrival ∈ visit.gain.arrivals) : arrival.resolved.external = false := by
  obtain ⟨pending, finding⟩ := visit
  cases finding with
  | followed loaded transformed results => exact Walk.external_of_mem_arrivals member
  | _ => exact absurd member List.not_mem_nil

end Walk

/-- The module of an identity. -/
def ResolvedModule.ofIdentity (identity : String × String) : ResolvedModule :=
  ⟨identity.2, identity.1, false⟩

theorem ResolvedModule.ofIdentity_identity {resolved : ResolvedModule}
    (inside : resolved.external = false) : ofIdentity resolved.identity = resolved := by
  obtain ⟨path, space, external⟩ := resolved
  obtain rfl : external = false := inside
  rfl

/-- The modules that a build loads, in order. -/
def Course.loads (course : Course) : List (String × String) :=
  course.visits.map fun visit => visit.pending.identity

namespace Workspace

/-- What is found of the module of an identity. -/
def findingOf (workspace : Workspace) (toolchain : Toolchain) (session : Session)
    (identity : String × String) : Walk.Finding :=
  (Walk.examine workspace toolchain (.ofIdentity identity) session).1

/-- Whether a module can be loaded and, if it is text, transformed. -/
def succeeds (workspace : Workspace) (toolchain : Toolchain) (session : Session)
    (identity : String × String) : Bool :=
  (workspace.findingOf toolchain session identity).built?.isSome

/-- The graph of the modules that are not external: its roots are what the entries resolve to, and
the successors of a module are what its imports resolve to. -/
def graph (workspace : Workspace) (toolchain : Toolchain) (entries : List String)
    (session : Session) : Graph (String × String) where
  roots := Walk.targets (Walk.resolveAll workspace (entries.map entryRequest) session).1
  successors identity := (workspace.findingOf toolchain session identity).targets

theorem targets_of_not_succeeds {workspace : Workspace} {toolchain : Toolchain} {session : Session}
    {identity : String × String} (fails : workspace.succeeds toolchain session identity = false) :
    (workspace.findingOf toolchain session identity).targets = [] := by
  rw [succeeds] at fails
  cases found : workspace.findingOf toolchain session identity with
  | followed loaded transformed results => simp [found, Walk.Finding.built?] at fails
  | _ => rfl

section Takes

variable {workspace : Workspace} {toolchain : Toolchain} {entries : List String}
  {session last : Session} {course : Course} {final : Walk}

theorem Takes.external (takes : workspace.Takes toolchain entries session course final last) :
    ∀ visit ∈ course.visits, visit.pending.resolved.external = false :=
  fun visit member => (takes.answers visit member).1

theorem findingOf_identity (functional : workspace.chain.IsFunctional) {pending : Pending}
    (inside : pending.resolved.external = false) (between : Session) :
    (Walk.examine workspace toolchain pending.resolved between).1 =
      workspace.findingOf toolchain session pending.identity := by
  have same : ResolvedModule.ofIdentity pending.identity = pending.resolved :=
    ResolvedModule.ofIdentity_identity inside
  rw [findingOf, same]
  exact Walk.examine_functional functional toolchain _ between session

/-- What is found of a module is the same whenever it is visited. -/
theorem Takes.finding (takes : workspace.Takes toolchain entries session course final last)
    (functional : workspace.chain.IsFunctional) : ∀ visit ∈ course.visits,
      visit.finding = workspace.findingOf toolchain session visit.pending.identity := by
  intro visit member
  obtain ⟨between, found⟩ := takes.steps.examined visit member
  rw [found]
  exact findingOf_identity functional (takes.external visit member) between

/-- The modules that a build reaches are the arrivals of the graph at the modules that it loads. -/
theorem Takes.arrivals (takes : workspace.Takes toolchain entries session course final last)
    (functional : workspace.chain.IsFunctional) :
    course.gain.arrivals.map Pending.identity =
      (workspace.graph toolchain entries session).arrivals course.loads := by
  have findings := takes.finding functional
  have resolved := takes.resolved
  obtain ⟨results, visits⟩ := course
  change ((Gain.ofResults none results).arrivals ++ visits.flatMap _).map _ = _ ++ _
  rw [List.map_append, Walk.map_identity_arrivals, Course.loads, graph]
  simp only at resolved findings
  rw [resolved]
  congr 1
  rw [List.map_flatMap, List.flatMap_map]
  apply List.flatMap_congr
  intro visit member
  rw [Walk.Visit.map_identity_arrivals, findings visit member]

theorem Takes.loads (takes : workspace.Takes toolchain entries session course final last)
    (functional : workspace.chain.IsFunctional) (finished : final.report.aborted = false) :
    course.loads =
      firsts id [] ((workspace.graph toolchain entries session).arrivals course.loads) := by
  have visited := congrArg (List.map Pending.identity) (takes.visited finished)
  rw [map_firsts, takes.arrivals functional, List.map_map] at visited
  exact visited

/-- A build loads nothing outside a set that holds the roots and is closed under successors. -/
theorem Takes.subset_of_isClosed
    (takes : workspace.Takes toolchain entries session course final last)
    (functional : workspace.chain.IsFunctional) {nodes : Set (String × String)}
    (closed : (workspace.graph toolchain entries session).IsClosed nodes) :
    ∀ node ∈ course.loads, node ∈ nodes := by
  have visited := takes.forall_pending
    (fun pending => pending.resolved.external = false ∧ pending.identity ∈ nodes) ?_ ?_
  · intro node member
    obtain ⟨visit, visiting, rfl⟩ := List.mem_map.mp member
    exact (visited visit visiting).2
  · rintro pending between ⟨inside, held⟩ arrival member
    refine ⟨Walk.Visit.external_of_mem_arrivals member, closed.2 _ held _ ?_⟩
    have identity := List.mem_map_of_mem (f := Pending.identity) member
    rw [Walk.Visit.map_identity_arrivals, findingOf_identity functional inside between] at identity
    exact identity
  · intro arrival member
    refine ⟨Walk.external_of_mem_arrivals member, closed.1 _ ?_⟩
    have identity := List.mem_map_of_mem (f := Pending.identity) member
    rw [Walk.map_identity_arrivals, takes.resolved] at identity
    exact identity

theorem Takes.reached (takes : workspace.Takes toolchain entries session course final last)
    (functional : workspace.chain.IsFunctional) : ∀ node ∈ course.loads,
      ∃ steps, (workspace.graph toolchain entries session).Reached steps node :=
  takes.subset_of_isClosed functional (Graph.isClosed_reached _)

/-- The modules of the report are those visited that turn out well. -/
theorem Takes.identity_modules
    (takes : workspace.Takes toolchain entries session course final last) :
    final.report.modules.map BuiltModule.identity =
      (course.visits.filter fun visit => visit.finding.built?.isSome).map fun visit =>
        visit.pending.identity := by
  rw [takes.modules]
  have finds := takes.steps.finds
  generalize course.visits = visits at finds
  induction visits with
  | nil => rfl
  | cons visit visits ih =>
      have rest := ih fun other member => finds other (List.mem_cons_of_mem _ member)
      have found := finds visit (List.mem_cons_self ..)
      rw [List.flatMap_cons, List.map_append, rest, List.filter_cons]
      cases added : visit.finding.built? with
      | none => rfl
      | some built =>
          have identity : built.identity = visit.pending.identity := found.identity added
          simp [identity]

/-- No module is listed twice. -/
theorem Takes.nodup_modules
    (takes : workspace.Takes toolchain entries session course final last) :
    (final.report.modules.map BuiltModule.identity).Nodup := by
  rw [takes.identity_modules]
  exact takes.nodup_visits.sublist (List.filter_sublist.map _)

/-- The modules of the report are those loaded that succeed. -/
theorem Takes.modules_eq_filter
    (takes : workspace.Takes toolchain entries session course final last)
    (functional : workspace.chain.IsFunctional) :
    final.report.modules.map BuiltModule.identity =
      course.loads.filter (workspace.succeeds toolchain session) := by
  rw [takes.identity_modules, Course.loads, List.filter_map]
  congr 1
  refine List.filter_congr fun visit member => ?_
  rw [takes.finding functional visit member, Function.comp_apply, succeeds]

end Takes

/-- A build that is not aborted loads the least set of modules that holds what the entries resolve
to and what the imports of its modules resolve to, and each of these modules once. The report lists
those that succeed, in breadth-first order. -/
theorem breadthFirst_of_build {workspace : Workspace} {toolchain : Toolchain} {limit : Nat}
    {entries : List String} {session last : Session} {report : Report}
    (functional : workspace.chain.IsFunctional)
    (built : workspace.build toolchain limit entries session = some (report, last))
    (finished : report.aborted = false) :
    ∃ course final, workspace.Takes toolchain entries session course final last ∧
      final.report = report ∧ course.loads.Nodup ∧
      IsLeast {nodes | (workspace.graph toolchain entries session).IsClosed nodes}
        {node | node ∈ course.loads} ∧
      report.modules.map BuiltModule.identity =
        course.loads.filter (workspace.succeeds toolchain session) ∧
      (workspace.graph toolchain entries session).IsBreadthFirst
        (report.modules.map BuiltModule.identity) := by
  obtain ⟨course, final, takes, rfl, _⟩ := build_eq_some_iff.mp built
  have complete := takes.loads functional finished
  have modules := takes.modules_eq_filter functional
  refine ⟨course, final, takes, rfl, ?_, ⟨?_, ?_⟩, modules, ?_⟩
  · rw [complete]
    exact nodup_firsts_id _
  · exact Graph.isClosed_of_firsts complete
  · exact fun nodes closed => takes.subset_of_isClosed functional closed
  · rw [modules]
    have order := Graph.isBreadthFirst_of_firsts complete (takes.reached functional)
    exact order.filter fun node fails => targets_of_not_succeeds fails

/-- Two files, and a package that stays out of the graph. -/
def twoFiles : Workspace :=
  { Workspace.new (FileTable.ofFiles [("/a.js", .text ""), ("/b.js", .text "")]) Config.default with
    chain := ⟨["external"], [⟨"external", .any, External.resolve ["react"]⟩], []⟩ }

/-- Finds in every module the imports of both files and of the package. -/
def importsBoth : Toolchain := fun code _ =>
  .ok ⟨code, ["react", "/b.js", "/a.js"].map fun specifier => ⟨specifier, .importStatement⟩⟩

theorem twoFiles_isFunctional : twoFiles.chain.IsFunctional where
  resolve := by
    intro handler member
    obtain rfl := List.mem_singleton.mp member
    exact External.isFunctional_resolve _
  load := fun _ member => absurd member List.not_mem_nil

theorem twoFiles_breadthFirst :
    ∃ report last, twoFiles.build importsBoth 2 ["/a.js"] Session.start = some (report, last) ∧
      report.modules.map BuiltModule.identity = [("file", "/a.js"), ("file", "/b.js")] ∧
      ∃ course final, twoFiles.Takes importsBoth ["/a.js"] Session.start course final last ∧
        course.loads.Nodup ∧
        (twoFiles.graph importsBoth ["/a.js"] Session.start).IsBreadthFirst
          (report.modules.map BuiltModule.identity) := by
  have outcome : (twoFiles.build importsBoth 2 ["/a.js"] Session.start).map Prod.fst =
      some ⟨[⟨"/a.js", "file", .script, some "", ["react", "/b.js", "/a.js"]⟩,
        ⟨"/b.js", "file", .script, some "", ["react", "/b.js", "/a.js"]⟩], ["react"], [], [],
        false⟩ := by decide +kernel
  obtain ⟨⟨report, last⟩, built, rfl⟩ := Option.map_eq_some_iff.mp outcome
  obtain ⟨course, final, takes, _, distinct, _, _, order⟩ :=
    breadthFirst_of_build twoFiles_isFunctional built rfl
  exact ⟨_, last, built, rfl, course, final, takes, distinct, order⟩

end Workspace

end ModuleGraph
