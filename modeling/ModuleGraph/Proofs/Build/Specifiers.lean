/-
This file shows that a build takes every specifier to where the specifier leads on its own.
-/

import ModuleGraph.Proofs.Build.Account
import ModuleGraph.Proofs.Build.BreadthFirst
import ModuleGraph.Proofs.Build.Closed
import ModuleGraph.Proofs.ImportScan
import ModuleGraph.Proofs.Workspace.Form

namespace ModuleGraph

open Hook

/-- The imports that are scanned in a module of a report. -/
def BuiltModule.imports (built : BuiltModule) : List Import :=
  match built.code with
  | none => []
  | some code => if built.loader.isScript then ImportScan.scan code else []

/-- A build agrees with the places to which single specifiers lead. The failures of the report hold
the very errors of the specifiers. -/
structure Course.AgreesWith (course : Course) (report : Report) (entries : List String)
    (leads : String → Option String → Except Error ResolvedModule) : Prop where
  /-- The walk takes in what each entry leads to. -/
  reached : course.entries = entries.map fun entry => (entry, leads entry none)
  module : ∀ entry ∈ entries, ∀ resolved, leads entry none = .ok resolved →
    resolved.external = false → ∃ built ∈ report.modules, built.identity = resolved.identity
  external : ∀ entry ∈ entries, ∀ resolved, leads entry none = .ok resolved →
    resolved.external = true → resolved.path ∈ report.externals
  failure : ∀ entry ∈ entries, ∀ error, leads entry none = .error error →
    ⟨error, entry, none⟩ ∈ report.failures
  /-- A file depends on what its imports lead to, in order. -/
  dependencies : ∀ built ∈ report.modules, built.space = fileSpace →
    built.dependencies = built.imports.filterMap fun written =>
      (leads written.specifier (some built.path)).toOption.map ResolvedModule.path
  failures : ∀ built ∈ report.modules, built.space = fileSpace →
    ∀ written ∈ built.imports, ∀ error,
      leads written.specifier (some built.path) = .error error →
        ⟨error, written.specifier, some built.path⟩ ∈ report.failures

namespace Walk

variable {workspace : Workspace} {toolchain : Toolchain}

/-- The results of a transformed module are those of the requests of its imports. -/
theorem exists_source_of_examine {resolved : ResolvedModule} {session : Session}
    {loaded : LoadedModule} {transformed : Transformed}
    {results : List (String × Except Error ResolvedModule)}
    (found : (examine workspace toolchain resolved session).1 =
      .followed loaded transformed results) :
    ∃ source between, sourceOf loaded = some source ∧
      toolchain source (transformRequest loaded) = .ok transformed ∧
      results =
        (resolveAll workspace (transformed.imports.map (importRequest loaded)) between).1 := by
  rw [examine_fst] at found
  split at found
  · cases found
  rename_i other loading
  split at found
  · cases found
  rename_i source textual
  split at found
  · cases found
  · rename_i output transforming
    cases found
    exact ⟨source, _, textual, transforming, rfl⟩

/-- The request of an import in a file is similar to that of its specifier alone. -/
theorem similar_importRequest {loaded : LoadedModule} (among : loaded.space = fileSpace)
    {written : Import} (inside : written.kind ≠ .entryPoint) :
    (importRequest loaded written).Similar
      (Workspace.requestOf written.specifier (some loaded.path)) :=
  ⟨rfl, rfl, among, iff_of_false inside ResolveKind.noConfusion⟩

theorem path?_eq (result : String × Except Error ResolvedModule) :
    path? result = result.2.toOption.map ResolvedModule.path := by
  obtain ⟨specifier, error | resolved⟩ := result <;> rfl

/-- A module depends on whatever its results lead to if all are taken in. -/
theorem dependencies_eq {results : List (String × Except Error ResolvedModule)}
    (goes : ∀ result ∈ results, goesOn result = true) :
    dependencies results = results.filterMap path? := by
  rw [dependencies, List.takeWhile_eq_self_iff.mpr goes]

end Walk

namespace Workspace.Takes

variable {workspace : Workspace} {toolchain : Toolchain} {entries : List String}
  {session last : Session} {course : Course} {final : Walk}

/-- The walk takes in what each entry leads to on its own. -/
theorem entries_functional (takes : workspace.Takes toolchain entries session course final last)
    (functional : workspace.chain.IsFunctional) (asked : Session) :
    course.entries = entries.map fun entry =>
      (entry, (workspace.resolveSpecifier entry none asked).1) := by
  rw [takes.resolved, Walk.resolveAll_functional functional _ _ asked, List.map_map]
  rfl

section Scan

variable (takes : workspace.Takes .scan entries session course final last)
  (functional : workspace.chain.IsFunctional)
  (ignore : ∀ handler ∈ workspace.chain.resolveHandlers, IgnoresForm handler.callback)
include takes functional ignore

/-- Each import of a file was resolved to where its specifier leads on its own. -/
theorem results_of_file {pending : Pending} {loaded : LoadedModule} {transformed : Transformed}
    {results : List (String × Except Error ResolvedModule)}
    (visited : ⟨pending, .followed loaded transformed results⟩ ∈ course.visits)
    {built : BuiltModule}
    (added : (Walk.Finding.followed loaded transformed results).built? = some built)
    (among : built.space = fileSpace) (asked : Session) :
    results = built.imports.map fun written =>
      (written.specifier,
        (workspace.resolveSpecifier written.specifier (some built.path) asked).1) := by
  obtain ⟨between, found⟩ := takes.steps.examined _ visited
  obtain ⟨source, later, _, transforming, resolved⟩ := Walk.exists_source_of_examine found.symm
  cases transforming
  cases added
  rw [resolved, Walk.resolveAll_functional functional _ _ asked, List.map_map]
  change List.map _ (if loaded.loader.isScript = true then ImportScan.scan source else []) =
    List.map _ (if loaded.loader.isScript = true then ImportScan.scan source else [])
  refine List.map_congr_left fun written member => ?_
  have scanned : written ∈ ImportScan.scan source := by
    split at member
    · exact member
    · exact absurd member List.not_mem_nil
  have similar : (Walk.importRequest loaded written).Similar
      (Workspace.requestOf written.specifier (some loaded.path)) :=
    Walk.similar_importRequest among (ImportScan.kind_ne_entryPoint_of_mem_scan scanned)
  exact Prod.ext rfl (resolve_similar ignore similar asked asked)

/-- The results of a module's imports are taken in, and they are its dependencies and failures. -/
theorem exists_results_of_file (finished : final.report.aborted = false) (asked : Session)
    {built : BuiltModule} (listed : built ∈ final.report.modules)
    (among : built.space = fileSpace) :
    ∃ results, (∀ result ∈ results, Walk.goesOn result = true) ∧
      (∀ failure ∈ (Gain.ofResults (some built.path) results).failures,
        failure ∈ final.report.failures) ∧
      built.dependencies = Walk.dependencies results ∧
      results = built.imports.map fun written => (written.specifier,
        (workspace.resolveSpecifier written.specifier (some built.path) asked).1) := by
  rw [takes.modules] at listed
  obtain ⟨⟨pending, finding⟩, visited, added⟩ := List.mem_flatMap.mp listed
  rw [Option.mem_toList] at added
  cases finding with
  | missing | rejected => cases added
  | kept =>
      cases added
      exact ⟨[], List.forall_mem_nil _, List.forall_mem_nil _, rfl, rfl⟩
  | followed loaded transformed results =>
      have led := takes.results_of_file functional ignore visited added among asked
      cases added
      have recorded : ∀ failure ∈ (Gain.ofResults (some loaded.path) results).failures,
          failure ∈ course.gain.failures := fun failure member =>
        List.mem_append_right _ (List.mem_flatMap.mpr ⟨_, visited, member⟩)
      have part : Harmless (Gain.ofResults (some loaded.path) results).failures :=
        fun failure member => takes.harmless finished failure (recorded failure member)
      refine ⟨results, Walk.goesOn_of_harmless part, ?_, rfl, led⟩
      rw [takes.failures_eq finished]
      exact recorded

/-- A build that is not aborted agrees with single specifiers, which may be asked at any time. -/
theorem agreesWith {stock : List (String × String)} (supplies : workspace.Supplies stock)
    (finished : final.report.aborted = false) (asked : Session) :
    course.AgreesWith final.report entries fun specifier importer =>
      (workspace.resolveSpecifier specifier importer asked).1 := by
  have reached := takes.entries_functional functional asked
  have entered : ∀ entry ∈ entries,
      (entry, (workspace.resolveSpecifier entry none asked).1) ∈ course.entries := by
    intro entry member
    rw [reached]
    exact List.mem_map_of_mem member
  refine ⟨reached, ?_, ?_, ?_, ?_, ?_⟩
  · intro entry member resolved leads inside
    have held := entered entry member
    rw [leads] at held
    have arrived : ⟨resolved, entry, none⟩ ∈ course.gain.arrivals :=
      List.mem_append_left _ (Gain.mem_arrivals_ofResults.mpr ⟨_, held, rfl, inside, rfl, rfl⟩)
    exact takes.exists_module supplies Toolchain.isTotal_scan finished arrived
  · intro entry member resolved leads external
    have held := entered entry member
    rw [leads] at held
    rw [takes.externals finished, mem_firsts_id_iff]
    exact List.mem_append_left _
      (Gain.mem_externals_ofResults.mpr ⟨_, held, resolved, rfl, external, rfl⟩)
  · intro entry member error leads
    have held := entered entry member
    rw [leads] at held
    rw [takes.failures_eq finished]
    exact List.mem_append_left _ (Gain.mem_failures_ofResults.mpr ⟨_, held, rfl, rfl, rfl⟩)
  · intro built listed among
    obtain ⟨results, goes, _, depends, led⟩ :=
      takes.exists_results_of_file functional ignore finished asked listed among
    rw [depends, Walk.dependencies_eq goes, led, List.filterMap_map]
    exact List.filterMap_congr fun written _ => Walk.path?_eq _
  · intro built listed among written member error leads
    obtain ⟨results, _, recorded, _, led⟩ :=
      takes.exists_results_of_file functional ignore finished asked listed among
    refine recorded _ (Gain.mem_failures_ofResults.mpr ⟨(written.specifier, .error error), ?_,
      rfl, rfl, rfl⟩)
    rw [led, ← leads]
    exact List.mem_map_of_mem member

end Scan

end Workspace.Takes

end ModuleGraph
