/-
This file shows what the report of a build looks like in which no module fails to load: its failures
come from specifiers alone, and it holds what its modules depend on.
-/

import ModuleGraph.Proofs.Build.Supply
import Mathlib.Data.List.TakeWhile

namespace ModuleGraph

open Hook

/-- A failure was raised when an entry was resolved, or an import of a transformed module. -/
inductive Course.RaisedByResolving (course : Course) (failure : BuildFailure) : Prop
  | entry (recorded : failure ∈ (Gain.ofResults none course.entries).failures)
  | dependency (pending : Pending) (loaded : LoadedModule) (transformed : Transformed)
      (results : List (String × Except Error ResolvedModule))
      (visited : ⟨pending, .followed loaded transformed results⟩ ∈ course.visits)
      (recorded : failure ∈ (Gain.ofResults (some loaded.path) results).failures)

/-- The codes of the errors of single specifiers. -/
def specifierCodes : List String :=
  ["FILE_NOT_FOUND", "UNRESOLVED_SPECIFIER", "IMPORT_MAP_BLOCKED"]

/-- A course visits only modules that can be loaded and transformed, and so its report fails at
specifiers alone. If it is not aborted, it holds whatever its modules depend on. -/
structure Course.IsClosed (course : Course) (report : Report) : Prop where
  built : ∀ visit ∈ course.visits, visit.finding.built?.isSome = true
  failures : report.aborted = false → ∀ failure ∈ report.failures,
    failure.error.code ∈ specifierCodes ∧ course.RaisedByResolving failure
  dependencies : report.aborted = false → ∀ built ∈ report.modules, ∀ path ∈ built.dependencies,
    path ∈ report.externals ∨ ∃ other ∈ report.modules, other.path = path
  aborted : report.aborted = true → ∃ earlier failure, report.failures = earlier ++ [failure] ∧
    failure.error.code = "IMPORT_MAP_INVALID"

/-- The code of an error that is not a plugin's tells a fatal one apart. -/
theorem Workspace.Supplies.code_of_answers {workspace : Workspace}
    {stock : List (String × String)} (supplies : workspace.Supplies stock)
    {request : ResolveRequest} {error : Error}
    (answers : workspace.Answers request (.error error)) :
    if error.isFatal = true then error.code = "IMPORT_MAP_INVALID"
    else error.code ∈ specifierCodes := by
  cases answers with
  | refused error asked session failed =>
      exact absurd (.refused error asked session failed) (supplies.safe request error)
  | forbidden map error present failed =>
      cases blocked : error.isBlocked <;> simp [Error.isFatal, Error.code, blocked, specifierCodes]
  | absent => simp [Error.isFatal, Error.code, specifierCodes]
  | bare => simp [Error.isFatal, Error.code, specifierCodes]

theorem Walk.exists_of_mem_dependencies {results : List (String × Except Error ResolvedModule)}
    {path : String} (member : path ∈ dependencies results) :
    ∃ result ∈ results, ∃ resolved, result.2 = .ok resolved ∧ resolved.path = path := by
  obtain ⟨result, held, led⟩ := List.mem_filterMap.mp member
  refine ⟨result, List.takeWhile_subset _ held, ?_⟩
  obtain ⟨specifier, error | resolved⟩ := result
  · cases led
  · cases led
    exact ⟨resolved, rfl, rfl⟩

namespace Workspace.Takes

variable {workspace : Workspace} {toolchain : Toolchain} {entries : List String}
  {session last : Session} {course : Course} {final : Walk} {stock : List (String × String)}

/-- Every failure was raised by resolving, if no module fails to load or to be transformed. -/
theorem raisedByResolving (takes : workspace.Takes toolchain entries session course final last)
    (supplies : workspace.Supplies stock) (total : toolchain.IsTotal) :
    ∀ failure ∈ course.gain.failures, course.RaisedByResolving failure ∧
      ∃ request, workspace.Answers request (.error failure.error) := by
  intro failure member
  rcases List.mem_append.mp member with recorded | recorded
  · refine ⟨.entry recorded, ?_⟩
    obtain ⟨result, held, failed, _⟩ := Gain.mem_failures_ofResults.mp recorded
    rw [takes.resolved] at held
    obtain ⟨request, answer⟩ := Walk.exists_answers held
    rw [failed] at answer
    exact ⟨request, answer⟩
  · obtain ⟨⟨pending, finding⟩, visited, recorded⟩ := List.mem_flatMap.mp recorded
    have added := takes.built supplies total _ visited
    cases finding with
    | missing | rejected => cases added
    | kept => exact absurd recorded List.not_mem_nil
    | followed loaded transformed results =>
        refine ⟨.dependency pending loaded transformed results visited recorded, ?_⟩
        obtain ⟨result, held, failed, _⟩ := Gain.mem_failures_ofResults.mp recorded
        obtain ⟨request, answer⟩ := (takes.steps.finds _ visited).exists_answers result held
        rw [failed] at answer
        exact ⟨request, answer⟩

/-- A module that is reached is in the report. -/
theorem exists_module (takes : workspace.Takes toolchain entries session course final last)
    (supplies : workspace.Supplies stock) (total : toolchain.IsTotal)
    (finished : final.report.aborted = false) {arrival : Pending}
    (reached : arrival ∈ course.gain.arrivals) :
    ∃ built ∈ final.report.modules, (built.space, built.path) = arrival.identity := by
  have visited := takes.visited finished
  have kept : arrival.identity ∈
      (firsts Pending.identity [] course.gain.arrivals).map Pending.identity :=
    mem_map_firsts_iff.mpr (List.mem_map_of_mem reached)
  rw [← visited, List.map_map] at kept
  obtain ⟨visit, member, same⟩ := List.mem_map.mp kept
  obtain ⟨built, added⟩ := Option.isSome_iff_exists.mp (takes.built supplies total visit member)
  refine ⟨built, ?_, ?_⟩
  · rw [takes.modules]
    exact List.mem_flatMap.mpr ⟨visit, member, by simp [added]⟩
  · rw [← same]
    exact (takes.steps.finds visit member).identity added

/-- What a module depends on stays out of the graph or is in the report. -/
theorem dependencies (takes : workspace.Takes toolchain entries session course final last)
    (supplies : workspace.Supplies stock) (total : toolchain.IsTotal)
    (finished : final.report.aborted = false) :
    ∀ built ∈ final.report.modules, ∀ path ∈ built.dependencies,
      path ∈ final.report.externals ∨ ∃ other ∈ final.report.modules, other.path = path := by
  intro built listed path depended
  rw [takes.modules] at listed
  obtain ⟨⟨pending, finding⟩, visited, added⟩ := List.mem_flatMap.mp listed
  cases finding with
  | missing | rejected => cases added
  | kept =>
      obtain rfl := List.mem_singleton.mp added
      cases depended
  | followed loaded transformed results =>
      obtain rfl := List.mem_singleton.mp added
      obtain ⟨result, held, resolved, led, rfl⟩ := Walk.exists_of_mem_dependencies depended
      cases external : resolved.external with
      | true =>
          left
          have outside : resolved.path ∈ (Gain.ofResults (some loaded.path) results).externals :=
            Gain.mem_externals_ofResults.mpr ⟨result, held, resolved, led, external, rfl⟩
          rw [takes.externals finished, mem_firsts_id_iff]
          exact List.mem_append_right _ (List.mem_flatMap.mpr ⟨_, visited, outside⟩)
      | false =>
          right
          have arrived : ⟨resolved, result.1, some loaded.path⟩ ∈ course.gain.arrivals := by
            refine List.mem_append_right _ (List.mem_flatMap.mpr ⟨_, visited, ?_⟩)
            exact Gain.mem_arrivals_ofResults.mpr ⟨result, held, led, external, rfl, rfl⟩
          obtain ⟨other, present, same⟩ := takes.exists_module supplies total finished arrived
          exact ⟨other, present, (Prod.mk.inj same).2⟩

theorem isClosed (takes : workspace.Takes toolchain entries session course final last)
    (supplies : workspace.Supplies stock) (total : toolchain.IsTotal) :
    course.IsClosed final.report where
  built := takes.built supplies total
  failures := by
    intro finished failure member
    rw [takes.failures_eq finished] at member
    obtain ⟨raised, request, answer⟩ := takes.raisedByResolving supplies total failure member
    have code := supplies.code_of_answers answer
    rw [if_neg (by simp [takes.harmless finished failure member])] at code
    exact ⟨code, raised⟩
  dependencies := takes.dependencies supplies total
  aborted := by
    intro stops
    rcases takes.taken_harmless_or_fatal with ⟨whole, harmless⟩ | ⟨earlier, failure, ending, fatal⟩
    · rw [takes.not_aborted_of_harmless whole harmless] at stops
      cases stops
    · refine ⟨earlier, failure, by rw [takes.failures, fatal.split], ?_⟩
      obtain ⟨_, request, answer⟩ := takes.raisedByResolving supplies total failure ending.mem
      have code := supplies.code_of_answers answer
      rwa [if_pos fatal.fatal] at code

end Workspace.Takes

end ModuleGraph
