/-
This file shows that a report lists every failure of a build exactly once, and that a fatal failure
ends the build.
-/

import ModuleGraph.Proofs.Build.Failures
import Mathlib.Data.List.TakeWhile

namespace ModuleGraph

open Hook

namespace Walk

variable {workspace : Workspace} {toolchain : Toolchain}

theorem arises_of_mem_ofResults (workspace : Workspace) {importer : Option String}
    {results : List (String × Except Error ResolvedModule)}
    (answers : ∀ result ∈ results, ∃ request, workspace.Answers request result.2) :
    ∀ failure ∈ (Gain.ofResults importer results).failures, failure.error.ArisesInBuild := by
  intro failure member
  obtain ⟨result, held, failed, _⟩ := Gain.mem_failures_ofResults.mp member
  obtain ⟨request, answer⟩ := answers result held
  rw [failed] at answer
  exact answer.arises

theorem arises_blame (importer : Option String) {error : Error} (arises : error.ArisesInBuild) :
    (blame importer error).ArisesInBuild := by
  unfold blame
  split
  · trivial
  · exact arises

theorem Finds.arises {visit : Visit}
    (finds : Finds workspace toolchain visit.pending.resolved visit.finding) :
    ∀ failure ∈ visit.gain.failures, failure.error.ArisesInBuild := by
  obtain ⟨pending, finding⟩ := visit
  cases finding with
  | missing error =>
      cases finds with
      | missing loads =>
          intro failure member
          obtain rfl := List.mem_singleton.mp member
          exact arises_blame _ loads.arises
  | kept => exact fun _ member => absurd member List.not_mem_nil
  | rejected =>
      intro failure member
      obtain rfl := List.mem_singleton.mp member
      trivial
  | followed => exact arises_of_mem_ofResults workspace finds.exists_answers

theorem goesOn_of_harmless {importer : Option String}
    {results : List (String × Except Error ResolvedModule)}
    (harmless : Harmless (Gain.ofResults importer results).failures) :
    ∀ result ∈ results, goesOn result = true := by
  intro result member
  unfold goesOn
  split
  · rfl
  · rename_i error failed
    have recorded : ⟨error, result.1, importer⟩ ∈ (Gain.ofResults importer results).failures :=
      Gain.mem_failures_ofResults.mpr ⟨result, member, failed, rfl, rfl⟩
    simpa using harmless _ recorded

/-- Each result is a dependency or a failure if all are taken in. -/
theorem length_results (importer : Option String)
    {results : List (String × Except Error ResolvedModule)}
    (goes : ∀ result ∈ results, goesOn result = true) :
    results.length =
      (dependencies results).length + (Gain.ofResults importer results).failures.length := by
  have whole : results.takeWhile goesOn = results := List.takeWhile_eq_self_iff.mpr goes
  rw [dependencies, whole, Gain.ofResults]
  clear goes whole
  induction results with
  | nil => rfl
  | cons result results ih =>
      obtain ⟨specifier, error | resolved⟩ := result
      all_goals
        simp only [List.filterMap_cons, path?, Gain.failure?, List.length_cons] at ih ⊢
        omega

end Walk

theorem Report.ok_iff_of_not_aborted {report : Report} (finished : report.aborted = false) :
    report.ok = true ↔ report.failures = [] := by
  rw [Report.ok, finished, Bool.not_false, Bool.and_true, List.isEmpty_iff]

/-- A report accounts for the course of a build that took everything in. The failures are those of
the entries, and then for each module in the order of the visits the one of its loading or of its
transformation, or those of its imports. -/
structure Course.Accounts (workspace : Workspace) (toolchain : Toolchain) (entries : List String)
    (course : Course) (report : Report) : Prop where
  /-- Each occurrence of an entry was resolved. -/
  specifiers : course.entries.map Prod.fst = entries
  /-- The modules visited are those reached, each by the entry or import that reached it first. -/
  visited : course.visits.map Walk.Visit.pending =
    firsts Pending.identity [] course.gain.arrivals
  finds : ∀ visit ∈ course.visits,
    Walk.Finds workspace toolchain visit.pending.resolved visit.finding
  failures : report.failures = (Gain.ofResults none course.entries).failures ++
    course.visits.flatMap fun visit => visit.gain.failures
  modules : report.modules = course.visits.flatMap fun visit => visit.finding.built?.toList
  imports : ∀ pending loaded transformed results,
    ⟨pending, .followed loaded transformed results⟩ ∈ course.visits →
      transformed.imports.length = (Walk.dependencies results).length +
        (Gain.ofResults (some loaded.path) results).failures.length

namespace Workspace

variable {workspace : Workspace} {toolchain : Toolchain} {limit : Nat} {entries : List String}
  {session last : Session} {course : Course} {final : Walk} {report : Report}

theorem Takes.arises (takes : workspace.Takes toolchain entries session course final last) :
    ∀ failure ∈ course.gain.failures, failure.error.ArisesInBuild := by
  intro failure member
  rcases List.mem_append.mp member with recorded | recorded
  · refine Walk.arises_of_mem_ofResults workspace ?_ failure recorded
    rw [takes.resolved]
    exact fun result held => Walk.exists_answers held
  · obtain ⟨visit, visited, recorded⟩ := List.mem_flatMap.mp recorded
    exact (takes.steps.finds visit visited).arises failure recorded

theorem Takes.accounts (takes : workspace.Takes toolchain entries session course final last)
    (harmless : Harmless course.gain.failures)
    (finished : final.report.aborted = false) :
    course.Accounts workspace toolchain entries final.report where
  specifiers := by
    rw [takes.resolved, Walk.map_fst_resolveAll, List.map_map]
    exact List.map_id entries
  visited := takes.visited finished
  finds := takes.steps.finds
  failures := by
    rw [takes.failures, takes.taken_eq finished]
    rfl
  modules := takes.modules
  imports := by
    intro pending loaded transformed results visited
    cases takes.steps.finds _ visited with
    | followed _ _ _ specifiers _ =>
        have same : results.length = transformed.imports.length := by
          simpa using congrArg List.length specifiers
        have part : Harmless (Gain.ofResults (some loaded.path) results).failures := by
          intro failure member
          exact harmless failure
            (List.mem_append_right _ (List.mem_flatMap.mpr ⟨_, visited, member⟩))
        rw [← same]
        exact Walk.length_results _ (Walk.goesOn_of_harmless part)

theorem not_hasFatalCode_of_harmless {failures : List BuildFailure} (harmless : Harmless failures) :
    ∀ failure ∈ failures, ¬ failure.error.HasFatalCode := by
  intro failure member coded
  have fatal := Error.isFatal_of_hasFatalCode coded
  rw [harmless failure member] at fatal
  cases fatal

/-- A fatal failure is the last of the report, and the only one with its kind of code. -/
theorem Takes.failures_of_fatal
    (takes : workspace.Takes toolchain entries session course final last)
    {earlier : List BuildFailure} {failure : BuildFailure} (ending : course.EndsAt failure)
    (fatal : Fatal course.taken.gain.failures earlier failure) :
    final.report.failures = earlier ++ [failure] ∧ failure.error.HasFatalCode ∧
      ∀ other ∈ earlier, ¬ other.error.HasFatalCode := by
  refine ⟨?_, ?_, not_hasFatalCode_of_harmless fatal.harmless⟩
  · rw [takes.failures, fatal.split]
  · exact Error.hasFatalCode_of_isFatal (takes.arises failure ending.mem) fatal.fatal

/-- A report is aborted exactly if a failure has the code of a fatal error. That is then the last
failure, the only one with such a code, and no module is loaded after it. Otherwise every failure is
accounted for. -/
theorem accounts_of_build
    (built : workspace.build toolchain limit entries session = some (report, last)) :
    (report.aborted = true ↔ ∃ failure ∈ report.failures, failure.error.HasFatalCode) ∧
      (report.ok = true ↔ report.failures = []) ∧
      ∃ course final, workspace.Takes toolchain entries session course final last ∧
        final.report = report ∧
        (report.aborted = true → ∃ earlier failure, report.failures = earlier ++ [failure] ∧
          failure.error.HasFatalCode ∧ (∀ other ∈ earlier, ¬ other.error.HasFatalCode) ∧
          course.EndsAt failure) ∧
        (report.aborted = false → course.Accounts workspace toolchain entries report) := by
  obtain ⟨course, final, takes, rfl, _⟩ := build_eq_some_iff.mp built
  rcases takes.taken_harmless_or_fatal with ⟨whole, harmless⟩ | ⟨earlier, failure, ending, fatal⟩
  · have finished := takes.not_aborted_of_harmless whole harmless
    have uncoded : ¬ ∃ failure ∈ final.report.failures, failure.error.HasFatalCode := by
      rintro ⟨failure, member, coded⟩
      rw [takes.failures, whole] at member
      exact not_hasFatalCode_of_harmless harmless failure member coded
    refine ⟨iff_of_false (by simp [finished]) uncoded, Report.ok_iff_of_not_aborted finished,
      course, final, takes, rfl, ?_, fun _ => takes.accounts harmless finished⟩
    rw [finished]
    exact fun aborted => absurd aborted Bool.false_ne_true
  · have aborted : final.report.aborted = true := takes.gains.aborted_of_fatal fatal
    obtain ⟨failures, coded, uncoded⟩ := takes.failures_of_fatal ending fatal
    have listed : failure ∈ final.report.failures := by
      rw [failures]
      simp
    have disordered : final.report.ok ≠ true := by simp [Report.ok, aborted]
    have present : final.report.failures ≠ [] := List.ne_nil_of_mem listed
    refine ⟨iff_of_true aborted ⟨failure, listed, coded⟩, iff_of_false disordered present, course,
      final, takes, rfl, fun _ => ⟨earlier, failure, failures, coded, uncoded, ending⟩, ?_⟩
    rw [aborted]
    exact fun finished => absurd finished.symm Bool.false_ne_true

/-- One file and nothing else. -/
def singleFile : Workspace :=
  Workspace.new (FileTable.ofFiles [("/main.js", .text "")]) Config.default

/-- Finds in every module the import of a package. -/
def importsPackage : Toolchain := fun code _ => .ok ⟨code, [⟨"react", .importStatement⟩]⟩

theorem singleFile_accounts :
    ∃ report last, singleFile.build importsPackage 1 ["/main.js"] Session.start =
        some (report, last) ∧
      report.failures = [⟨.unmapped "react" (some "/main.js"), "react", some "/main.js"⟩] ∧
      ∃ course, Course.Accounts singleFile importsPackage ["/main.js"] course report := by
  have outcome : (singleFile.build importsPackage 1 ["/main.js"] Session.start).map Prod.fst =
      some ⟨[⟨"/main.js", "file", .script, some "", []⟩], [],
        [⟨.unmapped "react" (some "/main.js"), "react", some "/main.js"⟩], [], false⟩ := by
    decide +kernel
  obtain ⟨⟨report, last⟩, built, rfl⟩ := Option.map_eq_some_iff.mp outcome
  obtain ⟨_, _, course, _, _, _, _, accounts⟩ := accounts_of_build built
  exact ⟨_, last, built, rfl, course, accounts rfl⟩

end Workspace

end ModuleGraph
