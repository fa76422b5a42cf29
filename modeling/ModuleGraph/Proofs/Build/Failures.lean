/-
This file accounts for the failures of a build: what recorded each of them, and what a fatal one
stops.
-/

import ModuleGraph.Proofs.Build.Found

namespace ModuleGraph

open Hook

/-- None of the failures is fatal. -/
def Harmless (failures : List BuildFailure) : Prop :=
  ∀ failure ∈ failures, failure.error.isFatal = false

/-- The last of the failures is fatal, and none before it. -/
structure Fatal (failures earlier : List BuildFailure) (failure : BuildFailure) : Prop where
  split : failures = earlier ++ [failure]
  harmless : Harmless earlier
  fatal : failure.error.isFatal = true

theorem harmless_nil : Harmless [] :=
  fun _ member => absurd member List.not_mem_nil

theorem Harmless.append {first second : List BuildFailure} (early : Harmless first)
    (late : Harmless second) : Harmless (first ++ second) := by
  intro failure member
  rcases List.mem_append.mp member with member | member
  · exact early failure member
  · exact late failure member

theorem harmless_iff_any {failures : List BuildFailure} :
    Harmless failures ↔ (failures.any fun failure => failure.error.isFatal) = false := by
  simp [Harmless]

/-- Failures before those that end with a fatal one come before it as well. -/
theorem Fatal.prepend {first second earlier : List BuildFailure} {failure : BuildFailure}
    (harmless : Harmless first) (fatal : Fatal second earlier failure) :
    Fatal (first ++ second) (first ++ earlier) failure where
  split := by rw [fatal.split, List.append_assoc]
  harmless := harmless.append fatal.harmless
  fatal := fatal.fatal

namespace Walk

/-- Either all results are taken in, or the last that is taken in fails fatally. -/
theorem taken_harmless_or_fatal (importer : Option String)
    (results : List (String × Except Error ResolvedModule)) :
    taken results = results ∧ Harmless (Gain.ofResults importer results).failures ∨
      ∃ earlier failure, failure ∈ (Gain.ofResults importer results).failures ∧
        Fatal (Gain.ofResults importer (taken results)).failures earlier failure := by
  induction results with
  | nil => exact .inl ⟨rfl, harmless_nil⟩
  | cons result results ih =>
      have first := any_fatal_singleton importer result
      rw [taken]
      cases goes : goesOn result with
      | true =>
          have harmless : Harmless (Gain.ofResults importer [result]).failures := by
            rw [harmless_iff_any, first, goes, Bool.not_true]
          rw [if_pos rfl, Gain.ofResults_cons, Gain.ofResults_cons importer result (taken results)]
          rcases ih with ⟨whole, rest⟩ | ⟨earlier, failure, member, fatal⟩
          · exact .inl ⟨by rw [whole], harmless.append rest⟩
          · exact .inr ⟨_, failure, List.mem_append_right _ member, fatal.prepend harmless⟩
      | false =>
          rw [if_neg Bool.false_ne_true]
          rcases result with ⟨specifier, error | resolved⟩
          · have fatal : error.isFatal = true := by simpa [goesOn] using goes
            refine .inr ⟨[], ⟨error, specifier, importer⟩, ?_, ?_⟩
            · exact List.mem_cons_self ..
            · exact ⟨rfl, harmless_nil, fatal⟩
          · cases goes

theorem isFatal_blame (importer : Option String) (error : Error) :
    (blame importer error).isFatal = error.isFatal := by
  unfold blame
  split <;> rfl

/-- Either a visit takes everything in, or the last that it takes in fails fatally. -/
theorem Visit.taken_harmless_or_fatal (visit : Visit) :
    visit.taken = visit ∧ Harmless visit.gain.failures ∨
      ∃ earlier failure, failure ∈ visit.gain.failures ∧
        Fatal visit.taken.gain.failures earlier failure := by
  obtain ⟨pending, finding⟩ := visit
  cases finding with
  | missing error =>
      cases fatal : error.isFatal with
      | false =>
          refine .inl ⟨rfl, fun failure member => ?_⟩
          obtain rfl := List.mem_singleton.mp member
          rw [isFatal_blame, fatal]
      | true =>
          have blamed : (blame pending.importer error).isFatal = true := by
            rw [isFatal_blame, fatal]
          exact .inr ⟨[], _, List.mem_singleton_self _, rfl, harmless_nil, blamed⟩
  | kept loaded => exact .inl ⟨rfl, harmless_nil⟩
  | rejected loaded cause =>
      refine .inl ⟨rfl, fun failure member => ?_⟩
      obtain rfl := List.mem_singleton.mp member
      rfl
  | followed loaded transformed results =>
      rcases Walk.taken_harmless_or_fatal (some loaded.path) results with ⟨whole, harmless⟩ | fatal
      · refine .inl ⟨?_, harmless⟩
        rw [Visit.taken, Finding.taken, whole]
      · exact .inr fatal

section Steps

variable {workspace : Workspace} {toolchain : Toolchain} {walk final : Walk}
  {session last : Session} {visits : List Visit}

/-- A walk that was aborted takes no step. -/
theorem Steps.eq_nil_of_aborted (steps : Steps workspace toolchain walk session visits final last)
    (aborted : walk.report.aborted = true) : visits = [] := by
  cases steps with
  | refl => rfl
  | step going queued rest => simp [going] at aborted

theorem Gains.aborted_of_fatal {next : Walk} {gain : Gain} {done : List Pending}
    {earlier : List BuildFailure} {failure : BuildFailure} (gains : Gains walk gain done next)
    (fatal : Fatal gain.failures earlier failure) : next.report.aborted = true := by
  rw [gains.aborted, fatal.split]
  simp [fatal.fatal]

/-- Either all visits take everything in, or a fatal failure ends the last of them. -/
theorem Steps.taken_harmless_or_fatal
    (steps : Steps workspace toolchain walk session visits final last) :
    visits.map Visit.taken = visits ∧ Harmless (gainOf visits).failures ∨
      ∃ before visit earlier failure, visits = before ++ [visit] ∧
        failure ∈ visit.gain.failures ∧
        Fatal (gainOf (visits.map Visit.taken)).failures earlier failure := by
  induction steps with
  | refl => exact .inl ⟨rfl, harmless_nil⟩
  | @step walk session pending queue visits final last going queued rest ih =>
      generalize (examine workspace toolchain pending.resolved session).1 = finding at rest ih ⊢
      have head := Visit.taken_harmless_or_fatal ⟨pending, finding⟩
      rw [List.map_cons, gainOf_cons, gainOf_cons]
      rcases head with ⟨whole, harmless⟩ | ⟨earlier, failure, member, fatal⟩
      · rw [whole]
        rcases ih with ⟨others, later⟩ | ⟨before, visit, earlier, failure, split, member, fatal⟩
        · exact .inl ⟨by rw [others], harmless.append later⟩
        · refine .inr ⟨⟨pending, finding⟩ :: before, visit, _, failure, ?_, member,
            fatal.prepend harmless⟩
          rw [split, List.cons_append]
      · have aborted := (absorb_gains going queued finding).aborted_of_fatal fatal
        obtain rfl := rest.eq_nil_of_aborted aborted
        refine .inr ⟨[], _, earlier, failure, rfl, member, ?_⟩
        rw [Gain.append_failures, List.map_nil]
        exact (List.append_nil _).symm ▸ fatal

end Steps

end Walk

/-- Where a failure ends a course: at its entries, before anything is visited, or at its last
visit. -/
inductive Course.EndsAt (course : Course) (failure : BuildFailure) : Prop
  | entries (unvisited : course.visits = [])
      (recorded : failure ∈ (Gain.ofResults none course.entries).failures)
  | visit (before : List Walk.Visit) (visit : Walk.Visit)
      (split : course.visits = before ++ [visit]) (recorded : failure ∈ visit.gain.failures)

theorem Course.EndsAt.mem {course : Course} {failure : BuildFailure}
    (ending : course.EndsAt failure) : failure ∈ course.gain.failures := by
  cases ending with
  | entries _ recorded => exact List.mem_append_left _ recorded
  | visit before visit split recorded =>
      have visited : visit ∈ course.visits := by
        rw [split]
        simp
      exact List.mem_append_right _ (List.mem_flatMap.mpr ⟨visit, visited, recorded⟩)

namespace Workspace.Takes

variable {workspace : Workspace} {toolchain : Toolchain} {entries : List String}
  {session last : Session} {course : Course} {final : Walk}

theorem failures (takes : workspace.Takes toolchain entries session course final last) :
    final.report.failures = course.taken.gain.failures :=
  takes.gains.failures

/-- Either a build takes everything in, or it ends with a fatal failure. -/
theorem taken_harmless_or_fatal
    (takes : workspace.Takes toolchain entries session course final last) :
    course.taken = course ∧ Harmless course.gain.failures ∨
      ∃ earlier failure, course.EndsAt failure ∧
        Fatal course.taken.gain.failures earlier failure := by
  obtain ⟨results, visits⟩ := course
  rcases Walk.taken_harmless_or_fatal none results with
    ⟨whole, harmless⟩ | ⟨earlier, failure, member, fatal⟩
  · rcases takes.steps.taken_harmless_or_fatal with
      ⟨others, later⟩ | ⟨before, visit, earlier, failure, split, member, fatal⟩
    · refine .inl ⟨?_, harmless.append later⟩
      rw [Course.taken, whole, others]
    · have ending : Course.EndsAt ⟨results, visits⟩ failure := .visit before visit split member
      refine .inr ⟨(Gain.ofResults none results).failures ++ earlier, failure, ending, ?_⟩
      rw [Course.taken, whole]
      exact fatal.prepend harmless
  · have going : (Walk.start workspace).report.aborted = false := rfl
    have aborted := (Walk.visitAll_gains going none results).aborted_of_fatal fatal
    obtain rfl : visits = [] := takes.steps.eq_nil_of_aborted aborted
    have ending : Course.EndsAt ⟨results, []⟩ failure := .entries rfl member
    refine .inr ⟨earlier, failure, ending, ?_⟩
    have same : (Course.taken ⟨results, []⟩).gain.failures =
        (Gain.ofResults none (Walk.taken results)).failures := List.append_nil _
    rw [same]
    exact fatal

theorem not_aborted_of_harmless
    (takes : workspace.Takes toolchain entries session course final last)
    (whole : course.taken = course) (harmless : Harmless course.gain.failures) :
    final.report.aborted = false := by
  rw [takes.gains.aborted, whole, harmless_iff_any.mp harmless]
  rfl

/-- A build that is not aborted takes everything in, and fails nowhere fatally. -/
theorem whole (takes : workspace.Takes toolchain entries session course final last)
    (finished : final.report.aborted = false) :
    course.taken = course ∧ Harmless course.gain.failures := by
  rcases takes.taken_harmless_or_fatal with whole | ⟨earlier, failure, _, fatal⟩
  · exact whole
  · have aborted := takes.gains.aborted_of_fatal fatal
    rw [finished] at aborted
    cases aborted

theorem taken_eq (takes : workspace.Takes toolchain entries session course final last)
    (finished : final.report.aborted = false) : course.taken = course :=
  (takes.whole finished).1

theorem harmless (takes : workspace.Takes toolchain entries session course final last)
    (finished : final.report.aborted = false) : Harmless course.gain.failures :=
  (takes.whole finished).2

/-- A build that is not aborted reports all failures of its course. -/
theorem failures_eq (takes : workspace.Takes toolchain entries session course final last)
    (finished : final.report.aborted = false) :
    final.report.failures = course.gain.failures := by
  rw [takes.failures, takes.taken_eq finished]

/-- A build that is not aborted visits each module that is reached, in the order in which the
modules are reached first. -/
theorem visited (takes : workspace.Takes toolchain entries session course final last)
    (finished : final.report.aborted = false) :
    course.visits.map Walk.Visit.pending = firsts Pending.identity [] course.gain.arrivals := by
  have queue := takes.gains.queue
  have empty : final.queue = [] := takes.stopped.resolve_left (by simp [finished])
  rw [empty, takes.taken_eq finished, List.append_nil] at queue
  exact queue

theorem externals (takes : workspace.Takes toolchain entries session course final last)
    (finished : final.report.aborted = false) :
    final.report.externals = firsts id [] course.gain.externals := by
  rw [takes.gains.externals, takes.taken_eq finished]
  rfl

theorem modules (takes : workspace.Takes toolchain entries session course final last) :
    final.report.modules = course.visits.flatMap fun visit => visit.finding.built?.toList := by
  have built : final.report.modules =
      (course.visits.map Walk.Visit.taken).flatMap fun visit => visit.gain.built :=
    takes.gains.built
  rw [built, List.flatMap_map]
  exact List.flatMap_congr fun visit _ =>
    congrArg Option.toList (Walk.Finding.built?_taken visit.finding)

/-- No module is visited twice. -/
theorem nodup_visits (takes : workspace.Takes toolchain entries session course final last) :
    (course.visits.map fun visit => visit.pending.identity).Nodup := by
  have distinct := nodup_pending takes.steps
  rw [List.map_append, List.map_map] at distinct
  exact (List.nodup_append.mp distinct).1

end Workspace.Takes

end ModuleGraph
