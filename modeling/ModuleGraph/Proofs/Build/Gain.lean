/-
This file keeps account of a build: what its report, its queue and the identities seen gain from the
results that are taken in.
-/

import ModuleGraph.Proofs.Build.Course
import ModuleGraph.Proofs.Firsts

namespace ModuleGraph

open Hook

def Pending.identity (pending : Pending) : String × String :=
  pending.resolved.identity

/-- What a walk gains from what it takes in, in order. -/
structure Gain where
  failures : List BuildFailure
  /-- The modules that were reached, as often as they were reached. -/
  arrivals : List Pending
  externals : List String
  built : List BuiltModule

namespace Gain

def empty : Gain :=
  ⟨[], [], [], []⟩

def append (first second : Gain) : Gain :=
  ⟨first.failures ++ second.failures, first.arrivals ++ second.arrivals,
    first.externals ++ second.externals, first.built ++ second.built⟩

instance : Append Gain :=
  ⟨append⟩

@[simp] theorem append_failures (first second : Gain) :
    (first ++ second).failures = first.failures ++ second.failures := rfl

@[simp] theorem append_arrivals (first second : Gain) :
    (first ++ second).arrivals = first.arrivals ++ second.arrivals := rfl

@[simp] theorem append_externals (first second : Gain) :
    (first ++ second).externals = first.externals ++ second.externals := rfl

@[simp] theorem append_built (first second : Gain) :
    (first ++ second).built = first.built ++ second.built := rfl

def failure? (importer : Option String) (result : String × Except Error ResolvedModule) :
    Option BuildFailure :=
  match result.2 with
  | .error error => some ⟨error, result.1, importer⟩
  | .ok _ => none

def arrival? (importer : Option String) (result : String × Except Error ResolvedModule) :
    Option Pending :=
  match result.2 with
  | .error _ => none
  | .ok resolved => if resolved.external then none else some ⟨resolved, result.1, importer⟩

def external? (result : String × Except Error ResolvedModule) : Option String :=
  match result.2 with
  | .error _ => none
  | .ok resolved => if resolved.external then some resolved.path else none

/-- Each result is a failure, a module to visit, or a path that stays out of the graph. -/
def ofResults (importer : Option String) (results : List (String × Except Error ResolvedModule)) :
    Gain :=
  ⟨results.filterMap (failure? importer), results.filterMap (arrival? importer),
    results.filterMap external?, []⟩

theorem ofResults_cons (importer : Option String) (result : String × Except Error ResolvedModule)
    (results : List (String × Except Error ResolvedModule)) :
    ofResults importer (result :: results) =
      ofResults importer [result] ++ ofResults importer results := by
  change _ = append _ _
  simp only [ofResults, append, mk.injEq, List.append_nil, and_true]
  refine ⟨?_, ?_, ?_⟩ <;> rw [← List.filterMap_append, List.singleton_append]

theorem ofResults_error (importer : Option String) (specifier : String) (error : Error) :
    ofResults importer [(specifier, .error error)] =
      { empty with failures := [⟨error, specifier, importer⟩] } :=
  rfl

theorem ofResults_external (importer : Option String) (specifier : String)
    {resolved : ResolvedModule} (external : resolved.external = true) :
    ofResults importer [(specifier, .ok resolved)] =
      { empty with externals := [resolved.path] } := by
  simp [ofResults, failure?, arrival?, external?, external, empty]

theorem ofResults_arrival (importer : Option String) (specifier : String)
    {resolved : ResolvedModule} (inside : resolved.external = false) :
    ofResults importer [(specifier, .ok resolved)] =
      { empty with arrivals := [⟨resolved, specifier, importer⟩] } := by
  simp [ofResults, failure?, arrival?, external?, inside, empty]

theorem mem_failures_ofResults {importer : Option String}
    {results : List (String × Except Error ResolvedModule)} {failure : BuildFailure} :
    failure ∈ (ofResults importer results).failures ↔
      ∃ result ∈ results, result.2 = .error failure.error ∧ result.1 = failure.specifier ∧
        importer = failure.importer := by
  have recorded (result : String × Except Error ResolvedModule) :
      failure? importer result = some failure ↔
        result.2 = .error failure.error ∧ result.1 = failure.specifier ∧
          importer = failure.importer := by
    obtain ⟨cause, written, origin⟩ := failure
    obtain ⟨specifier, error | resolved⟩ := result
    · simp [failure?]
    · simp [failure?]
  simp only [ofResults, List.mem_filterMap, recorded]

theorem mem_arrivals_ofResults {importer : Option String}
    {results : List (String × Except Error ResolvedModule)} {pending : Pending} :
    pending ∈ (ofResults importer results).arrivals ↔
      ∃ result ∈ results, result.2 = .ok pending.resolved ∧ pending.resolved.external = false ∧
        result.1 = pending.specifier ∧ importer = pending.importer := by
  have arrived (result : String × Except Error ResolvedModule) :
      arrival? importer result = some pending ↔
        result.2 = .ok pending.resolved ∧ pending.resolved.external = false ∧
          result.1 = pending.specifier ∧ importer = pending.importer := by
    obtain ⟨specifier, error | resolved⟩ := result
    · simp [arrival?]
    · obtain ⟨reached, written, origin⟩ := pending
      cases external : resolved.external
      all_goals
        simp only [arrival?, external]
        grind
  simp only [ofResults, List.mem_filterMap, arrived]

theorem mem_externals_ofResults {importer : Option String}
    {results : List (String × Except Error ResolvedModule)} {path : String} :
    path ∈ (ofResults importer results).externals ↔
      ∃ result ∈ results, ∃ resolved, result.2 = .ok resolved ∧ resolved.external = true ∧
        resolved.path = path := by
  have listed (result : String × Except Error ResolvedModule) :
      external? result = some path ↔ ∃ resolved, result.2 = .ok resolved ∧
        resolved.external = true ∧ resolved.path = path := by
    obtain ⟨specifier, error | resolved⟩ := result
    · simp [external?]
    · simp [external?]
  simp only [ofResults, List.mem_filterMap, listed]

end Gain

namespace Walk

/-- What a walk gains from a visit. -/
def Visit.gain (visit : Visit) : Gain :=
  let gain := match visit.finding with
    | .missing error =>
        { Gain.empty with failures := [⟨blame visit.pending.importer error,
            visit.pending.specifier, visit.pending.importer⟩] }
    | .kept _ => Gain.empty
    | .rejected loaded cause =>
        { Gain.empty with failures := [⟨.transform loaded.path cause, loaded.path, none⟩] }
    | .followed loaded _ results => Gain.ofResults (some loaded.path) results
  { gain with built := visit.finding.built?.toList }

def gainOf (visits : List Visit) : Gain :=
  ⟨visits.flatMap fun visit => visit.gain.failures, visits.flatMap fun visit => visit.gain.arrivals,
    visits.flatMap fun visit => visit.gain.externals, visits.flatMap fun visit => visit.gain.built⟩

/-- The results up to the first that does not let the walk go on. -/
def taken : List (String × Except Error ResolvedModule) →
    List (String × Except Error ResolvedModule)
  | [] => []
  | result :: results => if goesOn result then result :: taken results else [result]

def Finding.taken : Finding → Finding
  | followed loaded transformed results => followed loaded transformed (Walk.taken results)
  | finding => finding

/-- The visit with the results that are taken in. -/
def Visit.taken (visit : Visit) : Visit :=
  ⟨visit.pending, visit.finding.taken⟩

/-- From one state to another a walk has visited the modules that are done, and has gained what is
given. A module is queued, and an external path listed, when it is reached for the first time. -/
structure Gains (walk : Walk) (gain : Gain) (done : List Pending) (next : Walk) : Prop where
  failures : next.report.failures = walk.report.failures ++ gain.failures
  aborted : next.report.aborted =
    (walk.report.aborted || gain.failures.any fun failure => failure.error.isFatal)
  externals : next.report.externals =
    walk.report.externals ++ firsts id walk.report.externals gain.externals
  built : next.report.modules = walk.report.modules ++ gain.built
  seen : next.seen =
    walk.seen ++ (firsts Pending.identity walk.seen gain.arrivals).map Pending.identity
  queue : done ++ next.queue = walk.queue ++ firsts Pending.identity walk.seen gain.arrivals

namespace Gains

theorem refl (walk : Walk) : Gains walk Gain.empty [] walk := by
  constructor <;> simp [Gain.empty, firsts]

/-- Gains add up. -/
theorem trans {walk middle next : Walk} {first second : Gain} {done later : List Pending}
    (early : Gains walk first done middle) (late : Gains middle second later next) :
    Gains walk (first ++ second) (done ++ later) next where
  failures := by rw [late.failures, early.failures, Gain.append_failures, List.append_assoc]
  aborted := by
    rw [late.aborted, early.aborted, Bool.or_assoc, ← List.any_append, Gain.append_failures]
  externals := by
    rw [late.externals, early.externals, Gain.append_externals, firsts_append, List.map_id,
      List.append_assoc]
  built := by rw [late.built, early.built, Gain.append_built, List.append_assoc]
  seen := by
    rw [late.seen, early.seen, Gain.append_arrivals, firsts_append, List.map_append,
      List.append_assoc]
  queue := by
    rw [List.append_assoc, late.queue, Gain.append_arrivals, firsts_append, ← early.seen,
      ← List.append_assoc, early.queue, List.append_assoc]

end Gains

/-- Taking in one result gains what it stands for. -/
theorem visit_gains (walk : Walk) (importer : Option String) (specifier : String)
    (result : Except Error ResolvedModule) :
    Gains walk (Gain.ofResults importer [(specifier, result)]) []
      (walk.visit importer specifier result) := by
  cases result with
  | error error =>
      rw [Gain.ofResults_error]
      constructor <;> simp [visit, record, Report.fail, Gain.empty, firsts]
  | ok resolved =>
      cases external : resolved.external with
      | true =>
          rw [Gain.ofResults_external importer specifier external]
          by_cases held : resolved.path ∈ walk.report.externals
          all_goals constructor <;>
            simp [visit, external, Report.addExternal, held, Gain.empty, firsts]
      | false =>
          rw [Gain.ofResults_arrival importer specifier external]
          by_cases held : resolved.identity ∈ walk.seen
          all_goals constructor <;>
            simp [visit, external, enqueue, held, Gain.empty, firsts, Pending.identity]

/-- Only an error that is fatal keeps a walk from going on. -/
theorem any_fatal_singleton (importer : Option String)
    (result : String × Except Error ResolvedModule) :
    ((Gain.ofResults importer [result]).failures.any fun failure => failure.error.isFatal) =
      !goesOn result := by
  rcases result with ⟨specifier, error | resolved⟩ <;> simp [Gain.ofResults, Gain.failure?, goesOn]

/-- Taking in results in order gains what those stand for that are taken in. -/
theorem visitAll_gains {walk : Walk} (going : walk.report.aborted = false)
    (importer : Option String) (results : List (String × Except Error ResolvedModule)) :
    Gains walk (Gain.ofResults importer (taken results)) [] (visitAll importer walk results) := by
  induction results generalizing walk with
  | nil => exact .refl walk
  | cons result results ih =>
      have first := walk.visit_gains importer result.1 result.2
      have aborted := first.aborted
      rw [going, Bool.false_or, any_fatal_singleton] at aborted
      rw [visitAll, taken]
      cases goes : goesOn result with
      | true =>
          have continues : ¬ (walk.visit importer result.1 result.2).report.aborted = true := by
            simp [aborted, goes]
          rw [if_neg continues, if_pos rfl, Gain.ofResults_cons]
          exact first.trans (ih ((Bool.not_eq_true _).mp continues))
      | false =>
          have stops : (walk.visit importer result.1 result.2).report.aborted = true := by
            simp [aborted, goes]
          rw [if_pos stops, if_neg Bool.false_ne_true]
          exact first

/-- A failure that is recorded is the only gain. -/
theorem record_gains (walk : Walk) (error : Error) (specifier : String) (importer : Option String) :
    Gains walk { Gain.empty with failures := [⟨error, specifier, importer⟩] } []
      (walk.record error specifier importer) :=
  walk.visit_gains importer specifier (.error error)

theorem Gains.addModule {walk next : Walk} {gain : Gain} {done : List Pending}
    (gains : Gains walk gain done next) (unbuilt : gain.built = []) (built : BuiltModule) :
    Gains walk { gain with built := [built] } done
      { next with report := next.report.addModule built } where
  failures := gains.failures
  aborted := gains.aborted
  externals := gains.externals
  built := by
    have before := gains.built
    rw [unbuilt, List.append_nil] at before
    rw [Report.addModule, before]
  seen := gains.seen
  queue := gains.queue

/-- The module in front of the queue is done once it was visited. -/
theorem Gains.pop {walk next : Walk} {gain : Gain} {pending : Pending} {queue : List Pending}
    (queued : walk.queue = pending :: queue)
    (gains : Gains { walk with queue := queue } gain [] next) :
    Gains walk gain [pending] next where
  failures := gains.failures
  aborted := gains.aborted
  externals := gains.externals
  built := gains.built
  seen := gains.seen
  queue := by
    have rest : next.queue = queue ++ firsts Pending.identity walk.seen gain.arrivals := gains.queue
    rw [queued, rest]
    rfl

theorem dependencies_taken (results : List (String × Except Error ResolvedModule)) :
    dependencies (taken results) = dependencies results := by
  induction results with
  | nil => rfl
  | cons result results ih =>
      rw [taken]
      unfold dependencies at ih ⊢
      cases goes : goesOn result with
      | true => simp only [if_true, List.takeWhile_cons, goes, List.filterMap_cons, ih]
      | false => simp [goes]

/-- What is not taken in does not change the module that a finding adds. -/
theorem Finding.built?_taken (finding : Finding) : finding.taken.built? = finding.built? := by
  cases finding with
  | followed loaded transformed results =>
      rw [Finding.taken, Finding.built?, Finding.built?, dependencies_taken]
  | _ => rfl

/-- Taking in what was found of a module gains what the visit stands for. -/
theorem absorb_gains {walk : Walk} {pending : Pending} {queue : List Pending}
    (going : walk.report.aborted = false) (queued : walk.queue = pending :: queue)
    (finding : Finding) :
    Gains walk (Visit.taken ⟨pending, finding⟩).gain [pending]
      ({ walk with queue := queue }.absorb pending finding) := by
  apply Gains.pop queued
  cases finding with
  | missing error => exact record_gains _ (blame pending.importer error) _ _
  | kept loaded => exact (Gains.refl _).addModule rfl _
  | rejected loaded cause => exact record_gains _ (.transform loaded.path cause) _ _
  | followed loaded transformed results =>
      have reached : { walk with queue := queue }.report.aborted = false := going
      have same := Finding.built?_taken (.followed loaded transformed results)
      change Gains _ { Gain.ofResults (some loaded.path) (Walk.taken results) with
        built := (Finding.followed loaded transformed results).taken.built?.toList } _ _
      rw [same]
      exact (visitAll_gains reached (some loaded.path) results).addModule rfl _

theorem gainOf_cons (visit : Visit) (visits : List Visit) :
    gainOf (visit :: visits) = visit.gain ++ gainOf visits :=
  rfl

/-- Steps gain what their visits stand for. -/
theorem Steps.gains {workspace : Workspace} {toolchain : Toolchain} {walk final : Walk}
    {session last : Session} {visits : List Visit}
    (steps : Steps workspace toolchain walk session visits final last) :
    Gains walk (gainOf (visits.map Visit.taken)) (visits.map Visit.pending) final := by
  induction steps with
  | refl walk session => exact .refl walk
  | step going queued rest ih => exact (absorb_gains going queued _).trans ih

end Walk

namespace Course

/-- What a build gains in its course. -/
def gain (course : Course) : Gain :=
  Gain.ofResults none course.entries ++ Walk.gainOf course.visits

/-- The course with the results that are taken in. -/
def taken (course : Course) : Course :=
  ⟨Walk.taken course.entries, course.visits.map Walk.Visit.taken⟩

end Course

/-- A build gains what is taken in during its course. -/
theorem Workspace.Takes.gains {workspace : Workspace} {toolchain : Toolchain}
    {entries : List String} {session last : Session} {course : Course} {final : Walk}
    (takes : workspace.Takes toolchain entries session course final last) :
    Walk.Gains (Walk.start workspace) course.taken.gain (course.visits.map Walk.Visit.pending)
      final :=
  (Walk.visitAll_gains rfl none course.entries).trans takes.steps.gains

section Pending

variable {workspace : Workspace} {toolchain : Toolchain}

namespace Walk

theorem mem_of_mem_taken {results : List (String × Except Error ResolvedModule)}
    {result : String × Except Error ResolvedModule} (member : result ∈ taken results) :
    result ∈ results := by
  induction results with
  | nil => exact member
  | cons first results ih =>
      rw [taken] at member
      split at member
      · rcases List.mem_cons.mp member with rfl | member
        · exact List.mem_cons_self ..
        · exact List.mem_cons_of_mem _ (ih member)
      · rw [List.mem_singleton.mp member]
        exact List.mem_cons_self ..

theorem mem_arrivals_of_taken {importer : Option String}
    {results : List (String × Except Error ResolvedModule)} {arrival : Pending}
    (member : arrival ∈ (Gain.ofResults importer (taken results)).arrivals) :
    arrival ∈ (Gain.ofResults importer results).arrivals := by
  obtain ⟨result, held, origin⟩ := Gain.mem_arrivals_ofResults.mp member
  exact Gain.mem_arrivals_ofResults.mpr ⟨result, mem_of_mem_taken held, origin⟩

theorem Visit.mem_arrivals_of_taken {visit : Visit} {arrival : Pending}
    (member : arrival ∈ visit.taken.gain.arrivals) : arrival ∈ visit.gain.arrivals := by
  obtain ⟨pending, finding⟩ := visit
  cases finding with
  | followed loaded transformed results => exact Walk.mem_arrivals_of_taken member
  | _ => exact member

/-- What holds of the modules that are queued, and of those that such a module leads to, holds of
all modules visited and of those that are queued then. -/
theorem Steps.forall_pending {walk final : Walk} {session last : Session} {visits : List Visit}
    (steps : Steps workspace toolchain walk session visits final last) (P : Pending → Prop)
    (kept : ∀ pending between, P pending → ∀ arrival ∈ (Visit.mk pending
      (examine workspace toolchain pending.resolved between).1).gain.arrivals, P arrival)
    (queued : ∀ pending ∈ walk.queue, P pending) :
    ∀ pending ∈ visits.map Visit.pending ++ final.queue, P pending := by
  induction steps with
  | refl => exact queued
  | @step walk session pending queue visits final last going waiting rest ih =>
      have held : P pending := queued pending (by rw [waiting]; exact List.mem_cons_self ..)
      have gains := absorb_gains going waiting
        (examine workspace toolchain pending.resolved session).1
      have queue := gains.queue
      rw [waiting, List.singleton_append, List.cons_append, List.cons.injEq] at queue
      intro later member
      rw [List.map_cons, List.cons_append] at member
      rcases List.mem_cons.mp member with rfl | member
      · exact held
      refine ih ?_ later member
      intro later present
      rw [queue.2] at present
      rcases List.mem_append.mp present with present | present
      · exact queued later (by rw [waiting]; exact List.mem_cons_of_mem _ present)
      · exact kept pending session held later
          (Visit.mem_arrivals_of_taken (mem_of_mem_firsts present))

end Walk

/-- The modules in the queue from which a build starts are those that its entries lead to. -/
theorem Workspace.mem_queue_begin {results : List (String × Except Error ResolvedModule)}
    {pending : Pending} (queued : pending ∈ (workspace.begin results).queue) :
    pending ∈ (Gain.ofResults none results).arrivals := by
  have going : (Walk.start workspace).report.aborted = false := rfl
  have queue := (Walk.visitAll_gains going none results).queue
  change (workspace.begin results).queue = firsts Pending.identity [] _ at queue
  rw [queue] at queued
  exact Walk.mem_arrivals_of_taken (mem_of_mem_firsts queued)

/-- No module is visited or queued twice, even before a build is finished. -/
theorem Workspace.nodup_pending {results : List (String × Except Error ResolvedModule)}
    {session last : Session} {visits : List Walk.Visit} {final : Walk}
    (steps : Walk.Steps workspace toolchain (workspace.begin results) session visits final last) :
    ((visits.map Walk.Visit.pending ++ final.queue).map Pending.identity).Nodup := by
  have going : (Walk.start workspace).report.aborted = false := rfl
  have queue := ((Walk.visitAll_gains going none results).trans steps.gains).queue
  change visits.map Walk.Visit.pending ++ final.queue = firsts Pending.identity [] _ at queue
  rw [queue]
  exact nodup_map_firsts _ _

/-- What holds of the modules that the entries lead to, and of those that such a module leads to,
holds of all modules visited. -/
theorem Workspace.Takes.forall_pending {entries : List String} {session last : Session}
    {course : Course} {final : Walk}
    (takes : workspace.Takes toolchain entries session course final last) (P : Pending → Prop)
    (kept : ∀ pending between, P pending → ∀ arrival ∈ (Walk.Visit.mk pending
      (Walk.examine workspace toolchain pending.resolved between).1).gain.arrivals, P arrival)
    (entered : ∀ arrival ∈ (Gain.ofResults none course.entries).arrivals, P arrival) :
    ∀ visit ∈ course.visits, P visit.pending := by
  intro visit member
  have queued : ∀ pending ∈ (workspace.begin course.entries).queue, P pending :=
    fun pending waiting => entered pending (mem_queue_begin waiting)
  exact takes.steps.forall_pending P kept queued visit.pending
    (List.mem_append_left _ (List.mem_map_of_mem member))

end Pending

end ModuleGraph
