/-
This file follows a build step by step: each step takes one module from the queue, finds out what it
holds and where its imports lead, and takes in what it found.
-/

import ModuleGraph.Build

namespace ModuleGraph

open Hook

namespace Walk

/-- What is found of a module that is taken from the queue. -/
inductive Finding where
  | missing (error : Error)
  /-- The module holds no text to transform. -/
  | kept (loaded : LoadedModule)
  | rejected (loaded : LoadedModule) (cause : String)
  /-- The imports were resolved in order. -/
  | followed (loaded : LoadedModule) (transformed : Transformed)
      (results : List (String × Except Error ResolvedModule))

/-- Loads a module, transforms it and resolves its imports. -/
def examine (workspace : Workspace) (toolchain : Toolchain) (resolved : ResolvedModule)
    (session : Session) : Finding × Session :=
  match workspace.load resolved session with
  | (.error error, session) => (.missing error, session)
  | (.ok loaded, session) =>
      match sourceOf loaded with
      | none => (.kept loaded, session)
      | some source =>
          match toolchain source ⟨loaded.path, loaded.space, loaded.loader⟩ with
          | .error cause => (.rejected loaded cause, session)
          | .ok transformed =>
              let (results, session) :=
                resolveAll workspace (transformed.imports.map (importRequest loaded)) session
              (.followed loaded transformed results, session)

theorem examine_fst (workspace : Workspace) (toolchain : Toolchain) (resolved : ResolvedModule)
    (session : Session) :
    (examine workspace toolchain resolved session).1 =
      match (workspace.load resolved session).1 with
      | .error error => .missing error
      | .ok loaded =>
          match sourceOf loaded with
          | none => .kept loaded
          | some source =>
              match toolchain source ⟨loaded.path, loaded.space, loaded.loader⟩ with
              | .error cause => .rejected loaded cause
              | .ok transformed => .followed loaded transformed
                  (resolveAll workspace (transformed.imports.map (importRequest loaded))
                    (workspace.load resolved session).2).1 := by
  unfold examine
  rcases workspace.load resolved session with ⟨error | loaded, next⟩
  · rfl
  · cases textual : sourceOf loaded with
    | none => simp only [textual]
    | some source =>
        cases transforming : toolchain source ⟨loaded.path, loaded.space, loaded.loader⟩ <;>
          simp only [textual, transforming]

/-- Examining a module is loading it, and then resolving requests if it has imports. -/
theorem exists_examine_snd (workspace : Workspace) (toolchain : Toolchain)
    (resolved : ResolvedModule) (session : Session) : ∃ requests,
      (examine workspace toolchain resolved session).2 =
        (resolveAll workspace requests (workspace.load resolved session).2).2 := by
  unfold examine
  rcases workspace.load resolved session with ⟨error | loaded, next⟩
  · exact ⟨[], rfl⟩
  · cases textual : sourceOf loaded with
    | none => exact ⟨[], by simp only [textual]; rfl⟩
    | some source =>
        cases transforming : toolchain source ⟨loaded.path, loaded.space, loaded.loader⟩ with
        | error cause => exact ⟨[], by simp only [textual, transforming]; rfl⟩
        | ok transformed => exact ⟨_, by simp only [textual, transforming]; rfl⟩

/-- The module that a finding adds to the report. -/
def Finding.built? : Finding → Option BuiltModule
  | missing _ => none
  | kept loaded => some ⟨loaded.path, loaded.space, loaded.loader, none, []⟩
  | rejected _ _ => none
  | followed loaded transformed results =>
      some ⟨loaded.path, loaded.space, loaded.loader, some transformed.code, dependencies results⟩

/-- Takes in what was found of a module. -/
def absorb (walk : Walk) (pending : Pending) (finding : Finding) : Walk :=
  let reached := match finding with
    | .missing error =>
        walk.record (blame pending.importer error) pending.specifier pending.importer
    | .kept _ => walk
    | .rejected loaded cause => walk.record (.transform loaded.path cause) loaded.path none
    | .followed loaded _ results => visitAll (some loaded.path) walk results
  match finding.built? with
  | none => reached
  | some built => { reached with report := reached.report.addModule built }

/-- Processing a module is examining it and taking in what was found. -/
theorem process_eq (workspace : Workspace) (toolchain : Toolchain) (walk : Walk)
    (pending : Pending) (session : Session) :
    process workspace toolchain walk pending session =
      (walk.absorb pending (examine workspace toolchain pending.resolved session).1,
        (examine workspace toolchain pending.resolved session).2) := by
  unfold process examine
  cases workspace.load pending.resolved session with
  | mk result session =>
      cases result with
      | error error => rfl
      | ok loaded =>
          cases source : sourceOf loaded with
          | none => simp [source, absorb, Finding.built?]
          | some text =>
              cases transformed : toolchain text ⟨loaded.path, loaded.space, loaded.loader⟩ with
              | error cause => simp [source, transformed, absorb, Finding.built?]
              | ok output => simp [source, transformed, absorb, Finding.built?, follow]

/-- A module that was taken from the queue, and what was found of it. -/
structure Visit where
  pending : Pending
  finding : Finding

/-- A walk is stopped by a fatal error, and when nothing is left to visit. -/
def Stopped (walk : Walk) : Prop :=
  walk.report.aborted = true ∨ walk.queue = []

/-- The steps that lead from one state of a walk to another, with the modules visited in order. -/
inductive Steps (workspace : Workspace) (toolchain : Toolchain) :
    Walk → Session → List Visit → Walk → Session → Prop
  | refl (walk : Walk) (session : Session) : Steps workspace toolchain walk session [] walk session
  | step {walk : Walk} {session : Session} {pending : Pending} {queue : List Pending}
      {visits : List Visit} {final : Walk} {last : Session}
      (going : walk.report.aborted = false) (queued : walk.queue = pending :: queue)
      (rest : Steps workspace toolchain
        ({ walk with queue := queue }.absorb pending
          (examine workspace toolchain pending.resolved session).1)
        (examine workspace toolchain pending.resolved session).2 visits final last) :
      Steps workspace toolchain walk session
        (⟨pending, (examine workspace toolchain pending.resolved session).1⟩ :: visits) final last

/-- What was found of the modules visited is what examining them tells. -/
theorem Steps.examined {workspace : Workspace} {toolchain : Toolchain} {walk final : Walk}
    {session last : Session} {visits : List Visit}
    (steps : Steps workspace toolchain walk session visits final last) :
    ∀ visit ∈ visits, ∃ between,
      visit.finding = (examine workspace toolchain visit.pending.resolved between).1 := by
  induction steps with
  | refl => exact fun _ member => absurd member List.not_mem_nil
  | @step _ session _ _ _ _ _ going queued rest ih =>
      intro visit member
      rcases List.mem_cons.mp member with rfl | member
      · exact ⟨session, rfl⟩
      · exact ih visit member

section Run

variable {workspace : Workspace} {toolchain : Toolchain} {limit : Nat} {walk : Walk}
  {session : Session} {pending : Pending} {queue : List Pending}

theorem stopped_or_going (walk : Walk) : walk.Stopped ∨ ∃ pending queue,
    walk.report.aborted = false ∧ walk.queue = pending :: queue := by
  cases aborted : walk.report.aborted with
  | true => exact .inl (.inl aborted)
  | false =>
      cases queued : walk.queue with
      | nil => exact .inl (.inr queued)
      | cons pending queue => exact .inr ⟨pending, queue, rfl, rfl⟩

theorem run_of_stopped (stopped : walk.Stopped) :
    run workspace toolchain limit walk session = some (walk.report, session) := by
  unfold run
  rcases stopped with aborted | idle
  · rw [if_pos aborted]
  · rw [idle]
    split <;> rfl

theorem run_zero (going : walk.report.aborted = false) (queued : walk.queue = pending :: queue) :
    run workspace toolchain 0 walk session = none := by
  unfold run
  simp [going, queued]

theorem run_succ (going : walk.report.aborted = false) (queued : walk.queue = pending :: queue) :
    run workspace toolchain (limit + 1) walk session =
      run workspace toolchain limit
        ({ walk with queue := queue }.absorb pending
          (examine workspace toolchain pending.resolved session).1)
        (examine workspace toolchain pending.resolved session).2 := by
  conv =>
    lhs
    unfold run
  simp only [going, queued, process_eq, Bool.false_eq_true, if_false]

/-- A run that stays within its limit takes steps until the walk is stopped. -/
theorem steps_of_run {last : Session} {report : Report}
    (ran : run workspace toolchain limit walk session = some (report, last)) :
    ∃ visits final, Steps workspace toolchain walk session visits final last ∧ final.Stopped ∧
      final.report = report ∧ visits.length ≤ limit := by
  induction limit generalizing walk session with
  | zero =>
      rcases walk.stopped_or_going with stopped | ⟨pending, queue, going, queued⟩
      · rw [run_of_stopped stopped] at ran
        cases ran
        exact ⟨[], walk, .refl walk _, stopped, rfl, Nat.le_refl 0⟩
      · rw [run_zero going queued] at ran
        contradiction
  | succ limit ih =>
      rcases walk.stopped_or_going with stopped | ⟨pending, queue, going, queued⟩
      · rw [run_of_stopped stopped] at ran
        cases ran
        exact ⟨[], walk, .refl walk _, stopped, rfl, Nat.zero_le _⟩
      · rw [run_succ going queued] at ran
        obtain ⟨visits, final, steps, stopped, same, bound⟩ := ih ran
        exact ⟨_, final, .step going queued steps, stopped, same, Nat.succ_le_succ bound⟩

/-- Steps that end when the walk is stopped are those of a run with a large enough limit. -/
theorem run_of_steps {final : Walk} {last : Session} {visits : List Visit}
    (steps : Steps workspace toolchain walk session visits final last) (stopped : final.Stopped)
    (bound : visits.length ≤ limit) :
    run workspace toolchain limit walk session = some (final.report, last) := by
  induction steps generalizing limit with
  | refl walk session => exact run_of_stopped stopped
  | step going queued rest ih =>
      cases limit with
      | zero => exact absurd bound (Nat.not_succ_le_zero _)
      | succ limit =>
          rw [run_succ going queued]
          exact ih stopped (Nat.le_of_succ_le_succ bound)

end Run

end Walk

/-- The course of a build: what the entries resolved to, and the modules visited in order. -/
structure Course where
  entries : List (String × Except Error ResolvedModule)
  visits : List Walk.Visit

namespace Workspace

/-- The state from which a build visits modules, with the results of its entries. -/
def begin (workspace : Workspace) (results : List (String × Except Error ResolvedModule)) : Walk :=
  Walk.visitAll none (Walk.start workspace) results

/-- A build takes a course from a session to another and ends with a walk that is stopped. -/
structure Takes (workspace : Workspace) (toolchain : Toolchain) (entries : List String)
    (session : Session) (course : Course) (final : Walk) (last : Session) : Prop where
  resolved : course.entries = (Walk.resolveAll workspace (entries.map entryRequest) session).1
  steps : Walk.Steps workspace toolchain (workspace.begin course.entries)
    (Walk.resolveAll workspace (entries.map entryRequest) session).2 course.visits final last
  stopped : final.Stopped

/-- A build has a report exactly if it takes a course that its limit allows. -/
theorem build_eq_some_iff {workspace : Workspace} {toolchain : Toolchain} {limit : Nat}
    {entries : List String} {session last : Session} {report : Report} :
    workspace.build toolchain limit entries session = some (report, last) ↔
      ∃ course final, workspace.Takes toolchain entries session course final last ∧
        final.report = report ∧ course.visits.length ≤ limit := by
  constructor
  · intro built
    obtain ⟨visits, final, steps, stopped, same, bound⟩ := Walk.steps_of_run built
    exact ⟨⟨_, visits⟩, final, ⟨rfl, steps, stopped⟩, same, bound⟩
  · rintro ⟨⟨results, visits⟩, final, ⟨rfl, steps, stopped⟩, rfl, bound⟩
    exact Walk.run_of_steps steps stopped bound

end Workspace

end ModuleGraph
