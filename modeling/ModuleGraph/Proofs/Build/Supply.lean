/-
This file shows that a build ends, and that it loads whatever it reaches, if all modules that a
workspace resolves to are in a finite stock.
-/

import ModuleGraph.Proofs.Build.Failures
import Mathlib.Data.List.Perm.Subperm

namespace ModuleGraph

open Hook

/-- No plugin of a workspace fails, a request leads to a module in stock or to one that is external,
and every module in stock can be loaded. -/
structure Workspace.Supplies (workspace : Workspace) (stock : List (String × String)) : Prop where
  safe : ∀ request error, ¬ workspace.Answers request (.error (.plugin error))
  inside : ∀ request resolved, workspace.Answers request (.ok resolved) →
    resolved.external = false → resolved.identity ∈ stock
  loads : ∀ resolved session, resolved.identity ∈ stock →
    ∃ loaded, (workspace.load resolved session).1 = .ok loaded

/-- A toolchain transforms every text. -/
def Toolchain.IsTotal (toolchain : Toolchain) : Prop :=
  ∀ source request, ∃ transformed, toolchain source request = .ok transformed

theorem Toolchain.isTotal_scan : scan.IsTotal :=
  fun _ _ => ⟨_, rfl⟩

namespace Walk

variable {workspace : Workspace} {toolchain : Toolchain} {limit : Nat} {walk final : Walk}
  {session last : Session} {visits : List Visit} {stock : List (String × String)}

/-- A run either has an outcome or takes as many steps as its limit allows and has modules left. -/
theorem run_or_steps (workspace : Workspace) (toolchain : Toolchain) (limit : Nat) (walk : Walk)
    (session : Session) :
    (∃ report last, run workspace toolchain limit walk session = some (report, last)) ∨
      ∃ visits final last, Steps workspace toolchain walk session visits final last ∧
        visits.length = limit ∧ final.queue ≠ [] := by
  induction limit generalizing walk session with
  | zero =>
      rcases walk.stopped_or_going with stopped | ⟨pending, queue, going, queued⟩
      · exact .inl ⟨_, _, run_of_stopped stopped⟩
      · exact .inr ⟨[], walk, session, .refl walk session, rfl, by simp [queued]⟩
  | succ limit ih =>
      rcases walk.stopped_or_going with stopped | ⟨pending, queue, going, queued⟩
      · exact .inl ⟨_, _, run_of_stopped stopped⟩
      · rw [run_succ going queued]
        rcases ih ({ walk with queue := queue }.absorb pending
            (examine workspace toolchain pending.resolved session).1)
            (examine workspace toolchain pending.resolved session).2 with
          ran | ⟨visits, final, last, steps, length, waiting⟩
        · exact .inl ran
        · refine .inr ⟨_, final, last, .step going queued steps, ?_, waiting⟩
          rw [List.length_cons, length]

/-- A module in stock is added to the report when it is visited. -/
theorem built_of_supplies (supplies : workspace.Supplies stock) (total : toolchain.IsTotal)
    {resolved : ResolvedModule} (stocked : resolved.identity ∈ stock) (session : Session) :
    ((examine workspace toolchain resolved session).1.built?).isSome = true := by
  obtain ⟨loaded, loads⟩ := supplies.loads resolved session stocked
  rw [examine_fst, loads]
  cases textual : sourceOf loaded with
  | none =>
      simp only [textual]
      rfl
  | some source =>
      obtain ⟨transformed, succeeds⟩ := total source ⟨loaded.path, loaded.space, loaded.loader⟩
      simp only [textual, succeeds]
      rfl

end Walk

variable {workspace : Workspace} {toolchain : Toolchain} {limit : Nat} {entries : List String}
  {session last : Session} {course : Course} {final : Walk} {stock : List (String × String)}

namespace Workspace

/-- All modules that a build visits or has in its queue are in stock. -/
theorem Supplies.stocked (supplies : workspace.Supplies stock) {between : Session}
    {visits : List Walk.Visit}
    (steps : Walk.Steps workspace toolchain
      (workspace.begin (Walk.resolveAll workspace (entries.map entryRequest) session).1)
      between visits final last) :
    ∀ pending ∈ visits.map Walk.Visit.pending ++ final.queue, pending.identity ∈ stock := by
  have stocked {arrival : Pending} (reached : arrival.resolved.external = false ∧
      ∃ request, workspace.Answers request (.ok arrival.resolved)) : arrival.identity ∈ stock := by
    obtain ⟨inside, request, answer⟩ := reached
    exact supplies.inside request arrival.resolved answer inside
  refine steps.forall_pending (fun pending => pending.identity ∈ stock) ?_ ?_
  · intro pending between _ arrival member
    have finds := Walk.finds_examine workspace toolchain pending.resolved between
    exact stocked (finds.answers_of_arrival arrival member)
  · intro pending queued
    exact stocked (Walk.answers_of_arrival (fun _ member => Walk.exists_answers member) pending
      (mem_queue_begin queued))

/-- A build visits no more modules than are in stock, those in its queue included. -/
theorem Supplies.length_le (supplies : workspace.Supplies stock) {between : Session}
    {visits : List Walk.Visit}
    (steps : Walk.Steps workspace toolchain
      (workspace.begin (Walk.resolveAll workspace (entries.map entryRequest) session).1)
      between visits final last) :
    visits.length + final.queue.length ≤ stock.length := by
  have inside : (visits.map Walk.Visit.pending ++ final.queue).map Pending.identity ⊆ stock := by
    intro identity member
    obtain ⟨pending, held, rfl⟩ := List.mem_map.mp member
    exact supplies.stocked steps pending held
  have bound := (List.subperm_of_subset (nodup_pending steps) inside).length_le
  simpa using bound

/-- A build ends if its limit is at least the size of the stock. -/
theorem Supplies.exists_build (supplies : workspace.Supplies stock) (enough : stock.length ≤ limit)
    (toolchain : Toolchain) (entries : List String) (session : Session) :
    ∃ report last, workspace.build toolchain limit entries session = some (report, last) := by
  have outcome := Walk.run_or_steps workspace toolchain limit
    (workspace.begin (Walk.resolveAll workspace (entries.map entryRequest) session).1)
    (Walk.resolveAll workspace (entries.map entryRequest) session).2
  rcases outcome with ran | ⟨visits, final, last, steps, length, waiting⟩
  · exact ran
  · have bound := supplies.length_le steps
    have positive := List.length_pos_iff.mpr waiting
    omega

end Workspace

namespace Workspace.Takes

theorem mem_stock (takes : workspace.Takes toolchain entries session course final last)
    (supplies : workspace.Supplies stock) :
    ∀ visit ∈ course.visits, visit.pending.identity ∈ stock := by
  intro visit member
  obtain ⟨inside, request, answer⟩ := takes.answers visit member
  exact supplies.inside request visit.pending.resolved answer inside

/-- The report lists at most as many modules as are in stock. -/
theorem length_modules_le (takes : workspace.Takes toolchain entries session course final last)
    (supplies : workspace.Supplies stock) : final.report.modules.length ≤ stock.length := by
  have single (visits : List Walk.Visit) :
      (Walk.gainOf visits).built.length ≤ visits.length := by
    induction visits with
    | nil => exact Nat.le_refl 0
    | cons visit visits ih =>
        have one : visit.gain.built.length ≤ 1 := by
          rw [Walk.Visit.gain]
          cases visit.finding.built? <;> simp
        rw [Walk.gainOf_cons, Gain.append_built, List.length_append, List.length_cons]
        omega
  have steps := takes.steps
  rw [takes.resolved] at steps
  have bound := supplies.length_le steps
  have few := single (course.visits.map Walk.Visit.taken)
  rw [List.length_map] at few
  have same : final.report.modules = (Walk.gainOf (course.visits.map Walk.Visit.taken)).built :=
    takes.gains.built
  rw [same]
  omega

/-- Every module that is visited is loaded and, if it is text, transformed. -/
theorem built (takes : workspace.Takes toolchain entries session course final last)
    (supplies : workspace.Supplies stock) (total : toolchain.IsTotal) :
    ∀ visit ∈ course.visits, visit.finding.built?.isSome = true := by
  intro visit member
  obtain ⟨between, found⟩ := takes.steps.examined visit member
  rw [found]
  exact Walk.built_of_supplies supplies total (takes.mem_stock supplies visit member) between

end Workspace.Takes

end ModuleGraph
