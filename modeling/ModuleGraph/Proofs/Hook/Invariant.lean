/-
This file shows that a build, finished or not, keeps whatever its plugins keep of what they
remember.
-/

import ModuleGraph.Proofs.Hook.Agreement

namespace ModuleGraph

namespace Hook

/-- Whatever it is asked, a callback keeps what holds of the session. -/
def Preserves {request answer : Type} (Holds : Session → Prop)
    (callback : Callback request answer) : Prop :=
  ∀ asked session, Holds session → Holds (callback asked session).2

/-- Handlers that keep something agree with themselves as long as it holds. -/
theorem agree_of_preserves {request answer : Type} {Holds : Session → Prop}
    {handlers : List (Handler request answer)}
    (preserve : ∀ handler ∈ handlers, Preserves Holds handler.callback) :
    List.Forall₂ (Handler.Agree fun session other => session = other ∧ Holds session)
      handlers handlers := by
  refine List.forall₂_same.mpr fun handler member => ⟨rfl, rfl, ?_⟩
  rintro asked session _ ⟨rfl, holds⟩
  exact ⟨rfl, rfl, preserve handler member asked session holds⟩

end Hook

open Hook

variable {Holds : Session → Prop} {workspace : Workspace} {session last : Session}

section Resolving

variable (preserve : ∀ handler ∈ workspace.chain.resolveHandlers, Preserves Holds handler.callback)
include preserve

theorem Walk.resolveAll_preserves (requests : List ResolveRequest) (holds : Holds session) :
    Holds (resolveAll workspace requests session).2 :=
  (resolveAll_matches (agree_of_preserves preserve) requests ⟨rfl, holds⟩).session.2

end Resolving

section Building

/-- All handlers keep what holds of the session. -/
structure Hook.Chain.Preserves (Holds : Session → Prop) (chain : Chain) : Prop where
  resolve : ∀ handler ∈ chain.resolveHandlers, Hook.Preserves Holds handler.callback
  load : ∀ handler ∈ chain.loadHandlers, Hook.Preserves Holds handler.callback

variable {toolchain : Toolchain}

theorem Walk.examine_preserves (preserves : workspace.chain.Preserves Holds)
    (toolchain : Toolchain) (resolved : ResolvedModule) (holds : Holds session) :
    Holds (examine workspace toolchain resolved session).2 := by
  have agree : workspace.chain.Agree (fun session other => session = other ∧ Holds session)
      workspace.chain :=
    ⟨agree_of_preserves preserves.resolve, agree_of_preserves preserves.load⟩
  exact (examine_matches agree toolchain resolved ⟨rfl, holds⟩).session.2

theorem Walk.Steps.preserves (preserves : workspace.chain.Preserves Holds) {walk final : Walk}
    {visits : List Visit} (steps : Steps workspace toolchain walk session visits final last)
    (holds : Holds session) : Holds last := by
  induction steps with
  | refl => exact holds
  | step going queued rest ih => exact ih (examine_preserves preserves toolchain _ holds)

/-- A build, finished or not, has visited some modules on its way from one session to another. -/
def Workspace.Building (workspace : Workspace) (toolchain : Toolchain) (entries : List String)
    (session : Session) (visits : List Walk.Visit) (last : Session) : Prop :=
  ∃ final, Walk.Steps workspace toolchain
    (workspace.begin (Walk.resolveAll workspace (entries.map entryRequest) session).1)
    (Walk.resolveAll workspace (entries.map entryRequest) session).2 visits final last

variable {entries : List String} {visits : List Walk.Visit}

theorem Workspace.building_of_build {limit : Nat} {report : Report}
    (built : workspace.build toolchain limit entries session = some (report, last)) :
    ∃ visits, workspace.Building toolchain entries session visits last := by
  obtain ⟨course, final, takes, _, _⟩ := build_eq_some_iff.mp built
  have steps := takes.steps
  rw [takes.resolved] at steps
  exact ⟨course.visits, final, steps⟩

theorem Workspace.Building.preserves
    (building : workspace.Building toolchain entries session visits last)
    (preserves : workspace.chain.Preserves Holds) (holds : Holds session) : Holds last := by
  obtain ⟨final, steps⟩ := building
  exact steps.preserves preserves (Walk.resolveAll_preserves preserves.resolve _ holds)

end Building

end ModuleGraph
