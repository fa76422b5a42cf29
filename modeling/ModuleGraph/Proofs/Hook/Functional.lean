/-
This file shows that a workspace answers as a function of its requests if its plugins do.
-/

import ModuleGraph.Hook.External
import ModuleGraph.Hook.Virtual
import ModuleGraph.Proofs.Hook.Agreement

namespace ModuleGraph

namespace Hook

/-- The answer of a callback depends on the request alone, and not on what plugins remember. -/
def IsFunctional {request answer : Type} (callback : Callback request answer) : Prop :=
  ∀ asked first second, (callback asked first).1 = (callback asked second).1

/-- All handlers of the plugins answer as functions of their requests. -/
structure Chain.IsFunctional (chain : Chain) : Prop where
  resolve : ∀ handler ∈ chain.resolveHandlers, Hook.IsFunctional handler.callback
  load : ∀ handler ∈ chain.loadHandlers, Hook.IsFunctional handler.callback

/-- Plugins that answer as functions agree with themselves, whatever they remember. -/
theorem Chain.IsFunctional.agree {chain : Chain} (functional : chain.IsFunctional) :
    chain.Agree (fun _ _ => True) chain where
  resolve := List.forall₂_same.mpr fun handler member => ⟨rfl, rfl, fun asked session other _ =>
    ⟨functional.resolve handler member asked session other, trivial⟩⟩
  load := List.forall₂_same.mpr fun handler member => ⟨rfl, rfl, fun asked session other _ =>
    ⟨functional.load handler member asked session other, trivial⟩⟩

theorem External.isFunctional_resolve (patterns : List String) :
    IsFunctional (External.resolve patterns) := by
  intro asked first second
  unfold External.resolve
  split <;> rfl

theorem Virtual.isFunctional_resolve (modules : Virtual.Modules) :
    IsFunctional (Virtual.resolve modules) := by
  intro asked first second
  unfold Virtual.resolve
  simp only
  split <;> rfl

theorem Virtual.isFunctional_load (modules : Virtual.Modules) :
    IsFunctional (Virtual.load modules) := by
  intro asked first second
  unfold Virtual.load
  split <;> rfl

end Hook

namespace Walk

open Hook

variable {workspace : Workspace}

/-- Each request leads where it leads on its own. -/
theorem resolveAll_functional (functional : workspace.chain.IsFunctional)
    (requests : List ResolveRequest) (session asked : Session) :
    (resolveAll workspace requests session).1 =
      requests.map fun request => (request.path, (workspace.resolve request asked).1) := by
  induction requests generalizing session with
  | nil => rfl
  | cons request requests ih =>
      have alone : (workspace.resolve request session).1 = (workspace.resolve request asked).1 :=
        (Workspace.resolve_matches functional.agree.resolve request trivial).result
      rw [resolveAll, List.map_cons, ← ih, ← alone]

/-- What is found of a module is a function of its path and its space. -/
theorem examine_functional (functional : workspace.chain.IsFunctional) (toolchain : Toolchain)
    (resolved : ResolvedModule) (first second : Session) :
    (examine workspace toolchain resolved first).1 =
      (examine workspace toolchain resolved second).1 :=
  (examine_matches functional.agree toolchain resolved trivial).result

end Walk

end ModuleGraph
