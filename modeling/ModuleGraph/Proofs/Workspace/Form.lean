/-
This file shows that the form of an import has no influence on where it leads, as long as no plugin
looks at it. Only entry points are treated differently.
-/

import ModuleGraph.Hook.External
import ModuleGraph.Hook.Virtual
import ModuleGraph.Proofs.Workspace

namespace ModuleGraph

open Hook

/-- Two requests differ at most in the form of the import. -/
structure ResolveRequest.Similar (first second : ResolveRequest) : Prop where
  path : first.path = second.path
  importer : first.importer = second.importer
  space : first.space = second.space
  entryPoint : first.kind = .entryPoint ↔ second.kind = .entryPoint

/-- Requests stay similar when they are offered again with another specifier. -/
theorem ResolveRequest.Similar.withPath {first second : ResolveRequest}
    (similar : first.Similar second) (target : String) :
    ({ first with path := target } : ResolveRequest).Similar { second with path := target } :=
  ⟨rfl, similar.importer, similar.space, similar.entryPoint⟩

namespace Hook

/-- The answer depends neither on the form of the import nor on what plugins remember. -/
def IgnoresForm (callback : Callback ResolveRequest ResolveAnswer) : Prop :=
  ∀ first second, first.Similar second → ∀ session other,
    (callback first session).1 = (callback second other).1

theorem External.ignoresForm_resolve (patterns : List String) :
    IgnoresForm (External.resolve patterns) := by
  intro first second similar session other
  unfold External.resolve
  rw [similar.path]
  split <;> rfl

theorem Virtual.ignoresForm_resolve (modules : Virtual.Modules) :
    IgnoresForm (Virtual.resolve modules) := by
  intro first second similar session other
  unfold Virtual.resolve
  rw [similar.path]
  simp only
  split <;> rfl

/-- Handlers that ignore the form of an import answer similar requests alike. -/
theorem Chain.offer_similar {handlers : List (Handler ResolveRequest ResolveAnswer)}
    (ignore : ∀ handler ∈ handlers, IgnoresForm handler.callback) {first second : ResolveRequest}
    (similar : first.Similar second) (stage : HookStage) (session other : Session) :
    (offer stage ResolveRequest.path ResolveRequest.space first handlers session).1 =
      (offer stage ResolveRequest.path ResolveRequest.space second handlers other).1 := by
  induction handlers generalizing session other with
  | nil => rfl
  | cons handler handlers ih =>
      have rest := ih fun later member => ignore later (List.mem_cons_of_mem _ member)
      have same := ignore handler (List.mem_cons_self ..) first second similar session other
      unfold offer
      rw [similar.path, similar.space]
      split
      · generalize handler.callback first session = answered at same ⊢
        generalize handler.callback second other = repeated at same ⊢
        obtain ⟨answer, next⟩ := answered
        obtain ⟨twin, later⟩ := repeated
        obtain rfl : answer = twin := same
        rcases answer with cause | _ | answer
        · rfl
        · exact rest next later
        · rfl
      · exact rest session other

end Hook

namespace Workspace

variable {workspace : Workspace} {first second : ResolveRequest}

theorem claim_similar
    (ignore : ∀ handler ∈ workspace.chain.resolveHandlers, IgnoresForm handler.callback)
    (similar : first.Similar second) (session other : Session) :
    (workspace.claim first session).1 = (workspace.claim second other).1 := by
  have offered : (workspace.chain.resolve first session).1 =
      (workspace.chain.resolve second other).1 :=
    Chain.offer_similar ignore similar _ session other
  rw [claim_fst, claim_fst, offered]

theorem remap_similar (similar : first.Similar second) :
    workspace.remap first = workspace.remap second := by
  unfold remap referrer
  rw [similar.path, similar.importer]

theorem resolveUnclaimed_similar (similar : first.Similar second) (specifier : String) :
    workspace.resolveUnclaimed first specifier = workspace.resolveUnclaimed second specifier := by
  have found (specifier : String) : resolveUnclaimed.find workspace first specifier =
      resolveUnclaimed.find workspace second specifier := by
    unfold resolveUnclaimed.find referrer
    rw [similar.path, similar.importer, similar.space]
  unfold resolveUnclaimed
  simp only [found, similar.entryPoint, similar.path, similar.importer]

/-- Similar requests lead to the same module or fail with the same error. -/
theorem resolve_similar
    (ignore : ∀ handler ∈ workspace.chain.resolveHandlers, IgnoresForm handler.callback)
    (similar : first.Similar second) (session other : Session) :
    (workspace.resolve first session).1 = (workspace.resolve second other).1 := by
  have again (target : String) :
      (workspace.claim { first with path := target } (workspace.claim first session).2).1 =
        (workspace.claim { second with path := target } (workspace.claim second other).2).1 :=
    claim_similar ignore (similar.withPath target) _ _
  rw [resolve_fst, resolve_fst, claim_similar ignore similar session other, remap_similar similar]
  simp only [resolveUnclaimed_similar similar, similar.path, again]

end Workspace

end ModuleGraph
