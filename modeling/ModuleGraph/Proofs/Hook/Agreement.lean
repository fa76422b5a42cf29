/-
This file shows that a workspace builds the same report with other plugins that agree with its own,
whatever the plugins remember.
-/

import ModuleGraph.Proofs.Build.Course
import ModuleGraph.Proofs.Hook.Registry
import ModuleGraph.Proofs.Workspace
import Mathlib.Data.List.Forall2

namespace ModuleGraph

namespace Hook

/-- Two computations have the same result, and leave sessions that are related. -/
structure Matches {result : Type} (Related : Session → Session → Prop)
    (first second : result × Session) : Prop where
  result : first.1 = second.1
  session : Related first.2 second.2

/-- Two callbacks match on every request, if they start from related sessions. -/
def Agree {request answer : Type} (Related : Session → Session → Prop)
    (first second : Callback request answer) : Prop :=
  ∀ asked session other, Related session other →
    Matches Related (first asked session) (second asked other)

/-- Two handlers of plugins with one name see the same requests and agree on them. -/
structure Handler.Agree {request answer : Type} (Related : Session → Session → Prop)
    (first second : Handler request answer) : Prop where
  plugin : first.plugin = second.plugin
  filter : first.filter = second.filter
  callback : Hook.Agree Related first.callback second.callback

/-- Two chains have handlers that agree one by one. -/
structure Chain.Agree (Related : Session → Session → Prop) (first second : Chain) : Prop where
  resolve : List.Forall₂ (Handler.Agree Related) first.resolveHandlers second.resolveHandlers
  load : List.Forall₂ (Handler.Agree Related) first.loadHandlers second.loadHandlers

/-- Two plugins register handlers that agree, and either both setups fail or none does. -/
structure Plugin.Agree (Related : Session → Session → Prop) (first second : Plugin) : Prop where
  succeeds : first.succeeds = second.succeeds
  resolve : List.Forall₂ (Handler.Agree Related) first.resolveHandlers second.resolveHandlers
  load : List.Forall₂ (Handler.Agree Related) first.loadHandlers second.loadHandlers

/-- Two calls do the same to chains that agree. -/
inductive Call.Agree (Related : Session → Session → Prop) : Call → Call → Prop
  | register {first second : Plugin} (agree : first.Agree Related second) :
      Agree Related (.register first) (.register second)
  | clear : Agree Related .clear .clear

variable {Related : Session → Session → Prop} {session other : Session}

theorem Chain.Agree.apply {first second : Chain} {call twin : Call}
    (agree : first.Agree Related second) (same : call.Agree Related twin) :
    (first.apply call).Agree Related (second.apply twin) := by
  cases same with
  | clear => exact ⟨.nil, .nil⟩
  | @register plugin other same =>
      rw [apply_register, apply_register]
      cases succeeds : plugin.succeeds with
      | false =>
          have fails : other.succeeds = false := same.succeeds.symm.trans succeeds
          rw [List.filter_cons_of_neg (by simp [succeeds]),
            List.filter_cons_of_neg (by simp [fails])]
          simpa [extend] using agree
      | true =>
          have works : other.succeeds = true := same.succeeds.symm.trans succeeds
          rw [List.filter_cons_of_pos succeeds, List.filter_cons_of_pos works]
          refine ⟨List.rel_append agree.resolve ?_, List.rel_append agree.load ?_⟩
          · simpa using same.resolve
          · simpa using same.load

/-- Chains agree after histories of calls that do. -/
theorem Chain.ofCalls_agree {calls twins : List Call}
    (same : List.Forall₂ (Call.Agree Related) calls twins) :
    (ofCalls calls).Agree Related (ofCalls twins) := by
  have run {first second : Chain} (agree : first.Agree Related second) :
      (calls.foldl Chain.apply first).Agree Related (twins.foldl Chain.apply second) := by
    induction same generalizing first second with
    | nil => exact agree
    | cons same _ ih => exact ih (agree.apply same)
  exact run ⟨.nil, .nil⟩

/-- Computations that match have a result in common. -/
theorem Matches.exists {result : Type} {first second : result × Session}
    (matching : Matches Related first second) : ∃ common next later,
      first = (common, next) ∧ second = (common, later) ∧ Related next later :=
  ⟨first.1, first.2, second.2, rfl, Prod.ext matching.result.symm rfl, matching.session⟩

theorem map_fst_eq_of_rel {result : Type} {first second : Option (result × Session)}
    (matching : Option.Rel (Matches Related) first second) :
    first.map Prod.fst = second.map Prod.fst := by
  cases matching with
  | none => rfl
  | some matching => exact congrArg some matching.result

/-- Handlers that agree answer in the same way. -/
theorem offer_matches {request answer : Type} (stage : HookStage)
    (path space : request → String) (asked : request) {first second : List (Handler request answer)}
    (agree : List.Forall₂ (Handler.Agree Related) first second) (related : Related session other) :
    Matches Related (Chain.offer stage path space asked first session)
      (Chain.offer stage path space asked second other) := by
  induction agree generalizing session other with
  | nil => exact ⟨rfl, related⟩
  | @cons handler twin first second same _ ih =>
      unfold Chain.offer
      rw [← same.filter, ← same.plugin]
      by_cases accepted : handler.filter.accepts (path asked) (space asked) = true
      · obtain ⟨answer, next, later, answering, repeating, related⟩ :=
          (same.callback asked session other related).exists
        rw [if_pos accepted, if_pos accepted, answering, repeating]
        rcases answer with cause | _ | answer
        · exact ⟨rfl, related⟩
        · exact ih related
        · exact ⟨rfl, related⟩
      · rw [if_neg accepted, if_neg accepted]
        exact ih related

end Hook

open Hook

variable {Related : Session → Session → Prop} {workspace : Workspace} {chain : Chain}
  {session other : Session}

/-- The handlers for specifiers agree, which is all that resolving depends on. -/
abbrev Hook.Chain.AgreeToResolve (Related : Session → Session → Prop) (first second : Chain) :
    Prop :=
  List.Forall₂ (Handler.Agree Related) first.resolveHandlers second.resolveHandlers

namespace Workspace

/-- The same workspace with other plugins. -/
def withChain (workspace : Workspace) (chain : Chain) : Workspace :=
  { workspace with chain := chain }

theorem settle_withChain : (workspace.withChain chain).settle = workspace.settle := by
  funext answer
  simp only [settle, withChain]

theorem remap_withChain : (workspace.withChain chain).remap = workspace.remap :=
  rfl

theorem resolveUnclaimed_withChain :
    (workspace.withChain chain).resolveUnclaimed = workspace.resolveUnclaimed := by
  funext request specifier
  simp only [resolveUnclaimed, resolveUnclaimed.find, withChain]

theorem loadFile_withChain : (workspace.withChain chain).loadFile = workspace.loadFile :=
  rfl

theorem claim_matches (agree : workspace.chain.AgreeToResolve Related chain)
    (request : ResolveRequest) (related : Related session other) :
    Matches Related (workspace.claim request session)
      ((workspace.withChain chain).claim request other) := by
  have offered : Matches Related (workspace.chain.resolve request session)
      ((workspace.withChain chain).chain.resolve request other) :=
    offer_matches _ _ _ request agree related
  obtain ⟨answer, next, later, answering, repeating, related⟩ := offered.exists
  unfold claim
  rw [answering, repeating, settle_withChain]
  cases answer with
  | error error => exact ⟨rfl, related⟩
  | ok answer => exact ⟨rfl, related⟩

theorem resolve_matches (agree : workspace.chain.AgreeToResolve Related chain)
    (request : ResolveRequest) (related : Related session other) :
    Matches Related (workspace.resolve request session)
      ((workspace.withChain chain).resolve request other) := by
  obtain ⟨claimed, next, later, answering, repeating, related⟩ :=
    (claim_matches agree request related).exists
  unfold resolve
  rw [answering, repeating, remap_withChain, resolveUnclaimed_withChain]
  rcases claimed with error | _ | resolved
  · exact ⟨rfl, related⟩
  · rcases workspace.remap request with error | _ | target
    · exact ⟨rfl, related⟩
    · exact ⟨rfl, related⟩
    · by_cases kept : target = request.path
      · simp only [if_pos kept]
        exact ⟨rfl, related⟩
      · simp only [if_neg kept]
        obtain ⟨claimed, next, later, answering, repeating, related⟩ :=
          (claim_matches agree { request with path := target } related).exists
        rw [answering, repeating]
        rcases claimed with error | _ | resolved <;> exact ⟨rfl, related⟩
  · exact ⟨rfl, related⟩

theorem load_matches (agree : workspace.chain.Agree Related chain) (resolved : ResolvedModule)
    (related : Related session other) :
    Matches Related (workspace.load resolved session)
      ((workspace.withChain chain).load resolved other) := by
  have offered : Matches Related (workspace.chain.load ⟨resolved.path, resolved.space⟩ session)
      ((workspace.withChain chain).chain.load ⟨resolved.path, resolved.space⟩ other) :=
    offer_matches _ _ _ _ agree.load related
  obtain ⟨answer, next, later, answering, repeating, related⟩ := offered.exists
  unfold load
  rw [answering, repeating, loadFile_withChain]
  rcases answer with error | _ | answer <;> exact ⟨rfl, related⟩

end Workspace

namespace Walk

theorem resolveAll_matches (agree : workspace.chain.AgreeToResolve Related chain)
    (requests : List ResolveRequest) (related : Related session other) :
    Matches Related (resolveAll workspace requests session)
      (resolveAll (workspace.withChain chain) requests other) := by
  induction requests generalizing session other with
  | nil => exact ⟨rfl, related⟩
  | cons request requests ih =>
      obtain ⟨result, next, later, answering, repeating, related⟩ :=
        (Workspace.resolve_matches agree request related).exists
      obtain ⟨results, last, final, resolving, again, related⟩ := (ih related).exists
      unfold resolveAll
      simp only [answering, repeating, resolving, again]
      exact ⟨rfl, related⟩

/-- The same is found of a module. -/
theorem examine_matches (agree : workspace.chain.Agree Related chain) (toolchain : Toolchain)
    (resolved : ResolvedModule) (related : Related session other) :
    Matches Related (examine workspace toolchain resolved session)
      (examine (workspace.withChain chain) toolchain resolved other) := by
  obtain ⟨loading, next, later, answering, repeating, related⟩ :=
    (Workspace.load_matches agree resolved related).exists
  unfold examine
  rw [answering, repeating]
  cases loading with
  | error error => exact ⟨rfl, related⟩
  | ok loaded =>
      cases textual : sourceOf loaded with
      | none =>
          simp only [textual]
          exact ⟨rfl, related⟩
      | some source =>
          cases transforming : toolchain source ⟨loaded.path, loaded.space, loaded.loader⟩ with
          | error cause =>
              simp only [textual, transforming]
              exact ⟨rfl, related⟩
          | ok transformed =>
              obtain ⟨results, last, final, resolving, again, related⟩ :=
                (resolveAll_matches agree.resolve
                  (transformed.imports.map (importRequest loaded)) related).exists
              simp only [textual, transforming, resolving, again]
              exact ⟨rfl, related⟩

theorem run_matches (agree : workspace.chain.Agree Related chain) (toolchain : Toolchain)
    (limit : Nat) (walk : Walk) (related : Related session other) :
    Option.Rel (Matches Related) (run workspace toolchain limit walk session)
      (run (workspace.withChain chain) toolchain limit walk other) := by
  induction limit generalizing walk session other with
  | zero =>
      rcases walk.stopped_or_going with stopped | ⟨pending, queue, going, queued⟩
      · rw [run_of_stopped stopped, run_of_stopped stopped]
        exact .some ⟨rfl, related⟩
      · rw [run_zero going queued, run_zero going queued]
        exact .none
  | succ limit ih =>
      rcases walk.stopped_or_going with stopped | ⟨pending, queue, going, queued⟩
      · rw [run_of_stopped stopped, run_of_stopped stopped]
        exact .some ⟨rfl, related⟩
      · have examined := examine_matches agree toolchain pending.resolved related
        rw [run_succ going queued, run_succ going queued, examined.result]
        exact ih _ examined.session

end Walk

namespace Workspace

/-- Plugins that agree lead to the same report. -/
theorem build_matches (agree : workspace.chain.Agree Related chain) (toolchain : Toolchain)
    (limit : Nat) (entries : List String) (related : Related session other) :
    Option.Rel (Matches Related) (workspace.build toolchain limit entries session)
      ((workspace.withChain chain).build toolchain limit entries other) := by
  obtain ⟨results, next, later, resolving, again, related⟩ :=
    (Walk.resolveAll_matches agree.resolve (entries.map entryRequest) related).exists
  have started : Walk.start (workspace.withChain chain) = Walk.start workspace := rfl
  unfold build
  rw [resolving, again, started]
  exact Walk.run_matches agree toolchain limit _ related

end Workspace

end ModuleGraph
