/-
This file lists the ways in which a module turns out when a build visits it.
-/

import ModuleGraph.Proofs.Build.Gain
import ModuleGraph.Proofs.Workspace

namespace ModuleGraph

open Hook

namespace Walk

variable {workspace : Workspace} {toolchain : Toolchain}

/-- The results of requests carry the specifiers of the requests, in order. -/
theorem map_fst_resolveAll (requests : List ResolveRequest) (session : Session) :
    (resolveAll workspace requests session).1.map Prod.fst = requests.map ResolveRequest.path := by
  induction requests generalizing session with
  | nil => rfl
  | cons request requests ih =>
      rw [resolveAll, List.map_cons, List.map_cons, ih]

/-- Each result is an answer to one of the requests. -/
theorem answers_of_mem_resolveAll {requests : List ResolveRequest} {session : Session}
    {result : String × Except Error ResolvedModule}
    (member : result ∈ (resolveAll workspace requests session).1) :
    ∃ request ∈ requests, result.1 = request.path ∧ workspace.Answers request result.2 := by
  induction requests generalizing session with
  | nil => exact absurd member List.not_mem_nil
  | cons request requests ih =>
      rw [resolveAll] at member
      rcases List.mem_cons.mp member with rfl | member
      · exact ⟨request, List.mem_cons_self .., rfl, workspace.answers_resolve request session⟩
      · obtain ⟨other, later, same, answers⟩ := ih member
        exact ⟨other, List.mem_cons_of_mem _ later, same, answers⟩

theorem exists_answers {requests : List ResolveRequest} {session : Session}
    {result : String × Except Error ResolvedModule}
    (member : result ∈ (resolveAll workspace requests session).1) :
    ∃ request, workspace.Answers request result.2 := by
  obtain ⟨request, _, _, answer⟩ := answers_of_mem_resolveAll member
  exact ⟨request, answer⟩

def transformRequest (loaded : LoadedModule) : TransformRequest :=
  ⟨loaded.path, loaded.space, loaded.loader⟩

/-- The ways in which a module turns out that is taken from the queue. -/
inductive Finds (workspace : Workspace) (toolchain : Toolchain) (resolved : ResolvedModule) :
    Finding → Prop
  | missing {error : Error} (loads : workspace.Loads resolved (.error error)) :
      Finds workspace toolchain resolved (.missing error)
  | kept {loaded : LoadedModule} (loads : workspace.Loads resolved (.ok loaded))
      (untextual : sourceOf loaded = none) : Finds workspace toolchain resolved (.kept loaded)
  | rejected {loaded : LoadedModule} {source cause : String}
      (loads : workspace.Loads resolved (.ok loaded)) (textual : sourceOf loaded = some source)
      (failed : toolchain source (transformRequest loaded) = .error cause) :
      Finds workspace toolchain resolved (.rejected loaded cause)
  | followed {loaded : LoadedModule} {source : String} {transformed : Transformed}
      {results : List (String × Except Error ResolvedModule)}
      (loads : workspace.Loads resolved (.ok loaded)) (textual : sourceOf loaded = some source)
      (succeeded : toolchain source (transformRequest loaded) = .ok transformed)
      (specifiers : results.map Prod.fst = transformed.imports.map Import.specifier)
      (answers : ∀ result ∈ results, ∃ written ∈ transformed.imports,
        result.1 = written.specifier ∧ workspace.Answers (importRequest loaded written) result.2) :
      Finds workspace toolchain resolved (.followed loaded transformed results)

/-- Every module turns out in one of the ways listed. -/
theorem finds_examine (workspace : Workspace) (toolchain : Toolchain) (resolved : ResolvedModule)
    (session : Session) :
    Finds workspace toolchain resolved (examine workspace toolchain resolved session).1 := by
  have loads := workspace.loads_load resolved session
  unfold examine
  split
  · rename_i loading
    rw [loading] at loads
    exact .missing loads
  rename_i loaded between loading
  rw [loading] at loads
  split
  · rename_i untextual
    exact .kept loads untextual
  rename_i source textual
  split
  · rename_i failed
    exact .rejected loads textual failed
  · rename_i transformed succeeded
    refine .followed loads textual succeeded ?_ ?_
    · rw [map_fst_resolveAll, List.map_map]
      rfl
    · intro result member
      obtain ⟨request, asked, same, answers⟩ := answers_of_mem_resolveAll member
      obtain ⟨written, imported, rfl⟩ := List.mem_map.mp asked
      exact ⟨written, imported, same, answers⟩

theorem Finds.exists_answers {resolved : ResolvedModule} {loaded : LoadedModule}
    {transformed : Transformed} {results : List (String × Except Error ResolvedModule)}
    (finds : Finds workspace toolchain resolved (.followed loaded transformed results)) :
    ∀ result ∈ results, ∃ request, workspace.Answers request result.2 := by
  intro result member
  cases finds with
  | followed _ _ _ _ answers =>
      obtain ⟨written, _, _, answer⟩ := answers result member
      exact ⟨_, answer⟩

/-- Every module that results lead to answers a request. -/
theorem answers_of_arrival {importer : Option String}
    {results : List (String × Except Error ResolvedModule)}
    (answers : ∀ result ∈ results, ∃ request, workspace.Answers request result.2) :
    ∀ arrival ∈ (Gain.ofResults importer results).arrivals, arrival.resolved.external = false ∧
      ∃ request, workspace.Answers request (.ok arrival.resolved) := by
  intro arrival member
  obtain ⟨result, held, reached, inside, _⟩ := Gain.mem_arrivals_ofResults.mp member
  obtain ⟨request, answer⟩ := answers result held
  rw [reached] at answer
  exact ⟨inside, request, answer⟩

theorem Finds.answers_of_arrival {pending : Pending} {finding : Finding}
    (finds : Finds workspace toolchain pending.resolved finding) :
    ∀ arrival ∈ (Visit.mk pending finding).gain.arrivals, arrival.resolved.external = false ∧
      ∃ request, workspace.Answers request (.ok arrival.resolved) := by
  cases finding with
  | followed => exact Walk.answers_of_arrival finds.exists_answers
  | _ => exact fun _ member => absurd member List.not_mem_nil

/-- A module keeps its path and its space in the report. -/
theorem Finds.identity {resolved : ResolvedModule} {finding : Finding} {built : BuiltModule}
    (finds : Finds workspace toolchain resolved finding) (added : finding.built? = some built) :
    (built.space, built.path) = resolved.identity := by
  cases finds with
  | missing | rejected => cases added
  | kept loads =>
      cases added
      exact loads.identity
  | followed loads =>
      cases added
      exact loads.identity

theorem Steps.finds {walk final : Walk} {session last : Session} {visits : List Visit}
    (steps : Steps workspace toolchain walk session visits final last) :
    ∀ visit ∈ visits, Finds workspace toolchain visit.pending.resolved visit.finding := by
  intro visit member
  obtain ⟨between, found⟩ := steps.examined visit member
  rw [found]
  exact finds_examine workspace toolchain _ between

end Walk

/-- Every module that a build visits answers a request. -/
theorem Workspace.Takes.answers {workspace : Workspace} {toolchain : Toolchain}
    {entries : List String} {session last : Session} {course : Course} {final : Walk}
    (takes : workspace.Takes toolchain entries session course final last) :
    ∀ visit ∈ course.visits, visit.pending.resolved.external = false ∧
      ∃ request, workspace.Answers request (.ok visit.pending.resolved) := by
  refine takes.forall_pending (fun pending => pending.resolved.external = false ∧
    ∃ request, workspace.Answers request (.ok pending.resolved)) ?_ ?_
  · intro pending between _
    exact (Walk.finds_examine workspace toolchain pending.resolved between).answers_of_arrival
  · rw [takes.resolved]
    exact Walk.answers_of_arrival fun _ member => Walk.exists_answers member

end ModuleGraph
