/-
This file lists the ways in which a workspace answers a request, and those in which it loads a
module.
-/

import ModuleGraph.Workspace

namespace ModuleGraph

open Hook

/-- An error of a module graph concerns neither the settings nor their file. -/
def Error.ArisesInBuild : Error → Prop
  | configRead _ _ => False
  | configParse _ _ => False
  | _ => True

/-- The code of a fatal error that arises in a build. -/
def Error.HasFatalCode (error : Error) : Prop :=
  error.code = "PLUGIN_FAILED" ∨ error.code = "IMPORT_MAP_INVALID"

theorem Error.isFatal_of_hasFatalCode {error : Error} (coded : error.HasFatalCode) :
    error.isFatal = true := by
  cases error with
  | importMap error =>
      cases blocked : error.isBlocked with
      | true => simp [HasFatalCode, code, blocked] at coded
      | false => simp [isFatal, blocked]
  | fileNotFound path importer => simp [HasFatalCode, code] at coded
  | unmapped specifier importer => simp [HasFatalCode, code] at coded
  | transform path cause => simp [HasFatalCode, code] at coded
  | _ => rfl

theorem Error.hasFatalCode_of_isFatal {error : Error} (arises : error.ArisesInBuild)
    (fatal : error.isFatal = true) : error.HasFatalCode := by
  cases error with
  | importMap error =>
      have unblocked : error.isBlocked = false := by simpa [isFatal] using fatal
      exact .inr (by simp [code, unblocked])
  | plugin error => exact .inl rfl
  | configRead path cause => exact arises.elim
  | configParse path fault => exact arises.elim
  | _ => cases fatal

namespace Workspace

section Results

variable {workspace : Workspace}

/-- An answer is kept, unless it is rooted among the files and a probe finds a file for it, whose
path it takes then. -/
theorem settle_cases (workspace : Workspace) (answer : ResolveAnswer) :
    (∃ file, workspace.files.probe? (Path.normalize answer.path) = some file ∧
      workspace.settle answer = ⟨file.path, answer.effectiveSpace, answer.external⟩) ∨
    workspace.settle answer = .ofAnswer answer ∧
      (answer.effectiveSpace = fileSpace → answer.external = false →
        Path.isRooted answer.path = true →
          workspace.files.probe? (Path.normalize answer.path) = none) := by
  simp only [settle]
  split
  · cases probed : workspace.files.probe? (Path.normalize answer.path) with
    | some file => exact .inl ⟨file, rfl, by simp [ResolvedModule.ofAnswer, probed]⟩
    | none => exact .inr ⟨by simp [ResolvedModule.ofAnswer, probed], fun _ _ _ => rfl⟩
  · rename_i unprobed
    refine .inr ⟨rfl, fun among inside rooted => ?_⟩
    exact absurd (by simp [ResolvedModule.ofAnswer, among, inside, rooted]) unprobed

theorem external_settle (answer : ResolveAnswer) :
    (workspace.settle answer).external = answer.external := by
  rcases workspace.settle_cases answer with ⟨file, _, settled⟩ | ⟨settled, _⟩
  · rw [settled]
  · rw [settled]
    rfl

/-- Only a module among the files takes the path of a file that is found. -/
theorem settle_of_space {answer : ResolveAnswer} {space : String}
    (given : answer.space = some space) (elsewhere : space ≠ fileSpace) :
    workspace.settle answer = ⟨answer.path, space, answer.external⟩ := by
  simp [settle, ResolvedModule.ofAnswer, ResolveAnswer.effectiveSpace, given, elsewhere]

theorem claim_fst (request : ResolveRequest) (session : Session) :
    (workspace.claim request session).1 =
      match (workspace.chain.resolve request session).1 with
      | .error error => .error (.plugin error)
      | .ok answer => .ok (answer.map workspace.settle) := by
  unfold claim
  rcases workspace.chain.resolve request session with ⟨error | answer, next⟩ <;> rfl

theorem resolve_fst (request : ResolveRequest) (session : Session) :
    (workspace.resolve request session).1 =
      match (workspace.claim request session).1 with
      | .error error => .error error
      | .ok (some resolved) => .ok resolved
      | .ok none =>
          match workspace.remap request with
          | .error error => .error error
          | .ok none => workspace.resolveUnclaimed request request.path
          | .ok (some target) =>
              if target = request.path then workspace.resolveUnclaimed request target
              else
                match (workspace.claim { request with path := target }
                    (workspace.claim request session).2).1 with
                | .error error => .error error
                | .ok (some resolved) => .ok resolved
                | .ok none => workspace.resolveUnclaimed request target := by
  unfold resolve
  rcases workspace.claim request session with ⟨error | _ | resolved, next⟩
  · rfl
  · rcases workspace.remap request with error | _ | target
    · rfl
    · rfl
    · by_cases kept : target = request.path
      · simp only [if_pos kept]
      · simp only [if_neg kept]
        rcases workspace.claim { request with path := target } next with
          ⟨error | _ | resolved, later⟩ <;> rfl
  · rfl

/-- What a plugin answers is the result. -/
theorem resolve_of_answered {request : ResolveRequest} {session : Session} {answer : ResolveAnswer}
    (answered : (workspace.chain.resolve request session).1 = .ok (some answer)) :
    (workspace.resolve request session).1 = .ok (workspace.settle answer) := by
  rw [resolve_fst, claim_fst, answered]
  rfl

/-- What a plugin answers for the target of the import map is the result if none answers before. -/
theorem resolve_of_rewritten {request : ResolveRequest} {session between : Session}
    {target : String} {answer : ResolveAnswer}
    (passed : workspace.chain.resolve request session = (.ok none, between))
    (rewritten : workspace.remap request = .ok (some target)) (other : target ≠ request.path)
    (answered : (workspace.chain.resolve { request with path := target } between).1 =
      .ok (some answer)) :
    (workspace.resolve request session).1 = .ok (workspace.settle answer) := by
  have claimed : workspace.claim request session = (.ok none, between) := by
    rw [claim, passed]
    rfl
  simp only [resolve_fst, claimed, rewritten, if_neg other, claim_fst, answered, Option.map_some]

theorem load_fst (resolved : ResolvedModule) (session : Session) :
    (workspace.load resolved session).1 =
      match (workspace.chain.load ⟨resolved.path, resolved.space⟩ session).1 with
      | .error error => .error (.plugin error)
      | .ok (some answer) => .ok ⟨resolved.path, resolved.space, answer.contents,
          answer.loader.getD (ContentKind.ofPath resolved.path)⟩
      | .ok none => workspace.loadFile resolved := by
  unfold load
  rcases workspace.chain.load ⟨resolved.path, resolved.space⟩ session with
    ⟨error | _ | answer, next⟩ <;> rfl

theorem load_snd (resolved : ResolvedModule) (session : Session) :
    (workspace.load resolved session).2 =
      (workspace.chain.load ⟨resolved.path, resolved.space⟩ session).2 := by
  unfold load
  rcases workspace.chain.load ⟨resolved.path, resolved.space⟩ session with
    ⟨error | _ | answer, next⟩ <;> rfl

/-- A file that is stored is read. -/
theorem loadFile_of_find? {path : String} {external : Bool} {contents : Content}
    (stored : workspace.files.find? path = some contents) :
    workspace.loadFile ⟨path, fileSpace, external⟩ =
      .ok ⟨path, fileSpace, contents, ContentKind.ofPath path⟩ := by
  simp [loadFile, FileTable.read, stored]

end Results

/-- The ways in which a request is answered. A plugin may be asked for the specifier of the request
or for its target in the import map. -/
inductive Answers (workspace : Workspace) (request : ResolveRequest) :
    Except Error ResolvedModule → Prop
  | refused (error : PluginError) (asked : ResolveRequest) (session : Session)
      (failed : (workspace.chain.resolve asked session).1 = .error error) :
      Answers workspace request (.error (.plugin error))
  | claimed (answer : ResolveAnswer) (asked : ResolveRequest) (session : Session)
      (answered : (workspace.chain.resolve asked session).1 = .ok (some answer)) :
      Answers workspace request (.ok (workspace.settle answer))
  | forbidden (map : ImportMap) (error : ImportMapError) (present : workspace.importMap = some map)
      (failed : map.resolve request.path (referrer request) = .error error) :
      Answers workspace request (.error (.importMap error))
  | remote (specifier : String) : Answers workspace request (.ok ⟨specifier, fileSpace, true⟩)
  | found (target : String) (file : FoundFile)
      (probed : workspace.files.probe? target = some file) :
      Answers workspace request (.ok ⟨file.path, fileSpace, false⟩)
  | absent : Answers workspace request (.error (.fileNotFound request.path request.importer))
  | bare : Answers workspace request (.error (.unmapped request.path request.importer))

theorem answers_resolveUnclaimed (workspace : Workspace) (request : ResolveRequest)
    (specifier : String) :
    workspace.Answers request (workspace.resolveUnclaimed request specifier) := by
  have searched (specifier : String) :
      workspace.Answers request (resolveUnclaimed.find workspace request specifier) := by
    unfold resolveUnclaimed.find
    split
    · exact .absent
    · split
      · rename_i file probed
        exact .found _ file probed
      · exact .absent
  unfold resolveUnclaimed
  split
  · exact searched specifier
  split
  · exact .remote specifier
  split
  · exact searched _
  · exact .bare

theorem answers_of_claim_error {workspace : Workspace} {asked : ResolveRequest} {session : Session}
    {error : Error} (request : ResolveRequest)
    (failed : (workspace.claim asked session).1 = .error error) :
    workspace.Answers request (.error error) := by
  rw [claim_fst] at failed
  split at failed
  · rename_i refusal asking
    cases failed
    exact .refused refusal asked session asking
  · cases failed

theorem answers_of_claim_some {workspace : Workspace} {asked : ResolveRequest} {session : Session}
    {resolved : ResolvedModule} (request : ResolveRequest)
    (claimed : (workspace.claim asked session).1 = .ok (some resolved)) :
    workspace.Answers request (.ok resolved) := by
  rw [claim_fst] at claimed
  split at claimed
  · cases claimed
  · rename_i answer asking
    cases answer with
    | none => cases claimed
    | some answer =>
        cases claimed
        exact .claimed answer asked session asking

theorem answers_of_remap_error {workspace : Workspace} {request : ResolveRequest} {error : Error}
    (failed : workspace.remap request = .error error) :
    workspace.Answers request (.error error) := by
  unfold remap at failed
  split at failed
  · cases failed
  · rename_i map present
    split at failed
    · cases failed
    · rename_i fault mapping
      cases failed
      exact .forbidden map fault present mapping

/-- Every request is answered in one of the ways listed. -/
theorem answers_resolve (workspace : Workspace) (request : ResolveRequest) (session : Session) :
    workspace.Answers request (workspace.resolve request session).1 := by
  rw [resolve_fst]
  split
  · rename_i failed
    exact answers_of_claim_error request failed
  · rename_i claimed
    exact answers_of_claim_some request claimed
  split
  · rename_i failed
    exact answers_of_remap_error failed
  · exact workspace.answers_resolveUnclaimed request _
  split
  · exact workspace.answers_resolveUnclaimed request _
  split
  · rename_i failed
    exact answers_of_claim_error request failed
  · rename_i claimed
    exact answers_of_claim_some request claimed
  · exact workspace.answers_resolveUnclaimed request _

theorem Answers.arises {workspace : Workspace} {request : ResolveRequest} {error : Error}
    (answers : workspace.Answers request (.error error)) : error.ArisesInBuild := by
  cases answers <;> exact trivial

/-- The ways in which a module is loaded. -/
inductive Loads (workspace : Workspace) (resolved : ResolvedModule) :
    Except Error LoadedModule → Prop
  | refused (error : PluginError) (session : Session)
      (failed : (workspace.chain.load ⟨resolved.path, resolved.space⟩ session).1 = .error error) :
      Loads workspace resolved (.error (.plugin error))
  | served (answer : LoadAnswer) (session : Session)
      (answered : (workspace.chain.load ⟨resolved.path, resolved.space⟩ session).1 =
        .ok (some answer)) :
      Loads workspace resolved (.ok ⟨resolved.path, resolved.space, answer.contents,
        answer.loader.getD (ContentKind.ofPath resolved.path)⟩)
  | read (contents : Content) (stored : workspace.files.find? resolved.path = some contents)
      (space : resolved.space = fileSpace) :
      Loads workspace resolved (.ok ⟨resolved.path, resolved.space, contents,
        ContentKind.ofPath resolved.path⟩)
  | absent : Loads workspace resolved (.error (.fileNotFound resolved.path none))

/-- Every module is loaded in one of the ways listed. -/
theorem loads_load (workspace : Workspace) (resolved : ResolvedModule) (session : Session) :
    workspace.Loads resolved (workspace.load resolved session).1 := by
  rw [load_fst]
  split
  · rename_i error failed
    exact .refused error session failed
  · rename_i answer answered
    exact .served answer session answered
  · unfold loadFile FileTable.read
    split
    · exact .absent
    · rename_i space
      cases stored : workspace.files.find? resolved.path with
      | none => exact .absent
      | some contents => exact .read contents stored (by simpa using space)

theorem Loads.arises {workspace : Workspace} {resolved : ResolvedModule} {error : Error}
    (loads : workspace.Loads resolved (.error error)) : error.ArisesInBuild := by
  cases loads <;> exact trivial

/-- A module keeps its path and its space when it is loaded. -/
theorem Loads.identity {workspace : Workspace} {resolved : ResolvedModule} {loaded : LoadedModule}
    (loads : workspace.Loads resolved (.ok loaded)) :
    (loaded.space, loaded.path) = resolved.identity := by
  cases loads <;> rfl

end Workspace

end ModuleGraph
