/-
This file shows which handlers of a chain a request calls, where its answer comes from, and what the
handlers of virtual modules and of external specifiers answer.
-/

import ModuleGraph.Hook.Chain
import ModuleGraph.Hook.External
import ModuleGraph.Hook.Virtual
import Std.Data.TreeMap.Lemmas

namespace ModuleGraph.Hook

/-- The path passes the test, and the space is the one that the filter names, if it names one. -/
def Filter.Sees (filter : Filter) (path space : String) : Prop :=
  (filter.space = none ∨ filter.space = some space) ∧ filter.test path = true

instance (filter : Filter) (path space : String) : Decidable (filter.Sees path space) :=
  inferInstanceAs (Decidable (_ ∧ _))

theorem Filter.accepts_iff {filter : Filter} {path space : String} :
    filter.accepts path space = true ↔ filter.Sees path space := by
  rw [accepts, Sees, Bool.and_eq_true]
  cases filter.space <;> simp

section Calls

variable {request answer : Type} {asked : request} {stage : HookStage} {path : String}
  {handler : Handler request answer} {handlers : List (Handler request answer)}
  {first between last : Session} {outcome : Except PluginError (Option answer) × Session}

/-- The handlers that see a path in a space. -/
def seeing (path space : String) (handlers : List (Handler request answer)) :
    List (Handler request answer) :=
  handlers.filter fun handler => handler.filter.Sees path space

/-- Handlers are called one after another with one request, and all pass it on. -/
inductive Passes (asked : request) : List (Handler request answer) → Session → Session → Prop
  | nil (session : Session) : Passes asked [] session session
  | cons {handler : Handler request answer} {handlers : List (Handler request answer)}
      {first between last : Session}
      (passes : handler.callback asked first = (.ok none, between))
      (rest : Passes asked handlers between last) :
      Passes asked (handler :: handlers) first last

/-- What becomes of a request that handlers are called with, up to the first that does not pass it
on; those after it are not called. -/
inductive Offers (stage : HookStage) (path : String) (asked : request)
    (handlers : List (Handler request answer)) (first : Session) :
    Except PluginError (Option answer) × Session → Prop
  | passed {last : Session} (passes : Passes asked handlers first last) :
      Offers stage path asked handlers first (.ok none, last)
  | answered {before after : List (Handler request answer)} {handler : Handler request answer}
      {between last : Session} {given : answer}
      (split : handlers = before ++ handler :: after)
      (passes : Passes asked before first between)
      (answers : handler.callback asked between = (.ok (some given), last)) :
      Offers stage path asked handlers first (.ok (some given), last)
  | failed {before after : List (Handler request answer)} {handler : Handler request answer}
      {between last : Session} {cause : String}
      (split : handlers = before ++ handler :: after)
      (passes : Passes asked before first between)
      (fails : handler.callback asked between = (.error cause, last)) :
      Offers stage path asked handlers first
        (.error ⟨handler.plugin, stage, some path, cause⟩, last)

/-- A handler that passes a request on adds nothing to what becomes of it. -/
theorem Offers.cons (passes : handler.callback asked first = (.ok none, between))
    (rest : Offers stage path asked handlers between outcome) :
    Offers stage path asked (handler :: handlers) first outcome := by
  cases rest with
  | passed later => exact .passed (.cons passes later)
  | answered split later answers =>
      exact .answered (congrArg (handler :: ·) split) (.cons passes later) answers
  | failed split later fails =>
      exact .failed (congrArg (handler :: ·) split) (.cons passes later) fails

end Calls

namespace Chain

variable {request answer : Type} {stage : HookStage} {path space : request → String}
  {asked : request} {handlers : List (Handler request answer)}

/-- Handlers that do not see a request are skipped. -/
theorem offer_seeing (stage : HookStage) (path space : request → String) (asked : request)
    (handlers : List (Handler request answer)) (session : Session) :
    offer stage path space asked (seeing (path asked) (space asked) handlers) session =
      offer stage path space asked handlers session := by
  induction handlers generalizing session with
  | nil => rfl
  | cons handler handlers ih =>
      by_cases sees : handler.filter.Sees (path asked) (space asked)
      · have kept : seeing (path asked) (space asked) (handler :: handlers) =
            handler :: seeing (path asked) (space asked) handlers :=
          List.filter_cons_of_pos (decide_eq_true sees)
        rw [kept, offer, offer]
        simp only [ih]
      · have dropped : seeing (path asked) (space asked) (handler :: handlers) =
            seeing (path asked) (space asked) handlers :=
          List.filter_cons_of_neg fun decided => sees (of_decide_eq_true decided)
        have blind : ¬ handler.filter.accepts (path asked) (space asked) = true :=
          fun accepts => sees (Filter.accepts_iff.mp accepts)
        rw [dropped, ih, offer, if_neg blind]

section Seeing

variable (sees : ∀ handler ∈ handlers, handler.filter.Sees (path asked) (space asked))
include sees

theorem offers_offer (stage : HookStage) (session : Session) :
    Offers stage (path asked) asked handlers session
      (offer stage path space asked handlers session) := by
  induction handlers generalizing session with
  | nil => exact .passed (.nil session)
  | cons handler handlers ih =>
      have accepts := Filter.accepts_iff.mpr (sees handler (List.mem_cons_self ..))
      have rest := ih fun other member => sees other (List.mem_cons_of_mem _ member)
      rw [offer, if_pos accepts]
      cases called : handler.callback asked session with
      | mk result next =>
          rcases result with cause | _ | given
          · exact .failed (List.nil_append _).symm (.nil session) called
          · exact .cons called (rest next)
          · exact .answered (List.nil_append _).symm (.nil session) called

/-- Handlers that pass a request on leave it to those after them. -/
theorem offer_append_of_passes {before after : List (Handler request answer)}
    (split : handlers = before ++ after) {first between : Session}
    (passes : Passes asked before first between) :
    offer stage path space asked handlers first = offer stage path space asked after between := by
  subst split
  induction passes with
  | nil session => rfl
  | cons passes rest ih =>
      have accepts := Filter.accepts_iff.mpr (sees _ (List.mem_cons_self ..))
      rw [List.cons_append, offer, if_pos accepts, passes]
      exact ih fun other member => sees other (List.mem_cons_of_mem _ member)

theorem offer_eq_of_offers {session : Session}
    {outcome : Except PluginError (Option answer) × Session}
    (offers : Offers stage (path asked) asked handlers session outcome) :
    offer stage path space asked handlers session = outcome := by
  have called {before after : List (Handler request answer)} {handler : Handler request answer}
      (split : handlers = before ++ handler :: after) :
      handler.filter.accepts (path asked) (space asked) = true := by
    refine Filter.accepts_iff.mpr (sees handler ?_)
    rw [split]
    exact List.mem_append_right _ (List.mem_cons_self ..)
  cases offers with
  | passed passes =>
      rw [offer_append_of_passes sees (List.append_nil _).symm passes, offer]
  | answered split passes answers =>
      rw [offer_append_of_passes sees split passes, offer, if_pos (called split), answers]
  | failed split passes fails =>
      rw [offer_append_of_passes sees split passes, offer, if_pos (called split), fails]

end Seeing

/-- A request calls the handlers that see it, in order. -/
theorem offer_eq_iff_offers {session : Session}
    {outcome : Except PluginError (Option answer) × Session} :
    offer stage path space asked handlers session = outcome ↔
      Offers stage (path asked) asked (seeing (path asked) (space asked) handlers) session
        outcome := by
  have sees : ∀ handler ∈ seeing (path asked) (space asked) handlers,
      handler.filter.Sees (path asked) (space asked) :=
    fun handler member => of_decide_eq_true (List.mem_filter.mp member).2
  rw [← offer_seeing]
  constructor
  · rintro rfl
    exact offers_offer sees stage session
  · exact offer_eq_of_offers sees

theorem offers_seeing (stage : HookStage) (path space : request → String) (asked : request)
    (handlers : List (Handler request answer)) (session : Session) :
    Offers stage (path asked) asked (seeing (path asked) (space asked) handlers) session
      (offer stage path space asked handlers session) :=
  offer_eq_iff_offers.mp rfl

/-- The handler that a request stops at is one of those it is offered to. -/
theorem mem_of_split {before after : List (Handler request answer)}
    {handler : Handler request answer} {path space : String}
    (split : seeing path space handlers = before ++ handler :: after) :
    handler ∈ handlers := by
  have member : handler ∈ seeing path space handlers := by
    rw [split]
    exact List.mem_append_right _ (List.mem_cons_self ..)
  exact (List.mem_filter.mp member).1

/-- An answer comes from a handler that sees the request. -/
theorem exists_of_offer_some {session : Session} {given : answer}
    (offered : (offer stage path space asked handlers session).1 = .ok (some given)) :
    ∃ handler ∈ handlers, ∃ between, (handler.callback asked between).1 = .ok (some given) := by
  have offers := offers_seeing stage path space asked handlers session
  generalize offer stage path space asked handlers session = outcome at offers offered
  cases offers with
  | passed passes => cases offered
  | @answered before after handler between last found split passes answers =>
      cases offered
      exact ⟨handler, mem_of_split split, between, by rw [answers]⟩
  | failed split passes fails => cases offered

/-- No request fails if no handler does. -/
theorem offer_ne_error
    (safe : ∀ handler ∈ handlers, ∀ between cause,
      (handler.callback asked between).1 ≠ .error cause)
    (session : Session) (error : PluginError) :
    (offer stage path space asked handlers session).1 ≠ .error error := by
  have offers := offers_seeing stage path space asked handlers session
  generalize offer stage path space asked handlers session = outcome at offers
  cases offers with
  | passed passes => exact nofun
  | answered split passes answers => exact nofun
  | @failed before after handler between last cause split passes fails =>
      exact absurd (congrArg Prod.fst fails) (safe handler (mem_of_split split) between cause)

end Chain

theorem External.resolve_ne_error (patterns : List String) (asked : ResolveRequest)
    (session : Session) (cause : String) :
    (External.resolve patterns asked session).1 ≠ .error cause := by
  rw [External.resolve]
  split <;> exact fun failed => nomatch failed

/-- A specifier that is kept out of the graph is answered with itself. -/
theorem External.external_of_resolve {patterns : List String} {asked : ResolveRequest}
    {session : Session} {answer : ResolveAnswer}
    (answered : (External.resolve patterns asked session).1 = .ok (some answer)) :
    answer.external = true := by
  rw [External.resolve] at answered
  split at answered
  · cases answered
    rfl
  · cases answered

/-- Specifiers are kept out of the graph without remembering anything. -/
theorem External.session_of_resolve (patterns : List String) (asked : ResolveRequest)
    (session : Session) : (External.resolve patterns asked session).2 = session := by
  rw [External.resolve]
  split <;> rfl

namespace Virtual

theorem session_of_resolve (modules : Modules) (asked : ResolveRequest) (session : Session) :
    (resolve modules asked session).2 = session := by
  simp only [resolve]
  split <;> rfl

theorem session_of_load (modules : Modules) (asked : LoadRequest) (session : Session) :
    (load modules asked session).2 = session := by
  unfold load
  split <;> rfl

theorem resolve_ne_error (modules : Modules) (asked : ResolveRequest) (session : Session)
    (cause : String) : (resolve modules asked session).1 ≠ .error cause := by
  simp only [resolve]
  split <;> exact fun failed => nomatch failed

/-- A specifier that is answered names a module that exists. -/
theorem mem_of_resolve {modules : Modules} {asked : ResolveRequest} {session : Session}
    {answer : ResolveAnswer}
    (answered : (resolve modules asked session).1 = .ok (some answer)) :
    answer.path ∈ modules ∧ answer.space = some space ∧ answer.external = false := by
  simp only [resolve] at answered
  split at answered
  · rename_i held
    cases answered
    exact ⟨held, rfl, rfl⟩
  · cases answered

/-- A module that exists is loaded. -/
theorem load_of_mem {modules : Modules} {id : String} (held : id ∈ modules) (space : String)
    (session : Session) :
    ∃ answer, load modules ⟨id, space⟩ session = (.ok (some answer), session) := by
  have present := Std.TreeMap.mem_iff_isSome_getElem?.mp held
  obtain ⟨entry, found⟩ := Option.isSome_iff_exists.mp present
  rw [load, found]
  exact ⟨_, rfl⟩

end Virtual

end ModuleGraph.Hook
