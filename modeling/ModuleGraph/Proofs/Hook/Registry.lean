/-
This file shows which handlers a chain holds after any history of registrations and clearings, and
which of them a request calls.
-/

import Mathlib.Data.List.DropRight
import Mathlib.Data.List.Induction
import ModuleGraph.Proofs.Hook.Offer

namespace ModuleGraph.Hook

/-- One step of a setup. -/
inductive Contribution where
  | onResolve (filter : Filter) (callback : Callback ResolveRequest ResolveAnswer)
  | onLoad (filter : Filter) (callback : Callback LoadRequest LoadAnswer)

namespace Contribution

/-- The handler that a step adds for specifiers. -/
def resolveHandler? (plugin : String) :
    Contribution → Option (Handler ResolveRequest ResolveAnswer)
  | onResolve filter callback => some ⟨plugin, filter, callback⟩
  | onLoad _ _ => none

/-- The handler that a step adds for modules. -/
def loadHandler? (plugin : String) : Contribution → Option (Handler LoadRequest LoadAnswer)
  | onResolve _ _ => none
  | onLoad filter callback => some ⟨plugin, filter, callback⟩

end Contribution

def Registration.add (registration : Registration) : Contribution → Registration
  | .onResolve filter callback => registration.onResolve filter callback
  | .onLoad filter callback => registration.onLoad filter callback

namespace Plugin

variable {plugin : Plugin}

/-- What a plugin registers; nothing if its setup fails. -/
def registration (plugin : Plugin) : Registration :=
  (plugin.setup .empty).toOption.getD .empty

def resolveHandlers (plugin : Plugin) : List (Handler ResolveRequest ResolveAnswer) :=
  Chain.handlersOf plugin.name plugin.registration.resolve

def loadHandlers (plugin : Plugin) : List (Handler LoadRequest LoadAnswer) :=
  Chain.handlersOf plugin.name plugin.registration.load

def succeeds (plugin : Plugin) : Bool :=
  (plugin.setup .empty).isOk

/-- The setup of a plugin takes the given steps in order and succeeds. -/
def Contributes (plugin : Plugin) (steps : List Contribution) : Prop :=
  plugin.setup .empty = .ok (steps.foldl Registration.add .empty)

theorem handlersOf_foldl_add (name : String) (steps : List Contribution)
    (registration : Registration) :
    Chain.handlersOf name (steps.foldl Registration.add registration).resolve =
        Chain.handlersOf name registration.resolve ++
          steps.filterMap (Contribution.resolveHandler? name) ∧
      Chain.handlersOf name (steps.foldl Registration.add registration).load =
        Chain.handlersOf name registration.load ++
          steps.filterMap (Contribution.loadHandler? name) := by
  induction steps generalizing registration with
  | nil => simp
  | cons step steps ih =>
      obtain ⟨resolves, loads⟩ := ih (registration.add step)
      rw [List.foldl_cons, resolves, loads]
      cases step <;>
        simp [Registration.add, Registration.onResolve, Registration.onLoad, Chain.handlersOf,
          List.filterMap_cons, Contribution.resolveHandler?, Contribution.loadHandler?]

/-- The handlers of a plugin are in the order of its setup. -/
theorem Contributes.handlers {steps : List Contribution} (contributes : plugin.Contributes steps) :
    plugin.resolveHandlers = steps.filterMap (Contribution.resolveHandler? plugin.name) ∧
      plugin.loadHandlers = steps.filterMap (Contribution.loadHandler? plugin.name) := by
  have set : plugin.registration = steps.foldl Registration.add .empty := by
    rw [registration, contributes, Except.toOption, Option.getD_some]
  have ordered := handlersOf_foldl_add plugin.name steps .empty
  rw [resolveHandlers, loadHandlers, set]
  exact ordered

theorem foldl_add_onResolve (handlers : List (Filter × Callback ResolveRequest ResolveAnswer))
    (registration : Registration) :
    (handlers.map fun handler => .onResolve handler.1 handler.2).foldl Registration.add
        registration =
      { registration with resolve := registration.resolve ++ handlers } := by
  induction handlers generalizing registration with
  | nil => simp
  | cons handler handlers ih =>
      rw [List.map_cons, List.foldl_cons, ih]
      simp [Registration.add, Registration.onResolve]

theorem foldl_add_onLoad (handlers : List (Filter × Callback LoadRequest LoadAnswer))
    (registration : Registration) :
    (handlers.map fun handler => .onLoad handler.1 handler.2).foldl Registration.add
        registration =
      { registration with load := registration.load ++ handlers } := by
  induction handlers generalizing registration with
  | nil => simp
  | cons handler handlers ih =>
      rw [List.map_cons, List.foldl_cons, ih]
      simp [Registration.add, Registration.onLoad]

/-- Whatever a setup registers, it can be registered step by step. -/
theorem exists_contributes (success : plugin.succeeds = true) :
    ∃ steps, plugin.Contributes steps := by
  unfold succeeds at success
  cases setup : plugin.setup .empty with
  | error cause =>
      rw [setup] at success
      cases success
  | ok registration =>
      refine ⟨(registration.resolve.map fun handler => .onResolve handler.1 handler.2) ++
        registration.load.map fun handler => .onLoad handler.1 handler.2, ?_⟩
      rw [Contributes, setup, List.foldl_append, foldl_add_onResolve, foldl_add_onLoad]
      rfl

end Plugin

theorem External.resolveHandlers_plugin (patterns : List String) :
    (External.plugin patterns).resolveHandlers =
      if patterns.isEmpty then [] else [⟨"external", Filter.any, External.resolve patterns⟩] := by
  cases absent : patterns.isEmpty <;>
    simp [Plugin.resolveHandlers, Plugin.registration, External.plugin, absent, Chain.handlersOf,
      Registration.onResolve, Registration.empty, Except.toOption]

theorem External.loadHandlers_plugin (patterns : List String) :
    (External.plugin patterns).loadHandlers = [] := by
  cases absent : patterns.isEmpty <;>
    simp [Plugin.loadHandlers, Plugin.registration, External.plugin, absent, Chain.handlersOf,
      Registration.onResolve, Registration.empty, Except.toOption]

theorem External.callback_of_mem {patterns : List String}
    {handler : Handler ResolveRequest ResolveAnswer}
    (member : handler ∈ (External.plugin patterns).resolveHandlers) :
    handler.callback = External.resolve patterns := by
  rw [External.resolveHandlers_plugin] at member
  split at member
  · cases member
  · rw [List.mem_singleton.mp member]

/-- Something that is done to a chain. -/
inductive Call where
  | register (plugin : Plugin)
  | clear

namespace Call

def plugin? : Call → Option Plugin
  | register plugin => some plugin
  | clear => none

/-- The plugins that were registered since the last clearing. -/
def registered (calls : List Call) : List Plugin :=
  (calls.rtakeWhile fun call => call.plugin?.isSome).filterMap plugin?

/-- The plugins that were registered since the last clearing with success. -/
def standing (calls : List Call) : List Plugin :=
  (registered calls).filter Plugin.succeeds

theorem standing_concat_register (calls : List Call) (plugin : Plugin) :
    standing (calls ++ [register plugin]) =
      standing calls ++ [plugin].filter Plugin.succeeds := by
  rw [standing, registered, List.rtakeWhile_concat_pos _ _ _ rfl, List.filterMap_append,
    List.filter_append]
  rfl

theorem standing_concat_clear (calls : List Call) : standing (calls ++ [clear]) = [] := by
  have stops : (calls ++ [clear]).rtakeWhile (fun call => call.plugin?.isSome) = [] :=
    List.rtakeWhile_concat_neg _ calls clear Bool.false_ne_true
  rw [standing, registered, stops]
  rfl

theorem mem_of_mem_standing {calls : List Call} {plugin : Plugin}
    (standing : plugin ∈ standing calls) : register plugin ∈ calls := by
  obtain ⟨call, member, same⟩ := List.mem_filterMap.mp (List.mem_filter.mp standing).1
  have held : call ∈ calls := (List.rtakeWhile_suffix _ calls).subset member
  cases call with
  | register other =>
      cases same
      exact held
  | clear => cases same

end Call

namespace Chain

variable {chain : Chain} {plugin : Plugin}

/-- The chain after a call; a registration that fails leaves it as it is. -/
def apply (chain : Chain) : Call → Chain
  | .register plugin => (chain.register plugin).toOption.getD chain
  | .clear => empty

/-- The chain after a history of calls. -/
def ofCalls (calls : List Call) : Chain :=
  calls.foldl apply empty

theorem ofCalls_concat (calls : List Call) (call : Call) :
    ofCalls (calls ++ [call]) = (ofCalls calls).apply call := by
  rw [ofCalls, List.foldl_append, List.foldl_cons, List.foldl_nil, ofCalls]

/-- The chain with more plugins and their handlers behind its own. -/
def extend (chain : Chain) (plugins : List Plugin) : Chain :=
  ⟨chain.plugins ++ plugins.map Plugin.name,
    chain.resolveHandlers ++ plugins.flatMap Plugin.resolveHandlers,
    chain.loadHandlers ++ plugins.flatMap Plugin.loadHandlers⟩

theorem extend_nil (chain : Chain) : chain.extend [] = chain := by
  simp [extend]

theorem extend_extend (chain : Chain) (first second : List Plugin) :
    (chain.extend first).extend second = chain.extend (first ++ second) := by
  simp [extend]

theorem register_eq_error_iff {error : PluginError} :
    chain.register plugin = .error error ↔
      ∃ cause, plugin.setup .empty = .error cause ∧
        error = ⟨plugin.name, .setup, none, cause⟩ := by
  rw [register]
  cases plugin.setup .empty with
  | error cause => simp [eq_comm]
  | ok registration => simp

theorem register_eq_ok_iff {next : Chain} :
    chain.register plugin = .ok next ↔ plugin.succeeds = true ∧ next = chain.extend [plugin] := by
  rw [register, Plugin.succeeds]
  cases setup : plugin.setup .empty with
  | error cause => simp [Except.isOk, Except.toBool]
  | ok registration =>
      have registers : plugin.registration = registration := by
        rw [Plugin.registration, setup, Except.toOption, Option.getD_some]
      simp [extend, Except.isOk, Except.toBool, Plugin.resolveHandlers, Plugin.loadHandlers,
        registers, eq_comm]

/-- A registration whose setup fails leaves a chain as it is. -/
theorem apply_register_of_error {error : PluginError}
    (failed : chain.register plugin = .error error) : chain.apply (.register plugin) = chain := by
  rw [apply, failed]
  rfl

theorem apply_register (chain : Chain) (plugin : Plugin) :
    chain.apply (.register plugin) = chain.extend ([plugin].filter Plugin.succeeds) := by
  cases registered : chain.register plugin with
  | error error =>
      obtain ⟨cause, setup, _⟩ := register_eq_error_iff.mp registered
      have fails : ¬ plugin.succeeds = true := by
        rw [Plugin.succeeds, setup]
        exact Bool.false_ne_true
      rw [apply_register_of_error registered, List.filter_cons_of_neg fails, List.filter_nil,
        extend_nil]
  | ok next =>
      obtain ⟨succeeds, rfl⟩ := register_eq_ok_iff.mp registered
      rw [apply, registered, List.filter_cons_of_pos succeeds]
      rfl

/-- Plugins whose setups succeed are registered in order. -/
theorem foldl_register {plugins : List Plugin}
    (succeed : ∀ plugin ∈ plugins, plugin.succeeds = true) (chain : Chain) :
    (plugins.map Call.register).foldl apply chain = chain.extend plugins := by
  induction plugins generalizing chain with
  | nil => exact (extend_nil chain).symm
  | cons plugin plugins ih =>
      have first : plugin.succeeds = true := succeed plugin (List.mem_cons_self ..)
      rw [List.map_cons, List.foldl_cons, apply_register, List.filter_cons_of_pos first,
        List.filter_nil, ih fun later member => succeed later (List.mem_cons_of_mem _ member),
        extend_extend]
      rfl

/-- After any history, a chain holds the standing plugins and no others. -/
theorem ofCalls_eq (calls : List Call) : ofCalls calls = empty.extend (Call.standing calls) := by
  induction calls using List.reverseRecOn with
  | nil => rfl
  | append_singleton calls call ih =>
      rw [ofCalls_concat, ih]
      cases call with
      | register plugin =>
          rw [apply_register, extend_extend, Call.standing_concat_register]
      | clear =>
          rw [Call.standing_concat_clear, extend_nil]
          rfl

/-- What a chain holds after a history of calls, and how it registers plugins and answers
requests. -/
structure Serves (calls : List Call) (chain : Chain) : Prop where
  plugins : chain.plugins = (Call.standing calls).map Plugin.name
  resolveHandlers : chain.resolveHandlers = (Call.standing calls).flatMap Plugin.resolveHandlers
  loadHandlers : chain.loadHandlers = (Call.standing calls).flatMap Plugin.loadHandlers
  /-- Each plugin went through a setup, and its handlers are in the order of that. -/
  setup : ∀ plugin ∈ Call.standing calls, (∃ steps, plugin.Contributes steps) ∧
    ∀ steps, plugin.Contributes steps →
      plugin.resolveHandlers = steps.filterMap (Contribution.resolveHandler? plugin.name) ∧
        plugin.loadHandlers = steps.filterMap (Contribution.loadHandler? plugin.name)
  /-- A registration fails if and only if the setup does. -/
  fails : ∀ plugin error, chain.register plugin = .error error ↔
    ∃ cause, plugin.setup .empty = .error cause ∧ error = ⟨plugin.name, .setup, none, cause⟩
  unchanged : ∀ plugin error, chain.register plugin = .error error →
    chain.apply (.register plugin) = chain
  resolve : ∀ request session outcome, chain.resolve request session = outcome ↔
    Offers .resolve request.path request
      (seeing request.path request.space chain.resolveHandlers) session outcome
  load : ∀ request session outcome, chain.load request session = outcome ↔
    Offers .load request.path request
      (seeing request.path request.space chain.loadHandlers) session outcome

/-- After any history of calls, a chain holds the handlers of the plugins that were registered since
the last clearing with success, and a request calls those that see it up to the first that does not
pass it on. -/
theorem serves_ofCalls (calls : List Call) : (ofCalls calls).Serves calls where
  plugins := by rw [ofCalls_eq]; rfl
  resolveHandlers := by rw [ofCalls_eq]; rfl
  loadHandlers := by rw [ofCalls_eq]; rfl
  setup := by
    intro plugin member
    have succeeds : plugin.succeeds = true := (List.mem_filter.mp member).2
    exact ⟨Plugin.exists_contributes succeeds, fun _ contributes => contributes.handlers⟩
  fails := fun _ _ => register_eq_error_iff
  unchanged := fun _ _ => apply_register_of_error
  resolve := fun _ _ _ => offer_eq_iff_offers
  load := fun _ _ _ => offer_eq_iff_offers

/-- Neither what was cleared nor a failed setup leaves anything behind. -/
example : (ofCalls [.register (External.plugin ["old"]), .clear,
    .register ⟨"broken", fun _ => .error "no setup"⟩,
    .register (External.plugin ["new"])]).plugins = ["external"] := rfl

end Chain

end ModuleGraph.Hook
