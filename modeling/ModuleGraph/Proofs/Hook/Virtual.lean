/-
This file shows that virtual modules are addressed by their ids, as long as an id does not begin
like a specifier itself.
-/

import ModuleGraph.Proofs.Hook.Registry
import ModuleGraph.Proofs.Text

namespace ModuleGraph.Hook.Virtual

section Ids

/-- An id that does not begin with the scheme. -/
def IsPlain (id : String) : Prop :=
  Text.startsWith id scheme = false

instance (id : String) : Decidable (IsPlain id) :=
  inferInstanceAs (Decidable (_ = _))

theorem dropScheme_append (text : List Char) :
    dropScheme (scheme.toList ++ text) = dropScheme text :=
  rfl

/-- No scheme is left in front. -/
theorem isPrefixOf_dropScheme (text : List Char) :
    scheme.toList.isPrefixOf (dropScheme text) = false := by
  fun_induction dropScheme text with
  | case1 rest ih => exact ih
  | case2 text other =>
      rw [← Bool.not_eq_true, List.isPrefixOf_iff_prefix]
      rintro ⟨rest, whole⟩
      exact other rest whole.symm

theorem dropScheme_of_not_prefix {text : List Char}
    (plain : scheme.toList.isPrefixOf text = false) : dropScheme text = text := by
  fun_cases dropScheme text with
  | case1 rest =>
      have begins : scheme.toList <+: scheme.toList ++ rest := List.prefix_append _ _
      rw [← List.isPrefixOf_iff_prefix] at begins
      exact absurd (plain.symm.trans begins) Bool.false_ne_true
  | case2 => rfl

/-- The scheme in front of a plain id leads to that id. -/
theorem idOf_scheme_append {id : String} (plain : IsPlain id) : idOf (scheme ++ id) = id := by
  rw [idOf, String.toList_append, dropScheme_append, dropScheme_of_not_prefix plain,
    String.ofList_toList]

/-- Every specifier names a plain id. -/
theorem isPlain_idOf (specifier : String) : IsPlain (idOf specifier) := by
  rw [IsPlain, Text.startsWith, idOf, String.toList_ofList]
  exact isPrefixOf_dropScheme specifier.toList

end Ids

section Additions

/-- A module that is added under an id, with a loader if one is given. -/
structure Addition where
  id : String
  code : String
  loader : Option ContentKind

/-- The modules that additions leave, one made after the other. -/
def ofAdditions (additions : List Addition) : Modules :=
  additions.foldl (fun modules addition => add modules addition.id addition.code addition.loader) ∅

/-- The last addition under an id. -/
def last? (additions : List Addition) (id : String) : Option Addition :=
  additions.reverse.find? fun addition => addition.id == id

def Addition.answer (addition : Addition) : LoadAnswer :=
  ⟨.text addition.code, some (addition.loader.getD (ContentKind.ofPath addition.id))⟩

theorem id_of_last? {additions : List Addition} {id : String} {addition : Addition}
    (last : last? additions id = some addition) : addition.id = id :=
  eq_of_beq (List.find?_some last :)

theorem isSome_last?_iff {additions : List Addition} {id : String} :
    (last? additions id).isSome = true ↔ id ∈ additions.map Addition.id := by
  simp [last?]

/-- The last addition under an id decides. -/
theorem getElem?_ofAdditions (additions : List Addition) (id : String) :
    (ofAdditions additions)[id]? =
      (last? additions id).map fun addition => ⟨addition.code, addition.loader⟩ := by
  induction additions using List.reverseRecOn with
  | nil => exact Std.TreeMap.getElem?_emptyc
  | append_singleton additions addition ih =>
      rw [ofAdditions, List.foldl_append, List.foldl_cons, List.foldl_nil, add,
        Std.TreeMap.getElem?_insert, last?, List.reverse_append, List.reverse_singleton,
        List.singleton_append, List.find?_cons]
      by_cases same : addition.id = id
      · simp [same]
      · have different : compare addition.id id ≠ .eq := fun equal =>
          same (Std.LawfulEqCmp.eq_of_compare equal)
        rw [if_neg different, beq_false_of_ne same]
        exact ih

theorem mem_ofAdditions_iff {additions : List Addition} {id : String} :
    id ∈ ofAdditions additions ↔ id ∈ additions.map Addition.id := by
  rw [Std.TreeMap.mem_iff_isSome_getElem?, getElem?_ofAdditions, Option.isSome_map,
    isSome_last?_iff]

end Additions

section Alone

/-- The plugin for virtual modules and no other. -/
def alone (modules : Modules) : Chain :=
  Chain.ofCalls [.register (plugin modules)]

/-- A specifier is answered if it begins with the scheme and names a module. -/
theorem resolve_alone (modules : Modules) (request : ResolveRequest) (session : Session) :
    (alone modules).resolve request session =
      (.ok (if Text.startsWith request.path scheme = true ∧ idOf request.path ∈ modules then
        some ⟨idOf request.path, some space, false⟩ else none), session) := by
  have handlers : (alone modules).resolveHandlers =
      [⟨"virtual", Filter.startingWith [scheme], resolve modules⟩] := rfl
  have accepts : (Filter.startingWith [scheme]).accepts request.path request.space =
      Text.startsWith request.path scheme := by simp [Filter.accepts, Filter.startingWith]
  rw [Chain.resolve, handlers, Chain.offer, accepts]
  by_cases begins : Text.startsWith request.path scheme = true
  · by_cases held : idOf request.path ∈ modules
    · simp [begins, held, resolve]
    · simp [begins, held, resolve, Chain.offer]
  · simp [begins, Chain.offer]

/-- A module is loaded as it was last added. -/
theorem load_alone (additions : List Addition) (id : String) (session : Session) :
    (alone (ofAdditions additions)).load ⟨id, space⟩ session =
      (.ok ((last? additions id).map Addition.answer), session) := by
  have handlers : (alone (ofAdditions additions)).loadHandlers =
      [⟨"virtual", Filter.inSpace space, load (ofAdditions additions)⟩] := rfl
  have accepts : (Filter.inSpace space).accepts id space = true := rfl
  have entry := getElem?_ofAdditions additions id
  rw [Chain.load, handlers, Chain.offer, if_pos accepts]
  cases last : last? additions id with
  | none => simp [load, entry, last, Chain.offer]
  | some addition => simp [load, entry, last, Addition.answer, id_of_last? last]

/-- What the plugin for virtual modules answers after some additions. -/
structure Addresses (additions : List Addition) (chain : Chain) : Prop where
  /-- The scheme with an id leads to that id if it was added, and is passed on otherwise. -/
  resolve : ∀ id, IsPlain id → ∀ request session, request.path = scheme ++ id →
    chain.resolve request session =
      (.ok (if id ∈ additions.map Addition.id then some ⟨id, some space, false⟩ else none), session)
  /-- Different ids have different answers. -/
  apart : ∀ first second, IsPlain first → IsPlain second →
    ∀ request other session later answer, request.path = scheme ++ first →
      other.path = scheme ++ second → (chain.resolve request session).1 = .ok (some answer) →
        (chain.resolve other later).1 = .ok (some answer) → first = second
  /-- An id that begins with the scheme is never answered. -/
  plain : ∀ request session answer, (chain.resolve request session).1 = .ok (some answer) →
    IsPlain answer.path
  /-- The last addition under an id is loaded, whatever the id. -/
  load : ∀ id session, chain.load ⟨id, space⟩ session =
    (.ok ((last? additions id).map Addition.answer), session)

theorem resolve_scheme_append (additions : List Addition) {id : String} (plain : IsPlain id)
    {request : ResolveRequest} (written : request.path = scheme ++ id) (session : Session) :
    (alone (ofAdditions additions)).resolve request session =
      (.ok (if id ∈ additions.map Addition.id then some ⟨id, some space, false⟩ else none),
        session) := by
  have begins : Text.startsWith request.path scheme = true :=
    Text.startsWith_iff.mpr ⟨id, written⟩
  rw [resolve_alone, begins, written, idOf_scheme_append plain]
  simp only [mem_ofAdditions_iff, true_and]

/-- An answer leads to the id that the specifier names. -/
theorem path_of_resolve_alone {modules : Modules} {request : ResolveRequest} {session : Session}
    {answer : ResolveAnswer}
    (answered : ((alone modules).resolve request session).1 = .ok (some answer)) :
    answer.path = idOf request.path := by
  rw [resolve_alone] at answered
  split at answered
  · cases answered
    rfl
  · cases answered

/-- After any additions, virtual modules are addressed by those ids that do not begin with the
scheme themselves, and every id is loaded as it was last added. -/
theorem addresses_ofAdditions (additions : List Addition) :
    Addresses additions (alone (ofAdditions additions)) where
  resolve := fun _ plain _ session written => resolve_scheme_append additions plain written session
  apart := by
    intro first second plainFirst plainSecond request other session later answer writtenFirst
      writtenSecond answeredFirst answeredSecond
    have pathFirst := path_of_resolve_alone answeredFirst
    have pathSecond := path_of_resolve_alone answeredSecond
    rw [writtenFirst, idOf_scheme_append plainFirst] at pathFirst
    rw [writtenSecond, idOf_scheme_append plainSecond] at pathSecond
    exact pathFirst.symm.trans pathSecond
  plain := by
    intro request session answer answered
    rw [path_of_resolve_alone answered]
    exact isPlain_idOf request.path
  load := load_alone additions

/-- A module under an id that begins with the scheme. -/
def nested : List Addition :=
  [⟨"virtual:x", "export {}", none⟩]

/-- The specifier of such a module is passed on, although the module is there to be loaded. -/
theorem nested_passed_on :
    "virtual:x" ∈ nested.map Addition.id ∧ ¬ IsPlain "virtual:x" ∧
      ((alone (ofAdditions nested)).resolve
        ⟨scheme ++ "virtual:x", none, fileSpace, .importStatement⟩ Session.start).1 = .ok none ∧
      ((alone (ofAdditions nested)).load ⟨"virtual:x", space⟩ Session.start).1 =
        .ok (some ⟨.text "export {}", some .script⟩) := by
  decide +kernel

end Alone

end ModuleGraph.Hook.Virtual
