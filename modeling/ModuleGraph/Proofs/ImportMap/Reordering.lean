/-
This file shows that the order of the members of an import map does not matter, as long as no two
keys of a table and no two scopes have the same normal form.
-/

import ModuleGraph.Proofs.ImportMap.Rule
import Mathlib.Data.List.Forall2

namespace ModuleGraph

/-- Two values are the same but for the order of their members. -/
inductive Json.Reordered : Json → Json → Prop
  | same (value : Json) : Reordered value value
  | object {first second : List (String × Json)} (perm : first.Perm second) :
      Reordered (.object first) (.object second)

namespace ImportMap

section Documents

/-- Two members have the same name, and values that are the same but for their order. -/
def SameMember (early late : String × Json) : Prop :=
  early.1 = late.1 ∧ early.2.Reordered late.2

/-- Two documents differ in the order of the imports, of the scopes and of the members of each
scope, and in nothing else that a map is read from. -/
structure Rearranged (first second : Json) : Prop where
  imports : ∃ early late, objectField first "imports" = .ok early ∧
    objectField second "imports" = .ok late ∧ early.Perm late
  scopes : ∃ early middle late, objectField first "scopes" = .ok early ∧
    objectField second "scopes" = .ok late ∧ early.Perm middle ∧
      List.Forall₂ SameMember middle late

/-- No two keys that have a text for a value are the same in normal form. -/
def KeysApart (base : Base) (members : List (String × Json)) : Prop :=
  members.Pairwise fun first second => first.2.string?.isSome → second.2.string?.isSome →
    base.normalize first.1 ≠ base.normalize second.1

/-- Neither two keys of one table nor two scopes of a document are the same in normal form. -/
structure Collisionless (base : Base) (document : Json) : Prop where
  imports : ∀ members, objectField document "imports" = .ok members → KeysApart base members
  scopes : ∀ members, objectField document "scopes" = .ok members →
    (members.map fun member => base.normalizeScope member.1).Nodup
  tables : ∀ members, objectField document "scopes" = .ok members →
    ∀ written table, (written, .object table) ∈ members → KeysApart base table

end Documents

section Tables

variable {base : Base}

/-- Members whose keys are apart stand for entries whose keys are. -/
theorem KeysApart.nodup {members : List (String × Json)} (apart : KeysApart base members) :
    ((members.filterMap (entryOf base)).map Prod.fst).Nodup := by
  rw [List.Nodup, List.pairwise_map, List.pairwise_filterMap]
  refine apart.imp fun {first second} differ entry made other madeOther => ?_
  obtain ⟨_, textual, rfl⟩ := Option.map_eq_some_iff.mp made
  obtain ⟨_, textualOther, rfl⟩ := Option.map_eq_some_iff.mp madeOther
  exact differ (by simp [textual]) (by simp [textualOther])

theorem KeysApart.of_perm {first second : List (String × Json)} (apart : KeysApart base first)
    (perm : first.Perm second) : KeysApart base second :=
  perm.pairwise apart fun differ textual other => (differ other textual).symm

/-- Members in another order make up the same entries. -/
theorem KeysApart.entriesOf_perm {first second : List (String × Json)}
    (apart : KeysApart base first) (perm : first.Perm second) :
    (entriesOf base first).Perm (entriesOf base second) := by
  rw [entriesOf, entriesOf, firsts_eq_self apart.nodup, firsts_eq_self (apart.of_perm perm).nodup]
  exact perm.filterMap _

end Tables

section Scopes

variable {base : Base}

/-- Two scopes have the same start and the same entries. -/
def Scope.Alike (first second : Scope) : Prop :=
  first.start = second.start ∧ first.table.Perm second.table

theorem exists_mem_of_forall₂ {α β : Type} {relation : α → β → Prop} {first : List α}
    {second : List β} (related : List.Forall₂ relation first second) {entry : α}
    (member : entry ∈ first) : ∃ other ∈ second, relation entry other := by
  induction related with
  | nil => exact absurd member List.not_mem_nil
  | cons head _ ih =>
      rcases List.mem_cons.mp member with rfl | member
      · exact ⟨_, List.mem_cons_self .., head⟩
      · obtain ⟨other, held, tail⟩ := ih member
        exact ⟨other, List.mem_cons_of_mem _ held, tail⟩

/-- Members that are the same but for their order stand for scopes with the same entries. -/
theorem SameMember.alike {early late : String × Json}
    (apart : ∀ table, early.2 = .object table → KeysApart base table)
    (same : SameMember early late) : (scopeOf base early).Alike (scopeOf base late) := by
  rcases early with ⟨written, value⟩
  rcases late with ⟨_, other⟩
  obtain ⟨rfl, reordered⟩ := same
  refine ⟨rfl, sortByLength_perm_of_perm Prod.fst ?_⟩
  cases reordered with
  | same => exact .refl _
  | object perm => exact (apart _ rfl).entriesOf_perm perm

/-- Members under the same names stand for scopes with the same starts. -/
theorem starts_eq_of_members {middle late : List (String × Json)}
    (members : List.Forall₂ SameMember middle late) :
    middle.map (startOf base) = late.map (startOf base) := by
  induction members with
  | nil => rfl
  | cons same _ ih => rw [List.map_cons, List.map_cons, ih, startOf, startOf, same.1]

/-- Reordered documents have the same scopes. -/
theorem keptScopes_alike {early middle late : List (String × Json)} (perm : early.Perm middle)
    (members : List.Forall₂ SameMember middle late) (apart : (early.map (startOf base)).Nodup)
    (tables : ∀ written table, (written, .object table) ∈ early → KeysApart base table) :
    (∀ scope ∈ (keptScopes base early).map (scopeOf base),
      ∃ other ∈ (keptScopes base late).map (scopeOf base), scope.Alike other) ∧
      ∀ other ∈ (keptScopes base late).map (scopeOf base),
        ∃ scope ∈ (keptScopes base early).map (scopeOf base), scope.Alike other := by
  have apartLate : (late.map (startOf base)).Nodup := by
    rw [← starts_eq_of_members members]
    exact (perm.map _).nodup_iff.mp apart
  rw [keptScopes, keptScopes, firsts_eq_self apart, firsts_eq_self apartLate]
  have alike {member other : String × Json} (held : member ∈ early)
      (same : SameMember member other) : (scopeOf base member).Alike (scopeOf base other) :=
    same.alike fun table value => tables member.1 table (value ▸ held)
  constructor
  · intro scope listed
    obtain ⟨member, held, rfl⟩ := List.mem_map.mp listed
    obtain ⟨other, present, same⟩ := exists_mem_of_forall₂ members (perm.mem_iff.mp held)
    exact ⟨_, List.mem_map_of_mem present, alike held same⟩
  · intro other listed
    obtain ⟨member, held, rfl⟩ := List.mem_map.mp listed
    obtain ⟨early, present, same⟩ := exists_mem_of_forall₂ members.flip held
    have present := perm.mem_iff.mpr present
    exact ⟨_, List.mem_map_of_mem present, alike present same⟩

end Scopes

section Maps

/-- Two maps have the same base and the same entries. -/
structure Alike (first second : ImportMap) : Prop where
  base : first.base = second.base
  imports : first.imports.Perm second.imports
  scopes : ∀ scope ∈ first.scopes, ∃ other ∈ second.scopes, scope.Alike other
  others : ∀ other ∈ second.scopes, ∃ scope ∈ first.scopes, scope.Alike other

theorem Scope.Alike.matches_iff {first second : Scope} (alike : first.Alike second)
    (referrer : String) : first.Matches referrer ↔ second.Matches referrer := by
  rw [Scope.Matches, Scope.Matches, alike.1]

theorem Scope.Alike.symm {first second : Scope} (alike : first.Alike second) :
    second.Alike first :=
  ⟨alike.1.symm, alike.2.symm⟩

theorem Alike.symm {first second : ImportMap} (alike : first.Alike second) :
    second.Alike first where
  base := alike.base.symm
  imports := alike.imports.symm
  scopes := fun scope member =>
    let ⟨other, held, same⟩ := alike.others scope member
    ⟨other, held, same.symm⟩
  others := fun other member =>
    let ⟨scope, held, same⟩ := alike.scopes other member
    ⟨scope, held, same.symm⟩

/-- Whether a table applies does not depend on the order of its entries. -/
theorem Table.applies_iff_of_perm {first second : Table} (perm : first.Perm second)
    (normal : String) : first.Applies normal ↔ second.Applies normal := by
  simp only [Table.Applies, perm.mem_iff]

/-- The entry that decides does not depend on the order of the entries. -/
theorem Table.Decides.of_perm {first second : Table} {normal : String} {entry : String × Target}
    (decides : first.Decides normal entry) (perm : first.Perm second) :
    second.Decides normal entry := by
  cases decides with
  | exact member => exact .exact (perm.mem_iff.mp member)
  | longest absent member covers longest =>
      exact .longest (fun target held => absent target (perm.mem_iff.mpr held))
        (perm.mem_iff.mp member) covers fun other held => longest other (perm.mem_iff.mpr held)

variable {first second : ImportMap}

/-- The tables that decide in maps with the same entries have the same entries. -/
theorem DecidingTable.of_alike {referrer normal : String} {table : Table}
    (deciding : first.DecidingTable referrer normal table) (alike : first.Alike second) :
    ∃ other, second.DecidingTable referrer normal other ∧ table.Perm other := by
  cases deciding with
  | @scope scope member matching applies longest =>
      obtain ⟨other, held, same⟩ := alike.scopes scope member
      refine ⟨other.table, .scope held ((same.matches_iff referrer).mp matching)
        ((Table.applies_iff_of_perm same.2 normal).mp applies) ?_, same.2⟩
      intro rival present matchingRival appliesRival
      obtain ⟨earlier, listed, twin⟩ := alike.others rival present
      rw [← same.1, ← twin.1]
      exact longest earlier listed ((twin.matches_iff referrer).mpr matchingRival)
        ((Table.applies_iff_of_perm twin.2 normal).mpr appliesRival)
  | imports unscoped applies =>
      refine ⟨second.imports, .imports ?_
        ((Table.applies_iff_of_perm alike.imports normal).mp applies), alike.imports⟩
      intro other held matching applies
      obtain ⟨scope, member, same⟩ := alike.others other held
      exact unscoped scope member ((same.matches_iff referrer).mpr matching)
        ((Table.applies_iff_of_perm same.2 normal).mpr applies)

/-- Maps with the same entries follow the same rule. -/
theorem NormalRule.of_alike {specifier referrer normal : String}
    {result : Except ImportMapError (Option String)}
    (rule : first.NormalRule specifier referrer normal result) (alike : first.Alike second) :
    second.NormalRule specifier referrer normal result := by
  cases rule with
  | decided deciding decides gives =>
      obtain ⟨table, decidingOther, perm⟩ := deciding.of_alike alike
      exact .decided decidingOther (decides.of_perm perm) gives
  | undecided silent =>
      refine .undecided fun table deciding => ?_
      obtain ⟨other, decidingOther, _⟩ := deciding.of_alike alike.symm
      exact silent other decidingOther

/-- Ordered maps with the same entries resolve every specifier in the same way. -/
theorem resolve_eq_of_alike (alike : first.Alike second) (ordered : first.Ordered)
    (orderedOther : second.Ordered) (specifier referrer : String) :
    second.resolve specifier referrer = first.resolve specifier referrer := by
  have location : second.canonicalReferrer referrer = first.canonicalReferrer referrer := by
    rw [canonicalReferrer, canonicalReferrer, alike.base]
  obtain ⟨result, rule⟩ := exists_normalRule ordered specifier (first.canonicalReferrer referrer)
    (canonicalSpecifier specifier (first.canonicalReferrer referrer))
  rw [resolve, resolve, location, decide?_of_normalRule ordered rule,
    decide?_of_normalRule orderedOther (rule.of_alike alike)]

end Maps

section Rearranged

/-- Maps read from rearranged documents have the same entries. -/
theorem alike_of_rearranged {first second : Json} {written : String} {early late : ImportMap}
    (rearranged : Rearranged first second)
    (collisionless : Collisionless (Base.parse written) first)
    (parsedEarly : ofJson first written = .ok early)
    (parsedLate : ofJson second written = .ok late) : early.Alike late := by
  obtain ⟨-, rfl⟩ := ofJson_eq_ok_iff.mp parsedEarly
  obtain ⟨-, rfl⟩ := ofJson_eq_ok_iff.mp parsedLate
  obtain ⟨imports, importsLate, present, presentLate, perm⟩ := rearranged.imports
  obtain ⟨scopes, middle, scopesLate, listed, listedLate, permScopes, same⟩ := rearranged.scopes
  obtain ⟨-, rfl⟩ := objectField_eq_ok_iff.mp present
  obtain ⟨-, rfl⟩ := objectField_eq_ok_iff.mp presentLate
  obtain ⟨-, rfl⟩ := objectField_eq_ok_iff.mp listed
  obtain ⟨-, rfl⟩ := objectField_eq_ok_iff.mp listedLate
  obtain ⟨forward, backward⟩ := keptScopes_alike permScopes same
    (collisionless.scopes _ listed) (collisionless.tables _ listed)
  refine ⟨rfl, sortByLength_perm_of_perm Prod.fst
    ((collisionless.imports _ present).entriesOf_perm perm), ?_, ?_⟩
  · intro scope member
    obtain ⟨other, held, alike⟩ :=
      forward scope ((sortByLength_perm Scope.start _).mem_iff.mp member)
    exact ⟨other, (sortByLength_perm Scope.start _).mem_iff.mpr held, alike⟩
  · intro other member
    obtain ⟨scope, held, alike⟩ :=
      backward other ((sortByLength_perm Scope.start _).mem_iff.mp member)
    exact ⟨scope, (sortByLength_perm Scope.start _).mem_iff.mpr held, alike⟩

/-- The order of the members of a document does not matter unless keys or scopes collide. -/
theorem resolve_eq_of_rearranged {first second : Json} {written : String} {early late : ImportMap}
    (rearranged : Rearranged first second)
    (collisionless : Collisionless (Base.parse written) first)
    (parsedEarly : ofJson first written = .ok early)
    (parsedLate : ofJson second written = .ok late) (specifier referrer : String) :
    late.resolve specifier referrer = early.resolve specifier referrer :=
  resolve_eq_of_alike (alike_of_rearranged rearranged collisionless parsedEarly parsedLate)
    (ordered_of_ofJson parsedEarly) (ordered_of_ofJson parsedLate) specifier referrer

/-- A document with keys of the same length, as well as scopes. -/
def tied : Json :=
  .object [
    ("imports", .object [("a", .string "/a.js"), ("b", .string "/b.js")]),
    ("scopes", .object [
      ("/p/", .object [("x/", .string "/x/"), ("y/", .string "")]),
      ("/q/", .object [("a", .string "/q.js")])])]

/-- The same document in another order. -/
def untied : Json :=
  .object [
    ("imports", .object [("b", .string "/b.js"), ("a", .string "/a.js")]),
    ("scopes", .object [
      ("/q/", .object [("a", .string "/q.js")]),
      ("/p/", .object [("y/", .string ""), ("x/", .string "/x/")])])]

def tiedMap : ImportMap where
  base := .directory "/"
  imports := [("a", .address "/a.js"), ("b", .address "/b.js")]
  scopes := [⟨"/p/", [("x/", .address "/x/"), ("y/", .blocked)]⟩,
    ⟨"/q/", [("a", .address "/q.js")]⟩]
  warnings := []

def untiedMap : ImportMap where
  base := .directory "/"
  imports := [("b", .address "/b.js"), ("a", .address "/a.js")]
  scopes := [⟨"/q/", [("a", .address "/q.js")]⟩,
    ⟨"/p/", [("y/", .blocked), ("x/", .address "/x/")]⟩]
  warnings := []

theorem ofJson_tied : ofJson tied "/" = .ok tiedMap := by
  change Except.ok (ImportMap.mk (.directory "/")
    (sortByLength Prod.fst [("a", .address "/a.js"), ("b", .address "/b.js")])
    (sortByLength Scope.start [
      ⟨"/p/", sortByLength Prod.fst [("x/", .address "/x/"), ("y/", .blocked)]⟩,
      ⟨"/q/", sortByLength Prod.fst [("a", .address "/q.js")]⟩]) []) = _
  rw [sortByLength_pair_of_le (by decide), sortByLength_pair_of_le (by decide),
    sortByLength_singleton, sortByLength_pair_of_le (by decide)]
  rfl

theorem ofJson_untied : ofJson untied "/" = .ok untiedMap := by
  change Except.ok (ImportMap.mk (.directory "/")
    (sortByLength Prod.fst [("b", .address "/b.js"), ("a", .address "/a.js")])
    (sortByLength Scope.start [
      ⟨"/q/", sortByLength Prod.fst [("a", .address "/q.js")]⟩,
      ⟨"/p/", sortByLength Prod.fst [("y/", .blocked), ("x/", .address "/x/")]⟩]) []) = _
  rw [sortByLength_pair_of_le (by decide), sortByLength_singleton,
    sortByLength_pair_of_le (by decide), sortByLength_pair_of_le (by decide)]
  rfl

theorem rearranged_tied : Rearranged tied untied where
  imports := ⟨_, _, rfl, rfl, .swap ..⟩
  scopes := ⟨_, _, _, rfl, rfl, .swap .., .cons ⟨rfl, .same _⟩
    (.cons ⟨rfl, .object (.swap ..)⟩ .nil)⟩

theorem collisionless_tied : Collisionless (Base.parse "/") tied where
  imports := by
    intro members present
    cases present
    simp only [KeysApart, List.pairwise_pair]
    intro _ _
    decide
  scopes := by
    intro members present
    cases present
    decide
  tables := by
    intro members present written table member
    cases present
    rcases List.mem_pair.mp member with same | same <;> cases same
    · simp only [KeysApart, List.pairwise_pair]
      intro _ _
      decide
    · exact List.pairwise_singleton _ _

/-- The two scopes and the two keys that stand in another order do not matter. -/
theorem untied_resolve : Rearranged tied untied ∧ Collisionless (Base.parse "/") tied ∧
    ofJson tied "/" = .ok tiedMap ∧ ofJson untied "/" = .ok untiedMap ∧
    untiedMap.resolve "x/z.js" "/p/main.js" = tiedMap.resolve "x/z.js" "/p/main.js" :=
  ⟨rearranged_tied, collisionless_tied, ofJson_tied, ofJson_untied,
    resolve_eq_of_rearranged rearranged_tied collisionless_tied ofJson_tied ofJson_untied _ _⟩

end Rearranged

end ImportMap

end ModuleGraph
