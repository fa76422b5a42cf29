/-
This file shows what the targets of an import map look like: a URL is in normal form, and a rooted
path opens a directory if it is continued and the base is a directory.
-/

import ModuleGraph.Proofs.ImportMap.Rule
import ModuleGraph.Proofs.Url

namespace ModuleGraph.ImportMap

/-- A specifier continues the key of the entry that decides for it, and is rewritten to the target
of that entry with the same continuation. -/
structure Rewrites (map : ImportMap) (specifier referrer target rest : String) : Prop where
  entry : ∃ table key normal,
    normal = canonicalSpecifier specifier (map.canonicalReferrer referrer) ∧
    map.DecidingTable (map.canonicalReferrer referrer) normal table ∧
    table.Decides normal (key, .address target) ∧ normal = key ++ rest ∧ key ≠ normal
  resolved : map.resolve specifier referrer = .ok (some (target ++ rest))

/-- An address names a URL by itself, or as a place that the base is joined to. -/
inductive Base.Names (base : Base) (address : String) (url : Url) : Prop
  | absolute (parsed : Url.parse address = .ok url)
  | placed {value : Url} (held : base = .url value) (bare : Url.canonical? address = none)
      (placed : isPlaced address = true) (joined : value.join address = .ok url)

/-- The entry that decides for a specifier stands under the specifier itself, and its address names
the URL. -/
structure Lists (map : ImportMap) (specifier referrer : String) (url : Url) : Prop where
  entry : ∃ table address normal,
    normal = canonicalSpecifier specifier (map.canonicalReferrer referrer) ∧
    map.DecidingTable (map.canonicalReferrer referrer) normal table ∧
    (normal, .address (map.base.normalize address)) ∈ table ∧ map.base.Names address url

/-- The addresses of a table were written relative to a base. -/
def Table.IsRead (base : Base) (table : Table) : Prop :=
  ∀ key target, (key, .address target) ∈ table → ∃ written, target = base.normalize written

section Reading

variable {base : Base}

theorem isRead_entriesOf (members : List (String × Json)) :
    Table.IsRead base (sortByLength Prod.fst (entriesOf base members)) := by
  intro key target member
  have entry := mem_of_mem_firsts ((sortByLength_perm Prod.fst _).mem_iff.mp member)
  obtain ⟨_, -, made⟩ := List.mem_filterMap.mp entry
  obtain ⟨written, -, same⟩ := Option.map_eq_some_iff.mp made
  have same : (if written.isEmpty then Target.blocked else .address (base.normalize written)) =
      .address target := congrArg Prod.snd same
  split at same
  · cases same
  · exact ⟨written, (Target.address.inj same).symm⟩

theorem DecidingTable.isRead {document : Json} {written referrer normal : String} {map : ImportMap}
    {table : Table} (parsed : ofJson document written = .ok map)
    (deciding : map.DecidingTable referrer normal table) :
    table.IsRead (Base.parse written) := by
  obtain ⟨imports, scopes⟩ := forall_tables_of_ofJson isRead_entriesOf parsed
  cases deciding with
  | scope member => exact scopes _ member
  | imports => exact imports

end Reading

/-- The normal form of an address is that of the URL it names. -/
theorem Base.Names.normalize_eq {base : Base} {address : String} {url : Url}
    (names : base.Names address url) : base.normalize address = url.toText := by
  cases names with
  | absolute parsed => rw [normalize, Url.canonical?_of_parse parsed]
  | placed held bare placed joined =>
      rw [normalize, bare, if_pos placed, held, join, joined]

/-- A specifier that the map lists is rewritten to its URL in normal form. -/
theorem Lists.resolved {document : Json} {written specifier referrer : String} {map : ImportMap}
    {url : Url} (lists : map.Lists specifier referrer url)
    (parsed : ofJson document written = .ok map) :
    map.resolve specifier referrer = .ok (some url.toText) := by
  obtain ⟨table, address, normal, rfl, deciding, member, names⟩ := lists.entry
  rw [names.normalize_eq] at member
  exact resolve_of_rule parsed (.decided deciding (.exact member) (.exact url.toText))

/-- A base that is no URL is a directory. -/
theorem exists_directory_of_canonical? {written : String}
    (virtual : Url.canonical? written = none) : ∃ here, Base.parse written = .directory here := by
  unfold Base.parse
  cases parsed : Url.parse written with
  | ok url => exact absurd ⟨url, parsed⟩ (Url.canonical?_eq_none_iff.mp virtual)
  | error error =>
      dsimp only
      split
      · exact ⟨_, rfl⟩
      · exact ⟨_, rfl⟩

/-- A rooted address that ends in a slash opens a directory. -/
theorem exists_opening_of_normalize {here address front : String}
    (rooted : Path.isRooted ((Base.directory here).normalize address) = true)
    (closed : (Base.directory here).normalize address = front ++ "/") :
    ∃ path, (∀ segment ∈ path, Path.IsSegment segment) ∧
      (Base.directory here).normalize address = Path.opening path := by
  unfold Base.normalize at rooted closed ⊢
  cases canonical : Url.canonical? address with
  | some text =>
      simp only [canonical] at rooted
      rw [Url.isRooted_of_canonical? canonical] at rooted
      cases rooted
  | none =>
      simp only [canonical] at rooted closed ⊢
      by_cases placed : isPlaced address = true
      · obtain ⟨path, valid, joined⟩ := Path.exists_joinDirectory here address
        rw [if_pos placed, Base.join, joined] at closed ⊢
        exact ⟨path, valid, Path.keepSlash_render valid closed⟩
      · rw [if_neg placed] at rooted
        rw [isPlaced, rooted, Bool.or_true] at placed
        exact absurd rfl placed

namespace Rewrites

variable {document : Json} {written specifier referrer target rest : String} {map : ImportMap}

/-- A target that is continued ends in a slash. -/
theorem exists_eq_append_slash (ordered : map.Ordered)
    (rewrites : map.Rewrites specifier referrer target rest) : ∃ front, target = front ++ "/" := by
  obtain ⟨table, key, normal, rfl, deciding, decides, -, proper⟩ := rewrites.entry
  obtain ⟨result, gives⟩ := exists_gives specifier decides
  have resolved : result = .ok (some (target ++ rest)) :=
    (decide?_of_normalRule ordered (.decided deciding decides gives)).symm.trans rewrites.resolved
  cases gives with
  | exact => exact absurd rfl proper
  | continued => exact ⟨_, rfl⟩
  | slashless => cases resolved

/-- A rooted target that is continued opens a directory. -/
theorem exists_opening (rewrites : map.Rewrites specifier referrer target rest)
    (parsed : ofJson document written = .ok map) (virtual : Url.canonical? written = none)
    (rooted : Path.isRooted target = true) :
    ∃ path, (∀ segment ∈ path, Path.IsSegment segment) ∧ target = Path.opening path := by
  obtain ⟨front, closed⟩ := rewrites.exists_eq_append_slash (ordered_of_ofJson parsed)
  obtain ⟨table, key, normal, -, deciding, decides, -, -⟩ := rewrites.entry
  have member : (key, Target.address target) ∈ table := by
    cases decides with
    | exact member => exact member
    | longest _ member => exact member
  obtain ⟨address, rfl⟩ := deciding.isRead parsed key target member
  obtain ⟨here, directory⟩ := exists_directory_of_canonical? virtual
  rw [directory] at rooted closed ⊢
  exact exists_opening_of_normalize rooted closed

end Rewrites

end ModuleGraph.ImportMap
