/-
This file states which entry of an import map decides for a specifier, without regard to the order
of the entries, and shows that resolving follows this rule.
-/

import ModuleGraph.ImportMap.Resolve
import ModuleGraph.Proofs.ImportMap.Order

namespace ModuleGraph.ImportMap

namespace Table

/-- A key covers what continues it, provided that the key ends in a slash. -/
def Covers (key normal : String) : Prop :=
  (∃ front, key = front ++ "/") ∧ ∃ rest, normal = key ++ rest

/-- A table applies to what it holds as a key and to what one of its keys covers. -/
def Applies (table : Table) (normal : String) : Prop :=
  ∃ entry ∈ table, entry.1 = normal ∨ Covers entry.1 normal

/-- The entry under the specifier itself decides, or else the one under the longest key that
covers it. -/
inductive Decides (table : Table) (normal : String) : String × Target → Prop
  | exact {target : Target} (member : (normal, target) ∈ table) :
      Decides table normal (normal, target)
  | longest {key : String} {target : Target} (absent : ∀ target, (normal, target) ∉ table)
      (member : (key, target) ∈ table) (covers : Covers key normal)
      (longest : ∀ other ∈ table, Covers other.1 normal →
        other.1.utf8ByteSize ≤ key.utf8ByteSize) :
      Decides table normal (key, target)

end Table

/-- What the deciding entry gives. The target of a key that covers the specifier must end in a slash
as well, and is continued like the key. -/
inductive Gives (specifier normal : String) :
    String × Target → Except ImportMapError (Option String) → Prop
  | blocked (key : String) : Gives specifier normal (key, .blocked) (.error (.blocked specifier))
  | exact (target : String) : Gives specifier normal (normal, .address target) (.ok (some target))
  | continued {key front rest : String} (split : normal = key ++ rest) (proper : key ≠ normal) :
      Gives specifier normal (key, .address (front ++ "/")) (.ok (some (front ++ "/" ++ rest)))
  | slashless {key target : String} (proper : key ≠ normal)
      (missing : ¬ ∃ front, target = front ++ "/") :
      Gives specifier normal (key, .address target) (.error (.missingSlash key target))

/-- A scope matches the referrers that continue its start. -/
def Scope.Matches (scope : Scope) (referrer : String) : Prop :=
  ∃ rest, referrer = scope.start ++ rest

/-- The table that decides is that of the longest matching scope among those that apply, or else
the one at the top level. -/
inductive DecidingTable (map : ImportMap) (referrer normal : String) : Table → Prop
  | scope {scope : Scope} (member : scope ∈ map.scopes) (matching : scope.Matches referrer)
      (applies : scope.table.Applies normal)
      (longest : ∀ other ∈ map.scopes, other.Matches referrer → other.table.Applies normal →
        other.start.utf8ByteSize ≤ scope.start.utf8ByteSize) :
      DecidingTable map referrer normal scope.table
  | imports (unscoped : ∀ scope ∈ map.scopes, scope.Matches referrer →
        ¬ scope.table.Applies normal) (applies : map.imports.Applies normal) :
      DecidingTable map referrer normal map.imports

/-- The rule for a referrer and a specifier in normal form. -/
inductive NormalRule (map : ImportMap) (specifier referrer normal : String) :
    Except ImportMapError (Option String) → Prop
  | decided {table : Table} {entry : String × Target}
      {result : Except ImportMapError (Option String)}
      (deciding : map.DecidingTable referrer normal table) (decides : table.Decides normal entry)
      (gives : Gives specifier normal entry result) :
      NormalRule map specifier referrer normal result
  | undecided (silent : ∀ table, ¬ map.DecidingTable referrer normal table) :
      NormalRule map specifier referrer normal (.ok none)

/-- The rule of import maps. -/
def Rule (map : ImportMap) (specifier referrer : String)
    (result : Except ImportMapError (Option String)) : Prop :=
  map.NormalRule specifier (map.canonicalReferrer referrer)
    (canonicalSpecifier specifier (map.canonicalReferrer referrer)) result

namespace Table

theorem covers_iff {key normal : String} : covers key normal = true ↔ Covers key normal := by
  rw [covers, Bool.and_eq_true, Text.endsWith_iff, Text.startsWith_iff]
  rfl

/-- A table without an applicable key has no entry to look up. -/
theorem lookup_of_not_applies {table : Table} {normal : String}
    (silent : ¬ table.Applies normal) : table.lookup normal = .ok .noEntry := by
  have exactly : (table.find? fun entry => entry.1 == normal) = none := by
    rw [List.find?_eq_none]
    intro entry member equal
    exact silent ⟨entry, member, .inl (eq_of_beq equal)⟩
  have covering : (table.find? fun entry => covers entry.1 normal) = none := by
    rw [List.find?_eq_none]
    intro entry member covered
    exact silent ⟨entry, member, .inr (covers_iff.mp covered)⟩
  rw [lookup, exactly, covering]

/-- A table that applies has an entry that decides. -/
theorem exists_decides {table : Table} {normal : String} (order : LongestFirst Prod.fst table)
    (applies : table.Applies normal) : ∃ entry, table.Decides normal entry := by
  by_cases held : ∃ target, (normal, target) ∈ table
  · obtain ⟨target, member⟩ := held
    exact ⟨_, .exact member⟩
  · have absent : ∀ target, (normal, target) ∉ table := fun target member => held ⟨target, member⟩
    have covering : ∃ entry ∈ table, Covers entry.1 normal := by
      obtain ⟨⟨key, target⟩, member, same | covers⟩ := applies
      · cases same
        exact absurd member (absent target)
      · exact ⟨(key, target), member, covers⟩
    obtain ⟨⟨key, target⟩, member, covers, longest⟩ := order.exists_longest covering
    exact ⟨_, .longest absent member covers longest⟩

/-- The deciding entry is the one that the search for the key itself finds. -/
theorem find?_exact {table : Table} {normal : String} {target : Target}
    (order : LongestFirst Prod.fst table) (member : (normal, target) ∈ table) :
    (table.find? fun entry => entry.1 == normal) = some (normal, target) := by
  cases found : table.find? fun entry => entry.1 == normal with
  | none => simpa using List.find?_eq_none.mp found _ member
  | some entry =>
      have same : entry.1 = normal := by simpa using List.find?_some found
      rw [order.eq_of_text_eq (List.mem_of_find?_eq_some found) member same]

/-- The deciding entry is the first that covers the specifier. -/
theorem find?_longest {table : Table} {normal key : String} {target : Target}
    (order : LongestFirst Prod.fst table) (member : (key, target) ∈ table)
    (covers : Covers key normal) (longest : ∀ other ∈ table, Covers other.1 normal →
      other.1.utf8ByteSize ≤ key.utf8ByteSize) :
    (table.find? fun entry => Table.covers entry.1 normal) = some (key, target) := by
  obtain ⟨before, after, split, fails⟩ := order.split_of_longest normal
    (fun entry => Covers entry.1 normal)
    (fun other covered => Text.startsWith_iff.mpr covered.2) member covers longest
  refine List.find?_eq_some_iff_append.mpr ⟨covers_iff.mpr covers, before, after, split, ?_⟩
  intro other early
  simpa only [Bool.not_eq_true', ← Bool.not_eq_true, covers_iff] using fails other early

end Table

/-- The table in front decides if it has a deciding entry. -/
theorem decide?_of_decides {table : Table} {tables : List Table} {specifier normal : String}
    {entry : String × Target} {result : Except ImportMapError (Option String)}
    (order : LongestFirst Prod.fst table) (decides : table.Decides normal entry)
    (gives : Gives specifier normal entry result) :
    decide? specifier normal (table :: tables) = result := by
  cases decides with
  | exact member =>
      have found := Table.find?_exact order member
      cases gives with
      | blocked => simp only [decide?, Table.lookup, found]
      | exact => simp only [decide?, Table.lookup, found]
      | continued split proper => exact absurd rfl proper
      | slashless proper missing => exact absurd rfl proper
  | @longest key target absent member covers longest =>
      have unheld : (table.find? fun entry => entry.1 == normal) = none := by
        rw [List.find?_eq_none]
        rintro ⟨other, target⟩ memberOther equal
        cases eq_of_beq equal
        exact absent target memberOther
      have found := Table.find?_longest order member covers longest
      cases gives with
      | blocked => simp only [decide?, Table.lookup, unheld, found]
      | exact target => exact absurd member (absent _)
      | @continued _ front rest split proper =>
          have slash : Text.endsWith (front ++ "/") "/" = true := Text.endsWith_iff.mpr ⟨front, rfl⟩
          have dropped : Text.dropStart? normal key = some rest := by
            rw [split, Text.dropStart?_append]
          simp only [decide?, Table.lookup, unheld, found, slash, if_true, dropped,
            Option.getD_some]
      | @slashless _ target proper missing =>
          have slash : ¬ Text.endsWith target "/" = true := fun ends =>
            missing (Text.endsWith_iff.mp ends)
          simp only [decide?, Table.lookup, unheld, found, if_neg slash]

/-- Every deciding entry gives something. -/
theorem exists_gives {table : Table} {normal : String} {entry : String × Target}
    (specifier : String) (decides : table.Decides normal entry) :
    ∃ result, Gives specifier normal entry result := by
  obtain ⟨key, target⟩ := entry
  cases target with
  | blocked => exact ⟨_, .blocked key⟩
  | address target =>
      by_cases proper : key = normal
      · subst key
        exact ⟨_, .exact target⟩
      · by_cases slash : ∃ front, target = front ++ "/"
        · obtain ⟨front, rfl⟩ := slash
          cases decides with
          | exact member => exact absurd rfl proper
          | longest absent member covers longest =>
              obtain ⟨rest, split⟩ := covers.2
              exact ⟨_, .continued split proper⟩
        · exact ⟨_, .slashless proper slash⟩

/-- Tables that do not apply are passed over. -/
theorem decide?_append {before after : List Table} {specifier normal : String}
    (silent : ∀ table ∈ before, ¬ table.Applies normal) :
    decide? specifier normal (before ++ after) = decide? specifier normal after := by
  induction before with
  | nil => rfl
  | cons table before ih =>
      have here := Table.lookup_of_not_applies (silent table (List.mem_cons_self ..))
      rw [List.cons_append, decide?, here]
      exact ih fun other member => silent other (List.mem_cons_of_mem _ member)

/-- The scopes whose tables are tried are the matching ones. -/
theorem mem_matching {map : ImportMap} {referrer : String} {scope : Scope} :
    scope ∈ map.scopes.filter (fun scope => Text.startsWith referrer scope.start) ↔
      scope ∈ map.scopes ∧ scope.Matches referrer := by
  rw [List.mem_filter, Text.startsWith_iff]
  rfl

/-- The tables are tried up to the one that decides. -/
theorem tables_split {map : ImportMap} {referrer normal : String} {table : Table}
    (ordered : map.Ordered) (deciding : map.DecidingTable referrer normal table) :
    ∃ before after, map.tables referrer = before ++ table :: after ∧
      ∀ other ∈ before, ¬ other.Applies normal := by
  cases deciding with
  | @scope scope member matching applies longest =>
      obtain ⟨before, after, split, silent⟩ :=
        (ordered.scopes.filter fun scope => Text.startsWith referrer scope.start).split_of_longest
          referrer (fun other => other.Matches referrer ∧ other.table.Applies normal)
          (fun other passes => Text.startsWith_iff.mpr passes.1)
          (mem_matching.mpr ⟨member, matching⟩) ⟨matching, applies⟩
          (fun other memberOther passes =>
            longest other (mem_matching.mp memberOther).1 passes.1 passes.2)
      refine ⟨before.map Scope.table, after.map Scope.table ++ [map.imports], ?_, ?_⟩
      · rw [tables, split]
        simp
      · intro other early
        obtain ⟨tried, first, rfl⟩ := List.mem_map.mp early
        have facts := mem_matching.mp (split ▸ List.mem_append_left (scope :: after) first)
        exact fun applies => silent tried first ⟨facts.2, applies⟩
  | imports unscoped applies =>
      refine ⟨_, [], rfl, ?_⟩
      intro other early
      obtain ⟨scope, tried, rfl⟩ := List.mem_map.mp early
      have facts := mem_matching.mp tried
      exact unscoped scope facts.1 facts.2

/-- A table applies only if one decides. -/
theorem exists_deciding {map : ImportMap} {referrer normal : String} {table : Table}
    (ordered : map.Ordered) (member : table ∈ map.tables referrer)
    (applies : table.Applies normal) : ∃ table, map.DecidingTable referrer normal table := by
  by_cases held : ∃ scope ∈ map.scopes, scope.Matches referrer ∧ scope.table.Applies normal
  · obtain ⟨scope, member, ⟨matching, applies⟩, longest⟩ := ordered.scopes.exists_longest held
    exact ⟨_, .scope member matching applies fun other memberOther matchingOther appliesOther =>
      longest other memberOther ⟨matchingOther, appliesOther⟩⟩
  · have unscoped : ∀ scope ∈ map.scopes, scope.Matches referrer → ¬ scope.table.Applies normal :=
      fun scope member matching applies => held ⟨scope, member, matching, applies⟩
    rcases List.mem_append.mp member with early | last
    · obtain ⟨scope, tried, rfl⟩ := List.mem_map.mp early
      have facts := mem_matching.mp tried
      exact absurd applies (unscoped scope facts.1 facts.2)
    · obtain rfl := List.mem_singleton.mp last
      exact ⟨_, .imports unscoped applies⟩

theorem DecidingTable.longestFirst {map : ImportMap} {referrer normal : String} {table : Table}
    (ordered : map.Ordered) (deciding : map.DecidingTable referrer normal table) :
    LongestFirst Prod.fst table := by
  cases deciding with
  | scope member => exact ordered.tables _ member
  | imports => exact ordered.imports

theorem DecidingTable.applies {map : ImportMap} {referrer normal : String} {table : Table}
    (deciding : map.DecidingTable referrer normal table) : table.Applies normal := by
  cases deciding with
  | scope member matching applies => exact applies
  | imports unscoped applies => exact applies

/-- Trying the tables in order follows the rule. -/
theorem decide?_of_normalRule {map : ImportMap} {specifier referrer normal : String}
    {result : Except ImportMapError (Option String)} (ordered : map.Ordered)
    (rule : map.NormalRule specifier referrer normal result) :
    decide? specifier normal (map.tables referrer) = result := by
  cases rule with
  | decided deciding decides gives =>
      obtain ⟨before, after, split, silent⟩ := tables_split ordered deciding
      rw [split, decide?_append silent]
      exact decide?_of_decides (deciding.longestFirst ordered) decides gives
  | undecided undecided =>
      have silent : ∀ table ∈ map.tables referrer, ¬ table.Applies normal := by
        intro table member applies
        obtain ⟨deciding, decides⟩ := exists_deciding ordered member applies
        exact undecided deciding decides
      rw [← List.append_nil (map.tables referrer), decide?_append silent]
      rfl

/-- The rule settles every specifier. -/
theorem exists_normalRule {map : ImportMap} (ordered : map.Ordered)
    (specifier referrer normal : String) :
    ∃ result, map.NormalRule specifier referrer normal result := by
  by_cases decided : ∃ table, map.DecidingTable referrer normal table
  · obtain ⟨table, deciding⟩ := decided
    obtain ⟨entry, decides⟩ := Table.exists_decides (deciding.longestFirst ordered) deciding.applies
    obtain ⟨result, gives⟩ := exists_gives specifier decides
    exact ⟨result, .decided deciding decides gives⟩
  · exact ⟨_, .undecided fun table deciding => decided ⟨table, deciding⟩⟩

theorem resolve_of_rule {document : Json} {base specifier referrer : String} {map : ImportMap}
    {result : Except ImportMapError (Option String)} (parsed : ofJson document base = .ok map)
    (rule : map.Rule specifier referrer result) : map.resolve specifier referrer = result :=
  decide?_of_normalRule (ordered_of_ofJson parsed) rule

/-- Resolving gives what the rule says, and nothing else. -/
theorem resolve_eq_iff_rule {document : Json} {base : String} {map : ImportMap}
    (parsed : ofJson document base = .ok map) (specifier referrer : String)
    (result : Except ImportMapError (Option String)) :
    map.resolve specifier referrer = result ↔ map.Rule specifier referrer result := by
  have ordered := ordered_of_ofJson parsed
  constructor
  · intro resolved
    obtain ⟨decided, rule⟩ := exists_normalRule ordered specifier (map.canonicalReferrer referrer)
      (canonicalSpecifier specifier (map.canonicalReferrer referrer))
    have same : decided = result := (decide?_of_normalRule ordered rule).symm.trans resolved
    exact same ▸ rule
  · exact decide?_of_normalRule ordered

/-- A document with one scope inside another; the outer one blocks what the top level maps. -/
def nestedScopes : Json :=
  .object [
    ("imports", .object [("y", .string "/y.js"), ("x/", .string "/lib/x/")]),
    ("scopes", .object [
      ("/a/", .object [("x/z", .string "")]),
      ("/a/b/", .object [("y", .string "./y.js")])])]

def nestedScopesMap : ImportMap where
  base := .directory "/"
  imports := [("x/", .address "/lib/x/"), ("y", .address "/y.js")]
  scopes := [⟨"/a/b/", [("y", .address "/y.js")]⟩, ⟨"/a/", [("x/z", .blocked)]⟩]
  warnings := []

theorem ofJson_nestedScopes : ofJson nestedScopes "/" = .ok nestedScopesMap := by
  change Except.ok (ImportMap.mk (.directory "/")
    (sortByLength Prod.fst [("y", .address "/y.js"), ("x/", .address "/lib/x/")])
    (sortByLength Scope.start [⟨"/a/", sortByLength Prod.fst [("x/z", .blocked)]⟩,
      ⟨"/a/b/", sortByLength Prod.fst [("y", .address "/y.js")]⟩]) []) = _
  rw [sortByLength_pair (by decide), sortByLength_singleton, sortByLength_singleton,
    sortByLength_pair (by decide)]
  rfl

/-- The inner scope has no entry for the specifier, and the outer one blocks it. -/
theorem nestedScopes_blocked : ofJson nestedScopes "/" = .ok nestedScopesMap ∧
    nestedScopesMap.Rule "x/z" "/a/b/c.js" (.error (.blocked "x/z")) :=
  ⟨ofJson_nestedScopes, (resolve_eq_iff_rule ofJson_nestedScopes "x/z" "/a/b/c.js" _).mp rfl⟩

end ModuleGraph.ImportMap
