/-
This file shows that a map finds an entry under its key as it is written, from every importer in the
directory of the map: keys and specifiers have the same normal form there.
-/

import ModuleGraph.Proofs.ImportMap.Forms

namespace ModuleGraph.ImportMap

section Forms

/-- A specifier and a key have the same normal form if the importer is in the directory that the
key is seen from. -/
theorem canonicalSpecifier_normalize (specifier referrer : String) :
    canonicalSpecifier specifier (Path.normalize referrer) =
      (Base.directory (Path.directory referrer)).normalize specifier := by
  obtain ⟨error, failed⟩ := Url.exists_parse_normalize referrer
  unfold canonicalSpecifier Base.normalize
  cases Url.canonical? specifier with
  | some text => rfl
  | none =>
      dsimp only
      rw [failed, Base.join, Path.resolve_eq_joinDirectory, Path.directory_normalize]

/-- In a map for a directory an importer is known by the normal form of its path. -/
theorem canonicalReferrer_of_directory {map : ImportMap} {here referrer : String}
    (virtual : map.base = .directory here) (bare : Url.canonical? referrer = none) :
    map.canonicalReferrer referrer = Path.normalize referrer :=
  referrerForm_iff.mp (.path (Url.canonical?_eq_none_iff.mp bare) virtual)

end Forms

section Keys

variable {base : Base} {key written : String} {before after : List (String × Json)}

/-- A text makes an entry unless its key is that of a text before it. -/
theorem mem_entriesOf (first : ∀ other text, (other, .string text) ∈ before →
    base.normalize other ≠ base.normalize key) :
    (base.normalize key, readTarget base written) ∈
      entriesOf base (before ++ (key, .string written) :: after) := by
  rw [entriesOf, List.filterMap_append, List.filterMap_cons_some (entryOf_text key written)]
  refine mem_firsts_of_split List.not_mem_nil ?_
  intro made member
  obtain ⟨⟨other, value⟩, early, read⟩ := List.mem_filterMap.mp member
  cases value with
  | string text =>
      obtain rfl := Option.some.inj read
      exact first other text early
  | _ => cases read

/-- An entry under the specifier itself gives its target, or blocks the specifier. -/
theorem gives_readTarget (specifier normal : String) :
    Gives specifier normal (normal, readTarget base written)
      (if written.isEmpty then .error (.blocked specifier)
        else .ok (some (base.normalize written))) := by
  rw [readTarget]
  split
  · exact .blocked normal
  · exact .exact _

/-- A document with a member in its imports and no scope is readable. -/
theorem readable_of_listed {document : Json} {value : Json}
    (unscoped : objectField document "scopes" = .ok [])
    (listed : objectField document "imports" = .ok (before ++ (key, value) :: after)) :
    Readable document := by
  obtain ⟨scopes, empty⟩ := objectField_eq_ok_iff.mp unscoped
  obtain ⟨imports, members⟩ := objectField_eq_ok_iff.mp listed
  refine ⟨?_, imports, scopes, by simp [empty]⟩
  cases document with
  | object held => exact ⟨held, rfl⟩
  | _ => simp [fieldMembers, Json.members] at members

/-- The entry of a text is found under its key as it is written, wherever the importer is in the
directory of the map. -/
theorem resolve_of_listed {document : Json} {place here : String}
    (virtual : Base.parse place = .directory here)
    (unscoped : objectField document "scopes" = .ok [])
    (listed : objectField document "imports" = .ok (before ++ (key, .string written) :: after))
    (first : ∀ other text, (other, .string text) ∈ before →
      (Base.directory here).normalize other ≠ (Base.directory here).normalize key) :
    ∃ map, ofJson document place = .ok map ∧ ∀ referrer, Url.canonical? referrer = none →
      Path.directory referrer = here → map.resolve key referrer =
        if written.isEmpty then .error (.blocked key)
        else .ok (some ((Base.directory here).normalize written)) := by
  have parsed : ofJson document place = .ok (mapOf (.directory here) document) := by
    rw [ofJson_eq_ok_iff, virtual]
    exact ⟨readable_of_listed unscoped listed, rfl⟩
  obtain ⟨-, members⟩ := objectField_eq_ok_iff.mp listed
  obtain ⟨-, empty⟩ := objectField_eq_ok_iff.mp unscoped
  have held : ((Base.directory here).normalize key, readTarget (.directory here) written) ∈
      (mapOf (.directory here) document).imports := by
    rw [mapOf, members]
    exact (sortByLength_perm Prod.fst _).mem_iff.mpr (mem_entriesOf first)
  have bareScopes : ∀ scope, scope ∉ (mapOf (.directory here) document).scopes := by
    intro scope member
    rw [mapOf, empty] at member
    exact List.not_mem_nil ((sortByLength_perm Scope.start []).mem_iff.mp member)
  refine ⟨_, parsed, fun referrer bare inside => ?_⟩
  refine resolve_of_rule parsed ?_
  rw [Rule, canonicalReferrer_of_directory rfl bare, canonicalSpecifier_normalize, inside]
  refine .decided (.imports ?_ ⟨_, held, .inl rfl⟩) (.exact held) (gives_readTarget key _)
  exact fun scope member => absurd member (bareScopes scope)

/-- A key with dots and slashes to spare, and a key that is blocked. -/
def crooked : Json :=
  .object [("imports", .object
    [("pkg", .string ""), ("./lib/../x//", .string "./vendor/"), ("./x/", .string "/x.js")])]

/-- The crooked key stands in front of the straight one, and is found from a crooked path. -/
theorem crooked_resolve :
    Base.parse "/app/map.json" = .directory "/app" ∧
      objectField crooked "scopes" = .ok [] ∧
      Url.canonical? "app/.//main.js" = none ∧ Path.directory "app/.//main.js" = "/app" ∧
      ∃ map, ofJson crooked "/app/map.json" = .ok map ∧
        map.resolve "./lib/../x//" "app/.//main.js" = .ok (some "/app/vendor/") := by
  have virtual : Base.parse "/app/map.json" = .directory "/app" := by rfl
  have bare : Url.canonical? "app/.//main.js" = none := by rfl
  have inside : Path.directory "app/.//main.js" = "/app" := by decide
  have listed : objectField crooked "imports" = .ok ([("pkg", .string "")] ++
      ("./lib/../x//", .string "./vendor/") :: [("./x/", .string "/x.js")]) := rfl
  have first : ∀ other text, (other, Json.string text) ∈ [("pkg", Json.string "")] →
      (Base.directory "/app").normalize other ≠
        (Base.directory "/app").normalize "./lib/../x//" := by
    intro other text member
    cases List.mem_singleton.mp member
    decide
  obtain ⟨map, parsed, found⟩ := resolve_of_listed virtual rfl listed first
  exact ⟨virtual, rfl, bare, inside, map, parsed, found _ bare inside⟩

end Keys

end ModuleGraph.ImportMap
