/-
This file says in which form an import map looks for a specifier and for its referrer: URLs are
written out, paths are normal, and what is written relative to a place is joined to that place.
-/

import ModuleGraph.Proofs.ImportMap.Rule
import ModuleGraph.Proofs.Url

namespace ModuleGraph.ImportMap

/-- An address joined to a URL, which leaves it as it is where that gives no URL. -/
inductive Joins (base : Url) (address : String) : String → Prop
  | joined {url : Url} (read : base.join address = .ok url) : Joins base address url.toText
  | unjoined {error : Url.ParseError} (failed : base.join address = .error error) :
      Joins base address address

/-- How a map knows a referrer: as a URL, or as a normal path that is seen from its base. -/
inductive ReferrerForm (map : ImportMap) (referrer : String) : String → Prop
  | url {url : Url} (parsed : Url.parse referrer = .ok url) :
      ReferrerForm map referrer url.toText
  | path {here : String} (other : ¬ Url.IsUrl referrer) (virtual : map.base = .directory here) :
      ReferrerForm map referrer (Path.normalize referrer)
  | joined {base : Url} {text : String} (other : ¬ Url.IsUrl referrer)
      (remote : map.base = .url base) (joins : Joins base (Path.normalize referrer) text) :
      ReferrerForm map referrer text

/-- An address that starts like one relative to a place. -/
def StartsAtPlace (address : String) : Prop :=
  ∃ rest, address = "./" ++ rest ∨ address = "../" ++ rest ∨ address = "/" ++ rest

/-- How a specifier is looked for on behalf of a referrer: as a URL, bare as it is, or as the place
that it names from the referrer. -/
inductive SpecifierForm (specifier referrer : String) : String → Prop
  | url {url : Url} (parsed : Url.parse specifier = .ok url) :
      SpecifierForm specifier referrer url.toText
  | bare (other : ¬ Url.IsUrl specifier) (unplaced : ¬ StartsAtPlace specifier) :
      SpecifierForm specifier referrer specifier
  | joined {base : Url} {text : String} (other : ¬ Url.IsUrl specifier)
      (placed : StartsAtPlace specifier) (remote : Url.parse referrer = .ok base)
      (joins : Joins base specifier text) : SpecifierForm specifier referrer text
  | path (other : ¬ Url.IsUrl specifier) (placed : StartsAtPlace specifier)
      (virtual : ¬ Url.IsUrl referrer) :
      SpecifierForm specifier referrer (Path.keepSlash specifier (Path.resolve referrer specifier))

theorem startsAtPlace_iff {address : String} :
    isPlaced address = true ↔ StartsAtPlace address := by
  simp only [isPlaced, Bool.or_eq_true, Text.startsWith_iff, Path.isRooted_iff, StartsAtPlace,
    exists_or, or_assoc]

/-- A base that is a URL has one answer for every address. -/
theorem joins_iff {base : Url} {address text : String} :
    Joins base address text ↔ (Base.url base).join address = text := by
  rw [Base.join]
  cases read : base.join address with
  | ok url =>
      refine ⟨fun joins => ?_, fun same => same ▸ .joined read⟩
      cases joins with
      | joined other => rw [Except.ok.inj (other.symm.trans read)]
      | unjoined failed => cases failed.symm.trans read
  | error error =>
      refine ⟨fun joins => ?_, fun same => same ▸ .unjoined read⟩
      cases joins with
      | joined other => cases other.symm.trans read
      | unjoined => rfl

theorem referrerForm_iff {map : ImportMap} {referrer form : String} :
    map.ReferrerForm referrer form ↔ map.canonicalReferrer referrer = form := by
  constructor
  · intro known
    rw [canonicalReferrer]
    cases known with
    | url parsed => rw [Url.canonical?_of_parse parsed]
    | path other virtual => rw [Url.canonical?_eq_none_iff.mpr other, virtual]
    | joined other remote joins =>
        rw [Url.canonical?_eq_none_iff.mpr other, remote]
        exact joins_iff.mp joins
  · rintro rfl
    rw [canonicalReferrer]
    cases canonical : Url.canonical? referrer with
    | some text =>
        obtain ⟨url, parsed, rfl⟩ := Url.canonical?_eq_some_iff.mp canonical
        exact .url parsed
    | none =>
        have other := Url.canonical?_eq_none_iff.mp canonical
        cases place : map.base with
        | url base => exact .joined other place (joins_iff.mpr rfl)
        | directory here => exact .path other place

theorem specifierForm_iff {specifier referrer form : String} :
    SpecifierForm specifier referrer form ↔ canonicalSpecifier specifier referrer = form := by
  constructor
  · intro known
    rw [canonicalSpecifier]
    cases known with
    | url parsed => rw [Url.canonical?_of_parse parsed]
    | bare other unplaced =>
        rw [Url.canonical?_eq_none_iff.mpr other]
        exact if_neg (mt startsAtPlace_iff.mp unplaced)
    | joined other placed remote joins =>
        rw [Url.canonical?_eq_none_iff.mpr other, if_pos (startsAtPlace_iff.mpr placed), remote]
        exact joins_iff.mp joins
    | path other placed virtual =>
        rw [Url.canonical?_eq_none_iff.mpr other, if_pos (startsAtPlace_iff.mpr placed)]
        cases parsed : Url.parse referrer with
        | ok url => exact absurd ⟨url, parsed⟩ virtual
        | error error => rfl
  · rintro rfl
    rw [canonicalSpecifier]
    cases canonical : Url.canonical? specifier with
    | some text =>
        obtain ⟨url, parsed, rfl⟩ := Url.canonical?_eq_some_iff.mp canonical
        exact .url parsed
    | none =>
        have other := Url.canonical?_eq_none_iff.mp canonical
        by_cases placed : isPlaced specifier = true
        · have starts := startsAtPlace_iff.mp placed
          rw [if_pos placed]
          cases parsed : Url.parse referrer with
          | ok base => exact .joined other starts parsed (joins_iff.mpr rfl)
          | error error =>
              exact .path other starts fun ⟨_, found⟩ => nomatch parsed.symm.trans found
        · rw [if_neg placed]
          exact .bare other (mt startsAtPlace_iff.mpr placed)

/-- The rule of import maps, with both forms written out. -/
theorem rule_iff {map : ImportMap} {specifier referrer : String}
    {result : Except ImportMapError (Option String)} :
    map.Rule specifier referrer result ↔
      ∃ location normal, map.ReferrerForm referrer location ∧
        SpecifierForm specifier location normal ∧
        map.NormalRule specifier location normal result := by
  constructor
  · exact fun rule => ⟨_, _, referrerForm_iff.mpr rfl, specifierForm_iff.mpr rfl, rule⟩
  · rintro ⟨location, normal, known, sought, rule⟩
    obtain rfl := referrerForm_iff.mp known
    obtain rfl := specifierForm_iff.mp sought
    exact rule

end ModuleGraph.ImportMap
