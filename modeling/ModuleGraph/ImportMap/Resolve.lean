/-
This file maps specifiers to their targets.
-/

import ModuleGraph.ImportMap.Basic

namespace ModuleGraph.ImportMap

namespace Table

/-- What a table says of a specifier. -/
inductive Answer where
  | mapped (target : String)
  | blocked
  | noEntry

/-- Whether a key stands for everything that starts with it. -/
def covers (key specifier : String) : Bool :=
  Text.endsWith key "/" && Text.startsWith specifier key

/-- The entry with the specifier as its key decides, or else the longest key that covers it. -/
def lookup (table : Table) (specifier : String) : Except ImportMapError Answer :=
  match table.find? fun entry => entry.1 == specifier with
  | some (_, .address text) => .ok (.mapped text)
  | some (_, .blocked) => .ok .blocked
  | none =>
      match table.find? fun entry => covers entry.1 specifier with
      | none => .ok .noEntry
      | some (_, .blocked) => .ok .blocked
      | some (key, .address target) =>
          if Text.endsWith target "/" then
            .ok (.mapped (target ++ (Text.dropStart? specifier key).getD ""))
          else .error (.missingSlash key target)

end Table

/-- The referrer in the form of the starts of scopes. -/
def canonicalReferrer (map : ImportMap) (referrer : String) : String :=
  match Url.canonical? referrer with
  | some text => text
  | none =>
      match map.base with
      | .url _ => map.base.join (Path.normalize referrer)
      | .directory _ => Path.normalize referrer

/-- The specifier in the form of the keys. -/
def canonicalSpecifier (specifier referrer : String) : String :=
  match Url.canonical? specifier with
  | some text => text
  | none =>
      if isPlaced specifier then
        match Url.parse referrer with
        | .ok url =>
            match url.join specifier with
            | .ok joined => joined.toText
            | .error _ => specifier
        | .error _ => Path.keepSlash specifier (Path.resolve referrer specifier)
      else specifier

/-- The tables that apply to a referrer, the most specific first. -/
def tables (map : ImportMap) (referrer : String) : List Table :=
  (map.scopes.filter fun scope => Text.startsWith referrer scope.start).map Scope.table ++
    [map.imports]

/-- The first table with an entry for the key decides. -/
def decide? (specifier key : String) : List Table → Except ImportMapError (Option String)
  | [] => .ok none
  | table :: tables =>
      match table.lookup key with
      | .error error => .error error
      | .ok (.mapped target) => .ok (some target)
      | .ok .blocked => .error (.blocked specifier)
      | .ok .noEntry => decide? specifier key tables

/-- The target of a specifier that a referrer imports, if the map has one. -/
def resolve (map : ImportMap) (specifier referrer : String) :
    Except ImportMapError (Option String) :=
  let referrer := map.canonicalReferrer referrer
  decide? specifier (canonicalSpecifier specifier referrer) (map.tables referrer)

end ModuleGraph.ImportMap
