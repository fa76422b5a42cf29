/-
This file reads import maps from JSON documents.
-/

import ModuleGraph.ImportMap.Basic
import ModuleGraph.Json.Reader

namespace ModuleGraph.ImportMap

/-- Longer texts first; equally long ones keep their order. -/
def sortByLength {α : Type} (text : α → String) (entries : List α) : List α :=
  entries.mergeSort fun first second => (text second).utf8ByteSize ≤ (text first).utf8ByteSize

def readTarget (base : Base) (written : String) : Target :=
  if written.isEmpty then .blocked else .address (base.normalize written)

/-- Reads the members of a table in order. A member whose value is no string is left out, and so
is one whose key is the same as an earlier key in normal form. -/
def readMembers (base : Base) (context : Context) :
    Table → List (String × Json) → Table × List Warning
  | table, [] => (table, [])
  | table, (key, value) :: members =>
      match value with
      | .string written =>
          let normal := base.normalize key
          if table.any fun entry => entry.1 == normal then
            let (table, warnings) := readMembers base context table members
            (table, .duplicateKey key context normal :: warnings)
          else readMembers base context (table ++ [(normal, readTarget base written)]) members
      | _ =>
          let (table, warnings) := readMembers base context table members
          (table, .notString key context :: warnings)

def readTable (base : Base) (context : Context) (members : List (String × Json)) :
    Table × List Warning :=
  let (table, warnings) := readMembers base context [] members
  (sortByLength Prod.fst table, warnings)

/-- Reads the scopes in order; one with the start of an earlier scope is left out. -/
def readScopes (base : Base) :
    List Scope → List (String × Json) → Except ImportMapError (List Scope × List Warning)
  | scopes, [] => .ok (scopes, [])
  | scopes, (written, value) :: members =>
      match value with
      | .object table =>
          let start := base.normalizeScope written
          if scopes.any fun scope => scope.start == start then do
            let (scopes, warnings) ← readScopes base scopes members
            return (scopes, .duplicateScope written start :: warnings)
          else do
            let (table, dropped) := readTable base (.scope written) table
            let (scopes, warnings) ← readScopes base (scopes ++ [⟨start, table⟩]) members
            return (scopes, dropped ++ warnings)
      | _ => .error (.invalidScope written)

/-- The members of a field that has to be an object if it is there. -/
def objectField (document : Json) (name : String) :
    Except ImportMapError (List (String × Json)) :=
  match document.member? name with
  | none => .ok []
  | some (.object members) => .ok members
  | some _ => .error (.notAnObject name)

/-- Reads a map from a document. -/
def ofJson (document : Json) (base : String) : Except ImportMapError ImportMap :=
  match document with
  | .object _ => do
      let base := Base.parse base
      let (imports, dropped) := readTable base .imports (← objectField document "imports")
      let (scopes, warnings) ← readScopes base [] (← objectField document "scopes")
      return ⟨base, imports, sortByLength Scope.start scopes, dropped ++ warnings⟩
  | _ => .error (.notAnObject "<root>")

/-- Reads a map from text. -/
def parse (text base : String) : Except ImportMapError ImportMap :=
  match Json.parse text with
  | .ok document => ofJson document base
  | .error fault => .error (.invalidJson fault)

end ModuleGraph.ImportMap
