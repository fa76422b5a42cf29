/-
This file says which entries, scopes and warnings a document stands for, and shows that reading a
document gives these, or fails because of its structure.
-/

import ModuleGraph.ImportMap.Document
import ModuleGraph.Proofs.Firsts

namespace ModuleGraph

def Json.IsObject (value : Json) : Prop :=
  ∃ members, value = .object members

/-- The members of a value, which are none unless it is an object. -/
def Json.members : Json → List (String × Json)
  | object members => members
  | _ => []

/-- Of several members with a name the first one counts. -/
theorem Json.member?_eq_lookup (name : String) (document : Json) :
    document.member? name = document.members.lookup name := by
  cases document with
  | object members =>
      change (members.find? fun member => member.1 == name).map Prod.snd = members.lookup name
      induction members with
      | nil => rfl
      | cons member members ih =>
          rw [List.find?_cons, List.lookup_cons, BEq.comm]
          cases name == member.1 with
          | true => rfl
          | false => exact ih
  | _ => rfl

namespace ImportMap

section Tables

variable (base : Base)

/-- The entry that a member stands for, if its value is a text. The empty text blocks its key. -/
def entryOf (member : String × Json) : Option (String × Target) :=
  member.2.string?.map fun written =>
    (base.normalize member.1,
      if written.isEmpty then .blocked else .address (base.normalize written))

/-- The entries of the members with a text for a value, the first under each key. -/
def entriesOf (members : List (String × Json)) : Table :=
  firsts Prod.fst [] (members.filterMap (entryOf base))

/-- Whether a member makes no entry: its value is no text, or the key of a text before it is the
same in normal form. -/
def isSkipped (history : List (String × Json) × (String × Json)) : Bool :=
  history.2.2.string?.isNone || history.1.any fun other =>
    other.2.string?.isSome && base.normalize other.1 == base.normalize history.2.1

/-- The members that make no entry. -/
def skipped (members : List (String × Json)) : List (String × Json) :=
  ((histories [] members).filter (isSkipped base)).map Prod.snd

/-- Why a member makes no entry. -/
def warningOf (context : Context) (member : String × Json) : Warning :=
  if member.2.string?.isNone then .notString member.1 context
  else .duplicateKey member.1 context (base.normalize member.1)

end Tables

section Scopes

variable (base : Base)

def startOf (member : String × Json) : String :=
  base.normalizeScope member.1

/-- The members that scopes are read from, the first for each start. -/
def keptScopes (members : List (String × Json)) : List (String × Json) :=
  firsts (startOf base) [] members

/-- The members with the start of a scope before them. -/
def repeatedScopes (members : List (String × Json)) : List (String × Json) :=
  ((histories [] members).filter (repeats (startOf base))).map Prod.snd

/-- What is lost of a scope: all of it if its start is that of one before it. -/
def scopeWarnings (history : List (String × Json) × (String × Json)) : List Warning :=
  if repeats (startOf base) history then [.duplicateScope history.2.1 (startOf base history.2)]
  else (skipped base history.2.2.members).map (warningOf base (.scope history.2.1))

/-- The scope of a member, with its table in order. -/
def scopeOf (member : String × Json) : Scope :=
  ⟨startOf base member, sortByLength Prod.fst (entriesOf base member.2.members)⟩

end Scopes

section Documents

/-- The members of a field of a document, which are none if it is not there. -/
def fieldMembers (document : Json) (name : String) : List (String × Json) :=
  ((document.members.lookup name).map Json.members).getD []

/-- The imports and the scopes of a document are objects if they are there, and so is each scope. -/
structure Readable (document : Json) : Prop where
  object : document.IsObject
  imports : ∀ value, document.members.lookup "imports" = some value → value.IsObject
  scopes : ∀ value, document.members.lookup "scopes" = some value → value.IsObject
  each : ∀ member ∈ fieldMembers document "scopes", member.2.IsObject

/-- The map that a document stands for. -/
def mapOf (base : Base) (document : Json) : ImportMap where
  base := base
  imports := sortByLength Prod.fst (entriesOf base (fieldMembers document "imports"))
  scopes := sortByLength Scope.start
    ((keptScopes base (fieldMembers document "scopes")).map (scopeOf base))
  warnings := (skipped base (fieldMembers document "imports")).map (warningOf base .imports) ++
    (histories [] (fieldMembers document "scopes")).flatMap (scopeWarnings base)

end Documents

section ReadingTables

variable {base : Base} {table : Table} {before : List (String × Json)} {key : String} {value : Json}

/-- The entry of a text is the one that is read. -/
theorem entryOf_text (key written : String) :
    entryOf base (key, .string written) =
      some (base.normalize key, readTarget base written) := rfl

/-- A member with an entry is skipped if the entry has the key of one before it. -/
theorem isSkipped_of_entryOf {entry : String × Target}
    (made : entryOf base (key, value) = some entry) :
    isSkipped base (before, key, value) =
      repeats Prod.fst (before.filterMap (entryOf base), entry) := by
  obtain ⟨written, textual, rfl⟩ := Option.map_eq_some_iff.mp made
  have present : value.string?.isNone = false := by rw [textual, Option.isNone_some]
  rw [isSkipped, present, Bool.false_or, repeats, List.any_filterMap]
  congr 1
  funext other
  rw [entryOf]
  cases other.2.string? <;> rfl

/-- A member whose value is no text is left out with a warning. -/
theorem readMembers_cons_of_bare (context : Context) (members : List (String × Json))
    (bare : value.string? = none) :
    readMembers base context table ((key, value) :: members) =
      ((readMembers base context table members).1,
        .notString key context :: (readMembers base context table members).2) := by
  cases value with
  | string written => cases bare
  | _ => rfl

/-- Reading members adds the entries under new keys, and warns of each other member. -/
theorem readMembers_eq (context : Context) (members : List (String × Json))
    (known : Known Prod.fst (table.map Prod.fst) (before.filterMap (entryOf base))) :
    readMembers base context table members =
      (table ++ firsts Prod.fst (table.map Prod.fst) (members.filterMap (entryOf base)),
        (((histories before members).filter (isSkipped base)).map Prod.snd).map
          (warningOf base context)) := by
  -- The keys of the table stay those of the texts that were read, whether a member adds one or not.
  induction members generalizing table before with
  | nil => simp [readMembers, firsts, histories]
  | cons member members ih =>
      rcases member with ⟨key, value⟩
      have grown : (before ++ [(key, value)]).filterMap (entryOf base) =
          before.filterMap (entryOf base) ++ [(key, value)].filterMap (entryOf base) :=
        List.filterMap_append
      rw [histories, List.filter_cons]
      cases textual : value.string? with
      | none =>
          have silent : entryOf base (key, value) = none := by simp [entryOf, textual]
          have skip : isSkipped base (before, key, value) = true := by simp [isSkipped, textual]
          rw [List.filterMap_cons_none silent, List.filterMap_nil, List.append_nil] at grown
          rw [readMembers_cons_of_bare context members textual, ih (grown ▸ known),
            List.filterMap_cons_none silent, skip]
          simp [warningOf, textual]
      | some written =>
          obtain rfl : value = .string written := by
            cases value <;> simp_all [Json.string?]
          have entry : entryOf base (key, .string written) = _ := entryOf_text key written
          have same : isSkipped base (before, key, .string written) =
              repeats Prod.fst (before.filterMap (entryOf base),
                (base.normalize key, readTarget base written)) := isSkipped_of_entryOf entry
          have held : (table.any fun made => made.1 == base.normalize key) =
              isSkipped base (before, key, .string written) := by
            rw [same]
            exact known.any_eq (base.normalize key, readTarget base written)
          rw [List.filterMap_cons_some entry, List.filterMap_nil] at grown
          rw [List.filterMap_cons_some entry, firsts, known.contains_eq, ← same, readMembers, held]
          cases skip : isSkipped base (before, key, .string written) with
          | true =>
              simp only [if_true, ih (grown ▸ known.skip (same ▸ skip))]
              rfl
          | false =>
              have next : Known Prod.fst
                  ((table ++ [(base.normalize key, readTarget base written)]).map Prod.fst)
                  ((before ++ [(key, Json.string written)]).filterMap (entryOf base)) := by
                rw [grown, List.map_append]
                exact known.add
              simp only [Bool.false_eq_true, if_false, ih next]
              simp

theorem readTable_eq (context : Context) (members : List (String × Json)) :
    readTable base context members = (sortByLength Prod.fst (entriesOf base members),
      (skipped base members).map (warningOf base context)) := by
  have known : Known Prod.fst (List.map Prod.fst ([] : Table)) (List.filterMap (entryOf base) []) :=
    fun _ => Iff.rfl
  rw [readTable, readMembers_eq context members known]
  rfl

end ReadingTables

section ReadingScopes

variable {base : Base}

/-- A computation in two steps succeeds only if both steps do. -/
theorem bind_eq_ok {ε α β : Type} {first : Except ε α} {next : α → Except ε β} {result : β}
    (success : first >>= next = .ok result) :
    ∃ value, first = .ok value ∧ next value = .ok result := by
  cases first with
  | error error => exact absurd success (by simp [bind, Except.bind])
  | ok value => exact ⟨value, rfl, success⟩

/-- Objects are read as scopes, one for each start, with warnings of all that is left out. -/
theorem readScopes_eq {scopes : List Scope} {before members : List (String × Json)}
    (objects : ∀ member ∈ members, member.2.IsObject)
    (known : Known (startOf base) (scopes.map Scope.start) before) :
    readScopes base scopes members =
      .ok (scopes ++ (firsts (startOf base) (scopes.map Scope.start) members).map (scopeOf base),
        (histories before members).flatMap (scopeWarnings base)) := by
  induction members generalizing scopes before with
  | nil => simp [readScopes, firsts, histories]
  | cons member members ih =>
      rcases member with ⟨written, value⟩
      obtain ⟨table, rfl⟩ := objects _ (List.mem_cons_self ..)
      have later : ∀ member ∈ members, member.2.IsObject := fun member held =>
        objects member (List.mem_cons_of_mem _ held)
      have present : (scopes.any fun scope => scope.start == base.normalizeScope written) =
          repeats (startOf base) (before, written, .object table) :=
        known.any_eq (written, Json.object table)
      rw [firsts, known.contains_eq, histories, List.flatMap_cons, readScopes]
      dsimp only
      rw [present]
      cases repeated : repeats (startOf base) (before, written, .object table) with
      | true =>
          have rest := ih later (known.skip repeated)
          rw [if_pos rfl, if_pos rfl, rest, scopeWarnings, if_pos repeated]
          rfl
      | false =>
          have next : Known (startOf base)
              ((scopes ++ [scopeOf base (written, .object table)]).map Scope.start)
              (before ++ [(written, .object table)]) := by
            rw [List.map_append]
            exact known.add
          have rest := ih later next
          have fresh : ¬ repeats (startOf base) (before, written, .object table) = true := by
            simp [repeated]
          have apart (more : List Scope) :
              scopes ++ scopeOf base (written, .object table) :: more =
                scopes ++ [scopeOf base (written, .object table)] ++ more := List.append_cons ..
          rw [if_neg Bool.false_ne_true, if_neg Bool.false_ne_true, readTable_eq, scopeWarnings,
            if_neg fresh, List.map_cons, apart]
          rw [List.map_append] at rest
          -- The table of the scope is known, so only the scopes after it are still to be read.
          change (readScopes base (scopes ++ [scopeOf base (written, .object table)]) members >>=
            fun read => .ok (read.1, _ ++ read.2)) = _
          rw [rest]
          rfl

/-- Every scope that is read is an object. -/
theorem isObject_of_readScopes {scopes : List Scope} {members : List (String × Json)}
    {read : List Scope × List Warning} (result : readScopes base scopes members = .ok read) :
    ∀ member ∈ members, member.2.IsObject := by
  induction members generalizing scopes read with
  | nil => exact fun _ absurd => nomatch absurd
  | cons first members ih =>
      rcases first with ⟨written, value⟩
      cases value with
      | object table =>
          have later : ∃ next rest, readScopes base next members = .ok rest := by
            simp only [readScopes] at result
            split at result
            · obtain ⟨rest, later, -⟩ := bind_eq_ok result
              exact ⟨_, rest, later⟩
            · obtain ⟨rest, later, -⟩ := bind_eq_ok result
              exact ⟨_, rest, later⟩
          obtain ⟨next, rest, later⟩ := later
          intro member held
          rcases List.mem_cons.mp held with rfl | held
          · exact ⟨table, rfl⟩
          · exact ih later member held
      | _ => simp [readScopes] at result

end ReadingScopes

section ReadingDocuments

variable {document : Json} {name written : String} {map : ImportMap}

/-- A field is read if it is an object or not there. -/
theorem objectField_eq_ok_iff {members : List (String × Json)} :
    objectField document name = .ok members ↔
      (∀ value, document.members.lookup name = some value → value.IsObject) ∧
        fieldMembers document name = members := by
  rw [objectField, fieldMembers, Json.member?_eq_lookup]
  cases document.members.lookup name with
  | none => simp
  | some value =>
      cases value with
      | object held => simp [Json.IsObject, Json.members]
      | _ => simp [Json.IsObject]

theorem ofJson_of_readable (readable : Readable document) :
    ofJson document written = .ok (mapOf (Base.parse written) document) := by
  obtain ⟨members, rfl⟩ := readable.object
  have imports := objectField_eq_ok_iff.mpr ⟨readable.imports, rfl⟩
  have scopes := objectField_eq_ok_iff.mpr ⟨readable.scopes, rfl⟩
  have known : Known (startOf (Base.parse written)) (List.map Scope.start []) [] := fun _ => Iff.rfl
  simp only [ofJson, imports, scopes, readTable_eq, readScopes_eq readable.each known, bind,
    Except.bind]
  rfl

theorem readable_of_ofJson (parsed : ofJson document written = .ok map) : Readable document := by
  cases document with
  | object held =>
      obtain ⟨imports, present, parsed⟩ := bind_eq_ok parsed
      obtain ⟨scopes, listed, parsed⟩ := bind_eq_ok parsed
      obtain ⟨read, result, -⟩ := bind_eq_ok parsed
      obtain ⟨importsObject, -⟩ := objectField_eq_ok_iff.mp present
      obtain ⟨scopesObject, rfl⟩ := objectField_eq_ok_iff.mp listed
      exact ⟨⟨held, rfl⟩, importsObject, scopesObject, isObject_of_readScopes result⟩
  | _ => simp [ofJson] at parsed

/-- A document is read as the map that it stands for if it is readable, and is refused if not. -/
theorem ofJson_eq_ok_iff :
    ofJson document written = .ok map ↔
      Readable document ∧ map = mapOf (Base.parse written) document := by
  constructor
  · intro parsed
    have readable := readable_of_ofJson parsed
    exact ⟨readable, Except.ok.inj (parsed.symm.trans (ofJson_of_readable readable))⟩
  · rintro ⟨readable, rfl⟩
    exact ofJson_of_readable readable

end ReadingDocuments

end ImportMap

end ModuleGraph
