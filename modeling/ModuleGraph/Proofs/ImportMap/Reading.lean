/-
This file shows that reading a document fails only for its structure and loses no member without a
warning.
-/

import ModuleGraph.Proofs.ImportMap.Order
import Mathlib.Data.List.Forall2

namespace ModuleGraph.ImportMap

/-- The entries sorted by the length of their texts. Texts of the same length keep their order. -/
structure SortsByLength {α : Type} (text : α → String) (entries sorted : List α) : Prop where
  perm : sorted.Perm entries
  descending : sorted.Pairwise fun first second =>
    (text second).utf8ByteSize ≤ (text first).utf8ByteSize
  stable : ∀ size, (sorted.filter fun entry => (text entry).utf8ByteSize == size) =
    entries.filter fun entry => (text entry).utf8ByteSize == size

/-- The scope that a member stands for. -/
structure IsReadFrom (base : Base) (member : String × Json) (scope : Scope) : Prop where
  start : scope.start = startOf base member
  table : SortsByLength Prod.fst (entriesOf base member.2.members) scope.table

/-- A map holds the entries of its document, and a warning for every member that it leaves out. -/
structure Holds (map : ImportMap) (document : Json) (base : Base) : Prop where
  place : map.base = base
  imports : SortsByLength Prod.fst (entriesOf base (fieldMembers document "imports")) map.imports
  scopes : ∃ scopes, SortsByLength Scope.start scopes map.scopes ∧
    List.Forall₂ (IsReadFrom base) (keptScopes base (fieldMembers document "scopes")) scopes
  warnings : map.warnings =
    (skipped base (fieldMembers document "imports")).map (warningOf base .imports) ++
      (histories [] (fieldMembers document "scopes")).flatMap (scopeWarnings base)
  count : map.warnings.length = (skipped base (fieldMembers document "imports")).length +
    (((keptScopes base (fieldMembers document "scopes")).flatMap fun member =>
      skipped base member.2.members).length +
      (repeatedScopes base (fieldMembers document "scopes")).length)

/-- A map is read from every document with the right structure and from no other, and it holds what
the document says. -/
structure Accounted (document : Json) (written : String) : Prop where
  readable_iff : (∃ map, ofJson document written = .ok map) ↔ Readable document
  holds : ∀ map, ofJson document written = .ok map → map.Holds document (Base.parse written)

section Sorting

/-- Sorting by length is stable. -/
theorem sortsByLength_sortByLength {α : Type} (text : α → String) (entries : List α) :
    SortsByLength text entries (sortByLength text entries) := by
  have perm := sortByLength_perm text entries
  refine ⟨perm, pairwise_sortByLength text entries, fun size => ?_⟩
  -- Texts of one length are in order already, so they stay a sublist of the sorted entries.
  have level : (entries.filter fun entry => (text entry).utf8ByteSize == size).Pairwise
      fun first second =>
        decide ((text second).utf8ByteSize ≤ (text first).utf8ByteSize) = true := by
    refine List.pairwise_of_forall_mem_list fun first memberFirst second memberSecond => ?_
    have sizeFirst := eq_of_beq (List.mem_filter.mp memberFirst).2
    have sizeSecond := eq_of_beq (List.mem_filter.mp memberSecond).2
    exact decide_eq_true (Nat.le_of_eq (sizeSecond.trans sizeFirst.symm))
  have kept := (List.sublist_mergeSort (longer_trans text) (longer_total text) level
    List.filter_sublist).filter fun entry => (text entry).utf8ByteSize == size
  rw [List.filter_filter] at kept
  simp only [Bool.and_self] at kept
  exact (kept.eq_of_length (perm.filter _).length_eq.symm).symm

end Sorting

section Accounting

theorem isReadFrom_scopeOf (base : Base) (member : String × Json) :
    IsReadFrom base member (scopeOf base member) :=
  ⟨rfl, sortsByLength_sortByLength Prod.fst _⟩

/-- A scope that is left out has one warning, and any other as many as members that it loses. -/
theorem length_flatMap_scopeWarnings (base : Base) (members : List (String × Json)) :
    ((histories [] members).flatMap (scopeWarnings base)).length =
      ((keptScopes base members).flatMap fun member => skipped base member.2.members).length +
        (repeatedScopes base members).length := by
  have known : Known (startOf base) [] [] := fun _ => Iff.rfl
  rw [keptScopes, firsts_eq_filter_histories known, repeatedScopes]
  induction histories [] members with
  | nil => rfl
  | cons history rest ih =>
      rw [List.flatMap_cons, List.length_append, ih, scopeWarnings]
      cases repeated : repeats (startOf base) history with
      | true =>
          simp only [repeated, if_true, List.filter_cons, Bool.not_true, Bool.false_eq_true,
            if_false, List.map_cons, List.length_cons, List.length_nil]
          omega
      | false =>
          simp only [repeated, if_true, List.filter_cons, Bool.not_false, Bool.false_eq_true,
            if_false, List.map_cons, List.length_map, List.flatMap_cons, List.length_append]
          omega

/-- Reading accounts for every member of every document. -/
theorem accounted_ofJson (document : Json) (written : String) : Accounted document written where
  readable_iff := ⟨fun ⟨_, parsed⟩ => (ofJson_eq_ok_iff.mp parsed).1,
    fun readable => ⟨_, ofJson_eq_ok_iff.mpr ⟨readable, rfl⟩⟩⟩
  holds := by
    intro map parsed
    obtain ⟨-, rfl⟩ := ofJson_eq_ok_iff.mp parsed
    refine ⟨rfl, sortsByLength_sortByLength _ _, ⟨_, sortsByLength_sortByLength _ _, ?_⟩, rfl, ?_⟩
    · rw [List.forall₂_map_right_iff, List.forall₂_same]
      exact fun member _ => isReadFrom_scopeOf _ member
    · rw [mapOf, List.length_append, List.length_map, length_flatMap_scopeWarnings]

/-- A member without a text does not take its key from a text after it. -/
example : skipped (.directory "/")
    [("./a", .null), ("./a", .string "./x"), ("./b/../a", .string "./y")] =
      [("./a", .null), ("./b/../a", .string "./y")] := by rfl

end Accounting

end ModuleGraph.ImportMap
