/-
This file shows that a map that was read from a document holds every key and every start of a scope
once, and the longer ones first.
-/

import ModuleGraph.Proofs.ImportMap.Entries
import ModuleGraph.Proofs.Text

namespace ModuleGraph.ImportMap

/-- The entries have different texts, and a longer text never follows a shorter one. -/
structure LongestFirst {α : Type} (text : α → String) (entries : List α) : Prop where
  descending : entries.Pairwise fun first second =>
    (text second).utf8ByteSize ≤ (text first).utf8ByteSize
  distinct : (entries.map text).Nodup

namespace LongestFirst

variable {α : Type} {text : α → String} {entries : List α}

/-- The entries that pass a test keep their order. -/
theorem filter (order : LongestFirst text entries) (test : α → Bool) :
    LongestFirst text (entries.filter test) where
  descending := order.descending.filter test
  distinct := order.distinct.sublist (List.filter_sublist.map text)

/-- An entry is known by its text. -/
theorem eq_of_text_eq (order : LongestFirst text entries) {first second : α}
    (memberFirst : first ∈ entries) (memberSecond : second ∈ entries)
    (equal : text first = text second) : first = second :=
  List.inj_on_of_nodup_map order.distinct memberFirst memberSecond equal

/-- The first entry that passes a test has the longest text of all that pass. -/
theorem size_le_of_find? (order : LongestFirst text entries) {test : α → Bool} {entry other : α}
    (found : entries.find? test = some entry) (member : other ∈ entries)
    (passes : test other = true) :
    (text other).utf8ByteSize ≤ (text entry).utf8ByteSize := by
  obtain ⟨_, before, after, split, fails⟩ := List.find?_eq_some_iff_append.mp found
  have descending := order.descending
  rw [split] at member descending
  rcases List.mem_append.mp member with early | late
  · have := fails other early
    simp [passes] at this
  · rcases List.mem_cons.mp late with rfl | late
    · exact Nat.le_refl _
    · have tail := (List.pairwise_append.mp descending).2.1
      exact (List.pairwise_cons.mp tail).1 other late

/-- If one of the entries passes, then one of the longest texts does. -/
theorem exists_longest (order : LongestFirst text entries) {Passes : α → Prop}
    (nonempty : ∃ entry ∈ entries, Passes entry) :
    ∃ entry ∈ entries, Passes entry ∧ ∀ other ∈ entries, Passes other →
      (text other).utf8ByteSize ≤ (text entry).utf8ByteSize := by
  classical
  obtain ⟨witness, member, passes⟩ := nonempty
  cases found : entries.find? fun entry => decide (Passes entry) with
  | none => simpa [passes] using List.find?_eq_none.mp found witness member
  | some entry =>
      refine ⟨entry, List.mem_of_find?_eq_some found, ?_, ?_⟩
      · simpa using List.find?_some found
      · intro other memberOther passesOther
        exact order.size_le_of_find? found memberOther (decide_eq_true passesOther)

/-- Among the starts of one text the longest stands before all others. -/
theorem split_of_longest (order : LongestFirst text entries) (whole : String) (Passes : α → Prop)
    (starts : ∀ other, Passes other → Text.startsWith whole (text other) = true) {entry : α}
    (member : entry ∈ entries) (passes : Passes entry)
    (longest : ∀ other ∈ entries, Passes other →
      (text other).utf8ByteSize ≤ (text entry).utf8ByteSize) :
    ∃ before after, entries = before ++ entry :: after ∧ ∀ other ∈ before, ¬ Passes other := by
  obtain ⟨before, after, rfl⟩ := List.append_of_mem member
  refine ⟨before, after, rfl, ?_⟩
  intro other early passesOther
  have upper := longest other (List.mem_append_left _ early) passesOther
  have lower := (List.pairwise_append.mp order.descending).2.2 other early entry (by simp)
  have same : text other = text entry :=
    Text.eq_of_startsWith_of_size_eq (starts other passesOther) (starts entry passes)
      (Nat.le_antisymm upper lower)
  have apart := order.distinct
  rw [List.map_append, List.nodup_append] at apart
  exact apart.2.2 (text other) (List.mem_map_of_mem early) (text entry) (by simp) same

end LongestFirst

theorem sortByLength_perm {α : Type} (text : α → String) (entries : List α) :
    (sortByLength text entries).Perm entries :=
  List.mergeSort_perm _ _

/-- Sorting does not tell apart what differs only in its order. -/
theorem sortByLength_perm_of_perm {α : Type} (text : α → String) {first second : List α}
    (perm : first.Perm second) : (sortByLength text first).Perm (sortByLength text second) :=
  (sortByLength_perm text first).trans (perm.trans (sortByLength_perm text second).symm)

theorem sortByLength_singleton {α : Type} (text : α → String) (entry : α) :
    sortByLength text [entry] = [entry] := by
  rw [sortByLength, List.mergeSort_singleton]

/-- Of two entries the longer one comes first. -/
theorem sortByLength_pair {α : Type} {text : α → String} {first second : α}
    (shorter : (text first).utf8ByteSize < (text second).utf8ByteSize) :
    sortByLength text [first, second] = [second, first] := by
  have order : ¬ (text second).utf8ByteSize ≤ (text first).utf8ByteSize := by omega
  simp [sortByLength, List.mergeSort, List.MergeSort.Internal.splitInTwo, order]

/-- Two entries stay as they are unless the second is longer. -/
theorem sortByLength_pair_of_le {α : Type} {text : α → String} {first second : α}
    (longer : (text second).utf8ByteSize ≤ (text first).utf8ByteSize) :
    sortByLength text [first, second] = [first, second] := by
  simp [sortByLength, List.mergeSort, List.MergeSort.Internal.splitInTwo, longer]

section Length

variable {α : Type} (text : α → String)

theorem longer_trans (first second third : α)
    (early : decide ((text second).utf8ByteSize ≤ (text first).utf8ByteSize) = true)
    (late : decide ((text third).utf8ByteSize ≤ (text second).utf8ByteSize) = true) :
    decide ((text third).utf8ByteSize ≤ (text first).utf8ByteSize) = true := by
  rw [decide_eq_true_eq] at early late ⊢
  exact Nat.le_trans late early

theorem longer_total (first second : α) :
    (decide ((text second).utf8ByteSize ≤ (text first).utf8ByteSize) ||
      decide ((text first).utf8ByteSize ≤ (text second).utf8ByteSize)) = true := by
  rw [Bool.or_eq_true, decide_eq_true_eq, decide_eq_true_eq]
  exact Nat.le_total _ _

theorem pairwise_sortByLength (entries : List α) :
    (sortByLength text entries).Pairwise fun first second =>
      (text second).utf8ByteSize ≤ (text first).utf8ByteSize :=
  (List.pairwise_mergeSort (longer_trans text) (longer_total text) entries).imp of_decide_eq_true

end Length

/-- Sorting different texts by their length puts the longest first. -/
theorem longestFirst_sortByLength {α : Type} (text : α → String) {entries : List α}
    (distinct : (entries.map text).Nodup) : LongestFirst text (sortByLength text entries) where
  descending := pairwise_sortByLength text entries
  distinct := ((sortByLength_perm text entries).map text).nodup_iff.mpr distinct

/-- What is true of every table that is read is true of the tables of a map. -/
theorem forall_tables_of_ofJson {document : Json} {written : String} {map : ImportMap}
    {Good : Table → Prop}
    (good : ∀ members, Good (sortByLength Prod.fst (entriesOf (Base.parse written) members)))
    (parsed : ofJson document written = .ok map) :
    Good map.imports ∧ ∀ scope ∈ map.scopes, Good scope.table := by
  obtain ⟨-, rfl⟩ := ofJson_eq_ok_iff.mp parsed
  refine ⟨good _, fun scope member => ?_⟩
  obtain ⟨_, -, rfl⟩ := List.mem_map.mp ((sortByLength_perm Scope.start _).mem_iff.mp member)
  exact good _

/-- The tables and the scopes of a map hold the longest first. -/
structure Ordered (map : ImportMap) : Prop where
  imports : LongestFirst Prod.fst map.imports
  scopes : LongestFirst Scope.start map.scopes
  tables : ∀ scope ∈ map.scopes, LongestFirst Prod.fst scope.table

/-- A map that was read from a document is ordered. -/
theorem ordered_of_ofJson {document : Json} {written : String} {map : ImportMap}
    (parsed : ofJson document written = .ok map) : map.Ordered := by
  have tables := forall_tables_of_ofJson (fun members =>
    longestFirst_sortByLength Prod.fst (nodup_map_firsts Prod.fst _)) parsed
  obtain ⟨-, rfl⟩ := ofJson_eq_ok_iff.mp parsed
  refine ⟨tables.1, longestFirst_sortByLength Scope.start ?_, tables.2⟩
  rw [List.map_map]
  exact nodup_map_firsts (startOf (Base.parse written)) _

end ModuleGraph.ImportMap
