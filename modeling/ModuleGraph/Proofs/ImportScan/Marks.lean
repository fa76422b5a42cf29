/-
This file shows where the specifiers stand in a text that spells out import statements, and that
they are found there and nowhere else.
-/

import Mathlib.Data.List.Perm.Basic
import ModuleGraph.Proofs.Firsts
import ModuleGraph.Proofs.ImportScan
import ModuleGraph.Proofs.ImportScan.Statement

namespace ModuleGraph.ImportScan

section Marks

/-- A text spells out statements, each at the start of a line and with the rest of its last line to
itself. Between them are blanks. -/
inductive Spells : List Char → List Statement → Prop
  | done : Spells [] []
  | blank {char : Char} (blank : isBlank char = true) {code : List Char}
      {statements : List Statement} (rest : Spells code statements) :
      Spells (char :: code) statements
  | line (statement : Statement) {code : List Char} {statements : List Statement}
      (rest : Spells code statements) :
      Spells (statement.text ++ '\n' :: code) (statement :: statements)
  | last (statement : Statement) : Spells statement.text [statement]

theorem Spells.blanks {blanks : List Char} (blank : ∀ char ∈ blanks, isBlank char = true)
    {code : List Char} {statements : List Statement} (spells : Spells code statements) :
    Spells (blanks ++ code) statements := by
  induction blanks with
  | nil => exact spells
  | cons char blanks ih =>
      exact .blank (blank char (List.mem_cons_self ..))
        (ih fun other member => blank other (List.mem_cons_of_mem _ member))

/-- Where the specifiers of a text stand from `position` on: every form is found at the marks of
its own statements. -/
structure Marks (position : Nat) (code : List Char) (marks : List (Nat × Statement)) : Prop where
  inOrder : marks.Pairwise fun first second => first.1 < second.1
  within : ∀ mark ∈ marks, position ≤ mark.1
  found : ∀ (shape : Shape) {place : Place}, place.IsOpen →
    occurrences shape.site shape.form 0 position place code =
      (marks.filter fun mark => mark.2.shape = shape).map fun mark =>
        (mark.1, mark.2.literal.specifier)

theorem occurrences_blank {shape : Shape} {char : Char} (blank : isBlank char = true)
    (position : Nat) (place : Place) (rest : List Char) :
    occurrences shape.site shape.form 0 position place (char :: rest) =
      occurrences shape.site shape.form 0 (position + 1) (place.step char) rest := by
  have quiet : Quiet shape.site shape.form place [char] rest :=
    Shape.quiet_of_not_isWordChar (by simpa using isWordChar_of_isBlank blank) rest
  exact occurrences_of_quiet quiet position

theorem occurrences_statement (shape : Shape) {place : Place} (statement : Statement)
    (isOpen : place.IsOpen) (position : Nat) (rest : List Char) :
    occurrences shape.site shape.form 0 position place (statement.text ++ rest) =
      ([(position + statement.lead.text.length + 1, statement)].filter fun mark =>
          mark.2.shape = shape).map (fun mark => (mark.1, mark.2.literal.specifier)) ++
        occurrences shape.site shape.form 0 (position + statement.text.length)
          (place.after statement.text) rest := by
  by_cases same : statement.shape = shape
  · subst same
    rw [statement.occurrences_own isOpen]
    simp [Nat.add_assoc]
  · rw [statement.occurrences_other (Ne.symm same)]
    simp [same]

namespace Marks

variable {position : Nat} {code : List Char} {marks : List (Nat × Statement)}

/-- A blank moves all marks behind it. -/
theorem blank {char : Char} (blank : isBlank char = true)
    (behind : Marks (position + 1) code marks) :
    Marks position (char :: code) marks where
  inOrder := behind.inOrder
  within := fun mark member => Nat.le_of_succ_le (behind.within mark member)
  found := by
    intro shape place isOpen
    rw [occurrences_blank blank, behind.found shape (isOpen.blank blank)]

/-- The mark of a statement comes before those of the lines behind it. -/
theorem line (statement : Statement)
    (behind : Marks (position + statement.text.length + 1) code marks) :
    Marks position (statement.text ++ '\n' :: code)
      ((position + statement.lead.text.length + 1, statement) :: marks) where
  inOrder := by
    refine List.pairwise_cons.mpr ⟨fun mark member => ?_, behind.inOrder⟩
    have after := behind.within mark member
    have long : statement.lead.text.length + 1 ≤ statement.text.length := by
      rw [statement.text_eq]
      simp
    omega
  within := by
    intro mark member
    rcases List.mem_cons.mp member with rfl | member
    · omega
    · have after := behind.within mark member
      omega
  found := by
    intro shape place isOpen
    rw [occurrences_statement shape statement isOpen, occurrences_blank rfl,
      behind.found shape (Place.isOpen_newline _), ← List.map_append, ← List.filter_append]
    rfl

theorem last (position : Nat) (statement : Statement) :
    Marks position statement.text [(position + statement.lead.text.length + 1, statement)] where
  inOrder := List.pairwise_singleton _ _
  within := by
    intro mark member
    rw [List.mem_singleton.mp member]
    omega
  found := by
    intro shape place isOpen
    have own := occurrences_statement shape statement isOpen position []
    rw [List.append_nil] at own
    rw [own, occurrences, List.append_nil]

end Marks

/-- A text that spells out statements has a mark for each of them. -/
theorem Spells.exists_marks {code : List Char} {statements : List Statement}
    (spells : Spells code statements) (position : Nat) :
    ∃ marks, Marks position code marks ∧ marks.map Prod.snd = statements := by
  induction spells generalizing position with
  | done => exact ⟨[], ⟨.nil, (fun _ absurd => nomatch absurd), fun _ _ _ => rfl⟩, rfl⟩
  | blank blank rest ih =>
      obtain ⟨marks, behind, same⟩ := ih (position + 1)
      exact ⟨marks, behind.blank blank, same⟩
  | line statement rest ih =>
      obtain ⟨marks, behind, same⟩ := ih (position + statement.text.length + 1)
      exact ⟨_, behind.line statement, by rw [List.map_cons, same]⟩
  | last statement => exact ⟨_, .last position statement, rfl⟩

end Marks

section Order

/-- Entries that are told apart by a key are the entries of all keys together. -/
theorem flatMap_filter_perm {α κ : Type} [DecidableEq κ] (key : α → κ) {keys : List κ}
    (distinct : keys.Nodup) {entries : List α} (known : ∀ entry ∈ entries, key entry ∈ keys) :
    (keys.flatMap fun value => entries.filter fun entry => key entry = value).Perm entries := by
  induction keys generalizing entries with
  | nil =>
      cases entries with
      | nil => exact .nil
      | cons entry entries => exact absurd (known entry (List.mem_cons_self ..)) List.not_mem_nil
  | cons first keys ih =>
      obtain ⟨fresh, distinct⟩ := List.nodup_cons.mp distinct
      have others : (keys.flatMap fun value => entries.filter fun entry => key entry = value) =
          keys.flatMap fun value =>
            (entries.filter fun entry => !decide (key entry = first)).filter fun entry =>
              key entry = value := by
        refine List.flatMap_congr fun value member => ?_
        rw [List.filter_filter]
        refine List.filter_congr fun entry _ => ?_
        by_cases same : key entry = value
        · have different : value ≠ first := by
            rintro rfl
            exact fresh member
          simp [same, different]
        · simp [same]
      rw [List.flatMap_cons, others]
      refine (List.Perm.append_left _ (ih distinct fun entry member => ?_)).trans
        (List.filter_append_perm _ entries)
      obtain ⟨present, different⟩ := List.mem_filter.mp member
      rcases List.mem_cons.mp (known entry present) with same | later
      · simp [same] at different
      · exact later

/-- Entries in the order of their positions are what sorting makes of them. -/
theorem mergeSort_eq_of_perm {α : Type} {entries sorted : List (Nat × α)}
    (perm : entries.Perm sorted)
    (inOrder : sorted.Pairwise fun first second => first.1 < second.1) :
    entries.mergeSort (fun first second => first.1 ≤ second.1) = sorted := by
  have apart : (sorted.map Prod.fst).Nodup :=
    List.pairwise_map.mpr (inOrder.imp Nat.ne_of_lt)
  have found := (List.mergeSort_perm entries fun first second => first.1 ≤ second.1).trans perm
  have transitive (first second third : Nat × α) (left : decide (first.1 ≤ second.1) = true)
      (right : decide (second.1 ≤ third.1) = true) : decide (first.1 ≤ third.1) = true := by
    simp only [decide_eq_true_eq] at left right ⊢
    exact Nat.le_trans left right
  have total (first second : Nat × α) :
      (decide (first.1 ≤ second.1) || decide (second.1 ≤ first.1)) = true := by
    simpa using Nat.le_total first.1 second.1
  refine List.Perm.eq_of_pairwise ?_ (List.pairwise_mergeSort transitive total entries)
    (inOrder.imp fun order => decide_eq_true (Nat.le_of_lt order)) found
  intro first second memberFirst memberSecond left right
  have same : first.1 = second.1 :=
    Nat.le_antisymm (of_decide_eq_true left) (of_decide_eq_true right)
  exact List.inj_on_of_nodup_map apart (found.mem_iff.mp memberFirst) memberSecond same

theorem Spells.scan_eq {source : String} {statements : List Statement}
    (spells : Spells (withoutComments source.toList) statements) :
    scan source = firsts Import.specifier [] (statements.map Statement.written) := by
  obtain ⟨marks, placed, rfl⟩ := spells.exists_marks 0
  have each (shape : Shape) : importsOf (withoutComments source.toList) shape.entry =
      (marks.filter fun mark => mark.2.shape = shape).map fun mark =>
        (mark.1, mark.2.written) := by
    have occurring := placed.found shape Place.isOpen_start
    rw [importsOf, ← Shape.site, ← Shape.form, occurring, List.map_map]
    refine List.map_congr_left fun mark member => ?_
    have own : mark.2.shape = shape := of_decide_eq_true (List.mem_filter.mp member).2
    rw [Statement.written, own]
    rfl
  have together : forms.flatMap (importsOf (withoutComments source.toList)) =
      (Shape.all.flatMap fun shape => marks.filter fun mark => mark.2.shape = shape).map
        fun mark => (mark.1, mark.2.written) := by
    rw [Shape.forms_eq, List.flatMap_map, List.map_flatMap]
    exact List.flatMap_congr fun shape _ => each shape
  have perm := flatMap_filter_perm (fun mark : Nat × Statement => mark.2.shape)
    Shape.nodup_all fun mark (_ : mark ∈ marks) => Shape.mem_all mark.2.shape
  have inOrder : (marks.map fun mark => (mark.1, mark.2.written)).Pairwise
      fun first second => first.1 < second.1 := List.pairwise_map.mpr placed.inOrder
  have sorted := mergeSort_eq_of_perm
    (perm.map fun mark : Nat × Statement => (mark.1, mark.2.written)) inOrder
  change distinct (((forms.flatMap (importsOf (withoutComments source.toList))).mergeSort
    fun first second => first.1 ≤ second.1).map Prod.snd) = _
  rw [together, sorted, distinct_eq_firsts, List.map_map, List.map_map]
  rfl

end Order

end ModuleGraph.ImportScan
