/-
This file shows what is left of a text when its comments are taken out.
-/

import Mathlib.Data.List.TakeWhile
import ModuleGraph.ImportScan.Comments

namespace ModuleGraph.ImportScan

section Blocks

/-- The text behind a comment starts after the first end of a comment. -/
theorem afterBlock?_append {text : List Char} (inside : ¬ ['*', '/'] <:+: text)
    (rest : List Char) : afterBlock? (text ++ '*' :: '/' :: rest) = some rest := by
  induction text with
  | nil => rfl
  | cons char text ih =>
      have further : ¬ ['*', '/'] <:+: text := fun part =>
        inside (part.trans (List.suffix_cons char text).isInfix)
      have early : ∀ more, char = '*' → text ++ '*' :: '/' :: rest = '/' :: more → False := by
        rintro more rfl starts
        cases text with
        | nil => cases starts
        | cons next text =>
            cases starts
            exact inside ⟨[], text, rfl⟩
      rw [List.cons_append, afterBlock?.eq_3 _ _ early]
      exact ih further

/-- Without an end there is no text behind a comment. -/
theorem afterBlock?_eq_none {text : List Char} (endless : ¬ ['*', '/'] <:+: text) :
    afterBlock? text = none := by
  fun_induction afterBlock? text with
  | case1 => rfl
  | case2 rest => exact absurd ⟨[], rest, rfl⟩ endless
  | case3 char rest _ ih =>
      exact ih fun part => endless (part.trans (List.suffix_cons char rest).isInfix)

/-- No comment opens in front of two other characters. -/
theorem shut_of_ne {first second : Char} {rest : List Char} (other : (first, second) ≠ ('/', '*')) :
    ¬ ['/', '*'] <+: first :: second :: rest := by
  intro opens
  obtain ⟨same, starts⟩ := List.cons_prefix_cons.mp opens
  exact other (Prod.ext same.symm (List.cons_prefix_cons.mp starts).1.symm)

/-- Up to `rest`, what stands outside the block comments of a text is `left`. The text is taken with
`rest` behind it, where a comment that opens before may have its end. -/
inductive Cleared : List Char → List Char → List Char → Prop
  | done {rest : List Char} : Cleared rest [] rest
  | block {text : List Char} (inside : ¬ ['*', '/'] <:+: text) {input left rest : List Char}
      (cleared : Cleared input left rest) :
      Cleared ('/' :: '*' :: (text ++ '*' :: '/' :: input)) left rest
  | char {char : Char} {input left rest : List Char} (shut : ¬ ['/', '*'] <+: char :: input)
      (cleared : Cleared input left rest) : Cleared (char :: input) (char :: left) rest
  /-- What opens and never ends is no comment, and there is none behind it. -/
  | endless {text rest : List Char} (endless : ¬ ['*', '/'] <:+: text ++ rest) :
      Cleared ('/' :: '*' :: (text ++ rest)) ('/' :: '*' :: text) rest

namespace Cleared

variable {input left rest : List Char}

/-- A text in which no comment opens is kept. -/
theorem of_shut {front : List Char} (shut : ¬ ['/', '*'] <:+: front)
    (apart : rest.head? ≠ some '*') : Cleared (front ++ rest) front rest := by
  induction front with
  | nil => exact .done
  | cons char front ih =>
      refine .char (fun opens => ?_) (ih fun part => shut ?_)
      · obtain ⟨rfl, starts⟩ := List.cons_prefix_cons.mp opens
        cases front with
        | nil =>
            obtain ⟨more, rfl⟩ := starts
            exact apart rfl
        | cons next front =>
            obtain ⟨rfl, -⟩ := List.cons_prefix_cons.mp starts
            exact shut ⟨[], front, rfl⟩
      · exact part.trans (List.suffix_cons char front).isInfix

/-- Nothing is taken out of a text without the end of a comment. -/
theorem input_eq_of_endless (cleared : Cleared input left rest)
    (endless : ¬ ['*', '/'] <:+: input) : input = left ++ rest := by
  induction cleared with
  | done => rfl
  | @block text inside input left rest cleared ih =>
      exact absurd ⟨'/' :: '*' :: text, input, by simp⟩ endless
  | @char char input left rest shut cleared ih =>
      rw [ih fun part => endless (part.trans (List.suffix_cons char input).isInfix)]
      rfl
  | endless => rfl

theorem append {middle more : List Char} (first : Cleared input left middle)
    (second : Cleared middle more rest) : Cleared input (left ++ more) rest := by
  induction first with
  | done => exact second
  | block inside first ih => exact .block inside (ih second)
  | char shut first ih => exact .char shut (ih second)
  | @endless text middle endless =>
      have kept := second.input_eq_of_endless fun part =>
        endless (part.trans (List.suffix_append text middle).isInfix)
      rw [kept, ← List.append_assoc] at endless ⊢
      exact .endless endless

theorem withoutBlocks_eq (cleared : Cleared input left []) : withoutBlocks input = left := by
  generalize ended : ([] : List Char) = rest at cleared
  induction cleared with
  | done =>
      subst ended
      exact withoutBlocks.eq_1
  | @block text inside input left rest cleared ih =>
      rw [withoutBlocks]
      split
      · rename_i after found
        rw [afterBlock?_append inside] at found
        cases found
        exact ih ended
      · rename_i missed
        rw [afterBlock?_append inside] at missed
        cases missed
  | @char char input left rest shut cleared ih =>
      have kept : ∀ more, char = '/' → input = '*' :: more → False := by
        rintro more rfl rfl
        exact shut ⟨more, rfl⟩
      rw [withoutBlocks.eq_3 _ _ kept, ih ended]
  | @endless text rest endless =>
      subst ended
      rw [withoutBlocks]
      split
      · rename_i after found
        rw [afterBlock?_eq_none endless] at found
        cases found
      · rw [List.append_nil]

end Cleared

end Blocks

section Lines

theorem withoutLines_nil (fresh : Bool) : withoutLines fresh [] = [] := by
  rw [withoutLines]

theorem withoutLines_stale (char : Char) (rest : List Char) :
    withoutLines false (char :: rest) = char :: withoutLines (char == '\n') rest := by
  rw [withoutLines]
  rfl

/-- At the start of a line, the first characters that are not blanks decide. -/
theorem withoutLines_true (text : List Char) :
    withoutLines true text = match text.dropWhile isBlank with
      | '/' :: '/' :: comment => withoutLines false (comment.dropWhile (· != '\n'))
      | [] => text
      | first :: more =>
          text.takeWhile isBlank ++ first :: withoutLines (first == '\n') more := by
  cases text with
  | nil => exact withoutLines_nil true
  | cons char rest =>
      rw [withoutLines, if_pos rfl]
      split
      · rename_i comment found
        rw [found]
        rfl
      · rename_i found
        rw [found]
      · rename_i first more other found
        rw [found]
        split
        · rename_i comment same
          cases same
          exact (other comment rfl rfl).elim
        · rename_i empty
          cases empty
        · rename_i same
          cases same
          rfl

/-- Blanks are kept if no comment follows them. -/
theorem withoutLines_blanks {blanks : List Char}
    (blank : ∀ char ∈ blanks, isBlank char = true) : withoutLines true blanks = blanks := by
  have dropped : (blanks ++ []).dropWhile isBlank = [] := List.dropWhile_append_of_pos blank
  rw [List.append_nil] at dropped
  rw [withoutLines_true, dropped]

/-- A comment goes up to the end of its line. -/
theorem withoutLines_comment {blanks : List Char}
    (blank : ∀ char ∈ blanks, isBlank char = true) {text : List Char} (single : '\n' ∉ text)
    {rest : List Char} (ends : rest = [] ∨ rest.head? = some '\n') :
    withoutLines true (blanks ++ '/' :: '/' :: (text ++ rest)) = withoutLines false rest := by
  have dropped : (blanks ++ '/' :: '/' :: (text ++ rest)).dropWhile isBlank =
      '/' :: '/' :: (text ++ rest) := by
    rw [List.dropWhile_append_of_pos blank]
    rfl
  have inside : ∀ char ∈ text, (char != '\n') = true := by
    intro char member
    have different : char ≠ '\n' := by
      rintro rfl
      exact single member
    simpa using different
  have behind : (text ++ rest).dropWhile (· != '\n') = rest := by
    rw [List.dropWhile_append_of_pos inside]
    rcases ends with rfl | newline
    · rfl
    · obtain ⟨more, rfl⟩ := List.head?_eq_some_iff.mp newline
      rfl
  rw [withoutLines_true, dropped]
  change withoutLines false ((text ++ rest).dropWhile (· != '\n')) = _
  rw [behind]

theorem newline_of_solid {char : Char} (solid : isBlank char = false) : (char == '\n') = false := by
  rw [beq_eq_false_iff_ne]
  rintro rfl
  cases solid

/-- No comment starts where a character stands that is no slash. -/
theorem withoutLines_solid {blanks : List Char} (blank : ∀ char ∈ blanks, isBlank char = true)
    {char : Char} (solid : isBlank char = false) (other : char ≠ '/') (rest : List Char) :
    withoutLines true (blanks ++ char :: rest) = blanks ++ char :: withoutLines false rest := by
  have taken : (blanks ++ char :: rest).takeWhile isBlank = blanks := by
    rw [List.takeWhile_append_of_pos blank, List.takeWhile_cons, solid]
    exact List.append_nil blanks
  have dropped : (blanks ++ char :: rest).dropWhile isBlank = char :: rest := by
    rw [List.dropWhile_append_of_pos blank, List.dropWhile_cons, solid]
    rfl
  rw [withoutLines_true, dropped, taken]
  split
  · rename_i same
    cases same
    exact absurd rfl other
  · rename_i empty
    cases empty
  · rename_i same
    cases same
    rw [newline_of_solid solid]

/-- A text is blank, or blanks stand in front of its first other character. -/
theorem blank_or_exists_solid (text : List Char) :
    (∀ char ∈ text, isBlank char = true) ∨
      ∃ blanks first rest, blanks ++ first :: rest = text ∧
        (∀ char ∈ blanks, isBlank char = true) ∧ isBlank first = false := by
  have parts : text.takeWhile isBlank ++ text.dropWhile isBlank = text :=
    List.takeWhile_append_dropWhile
  have blank : ∀ char ∈ text.takeWhile isBlank, isBlank char = true := fun _ member =>
    List.mem_takeWhile_imp member
  have head := List.head?_dropWhile_not isBlank text
  cases remaining : text.dropWhile isBlank with
  | nil =>
      rw [remaining, List.append_nil] at parts
      rw [parts] at blank
      exact .inl blank
  | cons first rest =>
      rw [remaining] at parts head
      exact .inr ⟨_, first, rest, parts, blank, by simpa using head⟩

/-- A text without slashes is kept up to what follows it, if that starts with a character that is
neither a blank nor a slash. -/
theorem withoutLines_append {front : List Char} (plain : '/' ∉ front) {char : Char}
    (solid : isBlank char = false) (other : char ≠ '/') (fresh : Bool) (rest : List Char) :
    withoutLines fresh (front ++ char :: rest) = front ++ char :: withoutLines false rest := by
  cases fresh with
  | false =>
      cases front with
      | nil => rw [List.nil_append, withoutLines_stale, newline_of_solid solid, List.nil_append]
      | cons first front =>
          have others : '/' ∉ front := fun member => plain (List.mem_cons_of_mem _ member)
          rw [List.cons_append, withoutLines_stale,
            withoutLines_append others solid other (first == '\n') rest, List.cons_append]
  | true =>
      rcases blank_or_exists_solid front with blank | ⟨blanks, first, back, parts, blank, bare⟩
      · exact withoutLines_solid blank solid other rest
      · rw [← parts] at plain
        have different : first ≠ '/' := by
          rintro rfl
          exact plain (by simp)
        have others : '/' ∉ back := fun member => plain (by simp [member])
        have shorter : back.length < front.length := by
          rw [← parts]
          simp
          omega
        rw [← parts, List.append_assoc, List.cons_append, withoutLines_solid blank bare different,
          withoutLines_append others solid other false rest]
        simp only [List.append_assoc, List.cons_append]
termination_by front.length

/-- Within a line that has begun, everything is kept. -/
theorem withoutLines_line {front : List Char} (single : '\n' ∉ front) (rest : List Char) :
    withoutLines false (front ++ rest) = front ++ withoutLines false rest := by
  induction front with
  | nil => rfl
  | cons char front ih =>
      rw [List.mem_cons, not_or] at single
      have newline : (char == '\n') = false := beq_eq_false_iff_ne.mpr (Ne.symm single.1)
      rw [List.cons_append, withoutLines_stale, newline, ih single.2, List.cons_append]

end Lines

end ModuleGraph.ImportScan
