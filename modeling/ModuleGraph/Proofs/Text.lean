/-
This file relates the starts and ends of texts to concatenation.
-/

import ModuleGraph.Text

namespace ModuleGraph.Text

theorem startsWith_iff {text start : String} :
    startsWith text start = true ↔ ∃ rest, text = start ++ rest := by
  rw [startsWith, List.isPrefixOf_iff_prefix]
  constructor
  · rintro ⟨rest, equal⟩
    refine ⟨String.ofList rest, ?_⟩
    rw [← String.toList_inj, String.toList_append, String.toList_ofList, equal]
  · rintro ⟨rest, rfl⟩
    rw [String.toList_append]
    exact List.prefix_append _ _

theorem endsWith_iff {text ending : String} :
    endsWith text ending = true ↔ ∃ front, text = front ++ ending := by
  rw [endsWith, List.isSuffixOf_iff_suffix]
  constructor
  · rintro ⟨front, equal⟩
    refine ⟨String.ofList front, ?_⟩
    rw [← String.toList_inj, String.toList_append, String.toList_ofList, equal]
  · rintro ⟨front, rfl⟩
    rw [String.toList_append]
    exact List.suffix_append _ _

/-- Every separator ends a piece. -/
theorem split_append_separator (separator : Char) (first second : List Char) :
    split separator (first ++ separator :: second) =
      split separator first ++ split separator second := by
  induction first with
  | nil => simp [split]
  | cons char first ih =>
      rw [List.cons_append, split, split, ih]
      split
      · rfl
      · cases pieces : split separator first with
        | nil => exact absurd pieces (split_ne_nil separator first)
        | cons piece pieces => rfl

/-- A text without a separator joins the first piece of what follows it. -/
theorem split_append_of_not_mem {separator : Char} {front rest piece : List Char}
    {pieces : List (List Char)} (absent : separator ∉ front)
    (follows : split separator rest = piece :: pieces) :
    split separator (front ++ rest) = (front ++ piece) :: pieces := by
  induction front with
  | nil => exact follows
  | cons char front ih =>
      rw [List.mem_cons, not_or] at absent
      rw [List.cons_append, split, if_neg (Ne.symm absent.1), ih absent.2]
      rfl

/-- Dropping the start of a concatenation leaves its rest. -/
theorem dropStart?_append (start rest : String) : dropStart? (start ++ rest) start = some rest := by
  have begins : startsWith (start ++ rest) start = true := startsWith_iff.mpr ⟨rest, rfl⟩
  rw [dropStart?, if_pos begins, String.toList_append, List.drop_left, String.ofList_toList]

/-- A start of a text that is as long as the text is the whole text. -/
theorem eq_of_prefix_of_size_eq {short long : String} (start : short.toList <+: long.toList)
    (size : short.utf8ByteSize = long.utf8ByteSize) : short = long := by
  obtain ⟨rest, equal⟩ := start
  have whole : long = short ++ String.ofList rest := by
    rw [← String.toList_inj, String.toList_append, String.toList_ofList, equal]
  have empty : (String.ofList rest).utf8ByteSize = 0 := by
    rw [whole, String.utf8ByteSize_append] at size
    omega
  rw [whole, String.utf8ByteSize_eq_zero_iff.mp empty, String.append_empty]

/-- Two starts of one text are equal as soon as they have the same size. -/
theorem eq_of_startsWith_of_size_eq {text first second : String}
    (startsFirst : startsWith text first = true) (startsSecond : startsWith text second = true)
    (size : first.utf8ByteSize = second.utf8ByteSize) : first = second := by
  rw [startsWith, List.isPrefixOf_iff_prefix] at startsFirst startsSecond
  rcases List.prefix_or_prefix_of_prefix startsFirst startsSecond with start | start
  · exact eq_of_prefix_of_size_eq start size
  · exact (eq_of_prefix_of_size_eq start size.symm).symm

end ModuleGraph.Text
