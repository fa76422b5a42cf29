/-
This file shows that the key of a resource forgets the order of the parameters and nothing else,
whatever characters their names and values hold.
-/

import ModuleGraph.Cache.Key
import ModuleGraph.Proofs.Text.ByteOrder
import Mathlib.Data.List.Basic

namespace ModuleGraph

namespace Url

theorem hexValue?_upperHexDigit {value : Nat} (digit : value < 16) :
    Text.hexValue? (upperHexDigit value) = some value := by
  have each : ∀ value : Fin 16, Text.hexValue? (upperHexDigit value) = some value.val := by decide
  exact each ⟨value, digit⟩

/-- Decoding undoes the encoding of a byte. -/
theorem percentDecode_percentByte_append (byte : UInt8) (text : List Char) :
    percentDecode (percentByte byte ++ text) = byte :: percentDecode text := by
  have size : byte.toNat < 256 := byte.toNat_lt
  have high : Text.hexValue? (upperHexDigit (byte.toNat / 16)) = some (byte.toNat / 16) :=
    hexValue?_upperHexDigit (by omega)
  have low : Text.hexValue? (upperHexDigit (byte.toNat % 16)) = some (byte.toNat % 16) :=
    hexValue?_upperHexDigit (by omega)
  have whole : 16 * (byte.toNat / 16) + byte.toNat % 16 = byte.toNat := Nat.div_add_mod ..
  rw [percentByte, List.cons_append, List.cons_append, List.cons_append, List.nil_append,
    percentDecode]
  simp only [high, low, whole, UInt8.ofNat_toNat]

/-- Decoding undoes the encoding of a character. -/
theorem percentDecode_percentChar_append (char : Char) (text : List Char) :
    percentDecode (percentChar char ++ text) =
      String.utf8EncodeChar char ++ percentDecode text := by
  rw [percentChar]
  induction String.utf8EncodeChar char with
  | nil => rfl
  | cons byte bytes ih =>
      rw [List.flatMap_cons, List.append_assoc, percentDecode_percentByte_append, ih,
        List.cons_append]

/-- A character other than a percent sign stands for itself. -/
theorem percentDecode_cons {char : Char} (plain : char ≠ '%') (text : List Char) :
    percentDecode (char :: text) = String.utf8EncodeChar char ++ percentDecode text := by
  rw [percentDecode]
  intro _ _ _ percent
  exact absurd percent plain

end Url

namespace Cache

section Encoding

theorem isFormSafe_upperHexDigit {value : Nat} (digit : value < 16) :
    isFormSafe (Url.upperHexDigit value) = true := by
  have each : ∀ value : Fin 16, isFormSafe (Url.upperHexDigit value) = true := by decide
  exact each ⟨value, digit⟩

theorem mem_percentChar {char mark : Char} (member : mark ∈ Url.percentChar char) :
    mark = '%' ∨ isFormSafe mark = true := by
  obtain ⟨byte, -, member⟩ := List.mem_flatMap.mp member
  have size : byte.toNat < 256 := byte.toNat_lt
  simp only [Url.percentByte, List.mem_cons, List.not_mem_nil, or_false] at member
  rcases member with rfl | rfl | rfl
  · exact .inl rfl
  · exact .inr (isFormSafe_upperHexDigit (by omega))
  · exact .inr (isFormSafe_upperHexDigit (by omega))

/-- A form holds plus signs, percent signs and the characters that it keeps. -/
theorem mem_formEncode {text : String} {mark : Char} (member : mark ∈ formEncode text) :
    mark = '+' ∨ mark = '%' ∨ isFormSafe mark = true := by
  obtain ⟨char, -, member⟩ := List.mem_flatMap.mp member
  split at member
  · exact .inl (List.mem_singleton.mp member)
  split at member
  · rename_i safe
    rw [List.mem_singleton.mp member]
    exact .inr (.inr safe)
  · exact .inr (mem_percentChar member)

/-- No separator of a query occurs in a form. -/
theorem not_mem_formEncode {separator : Char} (escaped : isFormSafe separator = false)
    (plus : separator ≠ '+') (percent : separator ≠ '%') (text : String) :
    separator ∉ formEncode text := by
  intro member
  rcases mem_formEncode member with equal | equal | safe
  · exact plus equal
  · exact percent equal
  · rw [escaped] at safe
    cases safe

/-- The bytes that a form stands for. -/
def formDecode (encoded : List Char) : List UInt8 :=
  Url.percentDecode (encoded.map fun mark => if mark = '+' then ' ' else mark)

/-- Decoding undoes the encoding of a character. -/
theorem formDecode_append (char : Char) (rest : List Char) :
    formDecode ((if char = ' ' then ['+'] else if isFormSafe char then [char]
      else Url.percentChar char) ++ rest) = String.utf8EncodeChar char ++ formDecode rest := by
  unfold formDecode
  split
  · rename_i blank
    rw [blank]
    exact Url.percentDecode_cons (by decide) _
  split
  · rename_i safe
    have plus : char ≠ '+' := by
      rintro rfl
      exact absurd safe (by decide)
    have percent : char ≠ '%' := by
      rintro rfl
      exact absurd safe (by decide)
    rw [List.singleton_append, List.map_cons, if_neg plus, Url.percentDecode_cons percent]
  · have kept : (Url.percentChar char).map (fun mark => if mark = '+' then ' ' else mark) =
        Url.percentChar char := by
      refine (List.map_congr_left fun mark member => ?_).trans (List.map_id _)
      have plus : mark ≠ '+' := by
        rintro rfl
        rcases mem_percentChar member with percent | safe
        · exact absurd percent (by decide)
        · exact absurd safe (by decide)
      exact if_neg plus
    rw [List.map_append, kept, Url.percentDecode_percentChar_append]

/-- Decoding undoes the encoding of a text. -/
theorem formDecode_formEncode (text : String) : formDecode (formEncode text) = Text.bytes text := by
  rw [Text.bytes_eq, formEncode]
  induction text.toList with
  | nil => simp [formDecode, Url.percentDecode]
  | cons char rest ih => rw [List.flatMap_cons, List.flatMap_cons, formDecode_append, ih]

theorem formEncode_injective {first second : String}
    (equal : formEncode first = formEncode second) : first = second := by
  have bytes : Text.bytes first = Text.bytes second := by
    rw [← formDecode_formEncode, equal, formDecode_formEncode]
  rw [Text.bytes, Text.bytes, Array.toList_inj] at bytes
  exact String.toByteArray_inj.mp (ByteArray.ext bytes)

/-- A name and its value are told apart by the equals sign between them. -/
theorem formPair_injective {first second : String × String}
    (equal : formPair first = formPair second) : first = second := by
  have separate (text : String) : '=' ∉ formEncode text :=
    not_mem_formEncode (by decide) (by decide) (by decide) text
  have pieces (pair : String × String) :
      Text.split '=' (formPair pair) = [formEncode pair.1, formEncode pair.2] := by
    rw [formPair, Text.split_append_cons (separate pair.1), Text.split_of_not_mem (separate pair.2)]
  have same : [formEncode first.1, formEncode first.2] =
      [formEncode second.1, formEncode second.2] := by rw [← pieces, equal, pieces]
  obtain ⟨names, values⟩ : formEncode first.1 = formEncode second.1 ∧
      formEncode first.2 = formEncode second.2 := by simpa using same
  exact Prod.ext (formEncode_injective names) (formEncode_injective values)

theorem not_mem_formPair (pair : String × String) : '&' ∉ formPair pair := by
  have separate (text : String) : '&' ∉ formEncode text :=
    not_mem_formEncode (by decide) (by decide) (by decide) text
  simp [formPair, separate]

/-- Parameters that are written one after the other can be read off again. -/
theorem eq_of_join_eq {first second : List (String × String)} (nonempty : first ≠ [])
    (nonemptyOther : second ≠ [])
    (equal : Text.join '&' (first.map formPair) = Text.join '&' (second.map formPair)) :
    first = second := by
  have pieces {parameters : List (String × String)} (nonempty : parameters ≠ []) :
      Text.split '&' (Text.join '&' (parameters.map formPair)) = parameters.map formPair := by
    refine Text.split_join (by simpa using nonempty) ?_
    intro piece member
    obtain ⟨pair, -, rfl⟩ := List.mem_map.mp member
    exact not_mem_formPair pair
  have same : first.map formPair = second.map formPair := by
    rw [← pieces nonempty, equal, pieces nonemptyOther]
  exact List.map_injective_iff.mpr (fun _ _ => formPair_injective) same

end Encoding

section Order

theorem pairLe_iff {first second : String × String} :
    pairLe first second = true ↔
      first.1 < second.1 ∨ first.1 = second.1 ∧ first.2 ≤ second.2 := by
  simp only [pairLe, Bool.or_eq_true, Bool.and_eq_true, decide_eq_true_eq, beq_iff_eq,
    Bool.not_eq_true', decide_eq_false_iff_not, String.not_lt]

theorem pairLe_trans (first second third : String × String) (early : pairLe first second = true)
    (late : pairLe second third = true) : pairLe first third = true := by
  rw [pairLe_iff] at early late ⊢
  rcases early with early | ⟨same, early⟩
  · rcases late with late | ⟨same, -⟩
    · exact .inl (String.lt_trans early late)
    · exact .inl (same ▸ early)
  · rcases late with late | ⟨equal, late⟩
    · exact .inl (same ▸ late)
    · exact .inr ⟨same.trans equal, String.le_trans early late⟩

theorem pairLe_total (first second : String × String) :
    (pairLe first second || pairLe second first) = true := by
  rw [Bool.or_eq_true, pairLe_iff, pairLe_iff]
  by_cases early : first.1 < second.1
  · exact .inl (.inl early)
  by_cases late : second.1 < first.1
  · exact .inr (.inl late)
  have same : first.1 = second.1 :=
    String.le_antisymm (String.not_lt.mp late) (String.not_lt.mp early)
  rcases String.le_total first.2 second.2 with values | values
  · exact .inl (.inr ⟨same, values⟩)
  · exact .inr (.inr ⟨same.symm, values⟩)

theorem pairLe_antisymm {first second : String × String} (early : pairLe first second = true)
    (late : pairLe second first = true) : first = second := by
  rw [pairLe_iff] at early late
  rcases early with early | ⟨same, early⟩
  · rcases late with late | ⟨same, -⟩
    · exact absurd late (String.lt_asymm early)
    · exact absurd (same ▸ early) (String.lt_irrefl _)
  · rcases late with late | ⟨-, late⟩
    · exact absurd (same ▸ late) (String.lt_irrefl _)
    · exact Prod.ext same (String.le_antisymm early late)

/-- Two lists of parameters are the same in order exactly if one is the other in another order. -/
theorem mergeSort_eq_iff_perm {first second : List (String × String)} :
    first.mergeSort pairLe = second.mergeSort pairLe ↔ first.Perm second := by
  constructor
  · intro equal
    exact (List.mergeSort_perm first pairLe).symm.trans
      (equal ▸ List.mergeSort_perm second pairLe)
  · intro perm
    have sorted (parameters : List (String × String)) :
        (parameters.mergeSort pairLe).Pairwise fun early late => pairLe early late = true :=
      List.pairwise_mergeSort pairLe_trans pairLe_total parameters
    refine List.Perm.eq_of_pairwise (fun _ _ _ _ => pairLe_antisymm) (sorted first)
      (sorted second) ?_
    exact (List.mergeSort_perm first pairLe).trans
      (perm.trans (List.mergeSort_perm second pairLe).symm)

end Order

section Keys

/-- Parameters make a key longer. -/
theorem key_of_ne_nil (url : String) {parameters : List (String × String)}
    (nonempty : parameters ≠ []) :
    key url parameters = url ++ (if url.toList.contains '?' then "&" else "?") ++
      String.ofList (Text.join '&' ((parameters.mergeSort pairLe).map formPair)) := by
  rw [key, if_neg (by simpa using nonempty)]

theorem key_ne_url (url : String) {parameters : List (String × String)}
    (nonempty : parameters ≠ []) : key url parameters ≠ url := by
  rw [key_of_ne_nil url nonempty, String.append_assoc]
  intro equal
  have mark : 0 < (if url.toList.contains '?' then "&" else "?").length := by
    split <;> decide
  have size := congrArg String.length equal
  rw [String.length_append, String.length_append] at size
  omega

/-- Two lists of parameters give a URL the same key exactly if they differ in their order alone. -/
theorem key_eq_iff_perm (url : String) (first second : List (String × String)) :
    key url first = key url second ↔ first.Perm second := by
  have empty : key url [] = url := rfl
  by_cases bare : first = []
  · by_cases bareOther : second = []
    · simp [bare, bareOther]
    · rw [bare, empty, List.nil_perm]
      exact iff_of_false (key_ne_url url bareOther).symm bareOther
  by_cases bareOther : second = []
  · rw [bareOther, empty, List.perm_nil]
    exact iff_of_false (key_ne_url url bare) bare
  have nonempty {parameters : List (String × String)} (filled : parameters ≠ []) :
      parameters.mergeSort pairLe ≠ [] := fun sorted =>
    filled (List.perm_nil.mp (sorted ▸ (List.mergeSort_perm parameters pairLe).symm))
  rw [key_of_ne_nil url bare, key_of_ne_nil url bareOther, String.append_right_inj,
    String.ofList_inj, ← mergeSort_eq_iff_perm]
  constructor
  · exact eq_of_join_eq (nonempty bare) (nonempty bareOther)
  · intro equal
    rw [equal]

end Keys

end Cache

end ModuleGraph
