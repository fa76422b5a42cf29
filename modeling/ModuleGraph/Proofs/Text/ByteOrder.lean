/-
This file shows that texts are in the order of their bytes in UTF-8.
-/

import Mathlib.Tactic.SplitIfs

namespace ModuleGraph.Text

/-- The bytes of a text in UTF-8. -/
def bytes (text : String) : List UInt8 :=
  text.toUTF8.data.toList

theorem bytes_eq (text : String) : bytes text = text.toList.flatMap String.utf8EncodeChar := by
  have spelled : text.toUTF8 = (text.toList.flatMap String.utf8EncodeChar).toByteArray := by
    calc text.toUTF8 = (String.ofList text.toList).toUTF8 := by rw [String.ofList_toList]
      _ = (text.toList.flatMap String.utf8EncodeChar).toByteArray := rfl
  rw [bytes, spelled, List.toList_data_toByteArray]

/-- The digits in base 64 of a smaller number are smaller, the leading ones first. -/
theorem digits_lt {low high : Nat} (less : low < high) :
    low / 262144 < high / 262144 ∨ low / 262144 = high / 262144 ∧
      (low / 4096 % 64 < high / 4096 % 64 ∨ low / 4096 % 64 = high / 4096 % 64 ∧
        (low / 64 % 64 < high / 64 % 64 ∨ low / 64 % 64 = high / 64 % 64 ∧
          low % 64 < high % 64)) := by
  have step {small large : Nat} (less : small < large) : small / 64 < large / 64 ∨
      small / 64 = large / 64 ∧ small % 64 < large % 64 := by omega
  have second (number : Nat) : number / 64 / 64 = number / 4096 := by omega
  have third (number : Nat) : number / 4096 / 64 = number / 262144 := by omega
  rcases step less with higher | ⟨same, last⟩
  · have next := step higher
    rw [second, second] at next
    rcases next with higher | ⟨same, middle⟩
    · have top := step higher
      rw [third, third] at top
      omega
    · omega
  · omega

/-- The bytes of a smaller character are smaller, whatever follows them. -/
theorem encode_append_lt {first second : Char} (less : first < second)
    (rest other : List UInt8) :
    String.utf8EncodeChar first ++ rest < String.utf8EncodeChar second ++ other := by
  have value : first.val.toNat < second.val.toNat := UInt32.lt_iff_toNat_lt.mp less
  have bound : second.val.toNat < 1114112 := by
    have := second.valid
    simp only [UInt32.isValidChar, Nat.isValidChar] at this
    omega
  -- Every byte is a digit with a mark that says how many bytes follow.
  have last (number : Nat) : (number % 64 + 128) % 2 ^ 8 = number % 64 + 128 := by omega
  have ofTwo (number : Nat) : (number % 32 + 192) % 2 ^ 8 = number % 32 + 192 := by omega
  have ofThree (number : Nat) : (number % 16 + 224) % 2 ^ 8 = number % 16 + 224 := by omega
  simp only [String.utf8EncodeChar]
  generalize first.val.toNat = low at *
  generalize second.val.toNat = high at *
  have digits := digits_lt value
  have lowOfFour : (low / 262144 % 8 + 240) % 2 ^ 8 = low / 262144 + 240 := by omega
  have highOfFour : (high / 262144 % 8 + 240) % 2 ^ 8 = high / 262144 + 240 := by omega
  split_ifs <;>
    simp only [List.cons_append, List.cons_lt_cons_iff, UInt8.lt_iff_toNat_lt, ← UInt8.toNat_inj,
      UInt8.toNat_ofNat', last, ofTwo, ofThree, lowOfFour, highOfFour] <;>
    omega

/-- The bytes of a smaller text are smaller. -/
theorem flatMap_encode_lt {first second : List Char} (less : first < second) :
    first.flatMap String.utf8EncodeChar < second.flatMap String.utf8EncodeChar := by
  induction less with
  | @nil char rest =>
      obtain ⟨byte, bytes, encoded⟩ :=
        List.exists_cons_of_ne_nil (@String.utf8EncodeChar_ne_nil char)
      rw [List.flatMap_cons, encoded]
      exact .nil
  | cons tail ih => exact List.append_left_lt ih
  | rel head => exact encode_append_lt head _ _

theorem bytes_lt_of_lt {first second : String} (less : first < second) :
    bytes first < bytes second := by
  rw [bytes_eq, bytes_eq]
  exact flatMap_encode_lt less

end ModuleGraph.Text
