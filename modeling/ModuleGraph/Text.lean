/-
This file splits, joins and compares pieces of text.
-/

namespace ModuleGraph.Text

/-- The pieces between the separators; a text without a separator is one piece. -/
def split (separator : Char) : List Char → List (List Char)
  | [] => [[]]
  | char :: rest =>
      if char = separator then [] :: split separator rest
      else
        match split separator rest with
        | [] => [[char]]
        | piece :: pieces => (char :: piece) :: pieces

/-- The pieces in order, with one separator between neighbours. -/
def join (separator : Char) : List (List Char) → List Char
  | [] => []
  | [piece] => piece
  | piece :: next :: pieces => piece ++ separator :: join separator (next :: pieces)

theorem split_ne_nil (separator : Char) (text : List Char) : split separator text ≠ [] := by
  cases text with
  | nil => simp [split]
  | cons char rest =>
      simp only [split]
      split
      · simp
      · split <;> simp

/-- Joining undoes splitting. -/
theorem join_split (separator : Char) (text : List Char) :
    join separator (split separator text) = text := by
  induction text with
  | nil => rfl
  | cons char rest ih =>
      simp only [split]
      split
      · rename_i equal
        have nonempty := split_ne_nil separator rest
        cases pieces : split separator rest with
        | nil => exact absurd pieces nonempty
        | cons piece others =>
            rw [pieces] at ih
            simp [join, ih, equal]
      · cases pieces : split separator rest with
        | nil => exact absurd pieces (split_ne_nil separator rest)
        | cons piece others =>
            rw [pieces] at ih
            cases others <;> simp_all [join]

/-- No piece holds the separator. -/
theorem not_mem_of_mem_split {separator : Char} {text piece : List Char}
    (member : piece ∈ split separator text) : separator ∉ piece := by
  induction text generalizing piece with
  | nil => simp_all [split]
  | cons char rest ih =>
      simp only [split] at member
      split at member
      · rcases List.mem_cons.mp member with rfl | member
        · simp
        · exact ih member
      · rename_i different
        split at member
        · rename_i empty
          exact absurd empty (split_ne_nil separator rest)
        · rename_i first pieces equal
          rw [equal] at ih
          rcases List.mem_cons.mp member with rfl | member
          · simp [Ne.symm different, ih (List.mem_cons_self ..)]
          · exact ih (List.mem_cons_of_mem _ member)

theorem split_of_not_mem {separator : Char} {piece : List Char} (absent : separator ∉ piece) :
    split separator piece = [piece] := by
  induction piece with
  | nil => rfl
  | cons char rest ih =>
      simp only [List.mem_cons, not_or] at absent
      simp [split, ih absent.2, Ne.symm absent.1]

/-- The first separator ends the first piece. -/
theorem split_append_cons {separator : Char} {piece : List Char} (absent : separator ∉ piece)
    (rest : List Char) :
    split separator (piece ++ separator :: rest) = piece :: split separator rest := by
  induction piece with
  | nil => simp [split]
  | cons char piece ih =>
      simp only [List.mem_cons, not_or] at absent
      simp [split, ih absent.2, Ne.symm absent.1]

/-- Splitting undoes joining. -/
theorem split_join {separator : Char} {pieces : List (List Char)} (nonempty : pieces ≠ [])
    (absent : ∀ piece ∈ pieces, separator ∉ piece) :
    split separator (join separator pieces) = pieces := by
  induction pieces with
  | nil => contradiction
  | cons piece pieces ih =>
      cases pieces with
      | nil => exact split_of_not_mem (absent piece (List.mem_cons_self ..))
      | cons next pieces =>
          rw [join, split_append_cons (absent piece (List.mem_cons_self ..)), ih (by simp)]
          exact fun other member => absent other (List.mem_cons_of_mem _ member)

/-- The value of a hexadecimal digit in either case. -/
def hexValue? (char : Char) : Option Nat :=
  if char.isDigit then some (char.toNat - 48)
  else if 'a' ≤ char && char ≤ 'f' then some (char.toNat - 87)
  else if 'A' ≤ char && char ≤ 'F' then some (char.toNat - 55)
  else none

/-- The character of a code point. Surrogates are none. -/
def charOfCode? (code : Nat) : Option Char :=
  if code.isValidChar then some (Char.ofNat code) else none

/-- The number that decimal digits spell. -/
def decimalValue (digits : List Char) : Nat :=
  digits.foldl (fun value digit => 10 * value + (digit.toNat - 48)) 0

def startsWith (text start : String) : Bool :=
  start.toList.isPrefixOf text.toList

def endsWith (text ending : String) : Bool :=
  ending.toList.isSuffixOf text.toList

/-- What follows `start` in a text that begins with it. -/
def dropStart? (text start : String) : Option String :=
  if startsWith text start then some (String.ofList (text.toList.drop start.toList.length))
  else none

/-- What precedes `ending` in a text that ends with it. -/
def dropEnd? (text ending : String) : Option String :=
  if endsWith text ending then
    some (String.ofList (text.toList.take (text.toList.length - ending.toList.length)))
  else none

def isAscii (text : List Char) : Bool :=
  text.all (·.toNat < 128)

/-- The text with ASCII capitals made small. -/
def lowerAscii (text : String) : String :=
  String.ofList (text.toList.map Char.toLower)

/-- The text without the slashes at its end. -/
def trimSlashes (text : List Char) : List Char :=
  (text.reverse.dropWhile (· == '/')).reverse

end ModuleGraph.Text
