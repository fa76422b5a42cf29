/-
This file writes labels with other characters in ASCII and decodes them: first the characters that
are ASCII themselves, then one number for each other character, which says where it goes and which
one it is.
-/

import ModuleGraph.Text

namespace ModuleGraph.Url.Punycode

/-- The letters are the digits from zero on, and the decimal digits follow them. -/
def digitValue? (char : Char) : Option Nat :=
  if char.isLower then some (char.toNat - 97)
  else if char.isDigit then some (char.toNat - 48 + 26)
  else none

def digitOf (value : Nat) : Char :=
  if value < 26 then Char.ofNat (97 + value) else Char.ofNat (48 + (value - 26))

/-- The first place of a number. The places are 36 apart. -/
def firstPlace : Nat :=
  36

/-- A digit below the threshold of its place is the last one of its number. -/
def threshold (place bias : Nat) : Nat :=
  max 1 (min 26 (place - bias))

theorem threshold_bounds (place bias : Nat) :
    1 ≤ threshold place bias ∧ threshold place bias ≤ 26 := by
  unfold threshold
  omega

section Bias

/-- The bias for numbers of the size of `delta`, from a place on. -/
def biasFrom (place delta : Nat) : Nat :=
  if 455 < delta then biasFrom (place + 36) (delta / 35)
  else place + 36 * delta / (delta + 38)
termination_by delta
decreasing_by omega

/-- The bias after a number; the first number of a label is larger than those that follow. -/
def adapt (delta count : Nat) (isFirst : Bool) : Nat :=
  let delta := if isFirst then delta / 700 else delta / 2
  biasFrom 0 (delta + delta / count)

end Bias

section Encoding

/-- The digits of a number from a place on. -/
def digitsFrom (bias place number : Nat) : List Char :=
  let least := threshold place bias
  if number < least then [digitOf number]
  else
    digitOf (least + (number - least) % (36 - least)) ::
      digitsFrom bias (place + 36) ((number - least) / (36 - least))
termination_by number
decreasing_by
  have bounds := threshold_bounds place bias
  have smaller := Nat.div_le_self (number - threshold place bias) (36 - threshold place bias)
  omega

/-- The numbers of a label as far as they are written. -/
structure Encoder where
  digits : List Char := []
  /-- The characters that the numbers so far have put in, and those that are ASCII. -/
  count : Nat
  bias : Nat := 72
  /-- The positions that were passed since the last character. -/
  passed : Nat := 0
  isFirst : Bool := true
  deriving DecidableEq, Repr

namespace Encoder

/-- Goes over a character of the label while those with one code are put in. -/
def pass (code : Nat) (encoder : Encoder) (char : Char) : Encoder :=
  if char.toNat < code then { encoder with passed := encoder.passed + 1 }
  else if char.toNat = code then
    { digits := encoder.digits ++ digitsFrom encoder.bias firstPlace encoder.passed
      count := encoder.count + 1
      bias := adapt encoder.passed (encoder.count + 1) encoder.isFirst
      passed := 0
      isFirst := false }
  else encoder

/-- Puts in the characters of all codes in turn. Going on to the next code passes all positions. -/
def passAll (label : List Char) : Nat → List Nat → Encoder → Encoder
  | _, [], encoder => encoder
  | start, code :: codes, encoder =>
      let reached := { encoder with
        passed := encoder.passed + (code - start) * (encoder.count + 1) }
      let done := label.foldl (pass code) reached
      passAll label (code + 1) codes { done with passed := done.passed + 1 }

end Encoder

/-- A label in ASCII. -/
def encode (label : List Char) : List Char :=
  let literal := label.filter (·.toNat < 128)
  let codes := ((label.map Char.toNat).filter (128 ≤ ·)).mergeSort.eraseDups
  let encoder := Encoder.passAll label 128 codes { count := literal.length }
  literal ++ (if literal.isEmpty then [] else ['-']) ++ encoder.digits

end Encoding

/-- The label as far as it is decoded, and the number that is being read. -/
structure Decoder where
  text : List Char
  /-- The character that was put in last. -/
  code : Nat := 128
  bias : Nat := 72
  /-- The position behind the character that was put in last. -/
  start : Nat := 0
  /-- The start and the digits of the number so far. -/
  sum : Nat := 0
  place : Nat := firstPlace
  weight : Nat := 1
  deriving DecidableEq, Repr

namespace Decoder

/-- Puts in the character that the number stands for. The number counts all positions of the
label for one character after the other. -/
def insert? (decoder : Decoder) : Option Decoder :=
  let count := decoder.text.length + 1
  let code := decoder.code + decoder.sum / count
  let position := decoder.sum % count
  (Text.charOfCode? code).map fun char =>
    { text := decoder.text.insertIdx position char
      code := code
      bias := adapt (decoder.sum - decoder.start) count (decoder.start == 0)
      start := position + 1
      sum := position + 1 }

/-- Numbers have 32 bits. -/
def numberLimit : Nat :=
  Nat.pow 2 32

def step? (decoder : Decoder) (digit : Nat) : Option Decoder :=
  let sum := decoder.sum + digit * decoder.weight
  let threshold := threshold decoder.place decoder.bias
  let weight := decoder.weight * (36 - threshold)
  if numberLimit ≤ sum then none
  else if digit < threshold then { decoder with sum := sum }.insert?
  else if numberLimit ≤ weight then none
  else some { decoder with sum := sum, place := decoder.place + 36, weight := weight }

/-- No number is left unfinished. -/
def isDone (decoder : Decoder) : Bool :=
  decoder.place == firstPlace

end Decoder

/-- The text of a label. The last hyphen ends the characters that are ASCII themselves; without
such characters there is no hyphen. -/
def decode? (label : List Char) : Option (List Char) := do
  let digits := (label.reverse.takeWhile (· != '-')).reverse
  if digits.length + 1 == label.length then none
  let values ← digits.mapM digitValue?
  let literal := label.take (label.length - digits.length - 1)
  let decoder ← values.foldlM Decoder.step? { text := literal }
  if decoder.isDone then some decoder.text else none

end ModuleGraph.Url.Punycode
