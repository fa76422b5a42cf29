/-
This file holds numbers of double precision: how others are rounded to them, and how they are
written.
-/

namespace ModuleGraph.Json.Double

section Rounding

/-- The whole number closest to another one; of two such numbers the even one. -/
def nearest (value : Rat) : Int :=
  let below := value.floor
  let part := value - below
  if part < 1 / 2 || (part = 1 / 2 && below % 2 = 0) then below else below + 1

/-- The exponent of the greatest power of two that a positive number reaches. -/
def magnitude (value : Rat) : Int :=
  let guess : Int := (Nat.log2 value.num.natAbs : Int) - Nat.log2 value.den
  if 2 ^ guess ≤ value then guess else guess - 1

/-- The number of fifty-three binary digits that is closest to one that is not negative. Near zero
there are fewer digits. -/
def round (value : Rat) : Rat :=
  let unit : Rat := 2 ^ max (magnitude value - 52) (-1074)
  nearest (value / unit) * unit

/-- A number that is not below this one counts as infinite. -/
def limit : Rat :=
  (Nat.pow 2 1024 : Nat)

/-- The exponent of the greatest power of ten that is finite. -/
def lastPower : Nat :=
  308

/-- Divides by powers of ten; each divisor and each quotient is rounded. -/
def shrink (value : Rat) (power : Nat) : Rat :=
  if power ≤ lastPower then round (value / round (10 ^ power))
  else if value = 0 then 0
  else shrink (round (value / round (10 ^ lastPower))) (power - lastPower)
termination_by power
decreasing_by simp only [lastPower] at *; omega

/-- A whole number times a power of ten, if that is finite; each step is rounded. -/
def scale? (digits : Nat) (exponent : Int) : Option Rat :=
  let start := round digits
  if exponent < 0 then some (shrink start exponent.natAbs)
  else if start = 0 then some 0
  else if exponent > lastPower then none
  else
    let value := round (start * round (10 ^ exponent.toNat))
    if value < limit then some value else none

end Rounding

section Writing

/-- The exponent of the greatest power of ten that a positive number reaches. -/
def decimalMagnitude (value : Rat) : Int :=
  if 1 ≤ value then ((Nat.toDigits 10 value.floor.toNat).length : Int) - 1
  else -((Nat.toDigits 10 (value⁻¹.ceil.toNat - 1)).length : Int)

/-- The closest number with so many decimal digits that is rounded to the value, as a whole number
and its unit. -/
def digits? (value : Rat) (count : Nat) : Option (Int × Int) :=
  let exponent := decimalMagnitude value - count + 1
  let quotient := value / 10 ^ exponent
  let isRounded (whole : Int) : Bool := round (whole * 10 ^ exponent) = value
  ([nearest quotient, quotient.floor, quotient.ceil].find? isRounded).map fun whole =>
    (whole, exponent)

/-- The fewest digits that are rounded to a positive value, and the place of the point among them:
so many digits stand in front of it. -/
def shortest (value : Rat) : List Char × Int :=
  -- Seventeen digits tell any two values apart.
  match (List.range' 1 17).findSome? (digits? value) with
  | none => ([], 0)
  | some (whole, exponent) =>
      let digits := Nat.toDigits 10 whole.toNat
      ((digits.reverse.dropWhile (· == '0')).reverse, digits.length + exponent)

/-- Digits with a point among them; far from it they are written with an exponent. -/
def layOut (digits : List Char) (point : Int) : String :=
  let zeros (count : Int) : List Char := List.replicate count.toNat '0'
  let text : List Char :=
    if digits.length ≤ point && point ≤ 16 then
      digits ++ zeros (point - digits.length) ++ ['.', '0']
    else if 0 < point && point ≤ 16 then
      digits.take point.toNat ++ '.' :: digits.drop point.toNat
    else if -5 < point && point ≤ 0 then '0' :: '.' :: zeros (-point) ++ digits
    else
      let fraction := if digits.length = 1 then [] else '.' :: digits.drop 1
      digits.take 1 ++ fraction ++ 'e' :: (toString (point - 1)).toList
  String.ofList text

/-- The text of a number that is not negative. -/
def text (value : Rat) : String :=
  if value = 0 then "0.0"
  else
    let (digits, point) := shortest value
    layOut digits point

end Writing

end ModuleGraph.Json.Double
