/-
This file reads the numbers of JSON.
-/

import ModuleGraph.Json.Double
import ModuleGraph.Json.Fault
import ModuleGraph.Text

namespace ModuleGraph.Json

section Parts

def takeDigits (text : List Char) : Except Stop (List Char × List Char) :=
  match text.takeWhile Char.isDigit with
  | [] => stopInside text (if text.isEmpty then .endInValue else .numberInvalid)
  | digits => .ok (digits, text.dropWhile Char.isDigit)

/-- A whole number has no zero in front of other digits. -/
def takeWhole (text : List Char) : Except Stop (List Char × List Char) := do
  let (digits, rest) ← takeDigits text
  match digits with
  | '0' :: digit :: digits => stopInside (digit :: digits ++ rest) .numberInvalid
  | digits => return (digits, rest)

/-- The digits behind the point, if there is one. -/
def takeDecimals (text : List Char) : Except Stop (Option (List Char) × List Char) :=
  match text with
  | '.' :: rest => (takeDigits rest).map fun (digits, rest) => (some digits, rest)
  | _ => .ok (none, text)

/-- Whether the exponent is negative, and its digits. -/
def takeExponent (text : List Char) : Except Stop (Option (Bool × List Char) × List Char) :=
  match text with
  | mark :: rest =>
      if mark = 'e' || mark = 'E' then
        let (negative, rest) := match rest with
          | '+' :: rest => (false, rest)
          | '-' :: rest => (true, rest)
          | rest => (false, rest)
        (takeDigits rest).map fun (digits, rest) => (some (negative, digits), rest)
      else .ok (none, text)
  | [] => .ok (none, text)

end Parts

/-- A number in its parts. -/
structure Numeral where
  negative : Bool
  whole : List Char
  decimals : Option (List Char)
  exponent : Option (Bool × List Char)

namespace Numeral

def read (text : List Char) : Except Stop (Numeral × List Char) := do
  let (negative, text) := match text with
    | '-' :: rest => (true, rest)
    | text => (false, text)
  let (whole, text) ← takeWhole text
  let (decimals, text) ← takeDecimals text
  let (exponent, text) ← takeExponent text
  return (⟨negative, whole, decimals, exponent⟩, text)

section Integers

/-- The integer that is written without a point and an exponent, if a word of sixty-four bits
holds it. A zero with a sign is none. -/
def integer? (numeral : Numeral) : Option Int :=
  if numeral.decimals.isSome || numeral.exponent.isSome then none
  else
    let value := Text.decimalValue numeral.whole
    if numeral.negative then
      if 0 < value && value ≤ Nat.pow 2 63 then some (-value) else none
    else if value < Nat.pow 2 64 then some value else none

end Integers

section Doubles

/-- The number that digits spell behind `value` as far as it stays below two to the sixty-fourth,
and the digits that are left. -/
def leading (value : Nat) : List Char → Nat × List Char
  | [] => (value, [])
  | digit :: digits =>
      let longer := Text.decimalValue [digit] + 10 * value
      if longer < Nat.pow 2 64 then leading longer digits else (value, digit :: digits)

/-- The leading digits as one number, and the power of ten that scales it. Digits beyond the
leading ones are not kept. -/
def scaled (numeral : Numeral) : Nat × Int :=
  let decimals := numeral.decimals.getD []
  let (value, dropped) := leading 0 numeral.whole
  let (value, ignored) := leading value decimals
  let exponent : Int :=
    match numeral.exponent with
    | none => 0
    | some (true, digits) => -(Text.decimalValue digits : Int)
    | some (false, digits) => Text.decimalValue digits
  (value, exponent + dropped.length - (decimals.length - ignored.length : Nat))

/-- The number without its sign, if it is finite. -/
def double? (numeral : Numeral) : Option Rat :=
  let (value, exponent) := numeral.scaled
  Double.scale? value exponent

/-- The digits that are not read because the exponent is too large without them. -/
def unread (value : Nat) : List Char → Nat
  | [] => 0
  | digit :: digits =>
      let longer := Text.decimalValue [digit] + 10 * value
      if longer < Nat.pow 2 31 then unread longer digits else digits.length

/-- Reading stops behind a number that is not finite, or inside its exponent. -/
def stopTooLarge {α : Type} (numeral : Numeral) (rest : List Char) : Except Stop α :=
  let exponent := (numeral.exponent.map Prod.snd).getD []
  .error ⟨.numberTooLarge, unread 0 exponent + byteCount rest⟩

end Doubles

end Numeral

/-- A number as it is kept: an integer of sixty-four bits, or a sign and a double. -/
inductive Number where
  | integer (value : Int)
  | double (negative : Bool) (size : Rat)

namespace Number

def text : Number → String
  | integer value => toString value
  | double negative size => (if negative then "-" else "") ++ Double.text size

/-- What a message calls the number. -/
def name : Number → String
  | integer value => s!"integer `{value}`"
  | double negative size => s!"floating point `{(double negative size).text}`"

end Number

def Numeral.number? (numeral : Numeral) : Option Number :=
  match numeral.integer? with
  | some value => some (.integer value)
  | none => numeral.double?.map (.double numeral.negative)

def startsNumber (char : Char) : Bool :=
  char == '-' || char.isDigit

/-- Reads a number that is finite. -/
def readNumber (text : List Char) : Except Stop (Number × List Char) := do
  let (numeral, rest) ← Numeral.read text
  match numeral.number? with
  | some value => return (value, rest)
  | none => numeral.stopTooLarge rest

end ModuleGraph.Json
