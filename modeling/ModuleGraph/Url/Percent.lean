/-
This file writes bytes as percent signs and hexadecimal digits, and reads them back.
-/

import ModuleGraph.Text

namespace ModuleGraph.Url

section Bytes

def upperHexDigit (value : Nat) : Char :=
  if value < 10 then Char.ofNat (48 + value) else Char.ofNat (55 + value)

def percentByte (byte : UInt8) : List Char :=
  ['%', upperHexDigit (byte.toNat / 16), upperHexDigit (byte.toNat % 16)]

/-- The bytes of a character, each written with a percent sign. -/
def percentChar (char : Char) : List Char :=
  (String.utf8EncodeChar char).flatMap percentByte

/-- The text with the characters of a set written as bytes. -/
def percentEncode (escaped : Char → Bool) (text : List Char) : List Char :=
  text.flatMap fun char => if escaped char then percentChar char else [char]

/-- The bytes of a text; a percent sign without two digits stands for itself. -/
def percentDecode : List Char → List UInt8
  | [] => []
  | '%' :: high :: low :: text =>
      match Text.hexValue? high, Text.hexValue? low with
      | some high, some low => UInt8.ofNat (16 * high + low) :: percentDecode text
      | _, _ => 37 :: percentDecode (high :: low :: text)
  | char :: text => String.utf8EncodeChar char ++ percentDecode text
termination_by text => text.length

end Bytes

section Sets

/-- Control characters and everything beyond ASCII. -/
def isControl (char : Char) : Bool :=
  char.toNat < 32 || char.toNat > 126

def isFragmentEscaped (char : Char) : Bool :=
  isControl char || " \"<>`".toList.contains char

def isPathEscaped (char : Char) : Bool :=
  isFragmentEscaped char || "#?\x7b\x7d".toList.contains char

def isUserEscaped (char : Char) : Bool :=
  isPathEscaped char || "/:;=@[\\]^|".toList.contains char

def isQueryEscaped (char : Char) : Bool :=
  isControl char || " \"#<>".toList.contains char

def isSpecialQueryEscaped (char : Char) : Bool :=
  isQueryEscaped char || char == '\''

end Sets

end ModuleGraph.Url
