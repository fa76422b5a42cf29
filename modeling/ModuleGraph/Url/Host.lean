/-
This file reads and writes the hosts of URLs: names, and addresses of both versions.
-/

import ModuleGraph.Url.Label
import ModuleGraph.Url.Percent

namespace ModuleGraph.Url

/-- Why a text is not a URL. -/
inductive ParseError where
  | noBase
  | flatBase
  | emptyHost
  | invalidName
  | invalidCharacter
  | invalidIpv4
  | invalidIpv6
  | invalidPort
  deriving DecidableEq, Repr

def ParseError.message : ParseError → String
  | noBase => "relative URL without a base"
  | flatBase => "relative URL with a cannot-be-a-base base"
  | emptyHost => "empty host"
  | invalidName => "invalid international domain name"
  | invalidCharacter => "invalid domain character"
  | invalidIpv4 => "invalid IPv4 address"
  | invalidIpv6 => "invalid IPv6 address"
  | invalidPort => "invalid port number"

/-- The host of a URL; an address of version 6 is a list of eight pieces. -/
inductive Host where
  | none
  | name (text : String)
  | ipv4 (address : Nat)
  | ipv6 (pieces : List Nat)
  deriving DecidableEq, Repr

section Numbers

def digitsIn (base : Nat) : List Char → Option Nat
  | [] => some 0
  | digits => digits.foldl (fun value digit => do
      let digit ← Text.hexValue? digit
      if digit < base then some (base * (← value) + digit) else none) (some 0)

/-- The number that a part of an address writes in octal, decimal or hexadecimal digits. -/
def ipv4Part? : List Char → Option Nat
  | [] => none
  | ['0'] => some 0
  | '0' :: mark :: digits =>
      if mark = 'x' || mark = 'X' then digitsIn 16 digits else digitsIn 8 (mark :: digits)
  | digits => digitsIn 10 digits

/-- A host whose last label is a number has to be an address. -/
def endsInNumber (host : List Char) : Bool :=
  let labels := (Text.split '.' host).reverse
  let last := match labels with
    | [] :: label :: _ => label
    | label :: _ => label
    | [] => []
  !last.isEmpty && (last.all Char.isDigit || (ipv4Part? last).isSome)

def parseIpv4 (host : List Char) : Except ParseError Nat :=
  let labels := Text.split '.' host
  let labels := if labels.getLast? == some [] then labels.dropLast else labels
  match labels.mapM ipv4Part? with
  | none => .error .invalidIpv4
  | some parts =>
      match parts.reverse with
      | [] => .error .invalidIpv4
      | last :: front =>
          if parts.length > 4 || front.any (· > 255) || last ≥ Nat.pow 256 (5 - parts.length) then
            .error .invalidIpv4
          else
            .ok (last + parts.dropLast.zipIdx.foldl
              (fun sum part => sum + part.1 * Nat.pow 256 (3 - part.2)) 0)

def renderIpv4 (address : Nat) : List Char :=
  Text.join '.' ([3, 2, 1, 0].map fun index =>
    (toString (address / Nat.pow 256 index % 256)).toList)

end Numbers

section Pieces

def hexPiece? (text : List Char) : Option Nat :=
  if text.isEmpty || text.length > 4 then none else digitsIn 16 text

def decimalPiece? (text : List Char) : Option Nat :=
  if text.isEmpty || text.length > 3 || (text.length > 1 && text.head? == some '0') then none
  else if text.all Char.isDigit then (digitsIn 10 text).filter (· < 256)
  else none

/-- The pieces between colons; the last of them may be an address of version 4. -/
def ipv6Pieces? (text : List Char) : Option (List Nat) :=
  if text.isEmpty then some []
  else
    let parts := Text.split ':' text
    match parts.getLast? with
    | none => none
    | some last =>
        if last.contains '.' then do
          let front ← parts.dropLast.mapM hexPiece?
          let [a, b, c, d] ← (Text.split '.' last).mapM decimalPiece? | none
          return front ++ [256 * a + b, 256 * c + d]
        else parts.mapM hexPiece?

/-- The texts on both sides of the first double colon. -/
def splitDoubleColon? : List Char → Option (List Char × List Char)
  | [] => none
  | ':' :: ':' :: rest => some ([], rest)
  | char :: rest => (splitDoubleColon? rest).map fun sides => (char :: sides.1, sides.2)

def parseIpv6 (text : List Char) : Except ParseError (List Nat) :=
  let pieces : Option (List Nat) :=
    match splitDoubleColon? text with
    | none => (ipv6Pieces? text).filter fun pieces => pieces.length == 8
    | some (left, right) => do
        if left.contains '.' then none
        let left ← ipv6Pieces? left
        let right ← ipv6Pieces? right
        if left.length + right.length > 7 then none
        return left ++ List.replicate (8 - left.length - right.length) 0 ++ right
  match pieces with
  | none => .error .invalidIpv6
  | some pieces => .ok pieces

/-- The length of the run of zeros that a list starts with. -/
def zeroRun (pieces : List Nat) : Nat :=
  (pieces.takeWhile (· == 0)).length

/-- The first longest run of zeros: where it starts and how long it is. -/
def longestZeroRun (pieces : List Nat) : Nat × Nat :=
  (List.range pieces.length).foldl (fun best start =>
    let length := zeroRun (pieces.drop start)
    if length > best.2 then (start, length) else best) (0, 0)

def renderIpv6 (pieces : List Nat) : List Char :=
  let render (pieces : List Nat) : List Char :=
    Text.join ':' (pieces.map fun piece => Nat.toDigits 16 piece)
  let (start, length) := longestZeroRun pieces
  if length < 2 then render pieces
  else render (pieces.take start) ++ [':', ':'] ++ render (pieces.drop (start + length))

end Pieces

namespace Host

def isNone (host : Host) : Bool :=
  host == .none

def render : Host → List Char
  | none => []
  | name text => text.toList
  | ipv4 address => renderIpv4 address
  | ipv6 pieces => ['['] ++ renderIpv6 pieces ++ [']']

def parseBracketed (text : List Char) : Except ParseError Host :=
  if text.getLast? == some ']' then (parseIpv6 (text.drop 1).dropLast).map ipv6
  else .error .invalidIpv6

/-- The characters that no host may hold. -/
def isForbidden (char : Char) : Bool :=
  char.toNat == 0 || "\t\n\r #/:<>?@[\\]^|".toList.contains char

def isForbiddenInName (char : Char) : Bool :=
  isForbidden char || isControl char || char == '%'

/-- Reads the host of a scheme that knows hosts; names are kept in ASCII. -/
def parse (text : List Char) : Except ParseError Host :=
  if text.head? == some '[' then parseBracketed text
  else
    match String.fromUTF8? (ByteArray.mk (percentDecode text).toArray) with
    | Option.none => .error .invalidName
    | some decoded =>
        match Label.ascii? decoded.toList with
        | Option.none => .error .invalidName
        | some host =>
            if host.any isForbiddenInName then .error .invalidName
            else if host.isEmpty then .error .emptyHost
            else if endsInNumber host then (parseIpv4 host).map ipv4
            else .ok (name (String.ofList host))

/-- Reads the host of any other scheme, which is kept as it is written. -/
def parseVerbatim (text : List Char) : Except ParseError Host :=
  if text.head? == some '[' then parseBracketed text
  else if text.any isForbidden then .error .invalidCharacter
  else if text.isEmpty then .ok none
  else .ok (name (String.ofList (percentEncode isControl text)))

end Host

end ModuleGraph.Url
