/-
This file reads JSON text into values.
-/

import ModuleGraph.Json.Numeral

namespace ModuleGraph.Json

/-- A reader takes what it reads from the front of the text. -/
abbrev Reader (α : Type) := List Char → Except Stop (α × List Char)

def isBlank (char : Char) : Bool :=
  char == ' ' || char == '\t' || char == '\n' || char == '\r'

def skipBlanks (text : List Char) : List Char :=
  text.dropWhile isBlank

/-- Steps over the letters of a word that must stand here. -/
def skipWord : List Char → List Char → Except Stop (List Char)
  | [], text => .ok text
  | _ :: _, [] => stopBefore [] .endInValue
  | letter :: word, char :: text =>
      if char = letter then skipWord word text else stopInside (char :: text) .wordMissing

section Strings

def hexUnit? (a b c d : Char) : Option Nat := do
  let high := (← Text.hexValue? a) * 16 + (← Text.hexValue? b)
  let low := (← Text.hexValue? c) * 16 + (← Text.hexValue? d)
  return high * 256 + low

/-- Reading stops at an escape without four digits, or at the end of the text if four bytes are
not left. -/
def stopAtDigits {α : Type} (text : List Char) : Except Stop α :=
  if byteCount text < 4 then stopBefore [] .endInString
  else .error ⟨.escapeInvalid, byteCount text - 4⟩

def plainEscape? (char : Char) : Option Char :=
  if char = '"' || char = '\\' || char = '/' then some char
  else if char = 'n' then some '\n'
  else if char = 't' then some '\t'
  else if char = 'r' then some '\r'
  else if char = 'b' then some (Char.ofNat 8)
  else if char = 'f' then some (Char.ofNat 12)
  else none

/-- Reads up to the closing quote; `read` holds the characters so far, last first. -/
def readQuoted (read : List Char) : List Char → Except Stop (String × List Char)
  | [] => stopBefore [] .endInString
  | char :: text =>
      if char = '"' then .ok (String.ofList read.reverse, text)
      else if char = '\\' then
        match text with
        | [] => stopBefore [] .endInString
        | 'u' :: a :: b :: c :: d :: text =>
            match hexUnit? a b c d with
            | none => stopAtDigits (a :: b :: c :: d :: text)
            | some unit =>
                if 0xDC00 ≤ unit && unit ≤ 0xDFFF then stopBefore text .surrogateAlone
                else if 0xD800 ≤ unit && unit ≤ 0xDBFF then
                  match text with
                  | [] => stopBefore [] .endInString
                  | ['\\'] => stopBefore [] .endInString
                  | '\\' :: 'u' :: e :: f :: g :: h :: text =>
                      match hexUnit? e f g h with
                      | none => stopAtDigits (e :: f :: g :: h :: text)
                      | some low =>
                          if 0xDC00 ≤ low && low ≤ 0xDFFF then
                            let code := 0x10000 + (unit - 0xD800) * 0x400 + (low - 0xDC00)
                            readQuoted (Char.ofNat code :: read) text
                          else stopBefore text .surrogateAlone
                  | '\\' :: 'u' :: text => stopAtDigits text
                  | '\\' :: text => stopInside text .surrogateUnpaired
                  | text => stopInside text .surrogateUnpaired
                else readQuoted (Char.ofNat unit :: read) text
        | 'u' :: text => stopAtDigits text
        | letter :: text =>
            match plainEscape? letter with
            | none => stopInside (letter :: text) .escapeInvalid
            | some plain => readQuoted (plain :: read) text
      else if char.toNat < 32 then stopInside (char :: text) .controlInString
      else readQuoted (char :: read) text

/-- Steps over a string without asking whether its surrogates are paired. -/
def skipQuoted : List Char → Except Stop (List Char)
  | [] => stopBefore [] .endInString
  | char :: text =>
      if char = '"' then .ok text
      else if char = '\\' then
        match text with
        | [] => stopBefore [] .endInString
        | 'u' :: a :: b :: c :: d :: text =>
            if (hexUnit? a b c d).isSome then skipQuoted text
            else stopAtDigits (a :: b :: c :: d :: text)
        | 'u' :: text => stopAtDigits text
        | letter :: text =>
            if (plainEscape? letter).isSome then skipQuoted text
            else stopInside (letter :: text) .escapeInvalid
      else if char.toNat < 32 then stopBefore (char :: text) .controlInString
      else skipQuoted text

end Strings

section Containers

/-- What is missing behind a comma. -/
structure AfterComma where
  atBracket : Reason
  atBrace : Reason
  /-- At the end of the text inside an object. -/
  atEnd : Reason

namespace AfterComma

/-- A value that is kept. -/
def kept : AfterComma :=
  ⟨.commaAtEnd, .commaAtEnd, .endInValue⟩

/-- A value that is stepped over. -/
def skipped : AfterComma :=
  ⟨.valueMissing, .keyNotString, .endInObject⟩

end AfterComma

/-- Reads the items of an array up to its closing bracket. -/
def readItems {σ : Type} (missing : AfterComma) (item : σ → Reader σ) : Nat → Bool → σ → Reader σ
  | 0, _, _, text => stopInside text .nestedTooDeep
  | fuel + 1, first, state, text =>
      match skipBlanks text with
      | [] => stopBefore [] .endInList
      | ']' :: text => .ok (state, text)
      | char :: rest =>
          let continueWith (text : List Char) : Except Stop (σ × List Char) :=
            match item state text with
            | .error stop => .error stop
            | .ok (state, text) => readItems missing item fuel false state text
          if first then continueWith (char :: rest)
          else if char = ',' then
            match skipBlanks rest with
            | [] => stopBefore [] .endInValue
            | ']' :: text => stopInside (']' :: text) missing.atBracket
            | text => continueWith text
          else stopInside (char :: rest) .listNotEnded

def skipColon (text : List Char) : Except Stop (List Char) :=
  match skipBlanks text with
  | [] => stopBefore [] .endInObject
  | ':' :: text => .ok text
  | text => stopInside text .colonMissing

/-- Reads the members of an object up to its closing brace; `member` starts at the name. -/
def readMembers {σ : Type} (missing : AfterComma) (member : σ → Reader σ) :
    Nat → Bool → σ → Reader σ
  | 0, _, _, text => stopInside text .nestedTooDeep
  | fuel + 1, first, state, text =>
      match skipBlanks text with
      | [] => stopBefore [] .endInObject
      | '}' :: text => .ok (state, text)
      | char :: rest =>
          let continueWith (text : List Char) : Except Stop (σ × List Char) :=
            match text with
            | '"' :: text =>
                match member state text with
                | .error stop => .error stop
                | .ok (state, text) => readMembers missing member fuel false state text
            | [] => stopBefore [] missing.atEnd
            | '}' :: text => stopInside ('}' :: text) missing.atBrace
            | text => stopInside text .keyNotString
          if first then continueWith (char :: rest)
          else if char = ',' then continueWith (skipBlanks rest)
          else stopInside (char :: rest) .objectNotEnded

end Containers

section Values

def readWord {α : Type} (word : String) (value : α) (text : List Char) :
    Except Stop (α × List Char) :=
  (skipWord word.toList text).map fun rest => (value, rest)

/-- Reads any value in which at most `depth` containers are nested in one another. -/
def readValue : Nat → Reader Json
  | depth, text =>
      match skipBlanks text with
      | [] => stopBefore [] .endInValue
      | char :: rest =>
          if char = 'n' then readWord "null" Json.null (char :: rest)
          else if char = 't' then readWord "true" (Json.bool true) (char :: rest)
          else if char = 'f' then readWord "false" (Json.bool false) (char :: rest)
          else if char = '"' then
            (readQuoted [] rest).map fun taken => (Json.string taken.1, taken.2)
          else if startsNumber char then
            (readNumber (char :: rest)).map fun taken => (Json.number taken.1.text, taken.2)
          else if char = '[' then
            match depth with
            | 0 => stopInside (char :: rest) .nestedTooDeep
            | depth + 1 =>
                let item (items : List Json) : Reader (List Json) := fun text =>
                  (readValue depth text).map fun taken => (taken.1 :: items, taken.2)
                (readItems .kept item (rest.length + 1) true [] rest).map fun taken =>
                  (Json.array taken.1.reverse, taken.2)
          else if char = '\x7b' then
            match depth with
            | 0 => stopInside (char :: rest) .nestedTooDeep
            | depth + 1 =>
                let member (members : List (String × Json)) :
                    Reader (List (String × Json)) := fun text => do
                  let (name, text) ← readQuoted [] text
                  let text ← skipColon text
                  let (value, text) ← readValue depth text
                  return (insertMember members name value, text)
                (readMembers .kept member (rest.length + 1) true [] rest).map fun taken =>
                  (Json.object taken.1, taken.2)
          else stopInside (char :: rest) .valueMissing

/-- Steps over a number of any size. One that breaks off is invalid even at the end of the
text. -/
def skipNumber (text : List Char) : Except Stop (List Char) :=
  match Numeral.read text with
  | .error stop => .error { stop with reason := .numberInvalid }
  | .ok (_, text) => .ok text

/-- Steps over any value, however deep. -/
def skipValue : Nat → Reader Unit
  | 0, text => stopInside text .nestedTooDeep
  | fuel + 1, text =>
      match skipBlanks text with
      | [] => stopBefore [] .endInValue
      | char :: rest =>
          if char = 'n' then readWord "null" () (char :: rest)
          else if char = 't' then readWord "true" () (char :: rest)
          else if char = 'f' then readWord "false" () (char :: rest)
          else if char = '"' then (skipQuoted rest).map fun text => ((), text)
          else if startsNumber char then
            (skipNumber (char :: rest)).map fun text => ((), text)
          else if char = '[' then
            readItems .skipped (fun _ => skipValue fuel) (rest.length + 1) true () rest
          else if char = '\x7b' then
            let member (_ : Unit) : Reader Unit := fun text => do
              let text ← skipQuoted text
              let text ← skipColon text
              skipValue fuel text
            readMembers .skipped member (rest.length + 1) true () rest
          else stopInside (char :: rest) .valueMissing

end Values

/-- Reads a whole text; nothing but blanks may follow. -/
def readAll {α : Type} (reader : Reader α) (text : String) : Except Fault α :=
  let result := do
    let (value, rest) ← reader text.toList
    match skipBlanks rest with
    | [] => return value
    | rest => stopInside rest .textAtEnd
  result.mapError (Fault.ofStop text.toList)

/-- The number of containers that a value read on its own may nest. -/
def nestingLimit : Nat := 127

def parse (text : String) : Except Fault Json :=
  readAll (readValue nestingLimit) text

end ModuleGraph.Json
