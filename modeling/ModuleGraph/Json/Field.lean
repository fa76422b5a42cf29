/-
This file reads JSON text into fields of known types.
-/

import ModuleGraph.Json.Reader
import ModuleGraph.Unicode.Hidden

namespace ModuleGraph.Json

section Refusals

/-- A character of a quoted text as a message shows it. -/
def shownChar (char : Char) : List Char :=
  if char = '"' then ['\\', '"']
  else if char = '\\' then ['\\', '\\']
  else if char = '\n' then ['\\', 'n']
  else if char = '\r' then ['\\', 'r']
  else if char = '\t' then ['\\', 't']
  else if char.toNat = 0 then ['\\', '0']
  else if Unicode.hiddenChars.contains char then
    ['\\', 'u', '\x7b'] ++ Nat.toDigits 16 char.toNat ++ ['\x7d']
  else [char]

def shown (value : String) : String :=
  "\"" ++ String.ofList (value.toList.flatMap shownChar) ++ "\""

/-- Reads what a message calls the value that stands here. An array or an object is not read. -/
def readName : Reader String := fun text =>
  match skipBlanks text with
  | [] => stopBefore [] .endInValue
  | char :: rest =>
      if char = 'n' then readWord "null" "null" (char :: rest)
      else if char = 't' then readWord "true" "boolean `true`" (char :: rest)
      else if char = 'f' then readWord "false" "boolean `false`" (char :: rest)
      else if char = '"' then
        (readQuoted [] rest).map fun taken => (s!"string {shown taken.1}", taken.2)
      else if startsNumber char then
        (readNumber (char :: rest)).map fun taken => (taken.1.name, taken.2)
      else if char = '[' then .ok ("sequence", char :: rest)
      else if char = '\x7b' then .ok ("map", char :: rest)
      else stopInside (char :: rest) .valueMissing

/-- Stops at a value that stands where another type is expected. -/
def refuse {α : Type} (expected : String) : Reader α := fun text => do
  let (found, rest) ← readName text
  stopBefore rest (.wrongType found expected)

end Refusals

section Types

def readString : Reader String := fun text =>
  match skipBlanks text with
  | '"' :: rest => readQuoted [] rest
  | text => refuse "a string" text

/-- Reads a whole number below two to the sixty-fourth; `expected` names its type. -/
def readNatural (expected : String) : Reader Nat := fun text =>
  match skipBlanks text with
  | [] => stopBefore [] .endInValue
  | char :: rest =>
      if startsNumber char then
        match readNumber (char :: rest) with
        | .error stop => .error stop
        | .ok (.integer value, text) =>
            if 0 ≤ value then .ok (value.toNat, text)
            else stopBefore text (.wrongValue (Number.integer value).name expected)
        | .ok (found, text) => stopBefore text (.wrongType found.name expected)
      else refuse expected (char :: rest)

/-- Reads `null` as no value. -/
def readOptional {α : Type} (reader : Reader α) : Reader (Option α) := fun text =>
  match skipBlanks text with
  | 'n' :: rest => readWord "null" none ('n' :: rest)
  | text => (reader text).map fun taken => (some taken.1, taken.2)

def readStrings : Reader (List String) := fun text =>
  match skipBlanks text with
  | '[' :: rest =>
      let item (items : List String) : Reader (List String) := fun text =>
        (readString text).map fun taken => (taken.1 :: items, taken.2)
      (readItems .kept item (rest.length + 1) true [] rest).map fun taken =>
        (taken.1.reverse, taken.2)
  | text => refuse "a sequence" text

/-- Reads an object whose values are strings, in the order of the text. -/
def readStringTable : Reader (List (String × String)) := fun text =>
  match skipBlanks text with
  | '\x7b' :: rest =>
      let member (members : List (String × String)) :
          Reader (List (String × String)) := fun text => do
        let (name, text) ← readQuoted [] text
        let text ← skipColon text
        let (value, text) ← readString text
        return ((name, value) :: members, text)
      (readMembers .kept member (rest.length + 1) true [] rest).map fun taken =>
        (taken.1.reverse, taken.2)
  | text => refuse "a map" text

end Types

section Records

/-- A field of a record: its name, and how its value updates the record. -/
structure Field (σ : Type) where
  name : String
  update : σ → Reader σ

/-- A field whose value is read on its own and then stored. -/
def field {σ α : Type} (name : String) (reader : Reader α) (store : σ → α → σ) :
    Field σ where
  name := name
  update := fun record text => (reader text).map fun taken => (store record taken.1, taken.2)

/-- Reads the end of an array in which no more values are expected. -/
def readBracket {σ : Type} (record : σ) : Reader σ := fun text =>
  match skipBlanks text with
  | [] => stopBefore [] .endInList
  | ']' :: text => .ok (record, text)
  | ',' :: text =>
      match skipBlanks text with
      | ']' :: text => stopInside (']' :: text) .commaAtEnd
      | text => stopInside text .textAtEnd
  | text => stopInside text .textAtEnd

/-- Reads the values of the fields in order; the last ones may be missing. -/
def readFieldItems {σ : Type} : List (Field σ) → Bool → σ → Reader σ
  | [], _, record, text => readBracket record text
  | field :: fields, first, record, text =>
      match skipBlanks text with
      | [] => stopBefore [] .endInList
      | ']' :: text => .ok (record, text)
      | char :: rest =>
          let continueWith (text : List Char) : Except Stop (σ × List Char) :=
            match field.update record text with
            | .error stop => .error stop
            | .ok (record, text) => readFieldItems fields false record text
          if first then continueWith (char :: rest)
          else if char = ',' then
            match skipBlanks rest with
            | [] => stopBefore [] .endInValue
            | ']' :: text => stopInside (']' :: text) .commaAtEnd
            | text => continueWith text
          else stopInside (char :: rest) .listNotEnded

/-- Stops behind the name of a field that was read before, and behind the end of the record if it
follows at once. -/
def refuseField {α : Type} (name : String) (text : List Char) : Except Stop α :=
  match skipBlanks text with
  | '}' :: rest => stopBefore rest (.repeatedField name)
  | rest => stopBefore rest (.repeatedField name)

/-- Reads one member of a record; `seen` names the fields read before it. -/
def readFieldMember {σ : Type} (fields : List (Field σ)) (state : List String × σ) :
    Reader (List String × σ) := fun text => do
  let (seen, record) := state
  let (name, text) ← readQuoted [] text
  match fields.find? fun field => field.name == name with
  | none =>
      let text ← skipColon text
      let ((), text) ← skipValue (text.length + 1) text
      return ((seen, record), text)
  | some field =>
      if seen.contains name then refuseField name text
      else
        let text ← skipColon text
        let (record, text) ← field.update record text
        return ((name :: seen, record), text)

/-- Reads a record from an object, or from an array that lists its fields in order. -/
def readRecord {σ : Type} (name : String) (fields : List (Field σ)) (start : σ) : Reader σ :=
  fun text =>
    match skipBlanks text with
    | '[' :: rest => readFieldItems fields true start rest
    | '\x7b' :: rest =>
        (readMembers .kept (readFieldMember fields) (rest.length + 1) true ([], start) rest).map
          fun taken => (taken.1.2, taken.2)
    | text => refuse s!"struct {name}" text

end Records

end ModuleGraph.Json
