/-
This file says why and where a text is not the JSON that is asked for.
-/

import ModuleGraph.Json.Basic

namespace ModuleGraph.Json

/-- Why a text is not the JSON that is asked for. -/
inductive Reason where
  | endInValue
  | endInString
  | endInList
  | endInObject
  | colonMissing
  | listNotEnded
  | objectNotEnded
  | wordMissing
  | valueMissing
  | escapeInvalid
  | numberInvalid
  | numberTooLarge
  | controlInString
  | keyNotString
  /-- A surrogate that no other one completes. -/
  | surrogateAlone
  | surrogateUnpaired
  | commaAtEnd
  | textAtEnd
  | nestedTooDeep
  | wrongType (found expected : String)
  | wrongValue (found expected : String)
  | repeatedField (name : String)
  deriving DecidableEq, Repr

namespace Reason

def message : Reason → String
  | endInValue => "EOF while parsing a value"
  | endInString => "EOF while parsing a string"
  | endInList => "EOF while parsing a list"
  | endInObject => "EOF while parsing an object"
  | colonMissing => "expected `:`"
  | listNotEnded => "expected `,` or `]`"
  | objectNotEnded => "expected `,` or `\x7d`"
  | wordMissing => "expected ident"
  | valueMissing => "expected value"
  | escapeInvalid => "invalid escape"
  | numberInvalid => "invalid number"
  | numberTooLarge => "number out of range"
  | controlInString => "control character (\\u0000-\\u001F) found while parsing a string"
  | keyNotString => "key must be a string"
  | surrogateAlone => "lone leading surrogate in hex escape"
  | surrogateUnpaired => "unexpected end of hex escape"
  | commaAtEnd => "trailing comma"
  | textAtEnd => "trailing characters"
  | nestedTooDeep => "recursion limit exceeded"
  | wrongType found expected => s!"invalid type: {found}, expected {expected}"
  | wrongValue found expected => s!"invalid value: {found}, expected {expected}"
  | repeatedField name => s!"duplicate field `{name}`"

/-- The text ends too early, or it is not JSON, or it is JSON of another shape. -/
def category : Reason → String
  | endInValue | endInString | endInList | endInObject => "eof"
  | wrongType _ _ | wrongValue _ _ | repeatedField _ => "data"
  | _ => "syntax"

end Reason

section Places

/-- Reading stops at a place that has so many bytes of the text behind it. -/
structure Stop where
  reason : Reason
  left : Nat
  deriving DecidableEq, Repr

def byteCount (text : List Char) : Nat :=
  text.foldl (fun count char => count + char.utf8Size) 0

/-- Reading stops in front of the rest of the text. -/
def stopBefore {α : Type} (rest : List Char) (reason : Reason) : Except Stop α :=
  .error ⟨reason, byteCount rest⟩

/-- Reading stops behind the first byte of the rest, if there is one. -/
def stopInside {α : Type} (rest : List Char) (reason : Reason) : Except Stop α :=
  .error ⟨reason, byteCount rest - 1⟩

/-- The line and the column that are so many bytes from another place, which is in a line with a
column. -/
def placeFrom (line column : Nat) : Nat → List Char → Nat × Nat
  | distance, char :: text =>
      if distance < char.utf8Size then (line, column + distance)
      else if char = '\n' then placeFrom (line + 1) 0 (distance - 1) text
      else placeFrom line (column + char.utf8Size) (distance - char.utf8Size) text
  | _, [] => (line, column)

/-- Why and where a text is at fault. The column counts bytes. -/
structure Fault where
  reason : Reason
  line : Nat
  column : Nat
  deriving DecidableEq, Repr

namespace Fault

def ofStop (text : List Char) (stop : Stop) : Fault :=
  let (line, column) := placeFrom 1 0 (byteCount text - stop.left) text
  ⟨stop.reason, line, column⟩

def category (fault : Fault) : String :=
  fault.reason.category

def message (fault : Fault) : String :=
  s!"{fault.reason.message} at line {fault.line} column {fault.column}"

end Fault

end Places

end ModuleGraph.Json
