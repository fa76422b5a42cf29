/-
This file reads written regular expressions.
-/

import ModuleGraph.Pattern.Class
import ModuleGraph.Pattern.Size
import ModuleGraph.Unicode.Alphabetic
import ModuleGraph.Unicode.Numeric

namespace ModuleGraph.Pattern

/-- What is still to be read, and what has been agreed on the way. -/
structure Source where
  text : List Char
  flags : Flags
  names : List (List Char)

namespace Source

def set (source : Source) (text : List Char) : Source :=
  { source with text := text }

end Source

section Repetitions

/-- Reads the digits of a decimal number, and what follows them. -/
def takeDecimalDigits (flags : Flags) (text : List Char) : List Char × List Char :=
  match text with
  | [] => ([], [])
  | char :: rest =>
      if char.isDigit then
        let (digits, after) := takeDecimalDigits flags (skip flags rest)
        (char :: digits, after)
      else ([], char :: rest)
termination_by text.length
decreasing_by
  exact Nat.lt_succ_of_le (length_skip_le flags rest)

/-- Reads a decimal number and the white space around it, which may stand here in any case. -/
def takeDecimal (flags : Flags) (text : List Char) : Except SyntaxError (Nat × List Char) :=
  let (digits, rest) := takeDecimalDigits flags (text.dropWhile isWhite)
  let value := Text.decimalValue digits
  if digits.isEmpty then .error .missingDecimal
  else if value ≥ Nat.pow 2 32 then .error .invalidDecimal
  else .ok (value, rest.dropWhile isWhite)

/-- A question mark behind a repetition only says which match is preferred. -/
def dropPreference (text : List Char) : List Char :=
  match text with
  | '?' :: rest => rest
  | text => text

/-- Reads the bounds of a repetition from behind the opening brace. -/
def takeCount (flags : Flags) (text : List Char) :
    Except SyntaxError ((Nat × Option Nat) × List Char) := do
  let text := skip flags text
  if text.isEmpty then throw .unclosedCount
  let (least, text) ← takeDecimal flags text
  if text.isEmpty then throw .unclosedLeast
  let (most, text) ← match text with
    | ',' :: rest =>
        match skip flags rest with
        | [] => throw .unclosedComma
        | '\x7d' :: rest => pure (none, '\x7d' :: rest)
        | rest => do
            let (most, text) ← takeDecimal flags rest
            if text.isEmpty then throw .unclosedMost
            pure (some most, text)
    | text => pure (some least, text)
  match text with
  | '\x7d' :: rest => return ((least, most), rest)
  | _ => throw .invalidCount

end Repetitions

section Groups

/-- What an opening parenthesis starts. -/
inductive Opening where
  /-- A group that is captured, under a name if one is given. -/
  | captured (name : Option (List Char))
  | plain
  /-- A directive that sets flags for what follows it. -/
  | directive

/-- Sets one flag. The flags for preference and for Unicode change nothing here. -/
def setFlag (flags : Flags) (value : Bool) (letter : Char) : Except SyntaxError Flags :=
  match letter with
  | 'i' => .ok { flags with ignoreCase := value }
  | 'm' => .ok { flags with multiLine := value }
  | 's' => .ok { flags with dotAll := value }
  | 'R' => .ok { flags with carriage := value }
  | 'x' => .ok { flags with spaced := value }
  | 'U' | 'u' => .ok flags
  | _ => .error .unknownFlag

/-- Reads flags up to a colon or a closing parenthesis, which is left to be read. -/
def takeFlags (flags : Flags) (negated dangling : Bool) (seen : List Char) :
    List Char → Except SyntaxError (Flags × List Char)
  | [] => .error .unclosedFlags
  | char :: text =>
      if char == ':' || char == ')' then
        if dangling then .error .danglingNegation else .ok (flags, char :: text)
      else if char == '-' then
        if negated then .error .repeatedNegation else takeFlags flags true true seen text
      else
        match setFlag flags (!negated) char with
        | .error error => .error error
        | .ok flags =>
            if seen.contains char then .error .duplicateFlag
            else takeFlags flags negated false (char :: seen) text

/-- The name of a group starts with a letter or an underscore. -/
def isNameStart (char : Char) : Bool :=
  char == '_' || Unicode.alphabetic.contains char

def isNameChar (char : Char) : Bool :=
  isNameStart char || Unicode.numeric.contains char || ".[]".toList.contains char

/-- Reads the name of a group up to its closing angle bracket. -/
def takeName (text : List Char) : Except SyntaxError (List Char × List Char) :=
  let name := text.takeWhile (· != '>')
  if text.isEmpty then .error .missingGroupName
  else if !((name.take 1).all isNameStart && (name.drop 1).all isNameChar) then
    .error .invalidGroupName
  else
    match text.dropWhile (· != '>') with
    | [] => .error .unclosedGroupName
    | _ :: rest => if name.isEmpty then .error .emptyGroupName else .ok (name, rest)

/-- Reads what follows an opening parenthesis, up to the pattern inside. -/
def takeOpening (source : Source) : Except SyntaxError (Opening × Source) := do
  let named (text : List Char) : Except SyntaxError (Opening × Source) := do
    let (name, rest) ← takeName text
    if source.names.contains name then throw .duplicateGroupName
    return (.captured (some name), { source with text := rest, names := name :: source.names })
  match skip source.flags source.text with
  | '?' :: '=' :: _ | '?' :: '!' :: _ => throw .lookAround
  | '?' :: '<' :: '=' :: _ | '?' :: '<' :: '!' :: _ => throw .lookAround
  | '?' :: 'P' :: '<' :: text => named text
  | '?' :: '<' :: text => named text
  | '?' :: text =>
      if text.isEmpty then throw .unclosedGroupQuestion
      let (flags, rest) ← takeFlags source.flags false false [] text
      match rest with
      | ':' :: rest => return (.plain, { source with text := rest, flags := flags })
      | rest =>
          if rest.length == text.length then throw .emptyFlags
          return (.directive, { source with text := rest, flags := flags })
  | text => return (.captured none, source.set text)

end Groups

/-- The alternatives that have been read; `done` and `items` have the last one first. -/
def closeAlternatives (done items : List Pattern) : Pattern :=
  choiceOf ((sequenceOf items.reverse :: done).reverse)

/-- Reads alternatives up to the end of the group. `done` holds the alternatives read so far and
`items` the items of the one under way, both with the last one first. -/
def readAlternatives : Nat → Nat → List Pattern → List Pattern → Source →
    Except SyntaxError (Pattern × Source)
  | 0, _, _, _, _ => .error .tooMuchNesting
  | fuel + 1, level, done, items, source =>
      let go (items : List Pattern) (source : Source) : Except SyntaxError (Pattern × Source) :=
        readAlternatives fuel level done items source
      let repeatLast (least : Nat) (most : Option Nat) (text : List Char) :
          Except SyntaxError (Pattern × Source) :=
        match items with
        | [] => .error .missingRepeated
        | last :: items =>
            go (repeated least most last :: items) (source.set (dropPreference text))
      match skip source.flags source.text with
      | [] => .ok (closeAlternatives done items, source.set [])
      | '(' :: text => do
          let (opening, inner) ← takeOpening (source.set text)
          match opening with
          | .directive =>
              match inner.text with
              | ')' :: rest => go items (inner.set rest)
              | _ => throw .unclosedGroup
          | opening =>
              if level ≥ depthLimit then throw .tooMuchNesting
              let (pattern, after) ← readAlternatives fuel (level + 1) [] [] inner
              match after.text with
              | ')' :: rest =>
                  let pattern := match opening with
                    | .captured name => capture name pattern
                    | _ => pattern
                  go (pattern :: items) { after with text := rest, flags := source.flags }
              | _ => throw .unclosedGroup
      | ')' :: text =>
          if level = 0 then .error .unopenedGroup
          else .ok (closeAlternatives done items, source.set (')' :: text))
      | '|' :: text =>
          readAlternatives fuel level (sequenceOf items.reverse :: done) [] (source.set text)
      | '[' :: text => do
          let (pattern, rest) ← takeClass source.flags text
          go (pattern :: items) (source.set rest)
      | '?' :: text => repeatLast 0 (some 1) text
      | '*' :: text => repeatLast 0 none text
      | '+' :: text => repeatLast 1 none text
      | '\x7b' :: text =>
          match items with
          | [] => .error .missingCounted
          | last :: items => do
              let ((least, most), rest) ← takeCount source.flags text
              let rest := dropPreference (skip source.flags rest)
              if (most.map fun most => decide (most < least)).getD false then
                throw .invalidCountRange
              go (repeated least most last :: items) (source.set rest)
      | '\\' :: text => do
          let (escape, rest) ← takeEscape source.flags text
          go (ofEscape source.flags escape :: items) (source.set rest)
      | '.' :: text => go (dot source.flags :: items) (source.set text)
      | '^' :: text => go (startAnchor source.flags :: items) (source.set text)
      | '$' :: text => go (endAnchor source.flags :: items) (source.set text)
      | char :: text => go (single source.flags char :: items) (source.set text)

/-- Reads a whole pattern, which must not be too deep or too large. -/
def parse (text : String) : Except SyntaxError Pattern := do
  let chars := text.toList
  let (pattern, _) ← readAlternatives (chars.length + 1) 0 [] [] ⟨chars, Flags.none, []⟩
  if pattern.depth > depthLimit then throw .tooMuchNesting
  if pattern.automatonSize > spaceLimit then throw .tooMuchSpace
  return pattern

end ModuleGraph.Pattern
