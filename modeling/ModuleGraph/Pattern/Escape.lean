/-
This file reads the escapes of written regular expressions, under the flags in force.
-/

import ModuleGraph.Pattern.Basic
import ModuleGraph.Pattern.Error
import ModuleGraph.Text
import ModuleGraph.Unicode.WhiteSpace

namespace ModuleGraph.Pattern

/-- The flags in force at a place of the pattern. -/
structure Flags where
  ignoreCase : Bool
  multiLine : Bool
  dotAll : Bool
  carriage : Bool
  spaced : Bool

def Flags.none : Flags :=
  ⟨false, false, false, false, false⟩

section Blanks

def isWhite (char : Char) : Bool :=
  Unicode.whiteSpace.contains char

/-- Steps over white space and comments, each of which ends with its line. -/
def skipSpaces (comment : Bool) : List Char → List Char
  | [] => []
  | char :: text =>
      if comment then skipSpaces (char != '\n') text
      else if isWhite char then skipSpaces false text
      else if char == '#' then skipSpaces true text
      else char :: text

theorem length_skipSpaces_le (comment : Bool) (text : List Char) :
    (skipSpaces comment text).length ≤ text.length := by
  induction text generalizing comment with
  | nil => simp [skipSpaces]
  | cons char text ih =>
      simp only [skipSpaces]
      repeat' split
      all_goals first
        | exact Nat.le_refl _
        | exact Nat.le_succ_of_le (ih _)

/-- Steps over what the flags in force ignore. -/
def skip (flags : Flags) (text : List Char) : List Char :=
  if flags.spaced then skipSpaces false text else text

theorem length_skip_le (flags : Flags) (text : List Char) :
    (skip flags text).length ≤ text.length := by
  simp only [skip]
  split
  · exact length_skipSpaces_le ..
  · exact Nat.le_refl _

/-- The next character that is no white space; the first number sign is stepped over too. -/
def findNext? (marked : Bool) : List Char → Option Char
  | [] => none
  | char :: text =>
      if isWhite char then findNext? marked text
      else if !marked && char == '#' then findNext? true text
      else some char

/-- The character that comes next, or the one after white space where that is ignored. -/
def peek? (flags : Flags) (text : List Char) : Option Char :=
  if flags.spaced then (findNext? false text).or text.head? else text.head?

end Blanks

/-- What an escape stands for. -/
inductive Escape where
  | char (value : Char)
  | set (value : CharSet)
  | look (test : Look)

section Codes

/-- Reads exactly `count` hexadecimal digits. -/
def takeHex (flags : Flags) : Nat → Nat → List Char → Except SyntaxError (Char × List Char)
  | 0, code, text =>
      match Text.charOfCode? code with
      | some char => .ok (char, text)
      | none => .error .invalidHex
  | _ + 1, _, [] => .error .shortHex
  | count + 1, code, char :: text =>
      match Text.hexValue? char with
      | some digit => takeHex flags count (16 * code + digit) (skip flags text)
      | none => .error .invalidHexDigit

/-- Reads hexadecimal digits up to the closing brace. `code` is what the digits read so far
spell, if there are any. -/
def takeBracedHex (flags : Flags) (code : Option Nat) (text : List Char) :
    Except SyntaxError (Char × List Char) :=
  match _ : skip flags text with
  | [] => .error .unclosedBracedHex
  | '\x7d' :: rest =>
      match code with
      | none => .error .emptyBracedHex
      | some code =>
          match Text.charOfCode? code with
          | some char => .ok (char, rest)
          | none => .error .invalidBracedHex
  | char :: rest =>
      match Text.hexValue? char with
      | some digit => takeBracedHex flags (some (16 * code.getD 0 + digit)) rest
      | none => .error .invalidBracedHexDigit
termination_by text.length
decreasing_by
  rename_i read
  have bound := length_skip_le flags text
  simp only [read, List.length_cons] at bound
  omega

end Codes

section Edges

def isEdgeChar (char : Char) : Bool :=
  char.isAlpha || char == '-'

/-- Reads the letters of the name of a word edge, and what follows them. -/
def takeEdgeName (flags : Flags) (text : List Char) : List Char × List Char :=
  match _ : skip flags text with
  | [] => ([], [])
  | char :: rest =>
      if isEdgeChar char then
        let (name, after) := takeEdgeName flags rest
        (char :: name, after)
      else ([], char :: rest)
termination_by text.length
decreasing_by
  rename_i read _
  have bound := length_skip_le flags text
  simp only [read, List.length_cons] at bound
  omega

def edgeOfName? (name : String) : Option Look :=
  match name with
  | "start" => some .wordStart
  | "end" => some .wordEnd
  | "start-half" => some .wordStartHalf
  | "end-half" => some .wordEndHalf
  | _ => none

/-- Reads the name in braces that may follow a word edge. Braces that do not hold a name are left
alone, because they may count how often the edge is repeated. -/
def takeWordEdge (flags : Flags) (text : List Char) : Except SyntaxError (Look × List Char) :=
  match text with
  | '\x7b' :: rest =>
      match takeEdgeName flags rest with
      | ([], []) => .error .unfinishedWordEdge
      | ([], _) => .ok (.wordEdge, text)
      | (name, '\x7d' :: after) =>
          match edgeOfName? (String.ofList name) with
          | some test => .ok (test, after)
          | none => .error .unknownWordEdge
      | _ => .error .unclosedWordEdge
  | text => .ok (.wordEdge, text)

end Edges

section Escapes

/-- The classes that one letter stands for; a capital stands for all other characters. -/
def shorthand? (letter : Char) : Option CharSet :=
  match letter with
  | 'd' => some .digits
  | 'D' => some CharSet.digits.complement
  | 's' => some .blanks
  | 'S' => some CharSet.blanks.complement
  | 'w' => some .wordChars
  | 'W' => some CharSet.wordChars.complement
  | _ => none

/-- An escaped character that is not a letter or digit stands for itself. -/
def isEscapable (char : Char) : Bool :=
  char.toNat < 128 && !char.isAlphanum && char != '<' && char != '>'

def controlEscape? (letter : Char) : Option Char :=
  match letter with
  | 'a' => some (Char.ofNat 7)
  | 'f' => some (Char.ofNat 12)
  | 't' => some '\t'
  | 'n' => some '\n'
  | 'r' => some '\r'
  | 'v' => some (Char.ofNat 11)
  | _ => none

def hexLength? (letter : Char) : Option Nat :=
  match letter with
  | 'x' => some 2
  | 'u' => some 4
  | 'U' => some 8
  | _ => none

/-- Reads what follows a backslash. -/
def takeEscape (flags : Flags) (text : List Char) :
    Except SyntaxError (Escape × List Char) :=
  match text with
  | [] => .error .unfinishedEscape
  | letter :: rest =>
      match hexLength? letter, shorthand? letter, controlEscape? letter with
      | some length, _, _ =>
          match skip flags rest with
          | [] => .error .missingHex
          | '\x7b' :: rest =>
              (takeBracedHex flags none rest).map fun taken => (.char taken.1, taken.2)
          | rest => (takeHex flags length 0 rest).map fun taken => (.char taken.1, taken.2)
      | none, some set, _ => .ok (.set set, rest)
      | none, none, some control => .ok (.char control, rest)
      | none, none, none =>
          if letter.isDigit then .error .backReference
          else if letter == 'p' || letter == 'P' then .error .unicodeClass
          else if isEscapable letter then .ok (.char letter, rest)
          else
            match letter with
            | 'A' => .ok (.look .textStart, rest)
            | 'z' => .ok (.look .textEnd, rest)
            | 'b' => (takeWordEdge flags rest).map fun taken => (.look taken.1, taken.2)
            | 'B' => .ok (.look .wordInside, rest)
            | '<' => .ok (.look .wordStart, rest)
            | '>' => .ok (.look .wordEnd, rest)
            | _ => .error .unknownEscape

end Escapes

section Singles

/-- The set of a letter in both cases. -/
def bothCases (char : Char) : CharSet :=
  (CharSet.ofChars [char]).foldCase

/-- One character, in either case if the flags say so. -/
def single (flags : Flags) (char : Char) : Pattern :=
  if flags.ignoreCase && char.isAlpha then oneOf (bothCases char) else exactly char

def ofEscape (flags : Flags) : Escape → Pattern
  | .char char => single flags char
  | .set set => oneOf set
  | .look test => look test

/-- Any character, or any that does not end a line. -/
def dot (flags : Flags) : Pattern :=
  oneOf (if flags.dotAll then .all
    else if flags.carriage then (CharSet.ofChars ['\n', '\r']).complement
    else (CharSet.ofChars ['\n']).complement)

def startAnchor (flags : Flags) : Pattern :=
  look (if flags.multiLine then
    if flags.carriage then .carriageLineStart else .lineStart else .textStart)

def endAnchor (flags : Flags) : Pattern :=
  look (if flags.multiLine then
    if flags.carriage then .carriageLineEnd else .lineEnd else .textEnd)

end Singles

end ModuleGraph.Pattern
