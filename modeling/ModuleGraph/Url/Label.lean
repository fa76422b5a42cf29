/-
This file says which domain names there are and writes them in ASCII. Their labels are parted by
dots, and one that starts with `xn--` stands for other characters.
-/

import ModuleGraph.Unicode.Direction
import ModuleGraph.Unicode.Joining
import ModuleGraph.Unicode.Mark
import ModuleGraph.Unicode.Replacement
import ModuleGraph.Url.Punycode

namespace ModuleGraph.Url.Label

section Joiners

/-- The sign that joins the letters around it. -/
def joiner : Char :=
  '\u200d'

/-- The sign that keeps the letters around it apart. -/
def nonJoiner : Char :=
  '\u200c'

def isVirama (char : Char) : Bool :=
  Unicode.combiningClass char.toNat == Unicode.viramaClass

/-- The first character that is not transparent is one of the letters. -/
def meets (letters : CharSet) (text : List Char) : Bool :=
  (text.dropWhile Unicode.transparent.contains).head?.any letters.contains

/-- Both signs may follow a virama. The one that keeps letters apart may also stand between two
that would join. The text in front of the sign comes last character first. -/
def allowsJoiner (before : List Char) (char : Char) (after : List Char) : Bool :=
  if char == joiner then before.head?.any isVirama
  else if char == nonJoiner then
    before.head?.any isVirama ||
      (meets Unicode.joiningNext before && meets Unicode.joiningPrevious after)
  else true

def allowsJoiners (before : List Char) : List Char → Bool
  | [] => true
  | char :: after => allowsJoiner before char after && allowsJoiners (char :: before) after

end Joiners

section Texts

/-- The characters of the text of a label. -/
def isLabelChar (char : Char) : Bool :=
  char.toNat < 128 || Unicode.domainChars.contains char

/-- The text of a label is the one way to write it. -/
def isText (text : List Char) : Bool :=
  text.all isLabelChar && !text.head?.any Unicode.marks.contains && Unicode.isComposed text &&
    allowsJoiners [] text

/-- Longer labels are not decoded. -/
def lengthLimit : Nat :=
  2000

/-- The text of a label. What follows `xn--` is ASCII and has to bring in other characters. -/
def decode? : List Char → Option (List Char)
  | 'x' :: 'n' :: '-' :: '-' :: code =>
      if code.isEmpty || code.getLast? == some '-' || lengthLimit < code.length ||
          !Text.isAscii code then none
      else (Punycode.decode? code).filter isText
  | label => if Text.isAscii label || isText label then some label else none

/-- Longer labels are not encoded. -/
def textLimit : Nat :=
  1000

/-- A label in ASCII. -/
def encode? (label : List Char) : Option (List Char) :=
  if Text.isAscii label then some label
  else if textLimit < label.length then none
  else some (['x', 'n', '-', '-'] ++ Punycode.encode label)

end Texts

section Directions

open Unicode (Direction direction)

/-- What may follow the first character of a label from left to right. -/
def runsRight (rest : List Direction) : Bool :=
  rest.all fun next => next != .rightToLeft && next != .rightToLeftDigit

/-- What may follow the first character of a label from right to left. -/
def runsLeft (rest : List Direction) : Bool :=
  rest.all (· != .leftToRight) && !(rest.contains .digit && rest.contains .rightToLeftDigit)

/-- A label starts with a letter, goes on in the direction of that letter and ends, marks apart,
with a letter or a digit. -/
def hasOneDirection : List Char → Bool
  | [] => true
  | first :: rest =>
      let rest := rest.map direction
      let ending := (rest.reverse.dropWhile (· == .mark)).head?
      ending.all (· != .neutral) &&
        match direction first with
        | .leftToRight => runsRight rest
        | .rightToLeft => runsLeft rest
        | _ => false

def isRightToLeft (char : Char) : Bool :=
  direction char == .rightToLeft || direction char == .rightToLeftDigit

end Directions

/-- Where a text holds characters that are written from right to left, each text of the name has one
direction. -/
def haveDirections (texts : List (List Char)) : Bool :=
  !texts.any (List.any · isRightToLeft) || texts.all hasOneDirection

/-- A name in ASCII, if there is such a name. -/
def ascii? (host : List Char) : Option (List Char) := do
  let labels := Text.split '.' (← Unicode.normalForm? host)
  if haveDirections (← labels.mapM decode?) then
    return Text.join '.' (← labels.mapM encode?)
  else none

end ModuleGraph.Url.Label
