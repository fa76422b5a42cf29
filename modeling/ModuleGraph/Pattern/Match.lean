/-
This file tells which texts a regular expression matches. All places that a match can have come
to are marked at once, so the work is bounded by the sizes of pattern and text.
-/

import ModuleGraph.Pattern.Basic

namespace ModuleGraph

section Places

/-- A place of a text: the characters behind it and ahead of it. -/
abbrev Place :=
  Option Char × Option Char

/-- The places of a text that follows the character `behind`. -/
def placesAfter (behind : Option Char) : List Char → List Place
  | [] => [(behind, none)]
  | char :: text => (behind, some char) :: placesAfter (some char) text

def placesOf (text : List Char) : List Place :=
  placesAfter none text

end Places

namespace Look

def isWord (char : Option Char) : Bool :=
  (char.map CharSet.wordChars.contains).getD false

def holds (place : Place) : Look → Bool
  | textStart => place.1.isNone
  | textEnd => place.2.isNone
  | lineStart => place.1.isNone || place.1 == some '\n'
  | lineEnd => place.2.isNone || place.2 == some '\n'
  | carriageLineStart =>
      place.1.isNone || place.1 == some '\n' || (place.1 == some '\r' && place.2 != some '\n')
  | carriageLineEnd =>
      place.2.isNone || place.2 == some '\r' || (place.2 == some '\n' && place.1 != some '\r')
  | wordEdge => isWord place.1 != isWord place.2
  | wordInside => isWord place.1 == isWord place.2
  | wordStart => !isWord place.1 && isWord place.2
  | wordEnd => isWord place.1 && !isWord place.2
  | wordStartHalf => !isWord place.1
  | wordEndHalf => !isWord place.2

end Look

/-- The places of a text that a match can have come to. -/
abbrev Marks :=
  List Bool

namespace Marks

def union (first second : Marks) : Marks :=
  List.zipWith (· || ·) first second

/-- Every mark moves over the character ahead of it, or is lost. -/
def advance (accepts : Char → Bool) (text : List Char) (marks : Marks) : Marks :=
  false :: List.zipWith (fun mark char => mark && accepts char) marks text

/-- Keeps the marks of the places that pass a test. -/
def keep (test : Look) (text : List Char) (marks : Marks) : Marks :=
  List.zipWith (fun mark place => mark && test.holds place) marks (placesOf text)

/-- Takes a step so many times, or until it changes nothing any more. -/
def iterate (step : Marks → Marks) : Nat → Marks → Marks
  | 0, marks => marks
  | count + 1, marks =>
      let next := step marks
      if next == marks then marks else iterate step count next

/-- The step that keeps the marks as well. -/
def staying (step : Marks → Marks) (marks : Marks) : Marks :=
  union marks (step marks)

/-- Takes a step between `least` and `most` times. A text is passed in as many steps as it has
characters, so more steps lead nowhere else. -/
def repetition (size least : Nat) (most : Option Nat) (step : Marks → Marks)
    (marks : Marks) : Marks :=
  let further := match most with
    | some most => min (most - least) (size + 1)
    | none => size + 1
  iterate (staying step) further (iterate step (min least (size + 1)) marks)

end Marks

namespace Pattern

mutual

/-- The places where matches end that start at the marked places of the text. -/
def reach (text : List Char) : Pattern → Marks → Marks
  | empty, marks => marks
  | exactly char, marks => Marks.advance (· == char) text marks
  | oneOf set, marks => Marks.advance set.contains text marks
  | look test, marks => Marks.keep test text marks
  | capture _ inner, marks => reach text inner marks
  | repetition least most inner, marks =>
      Marks.repetition text.length least most (reach text inner) marks
  | sequence parts, marks => reachThrough text parts marks
  | choice alternatives, marks => reachAny text alternatives marks

/-- The places where matches of all patterns in a row end. -/
def reachThrough (text : List Char) : List Pattern → Marks → Marks
  | [], marks => marks
  | pattern :: patterns, marks => reachThrough text patterns (reach text pattern marks)

/-- The places where a match of any of the patterns ends. -/
def reachAny (text : List Char) : List Pattern → Marks → Marks
  | [], marks => marks.map fun _ => false
  | pattern :: patterns, marks =>
      Marks.union (reach text pattern marks) (reachAny text patterns marks)

end

/-- Whether the pattern matches anywhere in the text. -/
def isMatch (pattern : Pattern) (text : String) : Bool :=
  let text := text.toList
  (reach text pattern (List.replicate (text.length + 1) true)).any id

end Pattern

end ModuleGraph
