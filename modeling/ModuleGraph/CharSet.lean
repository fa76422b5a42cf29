/-
This file holds sets of characters as ranges of code points.
-/

namespace ModuleGraph

/-- A set of characters in ranges of code points, each with its first and its last. -/
structure CharSet where
  ranges : List (Nat × Nat)
  deriving DecidableEq, Repr

namespace CharSet

def isInside (code : Nat) (range : Nat × Nat) : Bool :=
  range.1 ≤ code && code ≤ range.2

def contains (set : CharSet) (char : Char) : Bool :=
  set.ranges.any (isInside char.toNat)

section Merging

/-- Joins a range with the ranges after it that overlap or touch it. -/
def mergeFrom (range : Nat × Nat) : List (Nat × Nat) → List (Nat × Nat)
  | [] => [range]
  | next :: ranges =>
      if next.1 ≤ range.2 + 1 then mergeFrom (range.1, max range.2 next.2) ranges
      else range :: mergeFrom next ranges

def merge : List (Nat × Nat) → List (Nat × Nat)
  | [] => []
  | range :: ranges => mergeFrom range ranges

end Merging

/-- The set of all characters in any of the ranges. Its own ranges are in order and apart. -/
def ofRanges (ranges : List (Nat × Nat)) : CharSet :=
  ⟨merge (ranges.mergeSort fun first second => first.1 ≤ second.1)⟩

def ofChars (chars : List Char) : CharSet :=
  ofRanges (chars.map fun char => (char.toNat, char.toNat))

def lastCode : Nat :=
  0x10FFFF

def all : CharSet :=
  ⟨[(0, lastCode)]⟩

section Complements

/-- The ranges between others, from a code point on. -/
def gaps (start : Nat) : List (Nat × Nat) → List (Nat × Nat)
  | [] => if start ≤ lastCode then [(start, lastCode)] else []
  | range :: ranges =>
      (if start < range.1 then [(start, range.1 - 1)] else []) ++ gaps (range.2 + 1) ranges

def complement (set : CharSet) : CharSet :=
  ⟨gaps 0 set.ranges⟩

end Complements

section Cases

/-- The letters of a range in the other case, as far as ASCII goes. A range that holds small
letters gives their capitals only. -/
def otherCase? (range : Nat × Nat) : Option (Nat × Nat) :=
  if range.1 ≤ 122 && 97 ≤ range.2 then some (max range.1 97 - 32, min range.2 122 - 32)
  else if range.1 ≤ 90 && 65 ≤ range.2 then some (max range.1 65 + 32, min range.2 90 + 32)
  else none

def foldCase (set : CharSet) : CharSet :=
  ofRanges (set.ranges ++ set.ranges.filterMap otherCase?)

end Cases

section Named

def digits : CharSet :=
  ofRanges [(48, 57)]

def capitals : CharSet :=
  ofRanges [(65, 90)]

def smallLetters : CharSet :=
  ofRanges [(97, 122)]

/-- White space within ASCII. -/
def blanks : CharSet :=
  ofRanges [(9, 13), (32, 32)]

/-- Letters, digits and the underscore. -/
def wordChars : CharSet :=
  ofRanges [(48, 57), (65, 90), (95, 95), (97, 122)]

end Named

end CharSet

end ModuleGraph
