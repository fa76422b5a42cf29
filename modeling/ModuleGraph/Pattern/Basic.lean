/-
This file describes regular expressions and how they are put together.
-/

import ModuleGraph.CharSet

namespace ModuleGraph

/-- A test of the place between two characters. -/
inductive Look where
  | textStart
  | textEnd
  | lineStart
  | lineEnd
  | carriageLineStart
  | carriageLineEnd
  | wordEdge
  | wordInside
  | wordStart
  | wordEnd
  | wordStartHalf
  | wordEndHalf
  deriving DecidableEq, Repr

/-- A regular expression. A pattern is only asked whether it matches, so nothing in it says which
of several matches is preferred. -/
inductive Pattern where
  | empty
  | exactly (char : Char)
  | oneOf (set : CharSet)
  | look (test : Look)
  /-- A group whose text could be asked for, under a name if it has one. -/
  | capture (name : Option (List Char)) (inner : Pattern)
  | repetition (least : Nat) (most : Option Nat) (inner : Pattern)
  | sequence (parts : List Pattern)
  | choice (alternatives : List Pattern)
  deriving Inhabited, Repr

namespace Pattern

/-- The patterns one after the other. -/
def sequenceOf : List Pattern → Pattern
  | [] => empty
  | [pattern] => pattern
  | patterns => sequence patterns

/-- Any of the patterns. -/
def choiceOf : List Pattern → Pattern
  | [pattern] => pattern
  | patterns => choice patterns

/-- The pattern at least and at most so many times; none and one are no repetitions. -/
def repeated (least : Nat) (most : Option Nat) (inner : Pattern) : Pattern :=
  if least = 0 && most == some 0 then empty
  else if least = 1 && most == some 1 then inner
  else repetition least most inner

end Pattern

end ModuleGraph
