/-
This file measures regular expressions: how deep they are nested, and how much space their
automaton takes.
-/

import ModuleGraph.Pattern.Basic

namespace ModuleGraph.Pattern

section Depth

mutual

/-- How many patterns enclose the innermost one. -/
def depth : Pattern → Nat
  | empty | exactly _ | oneOf _ | look _ => 0
  | capture _ inner => depth inner + 1
  | repetition _ _ inner => depth inner + 1
  | sequence parts => depthOfAny parts + 1
  | choice alternatives => depthOfAny alternatives + 1

def depthOfAny : List Pattern → Nat
  | [] => 0
  | pattern :: patterns => max (depth pattern) (depthOfAny patterns)

end

/-- How deep patterns may be nested. -/
def depthLimit : Nat :=
  50

end Depth

section Space

mutual

/-- Whether the pattern can match without moving on. -/
def canBeEmpty : Pattern → Bool
  | empty | look _ => true
  | exactly _ | oneOf _ => false
  | capture _ inner => canBeEmpty inner
  | repetition least _ inner => least = 0 || canBeEmpty inner
  | sequence parts => allCanBeEmpty parts
  | choice alternatives => anyCanBeEmpty alternatives

def allCanBeEmpty : List Pattern → Bool
  | [] => true
  | pattern :: patterns => canBeEmpty pattern && allCanBeEmpty patterns

def anyCanBeEmpty : List Pattern → Bool
  | [] => false
  | pattern :: patterns => canBeEmpty pattern || anyCanBeEmpty patterns

end

/-- The bytes of a state without a list. -/
def stateSize : Nat :=
  32

/-- The bytes of a state that goes on in any of `count` others. -/
def splitSize (count : Nat) : Nat :=
  stateSize + 4 * count

/-- The bytes of a repetition of a pattern that takes `inner` bytes itself. -/
def repetitionSize (least : Nat) (most : Option Nat) (nullable : Bool) (inner : Nat) : Nat :=
  match most with
  | none =>
      if least = 0 then
        inner + (if nullable then 2 * splitSize 2 + stateSize else splitSize 2)
      else least * inner + splitSize 2
  | some most =>
      let front := if least = 0 then stateSize else least * inner
      if most ≤ least then front
      else if least = 0 && most = 1 then splitSize 2 + inner + stateSize
      else front + stateSize + (most - least) * (splitSize 2 + inner)

mutual

/-- The bytes of the states of a pattern. -/
def space : Pattern → Nat
  | empty | exactly _ | look _ => stateSize
  | oneOf set => stateSize + 8 * set.ranges.length
  | capture _ inner => 2 * stateSize + space inner
  | repetition least most inner => repetitionSize least most (canBeEmpty inner) (space inner)
  | sequence parts => spaceOfAll parts
  | choice alternatives => spaceOfAll alternatives + splitSize alternatives.length + stateSize

def spaceOfAll : List Pattern → Nat
  | [] => 0
  | pattern :: patterns => space pattern + spaceOfAll patterns

end

/-- The bytes that a group takes apart from its states. -/
def groupSize : Option (List Char) → Nat
  | none => 16
  | some name => 16 + 28 + (String.ofList name).utf8ByteSize

mutual

/-- The bytes that the groups of a pattern take apart from their states. -/
def groupSpace : Pattern → Nat
  | empty | exactly _ | oneOf _ | look _ => 0
  | capture name inner => groupSize name + groupSpace inner
  | repetition _ _ inner => groupSpace inner
  | sequence parts => groupSpaceOfAll parts
  | choice alternatives => groupSpaceOfAll alternatives

def groupSpaceOfAll : List Pattern → Nat
  | [] => 0
  | pattern :: patterns => groupSpace pattern + groupSpaceOfAll patterns

end

/-- The bytes of the automaton for a whole pattern, which is a group of its own. -/
def automatonSize (pattern : Pattern) : Nat :=
  3 * stateSize + space pattern + groupSize none + groupSpace pattern

/-- How many bytes an automaton may take. -/
def spaceLimit : Nat :=
  10 * 1024 * 1024

end Space

end ModuleGraph.Pattern
