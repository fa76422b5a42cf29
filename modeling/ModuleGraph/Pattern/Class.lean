/-
This file reads the classes of written regular expressions: sets of characters in brackets.
-/

import ModuleGraph.Pattern.Escape

namespace ModuleGraph.Pattern

section Names

/-- The classes that are called by a name between colons. -/
def namedClass? (name : String) : Option CharSet :=
  match name with
  | "alnum" => some (.ofRanges [(48, 57), (65, 90), (97, 122)])
  | "alpha" => some (.ofRanges [(65, 90), (97, 122)])
  | "ascii" => some (.ofRanges [(0, 127)])
  | "blank" => some (.ofRanges [(9, 9), (32, 32)])
  | "cntrl" => some (.ofRanges [(0, 31), (127, 127)])
  | "digit" => some .digits
  | "graph" => some (.ofRanges [(33, 126)])
  | "lower" => some .smallLetters
  | "print" => some (.ofRanges [(32, 126)])
  | "punct" => some (.ofRanges [(33, 47), (58, 64), (91, 96), (123, 126)])
  | "space" => some .blanks
  | "upper" => some .capitals
  | "word" => some .wordChars
  | "xdigit" => some (.ofRanges [(48, 57), (65, 70), (97, 102)])
  | _ => none

/-- Reads a named class from behind its opening bracket. -/
def takeNamedClass? (text : List Char) : Option (CharSet × List Char) :=
  match text with
  | ':' :: rest =>
      let (negated, rest) := match rest with
        | '^' :: more => (true, more)
        | rest => (false, rest)
      match rest.dropWhile (· != ':') with
      | ':' :: ']' :: after =>
          (namedClass? (String.ofList (rest.takeWhile (· != ':')))).map fun set =>
            (if negated then set.complement else set, after)
      | _ => none
  | _ => none

end Names

section Items

/-- Reads one character or escape of a class. -/
def takeClassItem (flags : Flags) (text : List Char) :
    Except SyntaxError (Escape × List Char) :=
  match text with
  | [] => .error .unclosedClass
  | '\\' :: rest =>
      match takeEscape flags rest with
      | .ok (.char char, rest) =>
          if flags.ignoreCase && char.isAlpha then .ok (.set (bothCases char), rest)
          else .ok (.char char, rest)
      | taken => taken
  | char :: rest => .ok (.char char, rest)

def singleOf : Escape → Except SyntaxError Char
  | .char char => .ok char
  | _ => .error .invalidRangeEnd

def rangesOf : Escape → Except SyntaxError (List (Nat × Nat))
  | .char char => .ok [(char.toNat, char.toNat)]
  | .set set => .ok set.ranges
  | .look _ => .error .invalidClassItem

/-- Reads a single item or a range of a class. -/
def takeClassRange (flags : Flags) (text : List Char) :
    Except SyntaxError (List (Nat × Nat) × List Char) := do
  let (item, text) ← takeClassItem flags text
  match skip flags text with
  | [] => throw .unclosedClassItem
  | char :: rest =>
      let after := peek? flags rest
      if char != '-' || after == some ']' || after == some '-' then
        return (← rangesOf item, char :: rest)
      else
        match skip flags rest with
        | [] => throw .unclosedClassDash
        | rest =>
            let (last, text) ← takeClassItem flags rest
            let first ← singleOf item
            let last ← singleOf last
            if last < first then throw .invalidClassRange
            return ([(first.toNat, last.toNat)], text)

end Items

/-- Reads the items of a class up to its closing bracket. Cases are folded before the class is
negated. Every item takes at least one character, so `fuel` is as long as the text. -/
def takeClassItems (flags : Flags) (negated : Bool) : Nat → List (Nat × Nat) → List Char →
    Except SyntaxError (Pattern × List Char)
  | 0, _, _ => .error .unclosedClass
  | fuel + 1, ranges, text =>
      match skip flags text with
      | [] => .error .unclosedClass
      | ']' :: rest =>
          let set := CharSet.ofRanges ranges
          let set := if flags.ignoreCase then set.foldCase else set
          .ok (oneOf (if negated then set.complement else set), rest)
      | '[' :: rest =>
          match takeNamedClass? rest with
          | some (named, rest) =>
              takeClassItems flags negated fuel (ranges ++ named.ranges) rest
          | none => .error .nestedClass
      | '&' :: '&' :: _ => .error .classIntersection
      | '-' :: '-' :: _ => .error .classDifference
      | '~' :: '~' :: _ => .error .classSymmetricDifference
      | text =>
          match takeClassRange flags text with
          | .error error => .error error
          | .ok (item, rest) => takeClassItems flags negated fuel (ranges ++ item) rest

/-- Reads the dashes that stand for themselves at the start of a class: whether there are any,
and what follows them. -/
def takeDashes (flags : Flags) (dashes : Bool) (text : List Char) :
    Except SyntaxError (Bool × List Char) :=
  match text with
  | '-' :: rest =>
      if (skip flags rest).isEmpty then .error .unclosedClassDash
      else takeDashes flags true (skip flags rest)
  | text => .ok (dashes, text)
termination_by text.length
decreasing_by
  exact Nat.lt_succ_of_le (length_skip_le flags rest)

/-- Reads a class from behind its opening bracket. -/
def takeClass (flags : Flags) (text : List Char) : Except SyntaxError (Pattern × List Char) := do
  let text := skip flags text
  if text.isEmpty then throw .unclosedClass
  let (negated, text) := match text with
    | '^' :: rest => (true, skip flags rest)
    | text => (false, text)
  if text.isEmpty then throw .unclosedClassNegation
  let (dashes, text) ← takeDashes flags false text
  match dashes, text with
  | false, ']' :: rest =>
      if (skip flags rest).isEmpty then throw .unclosedClassBracket
      takeClassItems flags negated (rest.length + 1) [(93, 93)] rest
  | _, text =>
      takeClassItems flags negated (text.length + 1) (if dashes then [(45, 45)] else []) text

end ModuleGraph.Pattern
