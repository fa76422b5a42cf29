/-
This file finds the imports in the text of a script.
-/

import ModuleGraph.Import
import ModuleGraph.ImportScan.Comments

namespace ModuleGraph.ImportScan

def isQuote (char : Char) : Bool :=
  char == '\'' || char == '"'

def isWordChar (char : Char) : Bool :=
  char.isAlphanum || char == '_'

/-- The characters that may stand between the keyword of an import and its `from`. -/
def isClauseChar (char : Char) : Bool :=
  !isQuote char && char != ';'

/-- A specifier at the front of a text: how many characters stand before it, and how many behind
it belong to the same form. -/
structure Reference where
  before : Nat
  specifier : List Char
  behind : Nat

namespace Reference

def length (reference : Reference) : Nat :=
  reference.before + reference.specifier.length + reference.behind

/-- The same specifier, seen from `count` characters further in front. -/
def shift (count : Nat) (reference : Reference) : Reference :=
  { reference with before := reference.before + count }

end Reference

/-- Finds the form at the very front of a text. -/
abbrev Form :=
  List Char → Option Reference

section Parts

/-- A quoted specifier. Quotes of both kinds end it. -/
def quoted : Form
  | [] => none
  | quote :: rest =>
      let specifier := rest.takeWhile fun char => !isQuote char
      if isQuote quote && !specifier.isEmpty && specifier.length < rest.length then
        some ⟨1, specifier, 1⟩
      else none

def afterBlanks (form : Form) : Form := fun text =>
  (form (text.dropWhile isBlank)).map (Reference.shift (text.takeWhile isBlank).length)

def afterWord (word : String) (form : Form) : Form := fun text =>
  if word.toList.isPrefixOf text then
    (form (text.drop word.length)).map (Reference.shift word.length)
  else none

/-- A quoted specifier as the only argument of a call. -/
def argument : Form
  | '(' :: rest => do
      let reference ← afterBlanks quoted rest
      let after := rest.drop reference.length
      match after.dropWhile isBlank with
      | ')' :: _ =>
          let blanks := (after.takeWhile isBlank).length
          some ⟨reference.before + 1, reference.specifier, reference.behind + blanks + 1⟩
      | _ => none
  | _ => none

/-- What a clause binds, and then the word `from` with a quoted specifier. `last` is the character
in front of the text, and `before` counts those in front of it. -/
def clause (before : Nat) (last : Char) : Form
  | [] => none
  | char :: rest =>
      let source :=
        if isWordChar last then none
        else afterWord "from" (afterBlanks quoted) (char :: rest)
      match source with
      | some reference => some (reference.shift before)
      | none => if isClauseChar char then clause (before + 1) char rest else none

/-- A clause that a keyword stands in front of, which is a word of its own. -/
def clauseAfter (keyword : String) : Form := fun text =>
  afterWord keyword (fun rest =>
    if (rest.head?.map isWordChar).getD true then none else clause 0 ' ' rest) text

end Parts

/-- Where a form may start. -/
inductive Site where
  /-- Only blanks stand between the start of a line and the form. -/
  | line
  /-- The form starts a word. -/
  | word

/-- What is known about a place of a text: the character in front of it, and whether the line has
only blanks so far. -/
structure Place where
  last : Option Char
  fresh : Bool

namespace Place

def start : Place :=
  ⟨none, true⟩

def step (place : Place) (char : Char) : Place :=
  ⟨some char, char == '\n' || (place.fresh && isBlank char)⟩

def allows (place : Place) : Site → Bool
  | .line => place.fresh
  | .word => !(place.last.map isWordChar).getD false

end Place

/-- An import or export with a `from` clause. -/
def fromClause : Form := fun text =>
  (clauseAfter "import" text).or (clauseAfter "export" text)

/-- An import that binds no name. -/
def sideEffect : Form :=
  afterWord "import" (afterBlanks quoted)

/-- A call of a function with a quoted specifier. -/
def call (function : String) : Form :=
  afterWord function (afterBlanks argument)

def forms : List (Site × Form × ResolveKind) :=
  [(.line, fromClause, .importStatement), (.line, sideEffect, .importStatement),
    (.word, call "import", .dynamicImport), (.word, call "require", .requireCall)]

/-- The specifiers of one form, each with its position. Forms do not overlap: `skip` characters
still belong to the form before. -/
def occurrences (site : Site) (form : Form) (skip position : Nat) (place : Place) :
    List Char → List (Nat × List Char)
  | [] => []
  | char :: rest =>
      match skip with
      | skip + 1 => occurrences site form skip (position + 1) (place.step char) rest
      | 0 =>
          match if place.allows site then form (char :: rest) else none with
          | some reference =>
              (position + reference.before, reference.specifier) ::
                occurrences site form (reference.length - 1) (position + 1) (place.step char) rest
          | none => occurrences site form 0 (position + 1) (place.step char) rest

/-- The imports of one form, each with the position of its specifier. -/
def importsOf (code : List Char) (form : Site × Form × ResolveKind) : List (Nat × Import) :=
  (occurrences form.1 form.2.1 0 0 Place.start code).map fun (position, specifier) =>
    (position, ⟨String.ofList specifier, form.2.2⟩)

/-- Keeps the first import of each specifier. -/
def distinct (imports : List Import) : List Import :=
  imports.foldl (fun kept next =>
    if kept.any fun other => other.specifier == next.specifier then kept
    else kept ++ [next]) []

/-- The imports of a script in the order of their specifiers. -/
def scan (source : String) : List Import :=
  let code := withoutComments source.toList
  let found := forms.flatMap (importsOf code)
  distinct ((found.mergeSort fun first second => first.1 ≤ second.1).map Prod.snd)

end ModuleGraph.ImportScan
