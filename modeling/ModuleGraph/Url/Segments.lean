/-
This file follows the segments of a written path: dots stay or lead up, and the path of a file
may start with the letter of a drive.
-/

import ModuleGraph.Url.Percent

namespace ModuleGraph.Url

section Marks

/-- Tabs and ends of lines, which stand for nothing in a URL. -/
def isBreak (char : Char) : Bool :=
  char == '\t' || char == '\n' || char == '\r'

def dropBreaks (text : List Char) : List Char :=
  text.filter fun char => !isBreak char

def isSlash (char : Char) : Bool :=
  char == '/' || char == '\\'

/-- Query and fragment end the path. -/
def isPathEnd (char : Char) : Bool :=
  char == '?' || char == '#'

/-- A backslash separates segments too when the scheme is special. -/
def isSeparator (special : Bool) (char : Char) : Bool :=
  char == '/' || (special && char == '\\')

end Marks

section Drives

def isDriveLetter (segment : List Char) : Bool :=
  match segment with
  | [letter, mark] => letter.isAlpha && (mark == ':' || mark == '|')
  | _ => false

def isNormalDriveLetter (segment : List Char) : Bool :=
  isDriveLetter segment && segment.getLast? == some ':'

/-- The letter of a drive with a colon. -/
def normalDrive (segment : List Char) : List Char :=
  segment.take 1 ++ [':']

/-- Whether a text starts with a drive letter that is a whole segment. -/
def startsWithDrive (text : List Char) : Bool :=
  isDriveLetter (text.take 2) &&
    ((text.drop 2).head?.map fun char => isSlash char || isPathEnd char).getD true

/-- A drive letter ends at a break that is followed by anything in the same piece. -/
def splitDrive? (piece : List Char) : Option (List Char × List Char) :=
  match piece.dropWhile isBreak with
  | [] => none
  | letter :: rest =>
      match rest.dropWhile isBreak with
      | ':' :: rest =>
          if letter.isAlpha && (rest.head?.map isBreak).getD false &&
              !(dropBreaks rest).isEmpty then
            some ([letter, ':'], dropBreaks rest)
          else none
      | _ => none

end Drives

section Dots

def isHere (segment : List Char) : Bool :=
  segment == ['.'] || segment.map Char.toLower == "%2e".toList

def isParent (segment : List Char) : Bool :=
  ["..", ".%2e", "%2e.", "%2e%2e"].any fun spelling =>
    segment.map Char.toLower == spelling.toList

/-- The path one level up; a drive letter stays. -/
def parent (path : List (List Char)) : List (List Char) :=
  match path.getLast? with
  | some last => if startsWithDrive last then path else path.dropLast
  | none => []

end Dots

/-- The pieces of a path between separators. -/
def pieces (special : Bool) (text : List Char) : List (List Char) :=
  Text.split '/' (text.map fun char => if isSeparator special char then '/' else char)

/-- The segment that a piece of a path stands for. -/
def segmentOf (piece : List Char) : List Char :=
  percentEncode isPathEscaped (dropBreaks piece)

/-- A path under way. -/
structure Trail where
  segments : List (List Char)
  /-- Whether the letter of a drive was written in the first place. -/
  onDrive : Bool

namespace Trail

def start (path : List (List Char)) : Trail :=
  ⟨path, false⟩

/-- Adds a name. The first name of a file's path may be a drive letter. -/
def enter (file : Bool) (trail : Trail) (piece : List Char) : Trail :=
  let name := segmentOf piece
  if file && trail.segments.isEmpty then
    match splitDrive? piece with
    | some (drive, rest) => { trail with segments := [drive, percentEncode isPathEscaped rest] }
    | none =>
        if isDriveLetter name then ⟨[normalDrive name], true⟩
        else { trail with segments := [name] }
  else { trail with segments := trail.segments ++ [name] }

/-- Follows the pieces of a path; dots at the end leave a slash. -/
def follow (file : Bool) (trail : Trail) : List (List Char) → Trail
  | [] => trail
  | piece :: pieces =>
      let slash := if pieces.isEmpty then [[]] else []
      if isParent (segmentOf piece) then
        follow file { trail with segments := parent trail.segments ++ slash } pieces
      else if isHere (segmentOf piece) then
        follow file { trail with segments := trail.segments ++ slash } pieces
      else follow file (trail.enter file piece) pieces

/-- Follows the pieces of a file's path from where a URL leads. A drive letter below the first
segment is not closed by a slash: a name right behind it goes on in the same segment. -/
def resume (path : List (List Char)) (pieces : List (List Char)) : Trail :=
  match path.getLast?, pieces with
  | some last, piece :: rest =>
      if path.length > 1 && isNormalDriveLetter last then
        if isParent (segmentOf piece) && rest.isEmpty then start path
        else if isParent (segmentOf piece) || isHere (segmentOf piece) then
          follow true (start path) pieces
        else follow true (start path.dropLast) ((last ++ piece) :: rest)
      else follow true (start path) pieces
  | _, pieces => follow true (start path) pieces

/-- The segments of a path. The paths of files do not start with empty segments. -/
def path (file : Bool) (trail : Trail) : List (List Char) :=
  if file then
    match trail.segments.dropWhile List.isEmpty with
    | [] => [[]]
    | segments => segments
  else trail.segments

end Trail

end ModuleGraph.Url
