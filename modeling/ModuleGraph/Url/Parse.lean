/-
This file reads URLs, on their own or relative to another.
-/

import ModuleGraph.Url.Basic
import ModuleGraph.Url.Segments

namespace ModuleGraph.Url

section Input

def isEdge (char : Char) : Bool :=
  char.toNat ≤ 32

/-- The text without control characters and blanks around it. -/
def trimEdges (text : List Char) : List Char :=
  ((text.dropWhile isEdge).reverse.dropWhile isEdge).reverse

def isSchemeChar (char : Char) : Bool :=
  char.isAlphanum || char == '+' || char == '-' || char == '.'

/-- The scheme in small letters, and what follows its colon. -/
def takeScheme? (text : List Char) : Option (String × List Char) :=
  let letters := dropBreaks (text.takeWhile fun char => isSchemeChar char || isBreak char)
  if (letters.head?.map Char.isAlpha).getD false then
    match text.dropWhile fun char => isSchemeChar char || isBreak char with
    | ':' :: rest => some (String.ofList (letters.map Char.toLower), rest)
    | _ => none
  else none

def isAuthorityEnd (special : Bool) (char : Char) : Bool :=
  isSeparator special char || isPathEnd char

end Input

section Tail

def parseFragment (text : List Char) : Option String :=
  match text with
  | '#' :: rest => some (String.ofList (percentEncode isFragmentEscaped rest))
  | _ => none

/-- Reads the query and the fragment that follow a path. -/
def parseTail (special : Bool) (text : List Char) : Option String × Option String :=
  match text with
  | '?' :: rest =>
      let escaped := if special then isSpecialQueryEscaped else isQueryEscaped
      let query := percentEncode escaped (rest.takeWhile (· != '#'))
      (some (String.ofList query), parseFragment (rest.dropWhile (· != '#')))
  | text => (none, parseFragment text)

end Tail

/-- Completes a URL whose path has been followed to the end of `text`. -/
def assemble (scheme : String) (authority : Option Authority) (trail : Trail)
    (text : List Char) : Url :=
  let path := trail.path (scheme == "file")
  let rest := dropBreaks (text.dropWhile fun char => !isPathEnd char)
  let (query, fragment) := parseTail (isSpecial scheme) rest
  ⟨scheme, authority, .segmented (path.map String.ofList), query, fragment⟩

/-- The pieces of the path that a text starts with. -/
def piecesOf (scheme : String) (text : List Char) : List (List Char) :=
  pieces (isSpecial scheme) (text.takeWhile fun char => !isPathEnd char)

/-- Completes a URL whose path goes on from `path` and is written without its first slash. -/
def withPath (scheme : String) (authority : Option Authority) (path : List (List Char))
    (text : List Char) : Url :=
  let trail := (Trail.start path).follow (scheme == "file") (piecesOf scheme text)
  assemble scheme authority trail text

/-- The text without the separator that it may start with. -/
def dropSeparator (special : Bool) (text : List Char) : List Char :=
  match text with
  | char :: rest => if isSeparator special char then rest else text
  | [] => []

section AuthorityPart

/-- Reads user name and password, which end at the last at-sign before the path. -/
def parseUser (special : Bool) (text : List Char) :
    Except ParseError ((String × Option String) × List Char) :=
  let reach := text.takeWhile fun char => !isAuthorityEnd special char
  if reach.contains '@' then
    let after := (reach.reverse.takeWhile (· != '@')).length
    let user := reach.take (reach.length - after - 1)
    let rest := text.drop (reach.length - after)
    if user.isEmpty then
      match rest with
      | char :: _ => if isAuthorityEnd special char then .error .emptyHost
          else .ok (("", none), rest)
      | [] => .ok (("", none), rest)
    else
      let encode (part : List Char) := String.ofList (percentEncode isUserEscaped part)
      let username := user.takeWhile (· != ':')
      let password := (user.dropWhile (· != ':')).drop 1
      let password := if password.isEmpty then none else some (encode password)
      .ok ((encode username, password), rest)
  else .ok (("", none), text)

/-- Splits a text where its host ends: at a colon outside brackets, or at the path. -/
def splitHost (special bracketed : Bool) : List Char → List Char × List Char
  | [] => ([], [])
  | char :: rest =>
      if isAuthorityEnd special char || (char == ':' && !bracketed) then ([], char :: rest)
      else
        let bracketed := if char = '[' then true else if char = ']' then false else bracketed
        let (host, after) := splitHost special bracketed rest
        (char :: host, after)

/-- Reads the port after a colon; the port that the scheme takes for granted is dropped. -/
def parsePort (scheme : String) (text : List Char) :
    Except ParseError (Option Nat × List Char) :=
  let digits := text.takeWhile Char.isDigit
  let rest := text.dropWhile Char.isDigit
  let port := Text.decimalValue digits
  if port > 65535 then .error .invalidPort
  else if (rest.head?.map fun char => !(isSlash char || isPathEnd char)).getD false then
    .error .invalidPort
  else if digits.isEmpty || defaultPort? scheme == some port then .ok (none, rest)
  else .ok (some port, rest)

/-- Reads a URL from behind the double slash. -/
def parseAuthority (scheme : String) (text : List Char) : Except ParseError Url := do
  let special := isSpecial scheme
  let ((username, password), text) ← parseUser special text
  let (written, text) := splitHost special false text
  if special && written.isEmpty then throw .emptyHost
  let host ← if special then Host.parse written else Host.parseVerbatim written
  if host.isNone && text.head? == some ':' then throw .emptyHost
  let (port, text) ← match text with
    | ':' :: rest => parsePort scheme rest
    | text => pure (none, text)
  if host.isNone && (username != "" || password.isSome) then throw .emptyHost
  let authority : Authority := ⟨username, password, host, port⟩
  if special || (text.head?.map fun char => !isPathEnd char).getD false then
    return withPath scheme (some authority) [] (dropSeparator special text)
  else
    let (query, fragment) := parseTail special text
    return ⟨scheme, some authority, .segmented [], query, fragment⟩

end AuthorityPart

/-- The segments of a URL's path. -/
def pathOf (url : Url) : List (List Char) :=
  url.path.segments.map String.toList

/-- The path of a URL without its last segment; files keep a drive letter. -/
def directoryOf (url : Url) : List (List Char) :=
  let path := pathOf url
  if url.scheme == "file" && (path.getLast?.map isNormalDriveLetter).getD false then path
  else path.dropLast

section Files

def noHost : Option Authority :=
  some (Authority.ofHost .none)

/-- Reads a file URL from behind the double slash. A drive letter is no host, and leaves no host
in front of it when it starts the path. -/
def parseFileHost (text : List Char) : Except ParseError Url := do
  let written := dropBreaks (text.takeWhile fun char => !(isSlash char || isPathEnd char))
  let rest := text.dropWhile fun char => !(isSlash char || isPathEnd char)
  if isDriveLetter written then
    return withPath "file" noHost [] text
  let host ← if written.isEmpty then pure Host.none else Host.parse written
  if host.isNone || host == .name "localhost" then
    return withPath "file" noHost [] rest
  let trail := (Trail.start []).follow true (piecesOf "file" (dropSeparator true rest))
  let authority := if trail.onDrive then noHost else some (Authority.ofHost host)
  return assemble "file" authority trail rest

/-- Reads a file URL from behind a single slash. It stays on the drive of its base, or else on
the host. -/
def parseFilePath (base : Option Url) (text : List Char) : Url :=
  match base with
  | none => withPath "file" noHost [] text
  | some url =>
      let first := (pathOf url).head?.getD []
      if startsWithDrive (dropBreaks text) then withPath "file" noHost [] text
      else if isNormalDriveLetter first then withPath "file" noHost [first] text
      else withPath "file" url.authority [] text

/-- Reads a file URL that starts with no slash, relative to another. -/
def parseFileRelative (base : Url) (text : List Char) : Url :=
  let plain := dropBreaks text
  match plain.head? with
  | none => { base with fragment := none }
  | some '?' =>
      let (query, fragment) := parseTail true plain
      { base with query := query, fragment := fragment }
  | some '#' => { base with fragment := parseFragment plain }
  | _ =>
      if startsWithDrive plain then withPath "file" noHost [] text
      else
        let trail := Trail.resume (directoryOf base) (piecesOf "file" text)
        assemble "file" base.authority trail text

/-- Reads a file URL from behind its scheme. Breaks are still part of the text, because a drive
letter may end at one. -/
def parseFile (base : Option Url) (text : List Char) : Except ParseError Url :=
  let startsWithSlash (text : List Char) : Bool := ((dropBreaks text).head?.map isSlash).getD false
  let behindFirst (text : List Char) : List Char := (text.dropWhile isBreak).drop 1
  if startsWithSlash text then
    let rest := behindFirst text
    if startsWithSlash rest then parseFileHost (behindFirst rest)
    else .ok (parseFilePath base rest)
  else
    match base with
    | none => .ok (withPath "file" noHost [] text)
    | some url => .ok (parseFileRelative url text)

end Files

/-- Resolves a text without a scheme against a URL that is not a file. -/
def parseRelative (base : Url) (text : List Char) : Except ParseError Url :=
  let special := isSpecial base.scheme
  match text with
  | [] => .ok { base with fragment := none }
  | first :: rest =>
      if first = '?' then
        let (query, fragment) := parseTail special text
        .ok { base with query := query, fragment := fragment }
      else if first = '#' then .ok { base with fragment := parseFragment text }
      else if isSlash first then
        match text with
        | '/' :: '/' :: after => parseAuthority base.scheme after
        | _ =>
            if (rest.head?.map isSlash).getD false then
              parseAuthority base.scheme (text.dropWhile isSlash)
            else .ok (withPath base.scheme base.authority [] rest)
      else .ok (withPath base.scheme base.authority (directoryOf base) text)

/-- Reads what follows a scheme. -/
def parseAfterScheme (base : Option Url) (scheme : String) (text : List Char) :
    Except ParseError Url :=
  if isSpecial scheme then
    let relative := match base with
      | some url => (text.takeWhile isSlash).length < 2 && url.scheme == scheme
      | none => false
    match base, relative with
    | some url, true => parseRelative url text
    | _, _ => parseAuthority scheme (text.dropWhile isSlash)
  else
    match text with
    | '/' :: '/' :: rest => parseAuthority scheme rest
    | '/' :: rest => .ok (withPath scheme none [] rest)
    | text =>
        let path := percentEncode isControl (text.takeWhile fun char => !isPathEnd char)
        let (query, fragment) := parseTail false (text.dropWhile fun char => !isPathEnd char)
        .ok ⟨scheme, none, .flat (String.ofList path), query, fragment⟩

def parseWith (base : Option Url) (text : String) : Except ParseError Url :=
  let input := trimEdges text.toList
  match takeScheme? input with
  | some (scheme, rest) =>
      if scheme == "file" then parseFile (base.filter fun url => url.scheme == "file") rest
      else parseAfterScheme base scheme (dropBreaks rest)
  | none =>
      let plain := dropBreaks input
      match base with
      | none => .error .noBase
      | some url =>
          if plain.head? == some '#' then .ok { url with fragment := parseFragment plain }
          else if url.cannotBeBase then .error .flatBase
          else if url.scheme == "file" then parseFile (some url) input
          else parseRelative url plain

/-- Reads an absolute URL. -/
def parse (text : String) : Except ParseError Url :=
  parseWith none text

/-- The URL that a reference names when it is written in `base`. -/
def join (base : Url) (reference : String) : Except ParseError Url :=
  parseWith (some base) reference

/-- The written form of a text that is an absolute URL. -/
def canonical? (text : String) : Option String :=
  (parse text).toOption.map toText

end ModuleGraph.Url
