/-
This file holds JSON values and prints them.
-/

namespace ModuleGraph

/-- A JSON value. A number is kept as it is printed, and an object keeps the order of its
members. -/
inductive Json where
  | null
  | bool (value : Bool)
  | number (spelling : String)
  | string (value : String)
  | array (items : List Json)
  | object (members : List (String × Json))
  deriving Inhabited

namespace Json

def ofNat (value : Nat) : Json :=
  number (toString value)

def strings (values : List String) : Json :=
  array (values.map string)

def ofOption {α : Type} (encode : α → Json) : Option α → Json
  | none => null
  | some value => encode value

/-- The members of an object, without those that are absent. -/
def present (members : List (String × Option Json)) : Json :=
  object (members.filterMap fun member => member.2.map fun value => (member.1, value))

/-- A later member of a name replaces the value of the first and keeps its place. -/
def insertMember (members : List (String × Json)) (name : String) (value : Json) :
    List (String × Json) :=
  if members.any fun member => member.1 == name then
    members.map fun member => if member.1 == name then (name, value) else member
  else members ++ [(name, value)]

def member? (name : String) : Json → Option Json
  | object members => (members.find? fun member => member.1 == name).map Prod.snd
  | _ => none

def string? : Json → Option String
  | string value => some value
  | _ => none

def hexDigit (value : Nat) : Char :=
  if value < 10 then Char.ofNat (48 + value) else Char.ofNat (87 + value)

/-- Only quotes, backslashes and control characters are escaped. -/
def escapeChar (char : Char) : List Char :=
  if char = '"' then ['\\', '"']
  else if char = '\\' then ['\\', '\\']
  else if char = '\n' then ['\\', 'n']
  else if char = '\r' then ['\\', 'r']
  else if char = '\t' then ['\\', 't']
  else if char.toNat = 8 then ['\\', 'b']
  else if char.toNat = 12 then ['\\', 'f']
  else if char.toNat < 32 then
    ['\\', 'u', '0', '0', hexDigit (char.toNat / 16), hexDigit (char.toNat % 16)]
  else [char]

def quote (value : String) : String :=
  "\"" ++ String.ofList (value.toList.flatMap escapeChar) ++ "\""

/-- The value without white space between its parts. -/
def print : Json → String
  | null => "null"
  | bool value => if value then "true" else "false"
  | number spelling => spelling
  | string value => quote value
  | array items => "[" ++ printItems items ++ "]"
  | object members => "\x7b" ++ printMembers members ++ "\x7d"
where
  printItems : List Json → String
    | [] => ""
    | [item] => print item
    | item :: next :: items => print item ++ "," ++ printItems (next :: items)
  printMembers : List (String × Json) → String
    | [] => ""
    | [(name, value)] => quote name ++ ":" ++ print value
    | (name, value) :: next :: members =>
        quote name ++ ":" ++ print value ++ "," ++ printMembers (next :: members)

end Json

end ModuleGraph
