/-
This file names a resource by its URL and its parameters, whatever their order.
-/

import ModuleGraph.Url.Percent

namespace ModuleGraph.Cache

/-- The characters that a form keeps as they are. -/
def isFormSafe (char : Char) : Bool :=
  char.isAlphanum || "*-._".toList.contains char

/-- Spaces become plus signs and all other characters bytes with percent signs. -/
def formEncode (text : String) : List Char :=
  text.toList.flatMap fun char =>
    if char = ' ' then ['+']
    else if isFormSafe char then [char]
    else Url.percentChar char

def formPair (pair : String × String) : List Char :=
  formEncode pair.1 ++ '=' :: formEncode pair.2

/-- The order of parameters, by name and then by value. -/
def pairLe (first second : String × String) : Bool :=
  first.1 < second.1 || (first.1 == second.1 && !(second.2 < first.2))

/-- The key of a resource: its URL and its parameters in order. -/
def key (url : String) (parameters : List (String × String)) : String :=
  if parameters.isEmpty then url
  else
    let query := Text.join '&' ((parameters.mergeSort pairLe).map formPair)
    let separator := if url.toList.contains '?' then "&" else "?"
    url ++ separator ++ String.ofList query

end ModuleGraph.Cache
