/-
This file takes the comments out of the text of a script, as far as they could hide imports.
-/

namespace ModuleGraph.ImportScan

/-- White space within ASCII. -/
def isBlank (char : Char) : Bool :=
  char == ' ' || (9 ≤ char.toNat && char.toNat ≤ 13)

section Blocks

/-- What follows the end of a block comment, if it has an end. -/
def afterBlock? : List Char → Option (List Char)
  | [] => none
  | '*' :: '/' :: rest => some rest
  | _ :: rest => afterBlock? rest

theorem length_afterBlock?_lt {text rest : List Char} (found : afterBlock? text = some rest) :
    rest.length < text.length := by
  fun_induction afterBlock? text with
  | case1 => contradiction
  | case2 after =>
      cases found
      simp only [List.length_cons]
      omega
  | case3 _ more _ ih => exact Nat.lt_succ_of_lt (ih found)

/-- The text without block comments, each of which reaches to the first end after its start. -/
def withoutBlocks : List Char → List Char
  | [] => []
  | '/' :: '*' :: rest =>
      match _ : afterBlock? rest with
      | some after => withoutBlocks after
      | none => '/' :: '*' :: rest
  | char :: rest => char :: withoutBlocks rest
termination_by text => text.length
decreasing_by
  · rename_i found
    have shorter := length_afterBlock?_lt found
    simp only [List.length_cons]
    omega
  · simp

end Blocks

section Lines

theorem length_dropWhile_le (test : Char → Bool) (text : List Char) :
    (text.dropWhile test).length ≤ text.length :=
  (List.dropWhile_sublist test).length_le

/-- The text without the lines that are comments; blank lines in front of a comment go with it.
`fresh` tells whether the text is at the start of a line. -/
def withoutLines (fresh : Bool) (text : List Char) : List Char :=
  match text with
  | [] => []
  | char :: rest =>
      if fresh then
        match _ : (char :: rest).dropWhile isBlank with
        | '/' :: '/' :: comment => withoutLines false (comment.dropWhile (· != '\n'))
        | [] => char :: rest
        | first :: more =>
            (char :: rest).takeWhile isBlank ++ first :: withoutLines (first == '\n') more
      else char :: withoutLines (char == '\n') rest
termination_by text.length
decreasing_by
  · rename_i spaced
    have shorter := length_dropWhile_le isBlank (char :: rest)
    have shortest := length_dropWhile_le (· != '\n') comment
    rw [spaced] at shorter
    simp only [List.length_cons] at shorter ⊢
    omega
  · rename_i spaced
    have shorter := length_dropWhile_le isBlank (char :: rest)
    rw [spaced] at shorter
    simp only [List.length_cons] at shorter ⊢
    omega
  · simp

end Lines

/-- The text without block comments, and then without the lines that are comments. -/
def withoutComments (source : List Char) : List Char :=
  withoutLines true (withoutBlocks source)

end ModuleGraph.ImportScan
