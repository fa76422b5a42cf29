/-
This file gives virtual paths their normal form and resolves one path against another.
-/

import ModuleGraph.Text

namespace ModuleGraph.Path

abbrev Segment := List Char

/-- The segment that climbs to the parent directory. -/
def up : Segment := ['.', '.']

/-- The pieces of a path that lead somewhere: empty pieces and `.` do not. -/
def segments (path : String) : List Segment :=
  (Text.split '/' path.toList).filter fun piece => !piece.isEmpty && piece != ['.']

/-- The path without the `./` at its start, however often it is repeated. -/
def dropHere : List Char → List Char
  | '.' :: '/' :: rest => dropHere rest
  | rest => rest

/-- A path climbs if it starts with `..`; such a path is not rooted. -/
def climbs (path : String) : Bool :=
  (Text.split '/' (dropHere path.toList)).head? == some up

def render (climbing : Bool) (path : List Segment) : String :=
  String.ofList (if climbing then Text.join '/' path else '/' :: Text.join '/' path)

/-- A segment leads somewhere and holds no separator. -/
def IsSegment (segment : Segment) : Prop :=
  segment ≠ [] ∧ segment ≠ ['.'] ∧ '/' ∉ segment

instance (segment : Segment) : Decidable (IsSegment segment) :=
  inferInstanceAs (Decidable (_ ∧ _ ∧ _))

theorem isSegment_of_mem_segments {path : String} {segment : Segment}
    (member : segment ∈ segments path) : IsSegment segment := by
  simp only [segments, List.mem_filter, Bool.and_eq_true, Bool.not_eq_true',
    List.isEmpty_eq_false_iff, bne_iff_ne] at member
  exact ⟨member.2.1, member.2.2, Text.not_mem_of_mem_split member.1⟩

/-- A rendered path has the segments that it was rendered from. -/
theorem segments_render {climbing : Bool} {path : List Segment}
    (valid : ∀ segment ∈ path, IsSegment segment) : segments (render climbing path) = path := by
  have kept : path.filter (fun piece => !piece.isEmpty && piece != ['.']) = path :=
    List.filter_eq_self.mpr fun segment member => by
      have := valid segment member
      simp [this.1, this.2.1]
  have absent : ∀ segment ∈ path, '/' ∉ segment := fun segment member =>
    (valid segment member).2.2
  cases path with
  | nil => cases climbing <;> rfl
  | cons first path =>
      cases climbing
      · have rooted : Text.split '/' ('/' :: Text.join '/' (first :: path)) =
            [] :: Text.split '/' (Text.join '/' (first :: path)) :=
          Text.split_append_cons List.not_mem_nil _
        simp_all [segments, render, Text.split_join]
      · simp_all [segments, render, Text.split_join]

/-- The normal form is rooted unless the path climbs, and has no separator to spare. -/
def normalize (path : String) : String :=
  render (climbs path) (segments path)

/-- One step along a path; the last segment walked comes first. -/
def step (walked : List Segment) (segment : Segment) : List Segment :=
  if segment = up then
    match walked with
    | [] => [up]
    | last :: earlier => if last = up then up :: walked else earlier
  else segment :: walked

/-- The segments left when each `..` has cancelled the one before it. -/
def collapse (path : List Segment) : List Segment :=
  (path.foldl step []).reverse

def isRooted (path : String) : Bool :=
  path.toList.head? == some '/'

/-- A rooted specifier stands alone; any other is walked from the directory. -/
def joinDirectory (directory specifier : String) : String :=
  if isRooted specifier then normalize specifier
  else render false (collapse (segments directory ++ segments specifier))

def directory (path : String) : String :=
  match climbs path, segments path with
  | true, [_] => "."
  | climbing, path => render climbing path.dropLast

/-- The path that a specifier names when it is written in the file `base`. -/
def resolve (base specifier : String) : String :=
  if isRooted specifier then normalize specifier
  else joinDirectory (directory base) specifier

/-- The last piece of a path, slashes at the end left aside. -/
def basename (path : String) : String :=
  String.ofList (((path.toList.reverse.dropWhile (· == '/')).takeWhile (· != '/')).reverse)

/-- The end of the basename from its last dot, unless that dot comes first. -/
def extension (path : String) : String :=
  let name := (basename path).toList.reverse
  match name.dropWhile (· != '.') with
  | [] | [_] => ""
  | dot :: _ => String.ofList (dot :: (name.takeWhile (· != '.')).reverse)

/-- The path without its extension. -/
def stem (path : String) : String :=
  String.ofList (path.toList.take (path.toList.length - (extension path).toList.length))

def isRelative (specifier : String) : Bool :=
  specifier == "." || specifier == ".." ||
    Text.startsWith specifier "./" || Text.startsWith specifier "../"

/-- Rooted and relative specifiers name files; any other needs a mapping. -/
def isPathSpecifier (specifier : String) : Bool :=
  isRooted specifier || isRelative specifier

/-- A path that keeps a `..` points outside the root and names no file. -/
def escapesRoot (path : String) : Bool :=
  (segments path).contains up

/-- The resolved path ends in a slash whenever the address does. -/
def keepSlash (address resolved : String) : String :=
  if Text.endsWith address "/" && !Text.endsWith resolved "/" then resolved ++ "/" else resolved

end ModuleGraph.Path
