/-
This file shows what normal forms look like, and how the segments of a path follow from its parts.
-/

import ModuleGraph.Path
import ModuleGraph.Proofs.Text

namespace ModuleGraph.Path

section Segments

/-- The pieces that lead somewhere. -/
def significant (pieces : List Segment) : List Segment :=
  pieces.filter fun piece => !piece.isEmpty && piece != ['.']

theorem significant_append (first second : List Segment) :
    significant (first ++ second) = significant first ++ significant second :=
  List.filter_append ..

theorem segments_eq (path : String) : segments path = significant (Text.split '/' path.toList) :=
  rfl

theorem significant_eq_self {path : List Segment} (valid : ∀ segment ∈ path, IsSegment segment) :
    significant path = path := by
  refine List.filter_eq_self.mpr fun segment member => ?_
  obtain ⟨nonempty, elsewhere, -⟩ := valid segment member
  simp [nonempty, elsewhere]

theorem segments_ofList {segment : Segment} (valid : IsSegment segment) :
    segments (String.ofList segment) = [segment] := by
  rw [segments_eq, String.toList_ofList, Text.split_of_not_mem valid.2.2]
  exact significant_eq_self (by simpa using valid)

theorem isSegment_up : IsSegment up := by
  decide

/-- A slash keeps the segments on its sides apart. -/
theorem segments_append_slash (first second : String) :
    segments (first ++ "/" ++ second) = segments first ++ segments second := by
  have apart : (first ++ "/" ++ second).toList = first.toList ++ '/' :: second.toList := by
    simp
  rw [segments_eq, apart, Text.split_append_separator, significant_append]
  rfl

/-- A name that is not empty leads somewhere when something that starts with a dot is added. -/
theorem segments_append_dotted {name : Segment} (separate : '/' ∉ name) (nonempty : name ≠ [])
    {ending : String} (dotted : Text.startsWith ending "." = true) :
    segments (String.ofList name ++ ending) ≠ [] := by
  obtain ⟨rest, rfl⟩ := Text.startsWith_iff.mp dotted
  have whole : (String.ofList name ++ ("." ++ rest)).toList = name ++ '.' :: rest.toList := by
    simp
  have dot : '/' ∉ name ++ ['.'] := by simp [separate]
  obtain ⟨piece, pieces, split⟩ : ∃ piece pieces, Text.split '/' rest.toList = piece :: pieces :=
    List.exists_cons_of_ne_nil (Text.split_ne_nil '/' rest.toList)
  have first : Text.split '/' (name ++ '.' :: rest.toList) = (name ++ '.' :: piece) :: pieces := by
    have joined := Text.split_append_of_not_mem dot split
    simpa using joined
  have long : 2 ≤ (name ++ '.' :: piece).length := by
    have := List.length_pos_iff.mpr nonempty
    simp
    omega
  have kept : (name ++ '.' :: piece) ∈ segments (String.ofList name ++ ("." ++ rest)) := by
    rw [segments_eq, whole, first, significant, List.mem_filter]
    refine ⟨List.mem_cons_self .., ?_⟩
    have proper : name ++ '.' :: piece ≠ ['.'] := by
      intro equal
      rw [equal] at long
      simp at long
    simp [proper]
  exact List.ne_nil_of_mem kept

end Segments

section Rooted

theorem isRooted_iff {path : String} : isRooted path = true ↔ ∃ rest, path = "/" ++ rest := by
  rw [isRooted, beq_iff_eq, List.head?_eq_some_iff]
  constructor
  · rintro ⟨rest, equal⟩
    refine ⟨String.ofList rest, ?_⟩
    rw [← String.toList_inj, equal]
    simp
  · rintro ⟨rest, rfl⟩
    exact ⟨rest.toList, by simp⟩

theorem isRooted_append {path : String} (rooted : isRooted path = true) (rest : String) :
    isRooted (path ++ rest) = true := by
  obtain ⟨tail, rfl⟩ := isRooted_iff.mp rooted
  exact isRooted_iff.mpr ⟨tail ++ rest, String.append_assoc ..⟩

theorem isRooted_render (path : List Segment) : isRooted (render false path) = true := by
  simp [isRooted, render]

/-- A rooted path does not climb. -/
theorem climbs_of_isRooted {path : String} (rooted : isRooted path = true) :
    climbs path = false := by
  obtain ⟨rest, rfl⟩ := isRooted_iff.mp rooted
  have start : ("/" ++ rest).toList = '/' :: rest.toList := by simp
  have here : dropHere ('/' :: rest.toList) = [] ++ '/' :: rest.toList := rfl
  rw [climbs, start, here, Text.split_append_cons List.not_mem_nil]
  rfl

theorem normalize_of_isRooted {path : String} (rooted : isRooted path = true) :
    normalize path = render false (segments path) := by
  rw [normalize, climbs_of_isRooted rooted]

end Rooted

section Climbing

/-- Dropping `./` at the start drops no segment. -/
theorem significant_split_dropHere (path : List Char) :
    significant (Text.split '/' (dropHere path)) = significant (Text.split '/' path) := by
  fun_induction dropHere path with
  | case1 rest ih =>
      have absent : '/' ∉ (['.'] : Segment) := by decide
      have apart : Text.split '/' ('.' :: '/' :: rest) = ['.'] :: Text.split '/' rest :=
        Text.split_append_cons absent rest
      rw [ih, apart]
      rfl
  | case2 path => rfl

/-- A path that climbs has `..` as its first segment. -/
theorem segments_of_climbs {path : String} (climbing : climbs path = true) :
    ∃ rest, segments path = up :: rest := by
  have first : (Text.split '/' (dropHere path.toList)).head? = some up := by
    simpa [climbs] using climbing
  obtain ⟨pieces, split⟩ := List.head?_eq_some_iff.mp first
  refine ⟨significant pieces, ?_⟩
  rw [segments_eq, ← significant_split_dropHere, split]
  rfl

/-- A path that climbs points outside the root. -/
theorem escapesRoot_of_climbs {path : String} (climbing : climbs path = true) :
    escapesRoot path = true := by
  obtain ⟨rest, path⟩ := segments_of_climbs climbing
  rw [escapesRoot, path]
  rfl

/-- A path that starts with `..` climbs. -/
theorem climbs_render {path : List Segment} (valid : ∀ segment ∈ up :: path, IsSegment segment) :
    climbs (render true (up :: path)) = true := by
  have separate : ∀ segment ∈ up :: path, '/' ∉ segment := fun segment member =>
    (valid segment member).2.2
  have start : ∃ rest, Text.join '/' (up :: path) = '.' :: '.' :: rest := by
    cases path with
    | nil => exact ⟨[], rfl⟩
    | cons next path => exact ⟨_, rfl⟩
  obtain ⟨rest, dots⟩ := start
  have here : dropHere (Text.join '/' (up :: path)) = Text.join '/' (up :: path) := by
    rw [dots]
    rfl
  rw [climbs, render, if_pos rfl, String.toList_ofList, here,
    Text.split_join (List.cons_ne_nil _ _) separate]
  rfl

end Climbing

section NormalForms

/-- A normal form is rooted, or it starts with `..`; all of its segments lead somewhere. -/
inductive IsNormalForm : String → Prop
  | rooted {path : List Segment} (valid : ∀ segment ∈ path, IsSegment segment) :
      IsNormalForm (render false path)
  | climbing {path : List Segment} (valid : ∀ segment ∈ up :: path, IsSegment segment) :
      IsNormalForm (render true (up :: path))

theorem isNormalForm_normalize (path : String) : IsNormalForm (normalize path) := by
  have valid : ∀ segment ∈ segments path, IsSegment segment := fun _ member =>
    isSegment_of_mem_segments member
  rw [normalize]
  cases climbing : climbs path with
  | false => exact .rooted valid
  | true =>
      obtain ⟨rest, split⟩ := segments_of_climbs climbing
      rw [split] at valid ⊢
      exact .climbing valid

/-- A normal form is its own normal form. -/
theorem IsNormalForm.normalize_eq {path : String} (normal : IsNormalForm path) :
    normalize path = path := by
  cases normal with
  | rooted valid => rw [normalize_of_isRooted (isRooted_render _), segments_render valid]
  | climbing valid => rw [normalize, climbs_render valid, segments_render valid]

/-- The paths that are their own normal form are those that look like one. -/
theorem normalize_eq_self_iff {path : String} : normalize path = path ↔ IsNormalForm path := by
  constructor
  · intro equal
    rw [← equal]
    exact isNormalForm_normalize path
  · exact IsNormalForm.normalize_eq

theorem normalize_normalize (path : String) : normalize (normalize path) = normalize path :=
  (isNormalForm_normalize path).normalize_eq

theorem segments_normalize (path : String) : segments (normalize path) = segments path :=
  segments_render fun _ member => isSegment_of_mem_segments member

theorem escapesRoot_normalize (path : String) :
    escapesRoot (normalize path) = escapesRoot path := by
  rw [escapesRoot, segments_normalize, escapesRoot]

/-- A normal form starts with a slash or with the dots of `..`. -/
theorem IsNormalForm.head? {path : String} (normal : IsNormalForm path) :
    path.toList.head? = some '/' ∨ path.toList.head? = some '.' := by
  cases normal with
  | rooted valid => exact .inl (by simp [render])
  | @climbing path valid =>
      refine .inr ?_
      cases path with
      | nil => rfl
      | cons next path => simp [render, Text.join, up]

theorem climbs_normalize (path : String) : climbs (normalize path) = climbs path := by
  rw [normalize]
  cases climbing : climbs path with
  | false => exact climbs_of_isRooted (isRooted_render _)
  | true =>
      obtain ⟨rest, split⟩ := segments_of_climbs climbing
      have each : ∀ segment ∈ segments path, IsSegment segment := fun _ =>
        isSegment_of_mem_segments
      rw [split] at each ⊢
      exact climbs_render each

/-- A path and its normal form are in the same directory. -/
theorem directory_normalize (path : String) : directory (normalize path) = directory path := by
  rw [directory, directory, climbs_normalize, segments_normalize]

/-- A specifier is seen from the directory of its importer. -/
theorem resolve_eq_joinDirectory (base specifier : String) :
    resolve base specifier = joinDirectory (directory base) specifier := by
  unfold resolve joinDirectory
  split
  · rfl
  · rfl

/-- Only a path inside the root has a rooted normal form without `..`. -/
theorem isRooted_normalize {path : String} (inside : escapesRoot path = false) :
    isRooted (normalize path) = true := by
  cases climbing : climbs path with
  | false =>
      rw [normalize, climbing]
      exact isRooted_render _
  | true =>
      rw [escapesRoot_of_climbs climbing] at inside
      cases inside

/-- A path inside the root has no piece that is `..`. -/
theorem up_not_mem_split {path : String} (inside : escapesRoot path = false) :
    up ∉ Text.split '/' path.toList := by
  intro member
  have kept : up ∈ segments path := by
    rw [segments_eq, significant, List.mem_filter]
    exact ⟨member, by decide⟩
  rw [escapesRoot, List.contains_iff_mem.mpr kept] at inside
  cases inside

/-- One step leaves segments behind if it starts from segments and takes one. -/
theorem isSegment_of_mem_step {walked : List Segment} {next : Segment}
    (known : ∀ segment ∈ walked, IsSegment segment) (here : IsSegment next) :
    ∀ segment ∈ step walked next, IsSegment segment := by
  have grown {last : Segment} (valid : IsSegment last) :
      ∀ segment ∈ last :: walked, IsSegment segment :=
    List.forall_mem_cons.mpr ⟨valid, known⟩
  unfold step
  split
  · split
    · exact List.forall_mem_singleton.mpr isSegment_up
    · split
      · exact grown isSegment_up
      · exact fun segment member => known segment (List.mem_cons_of_mem _ member)
  · exact grown here

/-- Walking a path keeps its segments valid. -/
theorem isSegment_of_mem_collapse {path : List Segment}
    (valid : ∀ segment ∈ path, IsSegment segment) :
    ∀ segment ∈ collapse path, IsSegment segment := by
  have walk (walked : List Segment) (known : ∀ segment ∈ walked, IsSegment segment) :
      ∀ segment ∈ path.foldl step walked, IsSegment segment := by
    induction path generalizing walked with
    | nil => exact known
    | cons next path ih =>
        obtain ⟨here, later⟩ := List.forall_mem_cons.mp valid
        exact ih later _ (isSegment_of_mem_step known here)
  intro segment member
  rw [collapse, List.mem_reverse] at member
  exact walk [] (fun _ absurd => nomatch absurd) segment member

theorem isSegment_of_mem_collapse_append {directory specifier : String} :
    ∀ segment ∈ collapse (segments directory ++ segments specifier), IsSegment segment := by
  refine isSegment_of_mem_collapse fun segment member => ?_
  rcases List.mem_append.mp member with member | member
  · exact isSegment_of_mem_segments member
  · exact isSegment_of_mem_segments member

/-- Joining ends in a rooted normal form. -/
theorem exists_joinDirectory (directory specifier : String) :
    ∃ path, (∀ segment ∈ path, IsSegment segment) ∧
      joinDirectory directory specifier = render false path := by
  unfold joinDirectory
  split
  · rename_i rooted
    exact ⟨_, fun _ member => isSegment_of_mem_segments member, normalize_of_isRooted rooted⟩
  · exact ⟨_, isSegment_of_mem_collapse_append, rfl⟩

theorem isNormalForm_resolve (base specifier : String) :
    IsNormalForm (resolve base specifier) := by
  unfold resolve
  split
  · exact isNormalForm_normalize specifier
  · obtain ⟨path, valid, equal⟩ := exists_joinDirectory (directory base) specifier
    rw [equal]
    exact .rooted valid

end NormalForms

section Names

/-- The last segment ends a path that is written out. -/
theorem exists_join_concat (init : List Segment) (last : Segment) :
    ∃ front, Text.join '/' (init ++ [last]) = front ++ last := by
  induction init with
  | nil => exact ⟨[], rfl⟩
  | cons first init ih =>
      obtain ⟨front, joined⟩ := ih
      obtain ⟨next, rest, split⟩ : ∃ next rest, init ++ [last] = next :: rest :=
        List.exists_cons_of_ne_nil (by simp)
      refine ⟨first ++ '/' :: front, ?_⟩
      rw [List.cons_append, split, Text.join, ← split, joined]
      simp

/-- A normal form other than the root ends in a segment. -/
theorem IsNormalForm.eq_root_or_exists_last {path : String} (normal : IsNormalForm path) :
    path = "/" ∨ ∃ front last, IsSegment last ∧ path.toList = front ++ last := by
  cases normal with
  | @rooted path valid =>
      rcases List.eq_nil_or_concat path with rfl | ⟨init, last, rfl⟩
      · exact .inl rfl
      · obtain ⟨front, joined⟩ := exists_join_concat init last
        refine .inr ⟨'/' :: front, last, valid last (by simp), ?_⟩
        simp [render, joined]
  | @climbing path valid =>
      obtain ⟨init, last, split⟩ := (List.eq_nil_or_concat (up :: path)).resolve_left (by simp)
      obtain ⟨front, joined⟩ := exists_join_concat init last
      rw [split] at valid ⊢
      refine .inr ⟨front, last, valid last (by simp), ?_⟩
      simp [render, joined]

/-- No slash follows the last segment. -/
theorem dropWhile_reverse_append {front : List Char} {last : Segment} (valid : IsSegment last) :
    (front ++ last).reverse.dropWhile (· == '/') = (front ++ last).reverse := by
  obtain ⟨nonempty, -, separate⟩ := valid
  obtain ⟨init, char, rfl⟩ := (List.eq_nil_or_concat last).resolve_left nonempty
  have different : char ≠ '/' := fun equal => separate (by simp [equal])
  simp [different]

theorem trimSlashes_append {front : List Char} {last : Segment} (valid : IsSegment last) :
    Text.trimSlashes (front ++ last) = front ++ last := by
  rw [Text.trimSlashes, dropWhile_reverse_append valid, List.reverse_reverse]

/-- The basename ends a path that ends in a segment. -/
theorem exists_append_basename {path : String} {front : List Char} {last : Segment}
    (valid : IsSegment last) (ends : path.toList = front ++ last) :
    ∃ before, path.toList = before ++ (basename path).toList := by
  refine ⟨(path.toList.reverse.dropWhile (· != '/')).reverse, ?_⟩
  rw [basename, String.toList_ofList, ends, dropWhile_reverse_append valid, ← List.reverse_append,
    List.takeWhile_append_dropWhile, List.reverse_reverse]

/-- The basename is what follows the last slash. -/
theorem basename_append_slash (front : String) {last : Segment} (valid : IsSegment last) :
    basename (front ++ "/" ++ String.ofList last) = String.ofList last := by
  have whole : (front ++ "/" ++ String.ofList last).toList = (front.toList ++ ['/']) ++ last := by
    simp
  have separate : ∀ char ∈ last.reverse, (char != '/') = true := by
    intro char member
    have different : char ≠ '/' := by
      rintro rfl
      exact valid.2.2 (List.mem_reverse.mp member)
    simpa using different
  rw [basename, whole, dropWhile_reverse_append valid, List.reverse_append,
    List.takeWhile_append_of_pos separate]
  simp

/-- The ending of a name: what its last dot starts, unless nothing stands before that dot. -/
inductive HasEnding : List Char → List Char → Prop
  | none {name : List Char} (dotless : '.' ∉ name) : HasEnding name []
  | hidden {rest : List Char} (dotless : '.' ∉ rest) : HasEnding ('.' :: rest) []
  | cut {front rest : List Char} (nonempty : front ≠ []) (dotless : '.' ∉ rest) :
      HasEnding (front ++ '.' :: rest) ('.' :: rest)

/-- The extension is the ending of the basename. -/
theorem hasEnding_extension (path : String) :
    HasEnding (basename path).toList (extension path).toList := by
  unfold extension
  generalize (basename path).toList = name
  dsimp only
  have dotless : '.' ∉ (name.reverse.takeWhile (· != '.')).reverse := by
    intro member
    have kept := List.all_eq_true.mp List.all_takeWhile '.' (List.mem_reverse.mp member)
    cases kept
  have parts : (name.reverse.dropWhile (· != '.')).reverse ++
      (name.reverse.takeWhile (· != '.')).reverse = name := by
    rw [← List.reverse_append, List.takeWhile_append_dropWhile, List.reverse_reverse]
  have dotted := List.head?_dropWhile_not (· != '.') name.reverse
  generalize (name.reverse.takeWhile (· != '.')).reverse = rest at dotless parts ⊢
  generalize name.reverse.dropWhile (· != '.') = front at parts dotted ⊢
  -- What stands before the ending was read from its end, so its first character is the dot.
  subst parts
  cases front with
  | nil => exact .none dotless
  | cons dot front =>
      obtain rfl : dot = '.' := by simpa using dotted
      cases front with
      | nil => exact .hidden dotless
      | cons last front =>
          rw [String.toList_ofList, List.reverse_cons, List.append_assoc]
          exact .cut (by simp) dotless

/-- A name is not used up by its ending. -/
theorem HasEnding.exists_cut {name ending : List Char} (ends : HasEnding name ending) :
    ∃ cut, name = cut ++ ending ∧ (name ≠ [] → cut ≠ []) := by
  cases ends with
  | none dotless => exact ⟨name, (List.append_nil name).symm, id⟩
  | hidden dotless => exact ⟨_, (List.append_nil _).symm, id⟩
  | cut nonempty dotless => exact ⟨_, rfl, fun _ => nonempty⟩

/-- The stem is what stands before the extension. -/
theorem stem_of_append {path : String} {front : List Char}
    (ends : path.toList = front ++ (extension path).toList) : stem path = String.ofList front := by
  rw [stem, ends]
  simp

/-- The stem and the extension make up a path in normal form. -/
theorem IsNormalForm.stem_append_extension {path : String} (normal : IsNormalForm path) :
    stem path ++ extension path = path := by
  rcases normal.eq_root_or_exists_last with rfl | ⟨front, last, valid, whole⟩
  · rfl
  · obtain ⟨before, split⟩ := exists_append_basename valid whole
    obtain ⟨cut, ends, -⟩ := (hasEnding_extension path).exists_cut
    have parts : path.toList = (before ++ cut) ++ (extension path).toList := by
      rw [split, List.append_assoc, ← ends]
    rw [stem_of_append parts, ← String.toList_inj, String.toList_append, String.toList_ofList,
      parts]

end Names

section Openings

/-- What the paths inside a directory start with. -/
def opening (path : List Segment) : String :=
  String.ofList ('/' :: path.flatMap (· ++ ['/']))

theorem opening_concat (init : List Segment) (last : Segment) :
    opening (init ++ [last]) = opening init ++ String.ofList last ++ "/" := by
  rw [← String.toList_inj]
  simp [opening]

theorem exists_opening_eq (path : List Segment) : ∃ front, opening path = front ++ "/" := by
  rcases List.eq_nil_or_concat path with rfl | ⟨init, last, rfl⟩
  · exact ⟨"", rfl⟩
  · rw [List.concat_eq_append]
    exact ⟨_, opening_concat init last⟩

theorem isRooted_opening (path : List Segment) : isRooted (opening path) = true := by
  simp [isRooted, opening]

/-- A path is written behind the opening of its directory. -/
theorem render_append (path : List Segment) {rest : List Segment} (nonempty : rest ≠ []) :
    render false (path ++ rest) = opening path ++ String.ofList (Text.join '/' rest) := by
  have joined : Text.join '/' (path ++ rest) = path.flatMap (· ++ ['/']) ++ Text.join '/' rest := by
    induction path with
    | nil => rfl
    | cons first path ih =>
        have more : path ++ rest ≠ [] := List.append_ne_nil_of_right_ne_nil path nonempty
        obtain ⟨next, others, split⟩ := List.exists_cons_of_ne_nil more
        rw [List.cons_append, split, Text.join, ← split, ih]
        simp
  rw [← String.toList_inj]
  simp [render, opening, joined]

theorem render_concat (init : List Segment) (last : Segment) :
    render false (init ++ [last]) = opening init ++ String.ofList last :=
  render_append init (List.cons_ne_nil last [])

/-- What stands behind an opening adds its own segments. -/
theorem segments_opening_append {path : List Segment} (valid : ∀ segment ∈ path, IsSegment segment)
    (rest : String) : segments (opening path ++ rest) = path ++ segments rest := by
  have pieces : Text.split '/' (path.flatMap (· ++ ['/']) ++ rest.toList) =
      path ++ Text.split '/' rest.toList := by
    induction path with
    | nil => rfl
    | cons first path ih =>
        have here := valid first (List.mem_cons_self ..)
        have later := ih fun segment member => valid segment (List.mem_cons_of_mem _ member)
        have apart := Text.split_append_cons here.2.2 (path.flatMap (· ++ ['/']) ++ rest.toList)
        rw [later] at apart
        simpa using apart
  have whole : (opening path ++ rest).toList =
      [] ++ '/' :: (path.flatMap (· ++ ['/']) ++ rest.toList) := by
    simp [opening]
  rw [segments_eq, whole, Text.split_append_cons List.not_mem_nil, pieces, ← List.cons_append,
    significant_append, segments_eq]
  congr 1
  exact significant_eq_self valid

/-- A segment does not end in a slash. -/
theorem append_segment_ne {front rest : String} {last : Segment} (valid : IsSegment last) :
    front ++ String.ofList last ≠ rest ++ "/" := by
  intro equal
  have ends : (front.toList ++ last).getLast? = (rest.toList ++ ['/']).getLast? := by
    simpa using congrArg (fun text => text.toList.getLast?) equal
  rw [List.getLast?_append, List.getLast?_eq_some_getLast valid.1, Option.some_or,
    List.getLast?_concat] at ends
  exact valid.2.2 (Option.some.inj ends ▸ List.getLast_mem valid.1)

/-- The slash that is kept closes the opening of a directory. -/
theorem keepSlash_render {path : List Segment} (valid : ∀ segment ∈ path, IsSegment segment)
    {address front : String} (closed : keepSlash address (render false path) = front ++ "/") :
    keepSlash address (render false path) = opening path := by
  rcases List.eq_nil_or_concat path with rfl | ⟨init, last, rfl⟩
  · have root : Text.endsWith (render false []) "/" = true := by decide
    simp [keepSlash, root]
    rfl
  · rw [List.concat_eq_append] at valid closed ⊢
    rw [render_concat] at closed ⊢
    unfold keepSlash at closed ⊢
    split at closed
    · rw [if_pos ‹_›, opening_concat]
    · exact absurd closed (append_segment_ne (valid last (by simp)))

/-- The basename is what stands behind the opening of a directory. -/
theorem basename_opening_append (path : List Segment) {last : Segment} (valid : IsSegment last) :
    basename (opening path ++ String.ofList last) = String.ofList last := by
  obtain ⟨front, closed⟩ := exists_opening_eq path
  rw [closed, basename_append_slash front valid]

/-- An extension is cut off behind the opening of a directory. -/
theorem exists_stem_eq (path : List Segment) {last : Segment} (valid : IsSegment last) :
    ∃ cut, cut ≠ [] ∧ '/' ∉ cut ∧
      last = cut ++ (extension (opening path ++ String.ofList last)).toList ∧
      stem (opening path ++ String.ofList last) = opening path ++ String.ofList cut := by
  have ends := hasEnding_extension (opening path ++ String.ofList last)
  rw [basename_opening_append path valid, String.toList_ofList] at ends
  obtain ⟨cut, split, kept⟩ := ends.exists_cut
  have separate := valid.2.2
  rw [split, List.mem_append, not_or] at separate
  refine ⟨cut, kept valid.1, separate.1, split, ?_⟩
  have whole : (opening path ++ String.ofList last).toList = ((opening path).toList ++ cut) ++
      (extension (opening path ++ String.ofList last)).toList := by
    rw [List.append_assoc, ← split, String.toList_append, String.toList_ofList]
  rw [stem_of_append whole, String.ofList_append, String.ofList_toList]

/-- A rooted path goes on behind a directory. -/
structure Inside (directory : List Segment) (path : String) : Prop where
  rooted : isRooted path = true
  leads : ∃ rest, rest ≠ [] ∧ segments path = directory ++ rest

/-- The normal form of a path inside a directory starts with its opening. -/
theorem Inside.startsWith_normalize {directory : List Segment} {path : String}
    (inside : Inside directory path) :
    Text.startsWith (normalize path) (opening directory) = true := by
  obtain ⟨rest, nonempty, segments⟩ := inside.leads
  rw [normalize_of_isRooted inside.rooted, segments, render_append directory nonempty]
  exact Text.startsWith_iff.mpr ⟨_, rfl⟩

theorem inside_opening_append {directory more : List Segment} {name : String}
    (valid : ∀ segment ∈ directory ++ more, IsSegment segment) (leads : segments name ≠ []) :
    Inside directory (opening (directory ++ more) ++ name) where
  rooted := isRooted_append (isRooted_opening _) name
  leads := by
    refine ⟨more ++ segments name, List.append_ne_nil_of_right_ne_nil more leads, ?_⟩
    rw [segments_opening_append valid, List.append_assoc]

end Openings

/-- A path specifier starts with a slash or a dot. -/
theorem head?_of_isPathSpecifier {specifier : String} (path : isPathSpecifier specifier = true) :
    specifier.toList.head? = some '/' ∨ specifier.toList.head? = some '.' := by
  simp only [isPathSpecifier, isRooted, isRelative, Bool.or_eq_true, beq_iff_eq] at path
  rcases path with rooted | ((rfl | rfl) | starts) | starts
  · exact .inl rooted
  · exact .inr rfl
  · exact .inr rfl
  · obtain ⟨rest, rfl⟩ := Text.startsWith_iff.mp starts
    exact .inr (by simp)
  · obtain ⟨rest, rfl⟩ := Text.startsWith_iff.mp starts
    exact .inr (by simp)

end ModuleGraph.Path
