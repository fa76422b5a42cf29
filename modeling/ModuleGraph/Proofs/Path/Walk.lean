/-
This file shows where a walk along a path ends: how walks compose, and when they leave the root.
-/

import ModuleGraph.Proofs.Path

namespace ModuleGraph.Path

section Climbs

/-- Some start of the path has more `..` than other segments, even with `names` of these added. -/
def Overclimbs (names : Nat) (path : List Segment) : Prop :=
  ∃ front, front <+: path ∧ names + front.countP (· != up) < front.count up

theorem not_overclimbs_nil (names : Nat) : ¬ Overclimbs names [] := by
  rintro ⟨front, start, more⟩
  rw [List.prefix_nil.mp start] at more
  exact Nat.not_lt_zero _ more

/-- Only a start that goes beyond the first segment can have more `..` than other segments. -/
theorem overclimbs_cons_iff {names : Nat} {first : Segment} {path : List Segment} :
    Overclimbs names (first :: path) ↔
      ∃ front, front <+: path ∧
        names + (first :: front).countP (· != up) < (first :: front).count up := by
  constructor
  · rintro ⟨front, start, more⟩
    cases front with
    | nil => exact absurd more (Nat.not_lt_zero _)
    | cons head front =>
        obtain ⟨rfl, tail⟩ := List.cons_prefix_cons.mp start
        exact ⟨front, tail, more⟩
  · rintro ⟨front, start, more⟩
    exact ⟨first :: front, List.cons_prefix_cons.mpr ⟨rfl, start⟩, more⟩

theorem overclimbs_name {names : Nat} {name : Segment} (proper : name ≠ up)
    (path : List Segment) : Overclimbs names (name :: path) ↔ Overclimbs (names + 1) path := by
  rw [overclimbs_cons_iff, Overclimbs]
  refine exists_congr fun front => and_congr_right fun _ => ?_
  rw [List.countP_cons_of_pos (by simpa using proper), List.count_cons_of_ne proper]
  omega

theorem overclimbs_up_succ (names : Nat) (path : List Segment) :
    Overclimbs (names + 1) (up :: path) ↔ Overclimbs names path := by
  rw [overclimbs_cons_iff, Overclimbs]
  refine exists_congr fun front => and_congr_right fun _ => ?_
  rw [List.countP_cons_of_neg (by simp), List.count_cons_self]
  omega

theorem overclimbs_up_zero (path : List Segment) : Overclimbs 0 (up :: path) :=
  ⟨[up], ⟨path, rfl⟩, by decide⟩

end Climbs

section Stacks

/-- What is left of a walk: the names still open, the last one first, above the climbs out of the
root. -/
def stack (names : List Segment) (depth : Nat) : List Segment :=
  names ++ List.replicate depth up

theorem step_name {name : Segment} (proper : name ≠ up) (walked : List Segment) :
    step walked name = name :: walked :=
  if_neg proper

theorem step_up_cons {name : Segment} (proper : name ≠ up) (walked : List Segment) :
    step (name :: walked) up = walked := by
  simp only [step, if_neg proper, if_true]

/-- With no name open, one more climb stays. -/
theorem step_up_bottom (depth : Nat) : step (stack [] depth) up = stack [] (depth + 1) := by
  cases depth with
  | zero => rfl
  | succ depth => simp [stack, step, List.replicate_succ]

/-- A walk keeps the climbs at the bottom, and there are some exactly if it climbs too often. -/
theorem exists_stack (path : List Segment) {names : List Segment} (proper : up ∉ names)
    (depth : Nat) :
    ∃ last bottom, path.foldl step (stack names depth) = stack last bottom ∧ up ∉ last ∧
      (0 < bottom ↔ 0 < depth ∨ Overclimbs names.length path) := by
  induction path generalizing names depth with
  | nil => exact ⟨names, depth, rfl, proper, by simp [not_overclimbs_nil]⟩
  | cons segment path ih =>
      rw [List.foldl_cons]
      by_cases climb : segment = up
      · subst climb
        cases names with
        | nil =>
            rw [step_up_bottom]
            obtain ⟨last, bottom, walk, others, climbs⟩ := ih List.not_mem_nil (depth + 1)
            refine ⟨last, bottom, walk, others, ?_⟩
            simp [climbs, overclimbs_up_zero]
        | cons name names =>
            rw [List.mem_cons, not_or] at proper
            rw [stack, List.cons_append, step_up_cons (Ne.symm proper.1), ← stack]
            obtain ⟨last, bottom, walk, others, climbs⟩ := ih proper.2 depth
            refine ⟨last, bottom, walk, others, ?_⟩
            rw [climbs, List.length_cons, overclimbs_up_succ]
      · have more : up ∉ segment :: names := by
          rw [List.mem_cons, not_or]
          exact ⟨Ne.symm climb, proper⟩
        rw [step_name climb, stack, ← List.cons_append, ← stack]
        obtain ⟨last, bottom, walk, others, climbs⟩ := ih more depth
        refine ⟨last, bottom, walk, others, ?_⟩
        rw [climbs, List.length_cons, overclimbs_name climb]

/-- Walking names opens them all. -/
theorem foldl_step_names {names : List Segment} (proper : up ∉ names) (walked : List Segment) :
    names.foldl step walked = names.reverse ++ walked := by
  induction names generalizing walked with
  | nil => rfl
  | cons name names ih =>
      rw [List.mem_cons, not_or] at proper
      rw [List.foldl_cons, step_name (Ne.symm proper.1), ih proper.2, List.reverse_cons,
        List.append_assoc, List.singleton_append]

theorem foldl_step_climbs (depth : Nat) :
    (List.replicate depth up).foldl step [] = stack [] depth := by
  induction depth with
  | zero => rfl
  | succ depth ih =>
      rw [List.replicate_succ', List.foldl_append, ih, List.foldl_cons, List.foldl_nil,
        step_up_bottom]

/-- Walking along what is left of a walk leads to the same place. -/
theorem foldl_step_stack {names : List Segment} (proper : up ∉ names) (depth : Nat) :
    (stack names depth).reverse.foldl step [] = stack names depth := by
  have onward : up ∉ names.reverse := fun member => proper (List.mem_reverse.mp member)
  rw [stack, List.reverse_append, List.reverse_replicate, List.foldl_append, foldl_step_climbs,
    foldl_step_names onward, List.reverse_reverse, stack, List.nil_append]

end Stacks

section Collapsing

/-- A collapsed path climbs first and only first, and it climbs exactly if the path it comes from
climbs too often. -/
theorem exists_collapse (path : List Segment) :
    ∃ depth names, collapse path = List.replicate depth up ++ names ∧ up ∉ names ∧
      (0 < depth ↔ Overclimbs 0 path) := by
  obtain ⟨names, depth, walk, proper, climbs⟩ := exists_stack path List.not_mem_nil 0
  have start : stack [] 0 = ([] : List Segment) := rfl
  rw [start] at walk
  refine ⟨depth, names.reverse, ?_, fun member => proper (List.mem_reverse.mp member), ?_⟩
  · rw [collapse, walk, stack, List.reverse_append, List.reverse_replicate]
  · simpa using climbs

/-- A path that never climbs is collapsed already. -/
theorem collapse_eq_self {path : List Segment} (proper : up ∉ path) : collapse path = path := by
  rw [collapse, foldl_step_names proper, List.append_nil, List.reverse_reverse]

theorem up_mem_collapse_iff {path : List Segment} :
    up ∈ collapse path ↔ Overclimbs 0 path := by
  obtain ⟨depth, names, equal, proper, climbs⟩ := exists_collapse path
  rw [equal, ← climbs, List.mem_append, List.mem_replicate]
  simp [proper, Nat.pos_iff_ne_zero]

theorem collapse_collapse_append (first second : List Segment) :
    collapse (collapse first ++ second) = collapse (first ++ second) := by
  obtain ⟨names, depth, walk, proper, -⟩ := exists_stack first List.not_mem_nil 0
  have start : stack [] 0 = ([] : List Segment) := rfl
  rw [start] at walk
  have again : (collapse first).foldl step [] = first.foldl step [] := by
    rw [collapse, walk, foldl_step_stack proper]
  rw [collapse, List.foldl_append, again, ← List.foldl_append, collapse]

end Collapsing

section Joining

variable {specifier : String}

theorem joinDirectory_of_relative (relative : isRooted specifier = false) (directory : String) :
    joinDirectory directory specifier =
      render false (collapse (segments directory ++ segments specifier)) := by
  rw [joinDirectory, if_neg (by simp [relative])]

theorem segments_joinDirectory (relative : isRooted specifier = false) (directory : String) :
    segments (joinDirectory directory specifier) =
      collapse (segments directory ++ segments specifier) := by
  rw [joinDirectory_of_relative relative, segments_render isSegment_of_mem_collapse_append]

theorem isRooted_append_of_ne_empty (nonempty : specifier ≠ "") (rest : String) :
    isRooted (specifier ++ rest) = isRooted specifier := by
  have chars : specifier.toList ≠ [] := by simpa using nonempty
  obtain ⟨first, others, split⟩ := List.exists_cons_of_ne_nil chars
  rw [isRooted, isRooted, String.toList_append, split]
  rfl

/-- Walking on from a joined path is walking along both specifiers. -/
theorem joinDirectory_joinDirectory (relative : isRooted specifier = false)
    (nonempty : specifier ≠ "") {next : String} (onward : isRooted next = false)
    (directory : String) :
    joinDirectory (joinDirectory directory specifier) next =
      joinDirectory directory (specifier ++ "/" ++ next) := by
  have whole : isRooted (specifier ++ "/" ++ next) = false := by
    rw [String.append_assoc, isRooted_append_of_ne_empty nonempty, relative]
  rw [joinDirectory_of_relative onward, joinDirectory_of_relative whole,
    segments_joinDirectory relative, collapse_collapse_append, segments_append_slash,
    List.append_assoc]

theorem joinDirectory_here_append (relative : isRooted specifier = false) (directory : String) :
    joinDirectory directory ("./" ++ specifier) = joinDirectory directory specifier := by
  have here : isRooted ("./" ++ specifier) = false :=
    isRooted_append_of_ne_empty (by decide) specifier
  have path : segments ("./" ++ specifier) = segments specifier :=
    segments_append_slash "." specifier
  rw [joinDirectory_of_relative here, joinDirectory_of_relative relative, path]

/-- What joining does to a specifier that is not rooted: it walks along the segments of both, and
`..` stays where there is nothing left to leave. -/
structure Walks (directory specifier : String) : Prop where
  normal : normalize (joinDirectory directory specifier) = joinDirectory directory specifier
  rooted : isRooted (joinDirectory directory specifier) = true
  climbsFirst : ∃ depth names,
    segments (joinDirectory directory specifier) = List.replicate depth up ++ names ∧ up ∉ names
  escapes_iff : escapesRoot (joinDirectory directory specifier) = true ↔
    ∃ front, front <+: segments directory ++ segments specifier ∧
      front.countP (· != up) < front.count up
  composes : specifier ≠ "" → ∀ next, isRooted next = false →
    joinDirectory (joinDirectory directory specifier) next =
      joinDirectory directory (specifier ++ "/" ++ next)
  here : joinDirectory directory ("./" ++ specifier) = joinDirectory directory specifier
  resolveHere (base : String) : resolve base ("./" ++ specifier) = resolve base specifier

theorem walks_of_relative (relative : isRooted specifier = false) (directory : String) :
    Walks directory specifier where
  normal := by
    obtain ⟨path, valid, equal⟩ := exists_joinDirectory directory specifier
    rw [equal]
    exact (IsNormalForm.rooted valid).normalize_eq
  rooted := by
    rw [joinDirectory_of_relative relative]
    exact isRooted_render _
  climbsFirst := by
    obtain ⟨depth, names, equal, proper, -⟩ :=
      exists_collapse (segments directory ++ segments specifier)
    exact ⟨depth, names, by rw [segments_joinDirectory relative, equal], proper⟩
  escapes_iff := by
    rw [escapesRoot, List.contains_iff_mem, segments_joinDirectory relative, up_mem_collapse_iff,
      Overclimbs]
    simp only [Nat.zero_add]
  composes nonempty next onward := joinDirectory_joinDirectory relative nonempty onward directory
  here := joinDirectory_here_append relative directory
  resolveHere base := by
    rw [resolve_eq_joinDirectory, resolve_eq_joinDirectory, joinDirectory_here_append relative]

/-- A walk that climbs out of the root, comes back to a name and climbs again. -/
theorem walks_across_root :
    isRooted "../..//./b/../.." = false ∧ joinDirectory "/a" "../..//./b/../.." = "/../.." ∧
      Walks "/a" "../..//./b/../.." :=
  ⟨by decide, by decide, walks_of_relative (by decide) "/a"⟩

end Joining

end ModuleGraph.Path
