/-
This file shows that normal forms are canonical: which texts are normal forms, and which paths
share one.
-/

import ModuleGraph.Proofs.Path

namespace ModuleGraph.Path

section Starts

/-- The first segment is `..` once every `./` before it is gone. -/
def StartsUp (path : String) : Prop :=
  ∃ count rest, path.toList = (List.replicate count ['.', '/']).flatten ++ rest ∧
    (rest = up ∨ ∃ more, rest = up ++ '/' :: more)

theorem exists_dropHere (path : List Char) :
    ∃ count, path = (List.replicate count ['.', '/']).flatten ++ dropHere path := by
  fun_induction dropHere path with
  | case1 rest ih =>
      obtain ⟨count, equal⟩ := ih
      refine ⟨count + 1, ?_⟩
      rw [List.replicate_succ, List.flatten_cons, List.append_assoc, ← equal]
      rfl
  | case2 rest => exact ⟨0, rfl⟩

theorem dropHere_append (count : Nat) (rest : List Char) :
    dropHere ((List.replicate count ['.', '/']).flatten ++ rest) = dropHere rest := by
  induction count with
  | zero => rfl
  | succ count ih =>
      rw [List.replicate_succ, List.flatten_cons, List.append_assoc]
      exact ih

theorem head?_split_eq_some_iff {piece text : List Char} (separate : '/' ∉ piece) :
    (Text.split '/' text).head? = some piece ↔
      text = piece ∨ ∃ more, text = piece ++ '/' :: more := by
  constructor
  · intro first
    obtain ⟨pieces, split⟩ := List.head?_eq_some_iff.mp first
    have joined : Text.join '/' (piece :: pieces) = text := by
      rw [← split, Text.join_split]
    cases pieces with
    | nil => exact .inl joined.symm
    | cons next pieces => exact .inr ⟨_, joined.symm⟩
  · rintro (rfl | ⟨more, rfl⟩)
    · rw [Text.split_of_not_mem separate]
      rfl
    · rw [Text.split_append_cons separate]
      rfl

theorem climbs_iff_startsUp {path : String} : climbs path = true ↔ StartsUp path := by
  have separate : '/' ∉ up := isSegment_up.2.2
  rw [climbs, beq_iff_eq, head?_split_eq_some_iff separate]
  constructor
  · intro starts
    obtain ⟨count, equal⟩ := exists_dropHere path.toList
    exact ⟨count, _, equal, starts⟩
  · rintro ⟨count, rest, equal, starts⟩
    have kept : dropHere rest = rest := by
      rcases starts with rfl | ⟨more, rfl⟩
      · rfl
      · rfl
    rw [equal, dropHere_append, kept]
    exact starts

theorem startsUp_append_slash {path : String} : StartsUp (path ++ "/") ↔ StartsUp path := by
  have whole : (path ++ "/").toList = path.toList ++ ['/'] := by simp
  unfold StartsUp
  rw [whole]
  constructor
  · rintro ⟨count, rest, equal, rfl | ⟨more, rfl⟩⟩
    · have last := congrArg List.getLast? equal
      simp [up] at last
    · rcases List.eq_nil_or_concat more with rfl | ⟨init, last, rfl⟩
      · rw [← List.append_assoc] at equal
        exact ⟨count, up, List.append_cancel_right equal, .inl rfl⟩
      · have parts : path.toList ++ ['/'] =
            ((List.replicate count ['.', '/']).flatten ++ (up ++ '/' :: init)) ++ [last] := by
          simpa using equal
        exact ⟨count, _, (List.append_inj' parts rfl).1, .inr ⟨init, rfl⟩⟩
  · rintro ⟨count, rest, equal, starts⟩
    refine ⟨count, rest ++ ['/'], by rw [equal, List.append_assoc], .inr ?_⟩
    rcases starts with rfl | ⟨more, rfl⟩
    · exact ⟨[], rfl⟩
    · exact ⟨more ++ ['/'], by simp⟩

end Starts

section Spellings

theorem normalize_eq_iff {first second : String} :
    normalize first = normalize second ↔
      climbs first = climbs second ∧ segments first = segments second := by
  constructor
  · intro same
    rw [← climbs_normalize first, ← segments_normalize first, same, climbs_normalize,
      segments_normalize]
    exact ⟨rfl, rfl⟩
  · rintro ⟨climbing, path⟩
    rw [normalize, normalize, climbing, path]

/-- A slash at the end changes nothing. -/
theorem normalize_append_slash (path : String) : normalize (path ++ "/") = normalize path := by
  rw [normalize_eq_iff]
  constructor
  · rw [Bool.eq_iff_iff, climbs_iff_startsUp, climbs_iff_startsUp, startsUp_append_slash]
  · have apart := segments_append_slash path ""
    rw [String.append_empty] at apart
    rw [apart]
    exact List.append_nil _

theorem segments_here_append (path : String) : segments ("./" ++ path) = segments path :=
  segments_append_slash "." path

/-- Nor does `./` at the start. -/
theorem normalize_here_append (path : String) : normalize ("./" ++ path) = normalize path := by
  rw [normalize_eq_iff]
  constructor
  · have whole : ("./" ++ path).toList = '.' :: '/' :: path.toList := by simp
    rw [climbs, whole, dropHere, climbs]
  · exact segments_here_append path

end Spellings

/-- A function gives every path its canonical form: the forms are those of `IsNormalForm`, each
is its own form, and two paths share one if they lead through the same segments and climb alike. -/
structure IsCanonicalForm (form : String → String) : Prop where
  image (path : String) : (∃ other, form other = path) ↔ IsNormalForm path
  fixed (path : String) : form path = path ↔ IsNormalForm path
  idempotent (path : String) : form (form path) = form path
  slash (path : String) : form (path ++ "/") = form path
  here (path : String) : form ("./" ++ path) = form path
  same_iff (first second : String) :
    form first = form second ↔
      segments first = segments second ∧ (StartsUp first ↔ StartsUp second)

theorem isCanonicalForm_normalize : IsCanonicalForm normalize where
  image path := by
    constructor
    · rintro ⟨other, rfl⟩
      exact isNormalForm_normalize other
    · exact fun normal => ⟨path, normal.normalize_eq⟩
  fixed _ := normalize_eq_self_iff
  idempotent := normalize_normalize
  slash := normalize_append_slash
  here := normalize_here_append
  same_iff first second := by
    rw [normalize_eq_iff, Bool.eq_iff_iff, climbs_iff_startsUp, climbs_iff_startsUp, and_comm]

end ModuleGraph.Path
