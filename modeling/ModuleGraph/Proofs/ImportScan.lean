/-
This file shows which forms of imports are found in a script.
-/

import ModuleGraph.ImportScan
import ModuleGraph.Proofs.Firsts

namespace ModuleGraph.ImportScan

/-- The imports that are kept are the first ones of their specifiers. -/
theorem distinct_eq_firsts (imports : List Import) :
    distinct imports = firsts Import.specifier [] imports := by
  have kept (front : List Import) :
      (imports.foldl (fun kept next =>
        if kept.any fun other => other.specifier == next.specifier then kept
        else kept ++ [next]) front) =
        front ++ firsts Import.specifier (front.map Import.specifier) imports := by
    induction imports generalizing front with
    | nil => exact (List.append_nil front).symm
    | cons next imports ih =>
        have same : (front.map Import.specifier).contains next.specifier =
            front.any fun other => other.specifier == next.specifier := by
          rw [Bool.eq_iff_iff]
          simp
        rw [List.foldl_cons, firsts, same]
        split
        · exact ih front
        · rw [ih, List.map_append, List.append_assoc]
          rfl
  exact kept []

theorem mem_of_mem_distinct {imports : List Import} {written : Import}
    (member : written ∈ distinct imports) : written ∈ imports := by
  rw [distinct_eq_firsts] at member
  exact mem_of_mem_firsts member

/-- Every import that is found has one of the forms looked for. -/
theorem exists_form_of_mem_scan {source : String} {written : Import}
    (found : written ∈ scan source) : ∃ form ∈ forms, written.kind = form.2.2 := by
  obtain ⟨⟨position, other⟩, placed, rfl⟩ := List.mem_map.mp (mem_of_mem_distinct found)
  rw [List.mem_mergeSort] at placed
  obtain ⟨form, looked, placed⟩ := List.mem_flatMap.mp placed
  obtain ⟨occurrence, _, same⟩ := List.mem_map.mp placed
  cases same
  exact ⟨form, looked, rfl⟩

/-- No entry point is found in a script. -/
theorem kind_ne_entryPoint_of_mem_scan {source : String} {written : Import}
    (found : written ∈ scan source) : written.kind ≠ .entryPoint := by
  obtain ⟨form, looked, kind⟩ := exists_form_of_mem_scan found
  have others : ∀ form ∈ forms, form.2.2 ≠ .entryPoint := by
    intro form member
    simp only [forms, List.mem_cons, List.not_mem_nil, or_false] at member
    rcases member with rfl | rfl | rfl | rfl <;> exact ResolveKind.noConfusion
  rw [kind]
  exact others form looked

end ModuleGraph.ImportScan
