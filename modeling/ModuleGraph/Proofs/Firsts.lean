/-
This file selects from a list the entries whose key occurs for the first time.
-/

import Mathlib.Data.List.Nodup

namespace ModuleGraph

variable {α κ : Type} [BEq κ]

/-- The entries whose key is neither among those seen nor the key of an earlier entry. -/
def firsts (key : α → κ) : List κ → List α → List α
  | _, [] => []
  | seen, entry :: rest =>
      if seen.contains (key entry) then firsts key seen rest
      else entry :: firsts key (seen ++ [key entry]) rest

theorem firsts_append (key : α → κ) (seen : List κ) (front back : List α) :
    firsts key seen (front ++ back) =
      firsts key seen front ++ firsts key (seen ++ (firsts key seen front).map key) back := by
  induction front generalizing seen with
  | nil => simp [firsts]
  | cons entry rest ih =>
      rw [List.cons_append, firsts, firsts]
      split
      · exact ih seen
      · rw [ih, List.cons_append, List.map_cons, List.append_assoc, List.singleton_append]

/-- Only the keys decide which entries are kept. -/
theorem map_firsts (key : α → κ) (seen : List κ) (entries : List α) :
    (firsts key seen entries).map key = firsts id seen (entries.map key) := by
  induction entries generalizing seen with
  | nil => rfl
  | cons entry rest ih =>
      rw [List.map_cons, firsts, firsts]
      simp only [id_eq]
      split
      · exact ih seen
      · rw [List.map_cons, ih]

theorem mem_of_mem_firsts {key : α → κ} {seen : List κ} {entries : List α} {entry : α}
    (member : entry ∈ firsts key seen entries) : entry ∈ entries := by
  induction entries generalizing seen with
  | nil => exact member
  | cons first rest ih =>
      rw [firsts] at member
      split at member
      · exact List.mem_cons_of_mem _ (ih member)
      · rcases List.mem_cons.mp member with rfl | member
        · exact List.mem_cons_self ..
        · exact List.mem_cons_of_mem _ (ih member)

variable [LawfulBEq κ]

/-- Entries whose keys are apart are all kept. -/
theorem firsts_eq_self_of_nodup_append {key : α → κ} {seen : List κ} {entries : List α}
    (apart : (seen ++ entries.map key).Nodup) : firsts key seen entries = entries := by
  induction entries generalizing seen with
  | nil => rfl
  | cons entry rest ih =>
      have fresh : key entry ∉ seen := fun held =>
        (List.nodup_append.mp apart).2.2 _ held _ (List.mem_cons_self ..) rfl
      rw [List.map_cons, List.append_cons] at apart
      rw [firsts, if_neg (by simpa using fresh), ih apart]

theorem firsts_eq_self {key : α → κ} {entries : List α} (apart : (entries.map key).Nodup) :
    firsts key [] entries = entries :=
  firsts_eq_self_of_nodup_append apart

/-- No key is kept twice, and none that was seen is kept. -/
theorem nodup_append_firsts (key : α → κ) {seen : List κ} (distinct : seen.Nodup)
    (entries : List α) : (seen ++ (firsts key seen entries).map key).Nodup := by
  induction entries generalizing seen with
  | nil => simpa [firsts] using distinct
  | cons entry rest ih =>
      rw [firsts]
      split
      · exact ih distinct
      · rename_i fresh
        have absent : key entry ∉ seen := by simpa using fresh
        have extended : (seen ++ [key entry]).Nodup := by
          rw [List.nodup_append]
          refine ⟨distinct, List.nodup_singleton _, ?_⟩
          intro first memberFirst second memberSecond equal
          obtain rfl := List.mem_singleton.mp memberSecond
          exact absent (equal ▸ memberFirst)
        simpa [List.append_assoc] using ih extended

theorem nodup_map_firsts (key : α → κ) (entries : List α) :
    ((firsts key [] entries).map key).Nodup := by
  simpa using nodup_append_firsts key List.nodup_nil entries

/-- Every key is kept unless it was seen. -/
theorem mem_map_firsts {key : α → κ} {seen : List κ} {entries : List α} {entry : α}
    (member : entry ∈ entries) :
    key entry ∈ seen ∨ key entry ∈ (firsts key seen entries).map key := by
  induction entries generalizing seen with
  | nil => exact absurd member List.not_mem_nil
  | cons first rest ih =>
      rw [firsts]
      split
      · rename_i held
        rcases List.mem_cons.mp member with rfl | member
        · exact .inl (by simpa using held)
        · exact ih member
      · rcases List.mem_cons.mp member with rfl | member
        · exact .inr (by simp)
        · have settled : key entry ∈ seen ++ [key first] ∨ _ := ih member
          rcases settled with early | late
          · rcases List.mem_append.mp early with early | here
            · exact .inl early
            · exact .inr (by simp [List.mem_singleton.mp here])
          · exact .inr (by rw [List.map_cons]; exact List.mem_cons_of_mem _ late)

theorem mem_map_firsts_iff {key : α → κ} {entries : List α} {value : κ} :
    value ∈ (firsts key [] entries).map key ↔ value ∈ entries.map key := by
  constructor
  · intro kept
    obtain ⟨entry, member, rfl⟩ := List.mem_map.mp kept
    exact List.mem_map_of_mem (mem_of_mem_firsts member)
  · intro occurs
    obtain ⟨entry, member, rfl⟩ := List.mem_map.mp occurs
    exact (mem_map_firsts member).resolve_left List.not_mem_nil

theorem mem_firsts_id_iff {entries : List κ} {value : κ} :
    value ∈ firsts id [] entries ↔ value ∈ entries := by
  have kept : value ∈ (firsts id [] entries).map id ↔ value ∈ entries.map id := mem_map_firsts_iff
  rwa [List.map_id, List.map_id] at kept

theorem nodup_firsts_id (entries : List κ) : (firsts id [] entries).Nodup := by
  simpa using nodup_map_firsts id entries

/-- No entry before one that is kept has its key. -/
theorem split_of_mem_firsts {key : α → κ} {seen : List κ} {entries : List α} {entry : α}
    (member : entry ∈ firsts key seen entries) :
    ∃ before after, entries = before ++ entry :: after ∧ key entry ∉ seen ∧
      ∀ other ∈ before, key other ≠ key entry := by
  induction entries generalizing seen with
  | nil => exact absurd member List.not_mem_nil
  | cons first rest ih =>
      rw [firsts] at member
      split at member
      · rename_i held
        obtain ⟨before, after, rfl, fresh, different⟩ := ih member
        refine ⟨first :: before, after, rfl, fresh, ?_⟩
        intro other early
        rcases List.mem_cons.mp early with rfl | early
        · intro equal
          rw [equal] at held
          exact fresh (by simpa using held)
        · exact different other early
      · rename_i missing
        rcases List.mem_cons.mp member with rfl | member
        · exact ⟨[], rest, rfl, by simpa using missing, by simp⟩
        · obtain ⟨before, after, rfl, fresh, different⟩ := ih member
          rw [List.mem_append, List.mem_singleton, not_or] at fresh
          refine ⟨first :: before, after, rfl, fresh.1, ?_⟩
          intro other early
          rcases List.mem_cons.mp early with rfl | early
          · exact fun equal => fresh.2 equal.symm
          · exact different other early

theorem ne_of_mem_firsts {seen entries : List κ} {value entry : κ} (held : value ∈ seen)
    (member : entry ∈ firsts id seen entries) : value ≠ entry := by
  obtain ⟨_, _, _, fresh, _⟩ := split_of_mem_firsts member
  rintro rfl
  exact fresh held

/-- Behind one more entry, the places of all others move alike. -/
theorem pairwise_idxOf_cons {entry : κ} {kept rest : List κ}
    (apart : ∀ later ∈ kept, entry ≠ later)
    (order : kept.Pairwise fun first second => rest.idxOf first < rest.idxOf second) :
    kept.Pairwise fun first second =>
      (entry :: rest).idxOf first < (entry :: rest).idxOf second := by
  refine order.imp_of_mem ?_
  intro first second memberFirst memberSecond earlier
  rw [List.idxOf_cons_ne _ (apart first memberFirst),
    List.idxOf_cons_ne _ (apart second memberSecond)]
  exact Nat.succ_lt_succ earlier

/-- The keys are kept in the order of their first places. -/
theorem pairwise_idxOf_firsts (seen entries : List κ) :
    (firsts id seen entries).Pairwise fun first second =>
      entries.idxOf first < entries.idxOf second := by
  induction entries generalizing seen with
  | nil => exact List.Pairwise.nil
  | cons entry rest ih =>
      rw [firsts]
      split
      · rename_i held
        have apart : ∀ later ∈ firsts id seen rest, entry ≠ later := fun later member =>
          ne_of_mem_firsts (by simpa using held) member
        exact pairwise_idxOf_cons apart (ih seen)
      · have apart : ∀ later ∈ firsts id (seen ++ [entry]) rest, entry ≠ later :=
          fun later member => ne_of_mem_firsts (by simp) member
        refine List.pairwise_cons.mpr ⟨?_, pairwise_idxOf_cons apart (ih (seen ++ [entry]))⟩
        intro later member
        rw [List.idxOf_cons_ne _ (apart later member)]
        simp

section Histories

/-- Every entry with the entries before it. -/
def histories (before : List α) : List α → List (List α × α)
  | [] => []
  | entry :: rest => (before, entry) :: histories (before ++ [entry]) rest

/-- Whether an entry has the key of one before it. -/
def repeats (key : α → κ) (history : List α × α) : Bool :=
  history.1.any fun other => key other == key history.2

/-- The keys that were seen are those of the entries before. -/
def Known (key : α → κ) (seen : List κ) (before : List α) : Prop :=
  ∀ value, value ∈ seen ↔ value ∈ before.map key

namespace Known

variable {key : α → κ} {seen : List κ} {before : List α} {entry : α}

theorem contains_eq (known : Known key seen before) :
    seen.contains (key entry) = repeats key (before, entry) := by
  rw [Bool.eq_iff_iff, List.contains_iff_mem, known, repeats, List.any_eq_true]
  simp

/-- What was made of the entries before tells whether one repeats a key. -/
theorem any_eq {β : Type} {made : List β} {keyOf : β → κ}
    (known : Known key (made.map keyOf) before) (entry : α) :
    (made.any fun other => keyOf other == key entry) = repeats key (before, entry) := by
  rw [← known.contains_eq, Bool.eq_iff_iff, List.contains_iff_mem, List.mem_map, List.any_eq_true]
  simp only [beq_iff_eq]

omit [BEq κ] [LawfulBEq κ] in
theorem add (known : Known key seen before) :
    Known key (seen ++ [key entry]) (before ++ [entry]) := by
  intro value
  rw [List.mem_append, known, List.map_append, List.mem_append]
  rfl

theorem skip (known : Known key seen before) (repeated : repeats key (before, entry) = true) :
    Known key seen (before ++ [entry]) := by
  have present : key entry ∈ before.map key := by
    rw [← known, ← List.contains_iff_mem, known.contains_eq, repeated]
  intro value
  rw [known, List.map_append, List.mem_append]
  exact ⟨.inl, fun held => held.elim id fun last => by rwa [List.mem_singleton.mp last]⟩

end Known

/-- The entries that are kept are those that repeat no key. -/
theorem firsts_eq_filter_histories {key : α → κ} {seen : List κ} {before : List α}
    (known : Known key seen before) (entries : List α) :
    firsts key seen entries =
      ((histories before entries).filter fun history => !repeats key history).map Prod.snd := by
  induction entries generalizing seen before with
  | nil => rfl
  | cons entry rest ih =>
      rw [firsts, histories, List.filter_cons, known.contains_eq]
      cases repeated : repeats key (before, entry) with
      | true => exact ih (known.skip repeated)
      | false => simp [ih known.add]

/-- An entry without an earlier one of its key is kept. -/
theorem mem_firsts_of_split {key : α → κ} {seen : List κ} {before after : List α} {entry : α}
    (fresh : key entry ∉ seen) (different : ∀ other ∈ before, key other ≠ key entry) :
    entry ∈ firsts key seen (before ++ entry :: after) := by
  have absent : key entry ∉ seen ++ (firsts key seen before).map key := by
    rw [List.mem_append, not_or]
    refine ⟨fresh, fun kept => ?_⟩
    obtain ⟨other, member, same⟩ := List.mem_map.mp kept
    exact different other (mem_of_mem_firsts member) same
  rw [firsts_append, firsts, if_neg (by simpa using absent)]
  exact List.mem_append_right _ (List.mem_cons_self ..)

end Histories

end ModuleGraph
