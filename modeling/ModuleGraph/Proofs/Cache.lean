/-
This file shows what the operations of a cache do to its entries and their keys.
-/

import ModuleGraph.Cache
import Mathlib.Data.List.Nodup

namespace ModuleGraph.Cache

variable {α : Type} {cache : Cache α} {now : Nat} {key : String} {entry : CacheEntry α}

section Entries

/-- The keys, the one used last first. -/
def keys (cache : Cache α) : List String :=
  cache.entries.map CacheEntry.key

theorem key_of_find? (found : cache.find? key = some entry) : entry.key = key :=
  eq_of_beq (List.find?_some found :)

theorem mem_of_find? (found : cache.find? key = some entry) : entry ∈ cache.entries :=
  List.mem_of_find?_eq_some found

theorem find?_eq_none_iff : cache.find? key = none ↔ key ∉ cache.keys := by
  simp only [find?, keys, List.find?_eq_none, List.mem_map, beq_iff_eq, not_exists, not_and]

theorem contains_iff : cache.contains key = true ↔ key ∈ cache.keys := by
  rw [contains, Option.isSome_iff_ne_none, Ne, find?_eq_none_iff, not_not]

theorem mem_without {other : CacheEntry α} :
    other ∈ cache.without key ↔ other ∈ cache.entries ∧ other.key ≠ key := by
  rw [without, List.mem_filter, bne_iff_ne]

theorem map_key_without :
    (cache.without key).map CacheEntry.key = cache.keys.filter fun other => other != key := by
  rw [without, keys, List.filter_map]
  rfl

theorem get_of_not_mem (absent : key ∉ cache.keys) : cache.get now key = (none, cache) := by
  rw [get, find?_eq_none_iff.mpr absent]

/-- The key of a hit is moved to the front, that of an expired entry is dropped. -/
theorem get_cases (cache : Cache α) (now : Nat) (key : String) :
    (key ∉ cache.keys ∧ cache.get now key = (none, cache)) ∨
    (∃ entry, cache.find? key = some entry ∧ cache.isExpired now entry = true ∧
      cache.get now key = (none, { cache with entries := cache.without key })) ∨
    ∃ entry, cache.find? key = some entry ∧ cache.isExpired now entry = false ∧
      cache.get now key =
        (some entry.value, { cache with entries := entry :: cache.without key }) := by
  cases found : cache.find? key with
  | none =>
      have absent := find?_eq_none_iff.mp found
      exact .inl ⟨absent, get_of_not_mem absent⟩
  | some entry =>
      cases expired : cache.isExpired now entry with
      | true => exact .inr (.inl ⟨entry, rfl, expired, by simp only [get, found, expired, if_true]⟩)
      | false =>
          exact .inr (.inr ⟨entry, rfl, expired, by
            simp only [get, found, expired, Bool.false_eq_true, if_false]⟩)

/-- A hit returns the value of an entry. -/
theorem exists_of_get_some {value : α} (hit : (cache.get now key).1 = some value) :
    ∃ entry ∈ cache.entries, entry.key = key ∧ entry.value = value := by
  rcases get_cases cache now key with ⟨_, result⟩ | ⟨_, _, _, result⟩ | ⟨entry, found, _, result⟩
  · rw [result] at hit
    cases hit
  · rw [result] at hit
    cases hit
  · rw [result] at hit
    exact ⟨entry, mem_of_find? found, key_of_find? found, Option.some.inj hit⟩

/-- There is a hit if and only if the key has an entry whose time is not over. -/
theorem isSome_get_iff : (cache.get now key).1.isSome = true ↔
    ∃ entry, cache.find? key = some entry ∧ cache.isExpired now entry = false := by
  rw [get]
  cases found : cache.find? key with
  | none => simp
  | some entry => cases expired : cache.isExpired now entry <;> simp [expired]

/-- Getting a value adds no entry. -/
theorem mem_of_mem_get {other : CacheEntry α} (member : other ∈ (cache.get now key).2.entries) :
    other ∈ cache.entries := by
  rcases get_cases cache now key with ⟨_, result⟩ | ⟨_, _, _, result⟩ | ⟨entry, found, _, result⟩
  · rwa [result] at member
  · rw [result] at member
    exact (mem_without.mp member).1
  · rw [result] at member
    rcases List.mem_cons.mp member with rfl | member
    · exact mem_of_find? found
    · exact (mem_without.mp member).1

/-- Setting a value replaces what was stored under the key. -/
theorem mem_set {value : α} {other : CacheEntry α}
    (member : other ∈ (cache.set now key value).entries) :
    other = ⟨key, value, now⟩ ∨ other ∈ cache.entries ∧ other.key ≠ key :=
  (List.mem_cons.mp (List.mem_of_mem_take member)).imp_right mem_without.mp

end Entries

section Operations

/-- Something that is done with a cache. -/
inductive Operation (α : Type) where
  | get (now : Nat) (key : String)
  | set (now : Nat) (key : String) (value : α)
  | remove (key : String)
  | contains (key : String)
  | prune (now : Nat)
  | clear

def apply (cache : Cache α) : Operation α → Cache α
  | .get now key => (cache.get now key).2
  | .set now key value => cache.set now key value
  | .remove key => (cache.remove key).2
  | .contains _ => cache
  | .prune now => (cache.prune now).2
  | .clear => cache.clear

/-- The operation stores a value under the key. -/
def Operation.Sets (key : String) : Operation α → Prop
  | .set _ stored _ => stored = key
  | _ => False

/-- Looking an entry up does not change how many entries there may be, nor for how long. -/
theorem limits_get (cache : Cache α) (now : Nat) (key : String) :
    (cache.get now key).2.capacity = cache.capacity ∧
      (cache.get now key).2.lifetime = cache.lifetime := by
  rcases get_cases cache now key with ⟨_, result⟩ | ⟨_, _, _, result⟩ | ⟨_, _, _, result⟩
  · simp only [result, and_self]
  · simp only [result, and_self]
  · simp only [result, and_self]

@[simp]
theorem apply_capacity (operation : Operation α) :
    (cache.apply operation).capacity = cache.capacity := by
  cases operation with
  | get now key => exact (limits_get cache now key).1
  | _ => rfl

@[simp]
theorem apply_lifetime (operation : Operation α) :
    (cache.apply operation).lifetime = cache.lifetime := by
  cases operation with
  | get now key => exact (limits_get cache now key).2
  | _ => rfl

/-- An entry was there before, or the operation has just stored it. -/
theorem mem_apply {operation : Operation α} {other : CacheEntry α}
    (member : other ∈ (cache.apply operation).entries) :
    operation = .set other.storedAt other.key other.value ∨
      other ∈ cache.entries ∧ ¬ operation.Sets other.key := by
  cases operation with
  | get now key => exact .inr ⟨mem_of_mem_get member, id⟩
  | set now key value =>
      rcases mem_set member with rfl | ⟨member, different⟩
      · exact .inl rfl
      · exact .inr ⟨member, different.symm⟩
  | remove key => exact .inr ⟨(mem_without.mp member).1, id⟩
  | contains key => exact .inr ⟨member, id⟩
  | prune now => exact .inr ⟨(List.mem_filter.mp member).1, id⟩
  | clear => exact absurd member List.not_mem_nil

/-- A cache has room for all its entries, and no two of them under one key. -/
structure WellFormed (cache : Cache α) : Prop where
  bounded : cache.size ≤ cache.capacity
  distinct : cache.keys.Nodup

theorem WellFormed.of_sublist (wellFormed : cache.WellFormed) {entries : List (CacheEntry α)}
    (fewer : entries.Sublist cache.entries) :
    WellFormed { cache with entries := entries } where
  bounded := Nat.le_trans fewer.length_le wellFormed.bounded
  distinct := wellFormed.distinct.sublist (fewer.map CacheEntry.key)

/-- A key may be put in front of the others once its old entry is gone. -/
theorem WellFormed.nodup_front (wellFormed : cache.WellFormed) (key : String) :
    (key :: cache.keys.filter fun other => other != key).Nodup := by
  rw [List.nodup_cons, List.mem_filter, bne_self_eq_false]
  exact ⟨fun held => absurd held.2 Bool.false_ne_true, wellFormed.distinct.filter _⟩

theorem WellFormed.apply (wellFormed : cache.WellFormed) (operation : Operation α) :
    (cache.apply operation).WellFormed := by
  cases operation with
  | get now key =>
      rcases Cache.get_cases cache now key with
        ⟨_, result⟩ | ⟨_, _, _, result⟩ | ⟨entry, found, _, result⟩
      · rw [Cache.apply, result]
        exact wellFormed
      · rw [Cache.apply, result]
        exact wellFormed.of_sublist List.filter_sublist
      · have fewer : (cache.without key).length < cache.entries.length :=
          List.length_filter_lt_length_iff_exists.mpr
            ⟨entry, mem_of_find? found, by rw [key_of_find? found, bne_self_eq_false]; decide⟩
        rw [Cache.apply, result]
        refine ⟨Nat.le_trans fewer wellFormed.bounded, ?_⟩
        rw [keys, List.map_cons, map_key_without, key_of_find? found]
        exact wellFormed.nodup_front key
  | set now key value =>
      refine ⟨List.length_take_le .., ?_⟩
      rw [keys, Cache.apply, set, List.map_take, List.map_cons, map_key_without]
      exact (wellFormed.nodup_front key).sublist (List.take_sublist ..)
  | remove key => exact wellFormed.of_sublist List.filter_sublist
  | contains key => exact wellFormed
  | prune now => exact wellFormed.of_sublist List.filter_sublist
  | clear => exact wellFormed.of_sublist (List.nil_sublist _)

end Operations

end ModuleGraph.Cache
