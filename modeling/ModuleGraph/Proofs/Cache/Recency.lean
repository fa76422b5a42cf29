/-
This file shows which keys a cache holds that is limited in size alone: those that were touched
last, as far as there is room.
-/

import ModuleGraph.Proofs.Cache
import Mathlib.Data.Finset.Card

namespace ModuleGraph.Cache

section Law

variable {α : Type}

/-- The cache that a history of operations leaves, beginning with an empty one that keeps its
entries for any time. -/
def ofHistory (size : Nat) (history : List (Operation α)) : Cache α :=
  history.foldl apply (new size none)

/-- The key that an operation touches: the one it sets, or the one it gets and finds. -/
def touched? (cache : Cache α) : Operation α → Option String
  | .get now key => if (cache.get now key).1.isSome then some key else none
  | .set _ key _ => some key
  | _ => none

/-- The keys that operations touch one after the other. -/
def touches : Cache α → List (Operation α) → List String
  | _, [] => []
  | cache, operation :: operations =>
      (cache.touched? operation).toList ++ (cache.apply operation).touches operations

/-- The operation removes the key on purpose. -/
def Operation.drops (key : String) : Operation α → Bool
  | .remove dropped => key == dropped
  | .clear => true
  | _ => false

/-- The operation does not change the cache: it asks for a key or looks for what is not there, or
it looks for what has expired where nothing does. -/
inductive Idle (cache : Cache α) : Operation α → Prop
  | contains (key : String) : Idle cache (.contains key)
  | prune (now : Nat) : Idle cache (.prune now)
  | miss {now : Nat} {key : String} (missing : (cache.get now key).1 = none) :
      Idle cache (.get now key)

/-- The keys that are touched after an operation in the middle of a history. -/
def touchedSince (size : Nat) (before : List (Operation α)) (operation : Operation α)
    (after : List (Operation α)) : Finset String :=
  (((ofHistory size before).apply operation).touches after).toFinset

/-- An operation in the middle of a history is the last one to touch the key. -/
structure LastTouch (size : Nat) (before : List (Operation α)) (operation : Operation α)
    (after : List (Operation α)) (key : String) : Prop where
  touched : (ofHistory size before).touched? operation = some key
  last : key ∉ touchedSince size before operation after

def WasSet (history : List (Operation α)) (key : String) : Prop :=
  ∃ operation ∈ history, operation.Sets key

/-- The value was stored under the key, and no other one after it. -/
def LastSet (history : List (Operation α)) (key : String) (value : α) : Prop :=
  ∃ before now after, history = before ++ .set now key value :: after ∧
    ∀ operation ∈ after, ¬ operation.Sets key

/-- The law of a cache that lets the key go that was touched first. -/
structure KeepsRecent (size : Nat) (history : List (Operation α)) : Prop where
  bounded : (ofHistory size history).size ≤ max 1 size
  distinct : (ofHistory size history).keys.Nodup
  latest : ∀ now key value, ((ofHistory size history).get now key).1 = some value →
    LastSet history key value
  touched : ∀ key, WasSet history key → ∃ before operation after,
    history = before ++ operation :: after ∧ LastTouch size before operation after key
  /-- A key stays while there is room for it and for all that are touched after it. -/
  kept : ∀ before operation after key, history = before ++ operation :: after →
    LastTouch size before operation after key →
    (∀ later ∈ after, later.drops key = false) →
    (touchedSince size before operation after).card < max 1 size →
    (ofHistory size history).contains key = true
  /-- If no key is removed on purpose, then no other key stays. -/
  present_iff : (∀ operation ∈ history, ∀ key, operation.drops key = false) →
    ∀ key, (ofHistory size history).contains key = true ↔ WasSet history key ∧
      ∀ before operation after, history = before ++ operation :: after →
        LastTouch size before operation after key →
        (touchedSince size before operation after).card < max 1 size
  idle : ∀ before operation after, history = before ++ operation :: after →
    (ofHistory size before).Idle operation →
    ofHistory size history = ofHistory size (before ++ after)

end Law

section Order

variable {key other : String} {keys : List String}

/-- The keys with one of them moved to the front. -/
def front (key : String) (keys : List String) : List String :=
  key :: keys.filter fun other => other != key

/-- The keys that stand before the first place of a key. -/
def ahead (key : String) (keys : List String) : List String :=
  keys.takeWhile fun other => other != key

theorem ahead_cons (different : other ≠ key) :
    ahead key (other :: keys) = other :: ahead key keys :=
  List.takeWhile_cons_of_pos (bne_iff_ne.mpr different)

theorem ahead_cons_self : ahead key (key :: keys) = [] :=
  List.takeWhile_cons_of_neg (by simp)

theorem ahead_filter (test : String → Bool) (kept : test key = true) :
    ahead key (keys.filter test) = (ahead key keys).filter test := by
  induction keys with
  | nil => rfl
  | cons other keys ih =>
      by_cases same : other = key
      · subst same
        rw [List.filter_cons_of_pos kept, ahead_cons_self, ahead_cons_self]
        rfl
      · rw [ahead_cons same]
        by_cases passes : test other = true
        · rw [List.filter_cons_of_pos passes, List.filter_cons_of_pos passes, ahead_cons same, ih]
        · rw [List.filter_cons_of_neg passes, List.filter_cons_of_neg passes, ih]

theorem ahead_front (different : other ≠ key) :
    ahead key (front other keys) = other :: (ahead key keys).filter fun next => next != other := by
  have kept : (key != other) = true := bne_iff_ne.mpr different.symm
  rw [front, ahead_cons different, ahead_filter (fun next => next != other) kept]

theorem mem_front (different : other ≠ key) : key ∈ front other keys ↔ key ∈ keys := by
  simp [front, different.symm]

/-- A key is among the first ones if few enough stand before it. -/
theorem mem_take_iff {count : Nat} :
    key ∈ keys.take count ↔ key ∈ keys ∧ (ahead key keys).length < count := by
  induction keys generalizing count with
  | nil => simp
  | cons other keys ih =>
      cases count with
      | zero => simp
      | succ count =>
          by_cases same : other = key
          · subst same
            simp [ahead_cons_self]
          · rw [List.take_succ_cons, List.mem_cons, List.mem_cons, ih, ahead_cons same,
              List.length_cons, Nat.succ_lt_succ_iff]
            simp only [Ne.symm same, false_or]

theorem length_ahead_lt (held : key ∈ keys) : (ahead key keys).length < keys.length := by
  rw [← List.take_length (l := keys)] at held
  exact (mem_take_iff.mp held).2

theorem ahead_take {count : Nat} (held : key ∈ keys.take count) :
    ahead key (keys.take count) = ahead key keys := by
  induction keys generalizing count with
  | nil => rw [List.take_nil]
  | cons other keys ih =>
      cases count with
      | zero => exact absurd held List.not_mem_nil
      | succ count =>
          rw [List.take_succ_cons] at held ⊢
          by_cases same : other = key
          · subst same
            rw [ahead_cons_self, ahead_cons_self]
          · rw [ahead_cons same, ahead_cons same,
              ih ((List.mem_cons.mp held).resolve_left (Ne.symm same))]

theorem card_toFinset_le {first second : List String} (subset : first ⊆ second) :
    first.toFinset.card ≤ second.toFinset.card :=
  Finset.card_le_card fun _ member =>
    List.mem_toFinset.mpr (subset (List.mem_toFinset.mp member))

/-- Keys that differ are no more than those among which they are. -/
theorem length_le_card_toFinset {first second : List String} (distinct : first.Nodup)
    (subset : first ⊆ second) : first.length ≤ second.toFinset.card := by
  rw [← List.toFinset_card_of_nodup distinct]
  exact card_toFinset_le subset

end Order

section Steps

variable {α : Type} {cache : Cache α} {operation : Operation α} {key other : String}

/-- A cache that keeps its entries for any time, and that has room for one at least. -/
structure Lasting (cache : Cache α) : Prop extends cache.WellFormed where
  unlimited : cache.lifetime = none
  positive : 0 < cache.capacity

theorem Lasting.apply (lasting : cache.Lasting) (operation : Operation α) :
    (cache.apply operation).Lasting where
  toWellFormed := lasting.toWellFormed.apply operation
  unlimited := (apply_lifetime operation).trans lasting.unlimited
  positive := (apply_capacity operation).symm ▸ lasting.positive

namespace Lasting

theorem isExpired (lasting : cache.Lasting) (now : Nat) (entry : CacheEntry α) :
    cache.isExpired now entry = false := by
  rw [Cache.isExpired, lasting.unlimited]

theorem prune_snd (lasting : cache.Lasting) (now : Nat) : (cache.prune now).2 = cache := by
  simp only [prune, lasting.isExpired, Bool.not_false, List.filter_true]

/-- What is looked for is either absent, or found, and its key moves to the front. -/
theorem get_cases (lasting : cache.Lasting) (now : Nat) (key : String) :
    (key ∉ cache.keys ∧ cache.get now key = (none, cache)) ∨
    (key ∈ cache.keys ∧ (cache.get now key).1.isSome = true ∧
      (cache.get now key).2.keys = front key cache.keys) := by
  rcases Cache.get_cases cache now key with
    absent | ⟨entry, _, expired, _⟩ | ⟨entry, found, _, result⟩
  · exact .inl absent
  · rw [lasting.isExpired] at expired
    cases expired
  · have held : key ∈ cache.keys := by
      rw [← contains_iff, contains, found]
      rfl
    refine .inr ⟨held, by rw [result]; rfl, ?_⟩
    rw [result, keys, List.map_cons, map_key_without, key_of_find? found]
    rfl

/-- A touched key comes first, and the last one goes if there is no room for it. -/
theorem keys_of_touched (lasting : cache.Lasting)
    (touched : cache.touched? operation = some other) :
    (cache.apply operation).keys = (front other cache.keys).take cache.capacity := by
  cases operation with
  | get now sought =>
      rcases lasting.get_cases now sought with ⟨_, result⟩ | ⟨held, hit, moved⟩
      · simp [touched?, result] at touched
      · rw [touched?, if_pos hit] at touched
        cases touched
        have room : (front other cache.keys).length ≤ cache.capacity := by
          rw [← moved, ← apply_capacity (.get now other), keys, List.length_map]
          exact (lasting.apply (.get now other)).bounded
        rw [List.take_of_length_le room]
        exact moved
  | set now stored value =>
      cases touched
      rw [Cache.apply, set, keys, List.map_take, List.map_cons, map_key_without]
      rfl
  | _ => cases touched

/-- An operation that touches no key leaves those that it does not drop. -/
theorem keys_of_untouched (lasting : cache.Lasting)
    (untouched : cache.touched? operation = none) :
    (cache.apply operation).keys = cache.keys.filter fun key => !operation.drops key := by
  cases operation with
  | get now sought =>
      rcases lasting.get_cases now sought with ⟨_, result⟩ | ⟨_, hit, _⟩
      · rw [Cache.apply, result]
        exact (List.filter_true _).symm
      · simp [touched?, hit] at untouched
  | set now stored value => cases untouched
  | remove dropped =>
      rw [Cache.apply, remove, keys, map_key_without]
      rfl
  | contains sought => exact (List.filter_true _).symm
  | prune now =>
      rw [Cache.apply, lasting.prune_snd]
      exact (List.filter_true _).symm
  | clear => exact (List.filter_false _).symm

/-- A key stays if there is room for it and for those touched since, the new one among them. -/
theorem stays_apply (lasting : cache.Lasting) {touched : List String} (held : key ∈ cache.keys)
    (recent : ahead key cache.keys ⊆ touched) (spared : operation.drops key = false)
    (different : key ∉ (cache.touched? operation).toList)
    (room : (touched ++ (cache.touched? operation).toList).toFinset.card < cache.capacity) :
    key ∈ (cache.apply operation).keys ∧
      ahead key (cache.apply operation).keys ⊆ touched ++ (cache.touched? operation).toList := by
  cases touching : cache.touched? operation with
  | none =>
      have kept : (!operation.drops key) = true := by rw [spared]; rfl
      rw [lasting.keys_of_untouched touching,
        ahead_filter (fun other => !operation.drops other) kept, Option.toList_none,
        List.append_nil]
      exact ⟨List.mem_filter.mpr ⟨held, kept⟩,
        fun other member => recent (List.mem_filter.mp member).1⟩
  | some other =>
      rw [touching] at different room
      have apart : other ≠ key := fun same => different (same ▸ List.mem_singleton_self other)
      have listed : ahead key (front other cache.keys) ⊆ touched ++ [other] := by
        rw [ahead_front apart]
        intro next member
        rcases List.mem_cons.mp member with rfl | member
        · exact List.mem_append_right _ (List.mem_singleton_self next)
        · exact List.mem_append_left _ (recent (List.mem_filter.mp member).1)
      -- The keys before it differ and are all touched, so that they are fewer than the capacity.
      have distinct : (ahead key (front other cache.keys)).Nodup :=
        (lasting.nodup_front other).sublist (List.takeWhile_sublist _)
      have few : (ahead key (front other cache.keys)).length < cache.capacity :=
        Nat.lt_of_le_of_lt (length_le_card_toFinset distinct listed) room
      have first : key ∈ (front other cache.keys).take cache.capacity :=
        mem_take_iff.mpr ⟨(mem_front apart).mpr held, few⟩
      rw [lasting.keys_of_touched touching, ahead_take first]
      exact ⟨first, listed⟩

/-- A key stays as long as there is room for it and for all that are touched. -/
theorem stays (lasting : cache.Lasting) {operations : List (Operation α)} {touched : List String}
    (held : key ∈ cache.keys) (recent : ahead key cache.keys ⊆ touched)
    (spared : ∀ operation ∈ operations, operation.drops key = false)
    (different : key ∉ cache.touches operations)
    (room : (touched ++ cache.touches operations).toFinset.card < cache.capacity) :
    key ∈ (operations.foldl Cache.apply cache).keys := by
  induction operations generalizing cache touched with
  | nil => exact held
  | cons operation operations ih =>
      rw [touches, List.mem_append, not_or] at different
      rw [touches, ← List.append_assoc] at room
      have fewer : (touched ++ (cache.touched? operation).toList).toFinset.card <
          cache.capacity :=
        Nat.lt_of_le_of_lt (card_toFinset_le (List.subset_append_left _ _)) room
      obtain ⟨heldNext, recentNext⟩ := lasting.stays_apply held recent
        (spared operation (List.mem_cons_self ..)) different.1 fewer
      exact ih (lasting.apply operation) heldNext recentNext
        (fun later member => spared later (List.mem_cons_of_mem _ member)) different.2
        (by rwa [apply_capacity])

/-- If no key is dropped, then all keys that were touched since stand before a key. -/
theorem follows_apply (lasting : cache.Lasting) {touched : List String}
    (follows : key ∈ cache.keys → touched ⊆ ahead key cache.keys)
    (spared : ∀ key, operation.drops key = false)
    (different : key ∉ (cache.touched? operation).toList)
    (held : key ∈ (cache.apply operation).keys) :
    touched ++ (cache.touched? operation).toList ⊆ ahead key (cache.apply operation).keys := by
  cases touching : cache.touched? operation with
  | none =>
      have same : (cache.apply operation).keys = cache.keys := by
        rw [lasting.keys_of_untouched touching]
        simp only [spared, Bool.not_false, List.filter_true]
      rw [same] at held ⊢
      rw [Option.toList_none, List.append_nil]
      exact follows held
  | some other =>
      rw [touching] at different
      have apart : other ≠ key := fun same => different (same ▸ List.mem_singleton_self other)
      rw [lasting.keys_of_touched touching] at held ⊢
      rw [ahead_take held, ahead_front apart]
      have before := follows ((mem_front apart).mp (mem_take_iff.mp held).1)
      intro next member
      rw [List.mem_cons, List.mem_filter, bne_iff_ne]
      rcases List.mem_append.mp member with member | member
      · exact (em (next = other)).imp_right fun different => ⟨before member, different⟩
      · exact .inl (List.mem_singleton.mp member)

theorem follows (lasting : cache.Lasting) {operations : List (Operation α)}
    {touched : List String} (follows : key ∈ cache.keys → touched ⊆ ahead key cache.keys)
    (spared : ∀ operation ∈ operations, ∀ key, operation.drops key = false)
    (different : key ∉ cache.touches operations)
    (held : key ∈ (operations.foldl Cache.apply cache).keys) :
    touched ++ cache.touches operations ⊆
      ahead key (operations.foldl Cache.apply cache).keys := by
  induction operations generalizing cache touched with
  | nil =>
      rw [touches, List.append_nil]
      exact follows held
  | cons operation operations ih =>
      rw [touches, List.mem_append, not_or] at different
      rw [touches, ← List.append_assoc]
      exact ih (lasting.apply operation)
        (lasting.follows_apply follows (spared operation (List.mem_cons_self ..)) different.1)
        (fun later member => spared later (List.mem_cons_of_mem _ member)) different.2 held

/-- A key that was just touched comes first. -/
theorem mem_of_touched (lasting : cache.Lasting)
    (touched : cache.touched? operation = some key) :
    key ∈ (cache.apply operation).keys ∧ ahead key (cache.apply operation).keys = [] := by
  have first : key ∈ (front key cache.keys).take cache.capacity := by
    rw [mem_take_iff, front, ahead_cons_self]
    exact ⟨List.mem_cons_self .., lasting.positive⟩
  rw [lasting.keys_of_touched touched, ahead_take first, front, ahead_cons_self]
  exact ⟨first, rfl⟩

end Lasting

end Steps

section Runs

variable {α : Type} {size : Nat} {history : List (Operation α)} {key : String}

theorem ofHistory_append (before after : List (Operation α)) :
    ofHistory size (before ++ after) = after.foldl apply (ofHistory size before) :=
  List.foldl_append

theorem ofHistory_snoc (before : List (Operation α)) (operation : Operation α) :
    ofHistory size (before ++ [operation]) = (ofHistory size before).apply operation :=
  ofHistory_append before [operation]

theorem lasting_ofHistory (size : Nat) (history : List (Operation α)) :
    (ofHistory size history).Lasting := by
  induction history using List.reverseRecOn with
  | nil => exact ⟨⟨Nat.zero_le _, List.nodup_nil⟩, rfl, by simp [ofHistory, new]⟩
  | append_singleton before operation ih =>
      rw [ofHistory_snoc]
      exact ih.apply operation

theorem capacity_ofHistory : (ofHistory size history).capacity = max 1 size := by
  induction history using List.reverseRecOn with
  | nil => rfl
  | append_singleton before operation ih => rw [ofHistory_snoc, apply_capacity, ih]

/-- What is stored is what was set last. -/
theorem lastSet_of_mem {entry : CacheEntry α} (member : entry ∈ (ofHistory size history).entries) :
    LastSet history entry.key entry.value := by
  induction history using List.reverseRecOn with
  | nil => exact absurd member List.not_mem_nil
  | append_singleton before operation ih =>
      rw [ofHistory_snoc] at member
      rcases mem_apply member with rfl | ⟨member, unset⟩
      · exact ⟨before, _, [], rfl, fun _ absurd => nomatch absurd⟩
      · obtain ⟨first, now, after, rfl, last⟩ := ih member
        refine ⟨first, now, after ++ [operation], by rw [List.append_assoc]; rfl, ?_⟩
        intro later member
        rcases List.mem_append.mp member with member | member
        · exact last later member
        · rw [List.mem_singleton.mp member]
          exact unset

theorem LastSet.wasSet {value : α} (lastSet : LastSet history key value) : WasSet history key := by
  obtain ⟨before, now, after, rfl, _⟩ := lastSet
  exact ⟨.set now key value, List.mem_append_right _ (List.mem_cons_self ..), rfl⟩

theorem wasSet_of_mem_keys (held : key ∈ (ofHistory size history).keys) : WasSet history key := by
  obtain ⟨entry, member, rfl⟩ := List.mem_map.mp held
  exact (lastSet_of_mem member).wasSet

theorem touches_append (cache : Cache α) (first second : List (Operation α)) :
    cache.touches (first ++ second) =
      cache.touches first ++ (first.foldl apply cache).touches second := by
  induction first generalizing cache with
  | nil => rfl
  | cons operation first ih =>
      rw [List.cons_append, touches, ih, touches, List.append_assoc]
      rfl

/-- Setting a key touches it. -/
theorem touched?_of_sets {cache : Cache α} {operation : Operation α}
    (sets : operation.Sets key) : cache.touched? operation = some key := by
  cases operation with
  | set now stored value => exact congrArg some sets
  | _ => exact sets.elim

/-- A key that was set has been touched for the last time at some point. -/
theorem exists_lastTouch (wasSet : WasSet history key) : ∃ before operation after,
    history = before ++ operation :: after ∧ LastTouch size before operation after key := by
  induction history using List.reverseRecOn with
  | nil => exact absurd wasSet.choose_spec.1 List.not_mem_nil
  | append_singleton before operation ih =>
      by_cases touched : (ofHistory size before).touched? operation = some key
      · exact ⟨before, operation, [], rfl, touched, Finset.notMem_empty key⟩
      · have earlier : WasSet before key := by
          obtain ⟨setting, member, sets⟩ := wasSet
          rcases List.mem_append.mp member with member | member
          · exact ⟨setting, member, sets⟩
          · rw [List.mem_singleton.mp member] at sets
            exact absurd (touched?_of_sets sets) touched
        obtain ⟨first, touching, after, rfl, last⟩ := ih earlier
        refine ⟨first, touching, after ++ [operation], by rw [List.append_assoc]; rfl,
          last.touched, ?_⟩
        rw [ofHistory_append] at touched
        rw [touchedSince, touches_append, List.toFinset_append, Finset.mem_union, not_or]
        refine ⟨last.last, ?_⟩
        simpa [touches] using touched

/-- Between its last touch and the end, a key stays while there is room. -/
theorem LastTouch.contains {before after : List (Operation α)} {operation : Operation α}
    (lastTouch : LastTouch size before operation after key)
    (spared : ∀ later ∈ after, later.drops key = false)
    (room : (touchedSince size before operation after).card < max 1 size) :
    (ofHistory size (before ++ operation :: after)).contains key = true := by
  have lasting := lasting_ofHistory size before
  obtain ⟨held, first⟩ := lasting.mem_of_touched lastTouch.touched
  have recent : ahead key ((ofHistory size before).apply operation).keys ⊆ [] :=
    first ▸ List.Subset.refl []
  have different : key ∉ ((ofHistory size before).apply operation).touches after :=
    fun member => lastTouch.last (List.mem_toFinset.mpr member)
  rw [contains_iff, ofHistory_append, List.foldl_cons]
  refine (lasting.apply operation).stays held recent spared different ?_
  rw [apply_capacity, capacity_ofHistory]
  exact room

/-- If nothing is dropped, then a key stays only while there is room. -/
theorem LastTouch.card_lt {before after : List (Operation α)} {operation : Operation α}
    (lastTouch : LastTouch size before operation after key)
    (spared : ∀ later ∈ after, ∀ key, later.drops key = false)
    (held : key ∈ (ofHistory size (before ++ operation :: after)).keys) :
    (touchedSince size before operation after).card < max 1 size := by
  have lasting := (lasting_ofHistory size before).apply operation
  have bounded := (lasting_ofHistory size (before ++ operation :: after)).bounded
  rw [capacity_ofHistory, Cache.size, ← List.length_map CacheEntry.key] at bounded
  have different : key ∉ ((ofHistory size before).apply operation).touches after :=
    fun member => lastTouch.last (List.mem_toFinset.mpr member)
  have since : ((ofHistory size before).apply operation).touches after ⊆
      ahead key (ofHistory size (before ++ operation :: after)).keys := by
    rw [ofHistory_append, List.foldl_cons] at held ⊢
    exact lasting.follows (fun _ => List.nil_subset _) spared different held
  calc (touchedSince size before operation after).card
      ≤ (ahead key (ofHistory size (before ++ operation :: after)).keys).toFinset.card :=
        card_toFinset_le since
    _ ≤ (ahead key (ofHistory size (before ++ operation :: after)).keys).length :=
        List.toFinset_card_le _
    _ < (ofHistory size (before ++ operation :: after)).keys.length := length_ahead_lt held
    _ ≤ max 1 size := bounded

/-- An idle operation leaves the cache as it is. -/
theorem Lasting.apply_of_idle {cache : Cache α} {operation : Operation α}
    (lasting : cache.Lasting) (idle : cache.Idle operation) : cache.apply operation = cache := by
  cases idle with
  | contains key => rfl
  | prune now => exact lasting.prune_snd now
  | @miss now key missing =>
      rcases lasting.get_cases now key with ⟨_, result⟩ | ⟨_, hit, _⟩
      · rw [Cache.apply, result]
      · rw [missing] at hit
        cases hit

/-- A cache without a limit in time keeps the keys that were touched last. -/
theorem keepsRecent (size : Nat) (history : List (Operation α)) : KeepsRecent size history where
  bounded := capacity_ofHistory ▸ (lasting_ofHistory size history).bounded
  distinct := (lasting_ofHistory size history).distinct
  latest := by
    intro now key value hit
    obtain ⟨entry, member, rfl, rfl⟩ := exists_of_get_some hit
    exact lastSet_of_mem member
  touched := fun key wasSet => exists_lastTouch wasSet
  kept := by
    rintro before operation after key rfl lastTouch spared room
    exact lastTouch.contains spared room
  present_iff := by
    intro spared key
    constructor
    · intro present
      have held := contains_iff.mp present
      refine ⟨wasSet_of_mem_keys held, ?_⟩
      rintro before operation after rfl lastTouch
      exact lastTouch.card_lt (fun later member => spared later
        (List.mem_append_right _ (List.mem_cons_of_mem _ member))) held
    · rintro ⟨wasSet, room⟩
      obtain ⟨before, operation, after, rfl, lastTouch⟩ := exists_lastTouch wasSet
      exact lastTouch.contains (fun later member => spared later
        (List.mem_append_right _ (List.mem_cons_of_mem _ member)) key)
        (room before operation after rfl lastTouch)
  idle := by
    rintro before operation after rfl idle
    rw [ofHistory_append, ofHistory_append, List.foldl_cons,
      (lasting_ofHistory size before).apply_of_idle idle]

/-- A key that was looked up stays, and one that was set after it goes. -/
example : (ofHistory 2 [.set 0 "a" 1, .set 0 "b" 2, .get 0 "a", .set 0 "c" 3]).keys =
    ["c", "a"] := by decide

end Runs

end ModuleGraph.Cache
