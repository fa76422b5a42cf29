/-
This file keeps a bounded number of values, those used last.
-/

namespace ModuleGraph

/-- A value in a cache, with the time at which it was stored in milliseconds. -/
structure CacheEntry (α : Type) where
  key : String
  value : α
  storedAt : Nat

/-- A cache; the entry used last comes first. -/
structure Cache (α : Type) where
  capacity : Nat
  /-- How long an entry lives in milliseconds, if its life is limited. -/
  lifetime : Option Nat
  entries : List (CacheEntry α)

namespace Cache

variable {α : Type}

/-- An empty cache for `size` entries, or for one if that is none. -/
def new (size : Nat) (lifetime : Option Nat) : Cache α :=
  ⟨max 1 size, lifetime, []⟩

def size (cache : Cache α) : Nat :=
  cache.entries.length

def find? (cache : Cache α) (key : String) : Option (CacheEntry α) :=
  cache.entries.find? fun entry => entry.key == key

/-- Whether a key is stored, even if its time is over. -/
def contains (cache : Cache α) (key : String) : Bool :=
  (cache.find? key).isSome

def without (cache : Cache α) (key : String) : List (CacheEntry α) :=
  cache.entries.filter fun entry => entry.key != key

def isExpired (cache : Cache α) (now : Nat) (entry : CacheEntry α) : Bool :=
  match cache.lifetime with
  | none => false
  | some lifetime => lifetime ≤ now - entry.storedAt

/-- Looks a value up. A hit makes its entry the one used last, and an expired entry goes. -/
def get (cache : Cache α) (now : Nat) (key : String) : Option α × Cache α :=
  match cache.find? key with
  | none => (none, cache)
  | some entry =>
      if cache.isExpired now entry then (none, { cache with entries := cache.without key })
      else (some entry.value, { cache with entries := entry :: cache.without key })

/-- Stores a value as the one used last; when the cache is full, the one used first goes. -/
def set (cache : Cache α) (now : Nat) (key : String) (value : α) : Cache α :=
  { cache with entries := (⟨key, value, now⟩ :: cache.without key).take cache.capacity }

def remove (cache : Cache α) (key : String) : Option α × Cache α :=
  ((cache.find? key).map CacheEntry.value, { cache with entries := cache.without key })

/-- Removes what has expired, and counts it. -/
def prune (cache : Cache α) (now : Nat) : Nat × Cache α :=
  let live := cache.entries.filter fun entry => !cache.isExpired now entry
  (cache.entries.length - live.length, { cache with entries := live })

def clear (cache : Cache α) : Cache α :=
  { cache with entries := [] }

end Cache

end ModuleGraph
