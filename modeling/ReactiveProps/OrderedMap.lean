/-!
# Maps that remember the order of their keys

Writing a key for the first time puts it last; writing it again replaces the value and keeps the
place. No key occurs twice.
-/
namespace ReactiveProps

/-- Writes a key into a list of pairs, in its place if it has one, else at the end. -/
def writeEntry {α β : Type} [DecidableEq α] (key : α) (value : β) : List (α × β) → List (α × β)
  | [] => [(key, value)]
  | entry :: rest =>
    if entry.1 = key then (key, value) :: rest else entry :: writeEntry key value rest

theorem map_fst_writeEntry {α β : Type} [DecidableEq α] (key : α) (value : β)
    (entries : List (α × β)) :
    (writeEntry key value entries).map Prod.fst =
      if key ∈ entries.map Prod.fst then entries.map Prod.fst
      else entries.map Prod.fst ++ [key] := by
  induction entries with
  | nil => simp [writeEntry]
  | cons entry rest ih =>
    by_cases h : entry.1 = key
    · simp [writeEntry, h]
    · have h' : key ≠ entry.1 := fun e => h e.symm
      by_cases m : key ∈ rest.map Prod.fst <;> simp_all [writeEntry]

theorem nodup_writeEntry {α β : Type} [DecidableEq α] (key : α) (value : β)
    {entries : List (α × β)} (h : (entries.map Prod.fst).Nodup) :
    ((writeEntry key value entries).map Prod.fst).Nodup := by
  rw [map_fst_writeEntry]
  split
  · exact h
  · rename_i m
    rw [List.nodup_append]
    refine ⟨h, by simp, ?_⟩
    intro a ha b hb e
    simp only [List.mem_singleton] at hb
    exact m (hb ▸ e ▸ ha)

structure OrderedMap (α β : Type) where
  entries : List (α × β)
  nodup_keys : (entries.map Prod.fst).Nodup

namespace OrderedMap

variable {α β : Type}

def empty : OrderedMap α β := ⟨[], by simp⟩

instance : Inhabited (OrderedMap α β) := ⟨empty⟩

def keys (map : OrderedMap α β) : List α := map.entries.map Prod.fst

def values (map : OrderedMap α β) : List β := map.entries.map Prod.snd

def size (map : OrderedMap α β) : Nat := map.entries.length

variable [DecidableEq α]

def get? (map : OrderedMap α β) (key : α) : Option β :=
  (map.entries.find? fun entry => entry.1 = key).map Prod.snd

def contains (map : OrderedMap α β) (key : α) : Bool := (map.get? key).isSome

def insert (map : OrderedMap α β) (key : α) (value : β) : OrderedMap α β :=
  ⟨writeEntry key value map.entries, nodup_writeEntry key value map.nodup_keys⟩

/-- Writes the key only if the map does not have it. -/
def insertNew (map : OrderedMap α β) (key : α) (value : β) : OrderedMap α β :=
  if map.contains key then map else map.insert key value

/-- Writes pairs from first to last. -/
def insertAll (map : OrderedMap α β) (pairs : List (α × β)) : OrderedMap α β :=
  pairs.foldl (fun map pair => map.insert pair.1 pair.2) map

def ofPairs (pairs : List (α × β)) : OrderedMap α β := empty.insertAll pairs

theorem keys_insert (map : OrderedMap α β) (key : α) (value : β) :
    (map.insert key value).keys =
      if key ∈ map.keys then map.keys else map.keys ++ [key] :=
  map_fst_writeEntry key value map.entries

theorem find?_writeEntry (key other : α) (value : β) (entries : List (α × β)) :
    ((writeEntry key value entries).find? fun entry => entry.1 = other).map Prod.snd =
      if other = key then some value
      else (entries.find? fun entry => entry.1 = other).map Prod.snd := by
  induction entries with
  | nil => by_cases h : other = key <;> simp_all [writeEntry, eq_comm]
  | cons entry rest ih =>
    by_cases h : entry.1 = key
    · by_cases h' : other = key
      · simp [writeEntry, h, h']
      · have : ¬ key = other := fun e => h' e.symm
        simp [writeEntry, h, h', this]
    · by_cases h' : entry.1 = other
      · have : ¬ other = key := fun e => h (h'.trans e)
        simp [writeEntry, h', this]
      · simp [writeEntry, h, h', ih]

theorem get?_insert (map : OrderedMap α β) (key other : α) (value : β) :
    (map.insert key value).get? other = if other = key then some value else map.get? other :=
  find?_writeEntry key other value map.entries

end OrderedMap

end ReactiveProps
