/-!
# Maps that keep the order of first insertion

Registries, snapshots and output lists are read in the order in which their keys first appeared.
`OrderedMap` keeps its entries in that order: a new key goes to the end, and a key that is already
there keeps its place when its value is replaced.

`get?_insert`, `get?_erase` and `keys_insert` describe the operations through look-ups and keys;
no key occurs twice, which the type records.
-/

namespace MexBridge

set_option autoImplicit false

/-- Entries in the order in which their keys were first inserted. -/
structure OrderedMap (κ ν : Type) where
  entries : List (κ × ν) := []
  keys_nodup : (entries.map Prod.fst).Nodup := by simp

namespace OrderedMap

variable {κ ν μ : Type}

/-- The map without entries. -/
def empty : OrderedMap κ ν := {}

/-- The keys, in the order of their first insertion. -/
def keys (map : OrderedMap κ ν) : List κ :=
  map.entries.map Prod.fst

/-- The values, in the order of their keys. -/
def values (map : OrderedMap κ ν) : List ν :=
  map.entries.map Prod.snd

/-- The map with every value changed by a function; the keys stay. -/
def mapValues (change : ν → μ) (map : OrderedMap κ ν) : OrderedMap κ μ where
  entries := map.entries.map fun entry => (entry.1, change entry.2)
  keys_nodup := by simpa [Function.comp_def] using map.keys_nodup

@[simp] theorem keys_mapValues (change : ν → μ) (map : OrderedMap κ ν) :
    (map.mapValues change).keys = map.keys := by
  simp [keys, mapValues, Function.comp_def]

@[ext] theorem ext {first second : OrderedMap κ ν} (same : first.entries = second.entries) :
    first = second := by
  cases first
  cases second
  cases same
  rfl

variable [DecidableEq κ]

/-- The value of a key. -/
def get? (map : OrderedMap κ ν) (key : κ) : Option ν :=
  map.entries.lookup key

/-- Whether a key has a value. -/
def contains (map : OrderedMap κ ν) (key : κ) : Bool :=
  (map.get? key).isSome

/-- Replaces the value of a key where it stands, or appends a new entry. -/
def insertEntry (key : κ) (value : ν) : List (κ × ν) → List (κ × ν)
  | [] => [(key, value)]
  | entry :: rest =>
    if entry.1 = key then (key, value) :: rest else entry :: insertEntry key value rest

theorem map_fst_insertEntry (key : κ) (value : ν) (entries : List (κ × ν)) :
    (insertEntry key value entries).map Prod.fst =
      if key ∈ entries.map Prod.fst then entries.map Prod.fst
      else entries.map Prod.fst ++ [key] := by
  induction entries with
  | nil => simp [insertEntry]
  | cons entry rest ih =>
    unfold insertEntry
    by_cases same : entry.1 = key
    · simp [same]
    · have other : ¬ key = entry.1 := fun equal => same equal.symm
      simp only [same, if_false, List.map_cons, ih, List.mem_cons, other, false_or]
      split <;> rfl

theorem lookup_cons_entry (key : κ) (entry : κ × ν) (rest : List (κ × ν)) :
    (entry :: rest).lookup key = if key = entry.1 then some entry.2 else rest.lookup key := by
  obtain ⟨first, second⟩ := entry
  by_cases same : key = first
  · simp [same]
  · simp [List.lookup_cons, same, beq_false_of_ne same]

theorem lookup_insertEntry (key other : κ) (value : ν) (entries : List (κ × ν)) :
    (insertEntry key value entries).lookup other =
      if other = key then some value else entries.lookup other := by
  induction entries with
  | nil => simp [insertEntry, lookup_cons_entry]
  | cons entry rest ih =>
    unfold insertEntry
    by_cases found : entry.1 = key
    · subst found
      simp only [if_true, lookup_cons_entry]
      split <;> rfl
    · simp only [found, if_false, lookup_cons_entry, ih]
      by_cases here : other = entry.1
      · simp [here, found]
      · simp [here]

theorem insertEntry_append_of_not_mem {key : κ} {before : List (κ × ν)}
    (fresh : key ∉ before.map Prod.fst) (value : ν) (after : List (κ × ν)) :
    insertEntry key value (before ++ after) = before ++ insertEntry key value after := by
  induction before with
  | nil => rfl
  | cons entry rest ih =>
    rw [List.map_cons, List.mem_cons, not_or] at fresh
    rw [List.cons_append, insertEntry, if_neg (fun same => fresh.1 same.symm), ih fresh.2,
      List.cons_append]

/-- Gives a key a value: in its place if the key is there, else at the end. -/
def insert (map : OrderedMap κ ν) (key : κ) (value : ν) : OrderedMap κ ν where
  entries := insertEntry key value map.entries
  keys_nodup := by
    rw [map_fst_insertEntry]
    split
    · exact map.keys_nodup
    · next fresh =>
      rw [List.nodup_append]
      refine ⟨map.keys_nodup, by simp, ?_⟩
      intro earlier member last isLast
      rw [List.mem_singleton.1 isLast]
      rintro rfl
      exact fresh member

/-- Gives a key a value unless it has one. -/
def setDefault (map : OrderedMap κ ν) (key : κ) (value : ν) : OrderedMap κ ν :=
  if map.contains key then map else map.insert key value

/-- Removes a key. -/
def erase (map : OrderedMap κ ν) (key : κ) : OrderedMap κ ν where
  entries := map.entries.filter fun entry => entry.1 ≠ key
  keys_nodup := map.keys_nodup.sublist (List.filter_sublist.map Prod.fst)

/-- The entries inserted from left to right: of a repeated key the last value counts. -/
def ofList (entries : List (κ × ν)) : OrderedMap κ ν :=
  entries.foldl (fun map entry => map.insert entry.1 entry.2) empty

@[simp] theorem get?_empty (key : κ) : (empty : OrderedMap κ ν).get? key = none := rfl

theorem get?_insert (map : OrderedMap κ ν) (key other : κ) (value : ν) :
    (map.insert key value).get? other = if other = key then some value else map.get? other :=
  lookup_insertEntry key other value map.entries

theorem keys_insert (map : OrderedMap κ ν) (key : κ) (value : ν) :
    (map.insert key value).keys = if key ∈ map.keys then map.keys else map.keys ++ [key] :=
  map_fst_insertEntry key value map.entries

theorem get?_eq_none_iff {map : OrderedMap κ ν} {key : κ} :
    map.get? key = none ↔ key ∉ map.keys := by
  rw [get?, List.lookup_eq_none_iff, keys, List.mem_map]
  constructor
  · rintro different ⟨entry, member, rfl⟩
    exact absurd (different entry member) (by simp)
  · intro absent entry member
    simpa using fun same : key = entry.1 => absent ⟨entry, member, same.symm⟩

theorem exists_get?_of_mem {map : OrderedMap κ ν} {key : κ} (member : key ∈ map.keys) :
    ∃ value, map.get? key = some value :=
  Option.ne_none_iff_exists'.1 fun absent => get?_eq_none_iff.1 absent member

/-- An entry is found under its key. -/
theorem lookup_eq_some_of_mem {entries : List (κ × ν)} {key : κ} {value : ν}
    (distinct : (entries.map Prod.fst).Nodup) (member : (key, value) ∈ entries) :
    entries.lookup key = some value := by
  induction entries with
  | nil => cases member
  | cons first rest ih =>
    obtain ⟨fresh, others⟩ := List.nodup_cons.1 distinct
    rw [lookup_cons_entry]
    rcases List.mem_cons.1 member with rfl | later
    · rw [if_pos rfl]
    · have different : ¬ key = first.1 := fun same =>
        fresh (List.mem_map.2 ⟨(key, value), later, same⟩)
      rw [if_neg different]
      exact ih others later

/-- The values are those that are found under the keys. -/
theorem values_eq_filterMap_keys (map : OrderedMap κ ν) :
    map.values = map.keys.filterMap map.get? := by
  have among : ∀ entries : List (κ × ν), (∀ entry ∈ entries, map.get? entry.1 = some entry.2) →
      entries.map Prod.snd = (entries.map Prod.fst).filterMap map.get? := by
    intro entries found
    induction entries with
    | nil => rfl
    | cons entry rest ih =>
      obtain ⟨first, later⟩ := List.forall_mem_cons.1 found
      rw [List.map_cons, List.map_cons, List.filterMap_cons_some first, ih later]
  exact among map.entries fun _ member => lookup_eq_some_of_mem map.keys_nodup member

/-- The keys and what is found under them are all that there is to a map. -/
theorem entries_eq_map_keys {map : OrderedMap κ ν} {values : κ → ν}
    (found : ∀ key ∈ map.keys, map.get? key = some (values key)) :
    map.entries = map.keys.map fun key => (key, values key) := by
  rw [keys, List.map_map]
  refine (List.map_id map.entries).symm.trans (List.map_congr_left fun entry member => ?_)
  have here := found entry.1 (List.mem_map_of_mem member)
  rw [get?, lookup_eq_some_of_mem map.keys_nodup member, Option.some.injEq] at here
  exact Prod.ext rfl here

theorem get?_mapValues (change : ν → μ) (map : OrderedMap κ ν) (key : κ) :
    (map.mapValues change).get? key = (map.get? key).map change := by
  obtain ⟨entries, _⟩ := map
  simp only [get?, mapValues]
  induction entries with
  | nil => rfl
  | cons entry rest ih =>
    rename_i distinct
    rw [List.map_cons, lookup_cons_entry, lookup_cons_entry, ih (List.nodup_cons.1 distinct).2]
    split <;> rfl

/-- Changing all values and giving a key a value, in either order. -/
theorem mapValues_insert (change : ν → μ) (map : OrderedMap κ ν) (key : κ) (value : ν) :
    (map.insert key value).mapValues change = (map.mapValues change).insert key (change value) := by
  apply ext
  show (insertEntry key value map.entries).map (fun entry => (entry.1, change entry.2)) =
    insertEntry key (change value) (map.entries.map fun entry => (entry.1, change entry.2))
  induction map.entries with
  | nil => rfl
  | cons entry rest ih =>
    rw [List.map_cons, insertEntry, insertEntry]
    split
    · rfl
    · rw [List.map_cons, ih]

/-- Of two values for one key the last one counts. -/
theorem insert_insert (map : OrderedMap κ ν) (key : κ) (first second : ν) :
    (map.insert key first).insert key second = map.insert key second := by
  apply ext
  show insertEntry key second (insertEntry key first map.entries) =
    insertEntry key second map.entries
  induction map.entries with
  | nil => simp [insertEntry]
  | cons entry rest ih =>
    by_cases here : entry.1 = key
    · simp [insertEntry, here]
    · simp [insertEntry, here, ih]

/-- Giving a key the value that it has changes nothing. -/
theorem insert_of_get? {map : OrderedMap κ ν} {key : κ} {value : ν}
    (found : map.get? key = some value) : map.insert key value = map := by
  apply ext
  have same : ∀ entries : List (κ × ν), entries.lookup key = some value →
      insertEntry key value entries = entries := by
    intro entries held
    induction entries with
    | nil => cases held
    | cons entry rest ih =>
      rw [lookup_cons_entry] at held
      rw [insertEntry]
      by_cases here : entry.1 = key
      · rw [if_pos here.symm] at held
        rw [if_pos here, ← here, ← Option.some.inj held]
      · rw [if_neg fun equal => here equal.symm] at held
        rw [if_neg here, ih held]
  exact same map.entries found

theorem lookup_filter_ne (key other : κ) (entries : List (κ × ν)) :
    (entries.filter fun entry => entry.1 ≠ key).lookup other =
      if other = key then none else entries.lookup other := by
  induction entries with
  | nil => simp
  | cons entry rest ih =>
    by_cases removed : entry.1 = key
    · rw [List.filter_cons_of_neg (by simpa using removed), ih, lookup_cons_entry]
      by_cases same : other = key
      · simp [same]
      · have missed : ¬ other = entry.1 := fun equal => same (equal.trans removed)
        simp [same, missed]
    · rw [List.filter_cons_of_pos (by simpa using removed), lookup_cons_entry, ih,
        lookup_cons_entry]
      by_cases here : other = entry.1
      · simp [here, removed]
      · simp [here]

theorem get?_erase (map : OrderedMap κ ν) (key other : κ) :
    (map.erase key).get? other = if other = key then none else map.get? other :=
  lookup_filter_ne key other map.entries

end OrderedMap

end MexBridge
