import MexBridge.Proofs.Traversal.Passage

/-!
# The numbering of a function table

A function table numbers its symbols from its start on.  As long as no symbol is in it twice, a
number and a symbol are found under each other exactly if they are one of its entries
(`FunctionTable.symbolOf?_eq_some_iff`, `FunctionTable.idOf?_eq_some_iff`).  What this means for all
look-ups is `FunctionTable.IsNumbering`.
-/

set_option autoImplicit false

namespace MexBridge

namespace FunctionTable

variable {table : FunctionTable}

/-! ## Entries and look-ups -/

theorem mem_entries_iff {id : Nat} {symbol : String} :
    (id, symbol) ∈ table.entries ↔
      table.start ≤ id ∧ table.symbols[id - table.start]? = some symbol := by
  rw [← List.mem_zipIdx_iff_le_and_getElem?_sub (x := (symbol, id)), entries, List.mem_map]
  constructor
  · rintro ⟨⟨_, _⟩, member, same⟩
    cases same
    exact member
  · intro member
    exact ⟨(symbol, id), member, rfl⟩

theorem map_snd_entries (table : FunctionTable) : table.entries.map Prod.snd = table.symbols := by
  rw [entries, List.map_map]
  exact List.zipIdx_map_fst table.start table.symbols

/-- The numbers of the entries are consecutive. -/
theorem map_fst_entries (table : FunctionTable) :
    table.entries.map Prod.fst = List.range' table.start table.size := by
  rw [entries, List.map_map]
  exact List.zipIdx_map_snd table.start table.symbols

@[simp] theorem length_entries (table : FunctionTable) : table.entries.length = table.size := by
  rw [entries, List.length_map, List.length_zipIdx, size]

/-- A number is that of an entry exactly if its symbol is found. -/
theorem symbolOf?_eq_some_iff {id : Int} {symbol : String} :
    table.symbolOf? id = some symbol ↔ ∃ number : Nat, id = number ∧
      (number, symbol) ∈ table.entries := by
  simp only [symbolOf?, Option.ite_none_left_eq_some, mem_entries_iff]
  constructor
  · rintro ⟨inside, found⟩
    refine ⟨id.toNat, by omega, by omega, ?_⟩
    rwa [show id.toNat - table.start = (id - table.start).toNat by omega]
  · rintro ⟨number, rfl, inside, found⟩
    refine ⟨by omega, ?_⟩
    rwa [show ((number : Int) - table.start).toNat = number - table.start by omega]

/-- In a table without repetitions, a symbol is that of an entry exactly if its number is found. -/
theorem idOf?_eq_some_iff (distinct : table.symbols.Nodup) {symbol : String} {id : Nat} :
    table.idOf? symbol = some id ↔ (id, symbol) ∈ table.entries := by
  rw [idOf?, Option.map_eq_some_iff, mem_entries_iff]
  constructor
  · rintro ⟨position, found, rfl⟩
    obtain ⟨below, same, _⟩ := List.idxOf?_eq_some_iff.1 found
    refine ⟨Nat.le_add_right _ _, ?_⟩
    rw [Nat.add_sub_cancel_left]
    exact List.getElem?_eq_some_iff.2 ⟨below, same⟩
  · rintro ⟨inside, found⟩
    obtain ⟨below, rfl⟩ := List.getElem?_eq_some_iff.1 found
    refine ⟨id - table.start, ?_, Nat.add_sub_of_le inside⟩
    refine List.idxOf?_eq_some_iff.2 ⟨below, rfl, fun earlier before same => ?_⟩
    exact List.pairwise_iff_getElem.1 distinct earlier _ _ below before same

/-- What look-ups say about a table in which numbers and symbols determine each other. -/
structure IsNumbering (table : FunctionTable) : Prop where
  /-- The entries are numbered from the start on. -/
  numbered : table.entries.map Prod.fst = List.range' table.start table.entries.length
  /-- No symbol has two entries. -/
  distinct : (table.entries.map Prod.snd).Nodup
  /-- The next number is behind the last one. -/
  nextId_eq : table.nextId = table.start + table.entries.length
  /-- The symbol of a number is the one of its entry. -/
  symbolFor_iff : ∀ (id : Int) (symbol : String), table.symbolFor id = .ok symbol ↔
    ∃ number : Nat, id = number ∧ (number, symbol) ∈ table.entries
  /-- The number of a symbol is the one of its entry. -/
  idFor_iff : ∀ (symbol : String) (id : Nat), table.idFor symbol = .ok id ↔
    (id, symbol) ∈ table.entries
  /-- Both look-ups are inverse to each other. -/
  inverse : ∀ (id : Nat) (symbol : String), table.symbolFor id = .ok symbol ↔
    table.idFor symbol = .ok id
  /-- A number without an entry is unknown. -/
  symbolFor_unknown : ∀ id : Int,
    (∀ number : Nat, id = number → number ∉ table.entries.map Prod.fst) →
      table.symbolFor id = .error (.unknownId id)
  /-- A symbol without an entry is unknown. -/
  idFor_unknown : ∀ symbol : String, symbol ∉ table.entries.map Prod.snd →
    table.idFor symbol = .error (.unknownSymbol symbol)

theorem symbolFor_eq_ok_iff {id : Int} {symbol : String} :
    table.symbolFor id = .ok symbol ↔ table.symbolOf? id = some symbol := by
  unfold symbolFor
  cases table.symbolOf? id <;> simp

theorem idFor_eq_ok_iff {symbol : String} {id : Nat} :
    table.idFor symbol = .ok id ↔ table.idOf? symbol = some id := by
  unfold idFor
  cases table.idOf? symbol <;> simp

/-- The symbol of a number stays when entries are added behind. -/
theorem symbolFor_of_prefix {other : FunctionTable} (grows : table.entries <+: other.entries)
    {id : Int} {symbol : String} (found : table.symbolFor id = .ok symbol) :
    other.symbolFor id = .ok symbol := by
  rw [symbolFor_eq_ok_iff, symbolOf?_eq_some_iff] at found ⊢
  obtain ⟨number, same, member⟩ := found
  exact ⟨number, same, grows.subset member⟩

/-- **A table without repeated symbols is a numbering.** -/
theorem IsNumbering.of_nodup (distinct : table.symbols.Nodup) : table.IsNumbering where
  numbered := by rw [map_fst_entries, length_entries]
  distinct := by rwa [map_snd_entries]
  nextId_eq := by rw [length_entries, nextId]
  symbolFor_iff id symbol := by rw [symbolFor_eq_ok_iff, symbolOf?_eq_some_iff]
  idFor_iff symbol id := by rw [idFor_eq_ok_iff, idOf?_eq_some_iff distinct]
  inverse id symbol := by
    rw [symbolFor_eq_ok_iff, symbolOf?_eq_some_iff, idFor_eq_ok_iff, idOf?_eq_some_iff distinct]
    constructor
    · rintro ⟨number, same, member⟩
      cases same
      exact member
    · intro member
      exact ⟨id, rfl, member⟩
  symbolFor_unknown id unknown := by
    rw [symbolFor]
    cases found : table.symbolOf? id with
    | none => rfl
    | some symbol =>
      obtain ⟨number, same, member⟩ := symbolOf?_eq_some_iff.1 found
      exact absurd (List.mem_map_of_mem member) (unknown number same)
  idFor_unknown symbol unknown := by
    rw [idFor]
    cases found : table.idOf? symbol with
    | none => rfl
    | some id =>
      have member := (idOf?_eq_some_iff distinct).1 found
      exact absurd (List.mem_map_of_mem member) unknown

/-! ## One more entry -/

theorem entries_enter (table : FunctionTable) (symbol : String) :
    (table.enter symbol).entries = table.entries ++ [(table.nextId, symbol)] := by
  rw [entries, enter, List.zipIdx_append, List.map_append]
  rfl

theorem nodup_enter {symbol : String} (distinct : table.symbols.Nodup)
    (fresh : symbol ∉ table.symbols) : (table.enter symbol).symbols.Nodup := by
  refine List.nodup_append.2 ⟨distinct, List.pairwise_singleton _ _, ?_⟩
  rintro earlier member _ last rfl
  exact fresh (List.mem_singleton.1 last ▸ member)

/-- A symbol that is entered gets the next number, and the others keep theirs. -/
theorem idOf?_enter {symbol : String} (distinct : table.symbols.Nodup)
    (fresh : symbol ∉ table.symbols) (other : String) :
    (table.enter symbol).idOf? other =
      if other = symbol then some table.nextId else table.idOf? other := by
  apply Option.ext
  intro id
  rw [idOf?_eq_some_iff (nodup_enter distinct fresh), entries_enter, List.mem_append,
    List.mem_singleton]
  split
  · next same =>
    subst same
    have absent : (id, other) ∉ table.entries := by
      intro member
      rw [← map_snd_entries] at fresh
      exact fresh (List.mem_map_of_mem member)
    simp [absent, eq_comm]
  · next different =>
    rw [idOf?_eq_some_iff distinct]
    simp [different]

end FunctionTable

end MexBridge
