import MexBridge.Emission.Violation
import MexBridge.Proofs.FunctionTable.Numbering

/-!
# Entry symbols in a function table

An emitter makes the symbol of an overload for the number that the table gives next, and registers
it then.  `FunctionTable.registerNext` is this one step: it fails where the number cannot be
written, since no symbol can be made there, and otherwise asks the table to take the symbol.
`FunctionTable.registerAll` takes such steps one after the other.

A table that was filled in this way holds symbols of numbers below its next one only
(`FunctionTable.Numbered`), and equal symbols have equal numbers, so it never holds the symbol that
it is asked to take.  The main statement is `FunctionTable.entrySymbols_apart`: whatever the classes
and methods are called, the registrations are answered by consecutive numbers, as far as these can
be written, and none of them is refused.
-/

set_option autoImplicit false

namespace MexBridge.FunctionTable

variable {table : FunctionTable}

/-- Registers a method under its entry symbol for the next number, if that number can be written;
gives the answer and the table afterwards. -/
def registerNext (table : FunctionTable) (matlabClass method : String) :
    Except EmissionFault Nat × FunctionTable :=
  if isWritable table.nextId then
    let (answer, left) :=
      plainRegistration table (Name.entrySymbol matlabClass method table.nextId)
    (answer.mapError .table, left)
  else (.error (.number .tooManyDigits), table)

/-- The answers to the registrations of methods, each given with its class, one after the other, and
the table after the last of them. -/
def registerAll (table : FunctionTable) :
    List (String × String) → List (Except EmissionFault Nat) × FunctionTable
  | [] => ([], table)
  | (matlabClass, method) :: rest =>
    let first := table.registerNext matlabClass method
    let others := first.2.registerAll rest
    (first.1 :: others.1, others.2)

theorem registerAll_cons (table : FunctionTable) (matlabClass method : String)
    (rest : List (String × String)) :
    table.registerAll ((matlabClass, method) :: rest) =
      ((table.registerNext matlabClass method).1 ::
          ((table.registerNext matlabClass method).2.registerAll rest).1,
        ((table.registerNext matlabClass method).2.registerAll rest).2) := rfl

/-! ## One registration -/

/-- **A symbol that can be made is entered.** -/
theorem Numbered.registerNext (numbered : table.Numbered) (matlabClass method : String)
    (room : table.nextId < writingBound) :
    table.registerNext matlabClass method =
      (.ok table.nextId, table.enter (Name.entrySymbol matlabClass method table.nextId)) := by
  have writable : isWritable (table.nextId : Int) = true := isWritable_iff.2 room
  have entered : plainRegistration table (Name.entrySymbol matlabClass method table.nextId) =
      (.ok table.nextId, table.enter (Name.entrySymbol matlabClass method table.nextId)) := by
    rw [plainRegistration, numbered.register]
  rw [FunctionTable.registerNext, if_pos writable, entered]
  rfl

/-- Where the next number cannot be written, nothing is asked of the table. -/
theorem registerNext_of_full (matlabClass method : String) (full : writingBound ≤ table.nextId) :
    table.registerNext matlabClass method = (.error (.number .tooManyDigits), table) := by
  have unwritable : ¬ isWritable (table.nextId : Int) = true :=
    fun writable => Nat.not_lt.2 full (isWritable_iff.1 writable)
  rw [registerNext, if_neg unwritable]

/-! ## Many registrations -/

theorem registerAll_append (table : FunctionTable) (earlier later : List (String × String)) :
    table.registerAll (earlier ++ later) =
      ((table.registerAll earlier).1 ++ ((table.registerAll earlier).2.registerAll later).1,
        ((table.registerAll earlier).2.registerAll later).2) := by
  induction earlier generalizing table with
  | nil => rfl
  | cons name rest ih => rw [List.cons_append, registerAll_cons, registerAll_cons, ih]; rfl

/-- Once a number cannot be written, all further registrations fail in the same way. -/
theorem registerAll_of_full (full : writingBound ≤ table.nextId)
    (names : List (String × String)) :
    table.registerAll names =
      (List.replicate names.length (.error (.number .tooManyDigits)), table) := by
  induction names with
  | nil => rfl
  | cons name rest ih => rw [registerAll_cons, registerNext_of_full _ _ full, ih]; rfl

/-- The entries that methods get from a number on. -/
def entriesFrom (first : Nat) (names : List (String × String)) : List (Nat × String) :=
  (names.zipIdx first).map fun ((matlabClass, method), id) =>
    (id, Name.entrySymbol matlabClass method id)

/-- As long as numbers can be written, the methods get the next ones in order. -/
theorem Numbered.registerAll (numbered : table.Numbered) (names : List (String × String))
    (room : names.length ≤ writingBound - table.nextId) :
    (table.registerAll names).1 = (List.range' table.nextId names.length).map .ok ∧
      (table.registerAll names).2.Numbered ∧
      (table.registerAll names).2.nextId = table.nextId + names.length ∧
      (table.registerAll names).2.entries =
        table.entries ++ entriesFrom table.nextId names := by
  induction names generalizing table with
  | nil => exact ⟨rfl, numbered, rfl, (List.append_nil _).symm⟩
  | cons name rest ih =>
    obtain ⟨matlabClass, method⟩ := name
    rw [List.length_cons] at room
    have next := table.nextId_enter (Name.entrySymbol matlabClass method table.nextId)
    obtain ⟨answers, still, last, entered⟩ :=
      ih (numbered.enter matlabClass method) (by rw [next]; omega)
    rw [next] at answers last entered
    rw [registerAll_cons, numbered.registerNext matlabClass method (by omega)]
    refine ⟨?_, still, ?_, ?_⟩
    · rw [answers, List.length_cons, List.range'_succ, List.map_cons]
    · rw [last, List.length_cons]
      omega
    · rw [entered, entries_enter, List.append_assoc]
      rfl

/-- **Symbols never collide.**  Entry symbols of different numbers are different, whatever the
classes and methods are called.  Hence a new table refuses no symbol that is made for its next
number: the registrations are answered by the numbers from the start on, as long as these can be
written, and enter one symbol each; after that no symbol is made any more. -/
theorem entrySymbols_apart :
    (∀ (matlabClass method otherClass otherMethod : String) (id otherId : Nat),
      Name.entrySymbol matlabClass method id = Name.entrySymbol otherClass otherMethod otherId ↔
        id = otherId ∧ matlabClass ++ "_" ++ method = otherClass ++ "_" ++ otherMethod) ∧
    ∀ (start : Nat) (names : List (String × String)),
      (registerAll { start := start } names).1 =
        (List.range' start (min names.length (writingBound - start))).map .ok ++
          List.replicate (names.length - (writingBound - start))
            (.error (.number .tooManyDigits)) ∧
      (registerAll { start := start } names).2.entries =
        entriesFrom start (names.take (writingBound - start)) ∧
      ∀ (symbol : String) (id : Nat), .error (.table (.alreadyRegistered symbol id)) ∉
        (registerAll { start := start } names).1 := by
  refine ⟨fun _ _ _ _ _ _ => Name.entrySymbol_eq_iff, fun start names => ?_⟩
  -- from here on the room for numbers is a number like any other: the bound is not to be evaluated
  obtain ⟨room, roomIs⟩ : ∃ room, room = writingBound - start := ⟨_, rfl⟩
  rw [← roomIs]
  have numbered : FunctionTable.Numbered { start := start } :=
    ⟨rfl, fun _ impossible => nomatch impossible⟩
  have opened : FunctionTable.nextId { start := start } = start := rfl
  have empty : FunctionTable.entries { start := start } = [] := rfl
  have count : (names.take room).length = min names.length room := by
    rw [List.length_take, Nat.min_comm]
  obtain ⟨answers, _, last, entered⟩ :=
    numbered.registerAll (names.take room) (by rw [count, opened]; omega)
  rw [opened] at answers last entered
  have refused : (registerAll { start := start } (names.take room)).2.registerAll
      (names.drop room) =
      (List.replicate (names.length - room) (.error (.number .tooManyDigits)),
        (registerAll { start := start } (names.take room)).2) := by
    by_cases early : names.length ≤ room
    · rw [List.drop_of_length_le early, Nat.sub_eq_zero_of_le early]
      rfl
    · rw [registerAll_of_full (by rw [last, count]; omega), List.length_drop]
  have whole := registerAll_append { start := start } (names.take room) (names.drop room)
  rw [List.take_append_drop, answers, refused, count] at whole
  rw [whole]
  refine ⟨rfl, by rw [entered, empty, List.nil_append], ?_⟩
  intro symbol id member
  rcases List.mem_append.1 member with early | late
  · obtain ⟨_, _, same⟩ := List.mem_map.1 early
    cases same
  · cases (List.mem_replicate.1 late).2

end MexBridge.FunctionTable
