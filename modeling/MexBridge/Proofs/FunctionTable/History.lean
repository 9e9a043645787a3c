import MexBridge.FunctionTable.Request
import MexBridge.Proofs.Emission.Placing
import MexBridge.Proofs.FunctionTable.Numbering
import MexBridge.Proofs.Registry.Log

/-!
# What a function table holds after requests

`FunctionTable.serve_cases` says all that one request can do: nothing, one more entry at the end of
an open table that does not hold the symbol, or closing the table.  That the symbols are distinct is
therefore preserved by every request, and so by all of them, and entries are never changed or
removed.

The main statement is `FunctionTable.history`, about a new table after any requests, those that were
refused included.  Its symbols are those that were registered in front of the first request to
freeze, each at the place of its first registration (`FunctionTable.symbols_serveAll`).  A table
with an index beside its symbols answers every request in the same way
(`IndexedTable.Indexes.serveAll`).
-/

set_option autoImplicit false

namespace MexBridge

/-! ## Serving requests one after the other -/

namespace TableRequest

variable {Table : Type}
  {serve : Table → TableRequest → Except TableRefusal TableAnswer × Table} {table : Table}

theorem serveAll_cons (request : TableRequest) (rest : List TableRequest) :
    serveAll serve table (request :: rest) =
      ((request, (serve table request).1) :: (serveAll serve (serve table request).2 rest).1,
        (serveAll serve (serve table request).2 rest).2) := rfl

theorem serveAll_append (requests later : List TableRequest) :
    (serveAll serve table (requests ++ later)).2 =
      (serveAll serve (serveAll serve table requests).2 later).2 := by
  induction requests generalizing table with
  | nil => rfl
  | cons request rest ih =>
    rw [List.cons_append, serveAll_cons, serveAll_cons]
    exact ih

/-- What every request preserves holds after all of them. -/
theorem serveAll_preserves {Holds : Table → Prop}
    (step : ∀ table request, Holds table → Holds (serve table request).2)
    (requests : List TableRequest) (holds : Holds table) :
    Holds (serveAll serve table requests).2 := by
  induction requests generalizing table with
  | nil => exact holds
  | cons request rest ih =>
    rw [serveAll_cons]
    exact ih (step table request holds)

end TableRequest

namespace FunctionTable

variable {table : FunctionTable}

/-! ## One request -/

theorem serve_register_of_fresh {symbol : String} (unfrozen : table.frozen = false)
    (fresh : symbol ∉ table.symbols) :
    table.serve (.register symbol) = (.ok (.id table.nextId), table.enter symbol) := by
  simp only [serve, plainRegistration_of_fresh unfrozen fresh]
  rfl

/-- A table that is frozen or holds the symbol refuses to register it. -/
theorem serve_register_of_refused {symbol : String}
    (refused : table.frozen = true ∨ symbol ∈ table.symbols) :
    ∃ refusal, table.serve (.register symbol) = (.error refusal, table) := by
  cases frozen : table.frozen with
  | true =>
    refine ⟨.frozen, ?_⟩
    simp only [serve, plainRegistration_of_frozen frozen]
    rfl
  | false =>
    have held : symbol ∈ table.symbols := by simpa [frozen] using refused
    obtain ⟨id, taken⟩ := exists_idOf?_iff.2 held
    refine ⟨.alreadyRegistered symbol id, ?_⟩
    simp only [serve, plainRegistration_of_taken frozen taken]
    rfl

/-- **What a request can do.**  A symbol that an open table does not hold is entered, a request to
freeze closes the table, and every other request leaves the table as it is; among those is each
that is refused. -/
theorem serve_cases (table : FunctionTable) (request : TableRequest) :
    (∃ symbol, request = .register symbol ∧ table.frozen = false ∧ symbol ∉ table.symbols ∧
      table.serve request = (.ok (.id table.nextId), table.enter symbol)) ∨
    (request = .freeze ∧ table.serve request = (.ok .closed, table.freeze)) ∨
    (request ≠ .freeze ∧ (table.serve request).2 = table ∧
      ∀ symbol, request = .register symbol → (table.frozen = true ∨ symbol ∈ table.symbols) ∧
        ∃ refusal, (table.serve request).1 = .error refusal) := by
  cases request with
  | register symbol =>
    by_cases refused : table.frozen = true ∨ symbol ∈ table.symbols
    · obtain ⟨refusal, served⟩ := serve_register_of_refused refused
      refine .inr (.inr ⟨nofun, by rw [served], ?_⟩)
      rintro _ ⟨⟩
      exact ⟨refused, refusal, by rw [served]⟩
    · rw [not_or, Bool.not_eq_true] at refused
      obtain ⟨unfrozen, fresh⟩ := refused
      exact .inl ⟨symbol, rfl, unfrozen, fresh, serve_register_of_fresh unfrozen fresh⟩
  | symbolFor id => exact .inr (.inr ⟨nofun, rfl, nofun⟩)
  | idFor symbol => exact .inr (.inr ⟨nofun, rfl, nofun⟩)
  | freeze => exact .inr (.inl ⟨rfl, rfl⟩)

/-- A request that is refused leaves the table as it is. -/
theorem serve_of_error {request : TableRequest} {refusal : TableRefusal}
    (refused : (table.serve request).1 = .error refusal) : (table.serve request).2 = table := by
  rcases table.serve_cases request with ⟨_, _, _, _, served⟩ | ⟨_, served⟩ | ⟨_, kept, _⟩
  · rw [served] at refused
    cases refused
  · rw [served] at refused
    cases refused
  · exact kept

/-- Registering a symbol fails exactly if the table is frozen or holds the symbol. -/
theorem register_refused_iff {symbol : String} :
    (∃ refusal, (table.serve (.register symbol)).1 = .error refusal) ↔
      table.frozen = true ∨ symbol ∈ table.symbols := by
  constructor
  · rintro ⟨refusal, refused⟩
    rcases table.serve_cases (.register symbol) with ⟨_, _, _, _, served⟩ | ⟨other, _⟩ |
      ⟨_, _, only⟩
    · rw [served] at refused
      cases refused
    · cases other
    · exact (only symbol rfl).1
  · intro refused
    obtain ⟨refusal, served⟩ := serve_register_of_refused refused
    exact ⟨refusal, by rw [served]⟩

/-- A symbol that is not refused gets the next number. -/
theorem answer_of_register {symbol : String} {answer : TableAnswer}
    (answered : (table.serve (.register symbol)).1 = .ok answer) :
    answer = .id table.nextId := by
  rcases table.serve_cases (.register symbol) with ⟨_, _, _, _, served⟩ | ⟨other, _⟩ |
    ⟨_, _, refused⟩
  · rw [served] at answered
    cases answered
    rfl
  · cases other
  · obtain ⟨_, refusal, served⟩ := refused symbol rfl
    rw [served] at answered
    cases answered

theorem start_serve (table : FunctionTable) (request : TableRequest) :
    (table.serve request).2.start = table.start := by
  rcases table.serve_cases request with ⟨_, _, _, _, served⟩ | ⟨_, served⟩ | ⟨_, kept, _⟩
  · rw [served]
    rfl
  · rw [served]
    rfl
  · rw [kept]

/-- No request enters a symbol that is there. -/
theorem nodup_serve (request : TableRequest) (distinct : table.symbols.Nodup) :
    (table.serve request).2.symbols.Nodup := by
  rcases table.serve_cases request with ⟨symbol, _, _, fresh, served⟩ | ⟨_, served⟩ | ⟨_, kept, _⟩
  · rw [served]
    exact nodup_enter distinct fresh
  · rw [served]
    exact distinct
  · rwa [kept]

/-- A request adds at most one entry, at the end. -/
theorem entries_serve (table : FunctionTable) (request : TableRequest) :
    (table.serve request).2.entries = table.entries ∨
      ∃ symbol, request = .register symbol ∧
        (table.serve request).2.entries = table.entries ++ [(table.nextId, symbol)] := by
  rcases table.serve_cases request with ⟨symbol, asked, _, _, served⟩ | ⟨_, served⟩ | ⟨_, kept, _⟩
  · rw [served]
    exact .inr ⟨symbol, asked, table.entries_enter symbol⟩
  · rw [served]
    exact .inl rfl
  · rw [kept]
    exact .inl rfl

/-- A frozen table stays as it is. -/
theorem serve_of_frozen (frozen : table.frozen = true) (request : TableRequest) :
    (table.serve request).2 = table := by
  rcases table.serve_cases request with ⟨_, _, unfrozen, _, _⟩ | ⟨_, served⟩ | ⟨_, kept, _⟩
  · rw [frozen] at unfrozen
    cases unfrozen
  · rw [served, freeze, ← frozen]
  · exact kept

/-! ## Many requests -/

theorem serveAll_of_frozen (frozen : table.frozen = true) (requests : List TableRequest) :
    (TableRequest.serveAll serve table requests).2 = table := by
  induction requests with
  | nil => rfl
  | cons request rest ih =>
    rw [TableRequest.serveAll_cons, serve_of_frozen frozen]
    exact ih

/-- Entries are never changed or removed. -/
theorem entries_prefix_serveAll (table : FunctionTable) (requests : List TableRequest) :
    table.entries <+: (TableRequest.serveAll serve table requests).2.entries := by
  have step : ∀ (later : FunctionTable) (request : TableRequest),
      table.entries <+: later.entries → table.entries <+: (later.serve request).2.entries := by
    intro later request held
    rcases later.entries_serve request with same | ⟨symbol, _, extended⟩
    · rwa [same]
    · rw [extended]
      exact held.trans (List.prefix_append _ _)
  exact TableRequest.serveAll_preserves step requests List.prefix_rfl

/-- The symbols of the requests to register in front of the first one to freeze. -/
def registrations : List TableRequest → List String
  | [] => []
  | .freeze :: _ => []
  | .register symbol :: rest => symbol :: registrations rest
  | .symbolFor _ :: rest => registrations rest
  | .idFor _ :: rest => registrations rest

theorem eraseDups_append_cons_of_mem {earlier later : List String} {symbol : String}
    (known : symbol ∈ earlier) :
    (earlier ++ symbol :: later).eraseDups = (earlier ++ later).eraseDups := by
  have dropped : (symbol :: later).removeAll earlier = later.removeAll earlier :=
    List.filter_cons_of_neg (by simpa using known)
  rw [List.eraseDups_append, List.eraseDups_append, dropped]

/-- An open table takes the symbols that are registered in front of the first request to freeze,
each of them once. -/
theorem symbols_serveAll (unfrozen : table.frozen = false) (distinct : table.symbols.Nodup)
    (requests : List TableRequest) :
    (TableRequest.serveAll serve table requests).2.symbols =
      (table.symbols ++ registrations requests).eraseDups := by
  induction requests generalizing table with
  | nil =>
    rw [registrations, List.append_nil, eraseDups_of_nodup distinct]
    rfl
  | cons request rest ih =>
    rw [TableRequest.serveAll_cons]
    cases request with
    | register symbol =>
      rw [registrations]
      by_cases known : symbol ∈ table.symbols
      · obtain ⟨refusal, served⟩ := serve_register_of_refused (.inr known)
        rw [served, eraseDups_append_cons_of_mem known]
        exact ih unfrozen distinct
      · have entered := serve_register_of_fresh unfrozen known
        have still := nodup_serve (.register symbol) distinct
        rw [entered] at still ⊢
        refine (@ih (table.enter symbol) unfrozen still).trans ?_
        rw [enter, List.append_assoc]
        rfl
    | symbolFor id => exact ih unfrozen distinct
    | idFor symbol => exact ih unfrozen distinct
    | freeze =>
      have closed : (table.serve .freeze).2 = table.freeze := rfl
      rw [closed, serveAll_of_frozen rfl, registrations, List.append_nil,
        eraseDups_of_nodup distinct]
      rfl

theorem frozen_serveAll_iff (requests : List TableRequest) :
    (TableRequest.serveAll serve table requests).2.frozen = true ↔
      table.frozen = true ∨ .freeze ∈ requests := by
  induction requests generalizing table with
  | nil => simp [TableRequest.serveAll]
  | cons request rest ih =>
    have step : (table.serve request).2.frozen = true ↔
        table.frozen = true ∨ .freeze = request := by
      rcases table.serve_cases request with ⟨_, rfl, _, _, served⟩ | ⟨rfl, served⟩ |
        ⟨other, kept, _⟩
      · simp [served, enter]
      · simp [served, freeze]
      · simp [kept, other.symm]
    rw [TableRequest.serveAll_cons, ih, step, List.mem_cons, or_assoc]

end FunctionTable

/-! ## A table with an index -/

/-- A table with an index that shows the same as a table without one. -/
structure IndexedTable.Indexes (indexed : IndexedTable) (table : FunctionTable) : Prop where
  start : indexed.start = table.start
  symbols : indexed.symbols = table.symbols
  frozen : indexed.frozen = table.frozen
  idBySymbol : ∀ symbol, indexed.idBySymbol.get? symbol = table.idOf? symbol

namespace IndexedTable

variable {indexed : IndexedTable} {table : FunctionTable}

theorem Indexes.symbolFor (indexes : indexed.Indexes table) (id : Int) :
    indexed.symbolFor id = table.symbolFor id := by
  by_cases below : id < table.start
  · have negative : id - table.start < 0 := by omega
    simp only [IndexedTable.symbolFor, FunctionTable.symbolFor, FunctionTable.symbolOf?,
      indexes.start, if_pos negative, if_pos below]
  · have inside : ¬ id - table.start < 0 := by omega
    cases found : table.symbols[(id - table.start).toNat]? with
    | none =>
      simp only [IndexedTable.symbolFor, FunctionTable.symbolFor, FunctionTable.symbolOf?,
        indexes.start, indexes.symbols, if_neg inside, if_neg below, found]
    | some symbol =>
      simp only [IndexedTable.symbolFor, FunctionTable.symbolFor, FunctionTable.symbolOf?,
        indexes.start, indexes.symbols, if_neg inside, if_neg below, found]

theorem Indexes.idFor (indexes : indexed.Indexes table) (symbol : String) :
    indexed.idFor symbol = table.idFor symbol := by
  have known := indexes.idBySymbol symbol
  cases found : table.idOf? symbol with
  | none =>
    rw [found] at known
    simp only [IndexedTable.idFor, FunctionTable.idFor, known, found]
  | some id =>
    rw [found] at known
    simp only [IndexedTable.idFor, FunctionTable.idFor, known, found]

/-- With and without an index, a symbol is entered or refused alike. -/
theorem Indexes.register (indexes : indexed.Indexes table) (distinct : table.symbols.Nodup)
    (symbol : String) :
    (indexed.register symbol).1 = (FunctionTable.plainRegistration table symbol).1 ∧
      (indexed.register symbol).2.Indexes (FunctionTable.plainRegistration table symbol).2 := by
  cases frozen : table.frozen with
  | true =>
    have closed := indexes.frozen.trans frozen
    rw [FunctionTable.plainRegistration_of_frozen frozen, IndexedTable.register, if_pos closed]
    exact ⟨rfl, indexes⟩
  | false =>
    have unfrozen := indexes.frozen.trans frozen
    have known := indexes.idBySymbol symbol
    cases taken : table.idOf? symbol with
    | some id =>
      rw [taken] at known
      rw [FunctionTable.plainRegistration_of_taken frozen taken]
      simp only [IndexedTable.register, unfrozen, known, Bool.false_eq_true, if_false]
      exact ⟨trivial, indexes⟩
    | none =>
      rw [taken] at known
      have fresh : symbol ∉ table.symbols := by
        intro held
        obtain ⟨id, found⟩ := FunctionTable.exists_idOf?_iff.2 held
        rw [taken] at found
        cases found
      have next : indexed.start + indexed.symbols.length = table.nextId := by
        rw [indexes.start, indexes.symbols]
        rfl
      rw [FunctionTable.plainRegistration_of_fresh frozen fresh]
      simp only [IndexedTable.register, unfrozen, known, next, Bool.false_eq_true, if_false]
      refine ⟨trivial, indexes.start, congrArg (· ++ [symbol]) indexes.symbols, frozen.symm, ?_⟩
      intro other
      rw [OrderedMap.get?_insert, indexes.idBySymbol, FunctionTable.idOf?_enter distinct fresh]

/-- With and without an index, a request is answered alike. -/
theorem Indexes.serve (indexes : indexed.Indexes table) (distinct : table.symbols.Nodup)
    (request : TableRequest) :
    (indexed.serve request).1 = (table.serve request).1 ∧
      (indexed.serve request).2.Indexes (table.serve request).2 := by
  cases request with
  | register symbol =>
    obtain ⟨same, kept⟩ := indexes.register distinct symbol
    exact ⟨congrArg (Except.map TableAnswer.id) same, kept⟩
  | symbolFor id => exact ⟨congrArg (Except.map TableAnswer.symbol) (indexes.symbolFor id), indexes⟩
  | idFor symbol => exact ⟨congrArg (Except.map TableAnswer.id) (indexes.idFor symbol), indexes⟩
  | freeze => exact ⟨rfl, indexes.start, indexes.symbols, rfl, indexes.idBySymbol⟩

/-- **An index changes no answer.** -/
theorem Indexes.serveAll (indexes : indexed.Indexes table) (distinct : table.symbols.Nodup)
    (requests : List TableRequest) :
    (TableRequest.serveAll IndexedTable.serve indexed requests).1 =
        (TableRequest.serveAll FunctionTable.serve table requests).1 ∧
      (TableRequest.serveAll IndexedTable.serve indexed requests).2.Indexes
        (TableRequest.serveAll FunctionTable.serve table requests).2 := by
  induction requests generalizing indexed table with
  | nil => exact ⟨rfl, indexes⟩
  | cons request rest ih =>
    obtain ⟨same, kept⟩ := indexes.serve distinct request
    obtain ⟨others, left⟩ := ih kept (FunctionTable.nodup_serve request distinct)
    rw [TableRequest.serveAll_cons, TableRequest.serveAll_cons, same, others]
    exact ⟨rfl, left⟩

end IndexedTable

/-! ## A new table after requests -/

namespace FunctionTable

theorem after_append (start : Nat) (requests later : List TableRequest) :
    after start (requests ++ later) =
      (TableRequest.serveAll serve (after start requests) later).2 :=
  TableRequest.serveAll_append requests later

theorem after_concat (start : Nat) (requests : List TableRequest) (request : TableRequest) :
    after start (requests ++ [request]) = ((after start requests).serve request).2 :=
  after_append start requests [request]

theorem start_after (start : Nat) (requests : List TableRequest) :
    (after start requests).start = start := by
  have step : ∀ (table : FunctionTable) (request : TableRequest),
      table.start = start → (table.serve request).2.start = start := by
    intro table request same
    rw [start_serve, same]
  exact TableRequest.serveAll_preserves step requests rfl

/-- No symbol is in the table twice. -/
theorem nodup_after (start : Nat) (requests : List TableRequest) :
    (after start requests).symbols.Nodup := by
  have step : ∀ (table : FunctionTable) (request : TableRequest),
      table.symbols.Nodup → (table.serve request).2.symbols.Nodup :=
    fun _ request held => nodup_serve request held
  exact TableRequest.serveAll_preserves step requests List.nodup_nil

theorem frozen_after_iff (start : Nat) (requests : List TableRequest) :
    (after start requests).frozen = true ↔ .freeze ∈ requests := by
  refine (frozen_serveAll_iff requests).trans ?_
  simp

theorem entries_prefix_after (start : Nat) (requests later : List TableRequest) :
    (after start requests).entries <+: (after start (requests ++ later)).entries := by
  rw [after_append]
  exact entries_prefix_serveAll _ later

/-- **What a function table does.**  For any requests to a new table, refused ones included: numbers
and symbols determine each other; the symbols are those registered in front of the first request to
freeze, in the order of their first registrations; a further request adds at most one entry, at the
end, so that an entry stays for ever; a symbol is refused exactly if the table is frozen or holds
it, and gets the next number otherwise; what is refused changes nothing, nor does anything that
comes after a request to freeze; and an index beside the symbols makes no difference. -/
theorem history (start : Nat) (requests : List TableRequest) :
    startingAt start = .ok (after start []) ∧
    (after start requests).start = start ∧
    (after start requests).IsNumbering ∧
    (after start requests).symbols = (registrations requests).eraseDups ∧
    ((after start requests).frozen = true ↔ .freeze ∈ requests) ∧
    (∀ request, (after start (requests ++ [request])).entries = (after start requests).entries ∨
      ∃ symbol, request = .register symbol ∧ (after start (requests ++ [request])).entries =
        (after start requests).entries ++ [((after start requests).nextId, symbol)]) ∧
    (∀ later, (after start requests).entries <+: (after start (requests ++ later)).entries) ∧
    (∀ id symbol, (after start requests).symbolFor id = .ok symbol →
      ∀ later, (after start (requests ++ later)).symbolFor id = .ok symbol) ∧
    (∀ symbol, (∃ refusal, ((after start requests).serve (.register symbol)).1 =
        .error refusal) ↔
      .freeze ∈ requests ∨ symbol ∈ (after start requests).entries.map Prod.snd) ∧
    (∀ symbol answer, ((after start requests).serve (.register symbol)).1 = .ok answer →
      answer = .id (after start requests).nextId) ∧
    (∀ request refusal, ((after start requests).serve request).1 = .error refusal →
      after start (requests ++ [request]) = after start requests) ∧
    (∀ later, (after start (requests ++ .freeze :: later)).entries =
      (after start requests).entries) ∧
    (TableRequest.serveAll IndexedTable.serve { start := start } requests).1 =
      exchanges start requests ∧
    (TableRequest.serveAll IndexedTable.serve { start := start } requests).2.Indexes
      (after start requests) := by
  have frozen := frozen_after_iff start requests
  have grows := entries_prefix_after start requests
  have opened : IndexedTable.Indexes { start := start } { start := start } :=
    ⟨rfl, rfl, rfl, fun _ => rfl⟩
  obtain ⟨answers, indexes⟩ := opened.serveAll List.nodup_nil requests
  refine ⟨?_, start_after start requests, .of_nodup (nodup_after start requests), ?_, frozen, ?_,
    grows, ?_, ?_, fun _ _ => answer_of_register, ?_, ?_, answers, indexes⟩
  · rw [startingAt, if_neg (Int.not_lt.2 (Int.natCast_nonneg start)), Int.toNat_natCast]
    rfl
  · exact symbols_serveAll rfl List.nodup_nil requests
  · intro request
    rw [after_concat]
    exact entries_serve _ request
  · intro id symbol found later
    exact symbolFor_of_prefix (grows later) found
  · intro symbol
    rw [register_refused_iff, frozen, map_snd_entries]
  · intro request refusal refused
    rw [after_concat, serve_of_error refused]
  · intro later
    have closed : ((after start requests).serve .freeze).2.frozen = true := rfl
    rw [after_append, TableRequest.serveAll_cons, serveAll_of_frozen closed]
    rfl

end FunctionTable

end MexBridge
