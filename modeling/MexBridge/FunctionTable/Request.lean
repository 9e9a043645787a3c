import MexBridge.FunctionTable
import MexBridge.OrderedMap

/-!
# Requests to a function table

A function table is used by requests: a symbol is registered, the symbol of a number or the number
of a symbol is asked for, or the table is frozen.  `FunctionTable.serve` answers one request and
gives the table afterwards, and `TableRequest.serveAll` serves requests one after the other and
keeps each of them with its answer.

`FunctionTable` looks a symbol up among its entries.  `IndexedTable` keeps the numbers of the
symbols in a map beside them instead, and serves the same requests.
-/

namespace MexBridge

set_option autoImplicit false

/-- A request to a function table. -/
inductive TableRequest
  | register (symbol : String)
  | symbolFor (id : Int)
  | idFor (symbol : String)
  | freeze
  deriving DecidableEq

/-- What a function table answers to a request. -/
inductive TableAnswer
  | id (id : Nat)
  | symbol (symbol : String)
  | closed
  deriving DecidableEq

/-- A request with its answer. -/
abbrev TableExchange := TableRequest × Except TableRefusal TableAnswer

/-- The requests with their answers, in order, and the table after the last of them; `serve` answers
one request and gives the table afterwards. -/
def TableRequest.serveAll {Table : Type}
    (serve : Table → TableRequest → Except TableRefusal TableAnswer × Table) (table : Table) :
    List TableRequest → List TableExchange × Table
  | [] => ([], table)
  | request :: rest =>
    let (answer, later) := serve table request
    let (exchanges, last) := serveAll serve later rest
    ((request, answer) :: exchanges, last)

namespace FunctionTable

/-- The answer to a request, and the table afterwards. -/
def serve (table : FunctionTable) :
    TableRequest → Except TableRefusal TableAnswer × FunctionTable
  | .register symbol =>
    let (answer, left) := plainRegistration table symbol
    (answer.map .id, left)
  | .symbolFor id => ((table.symbolFor id).map .symbol, table)
  | .idFor symbol => ((table.idFor symbol).map .id, table)
  | .freeze => (.ok .closed, table.freeze)

/-- The table that begins at a number, after it served requests. -/
def after (start : Nat) (requests : List TableRequest) : FunctionTable :=
  (TableRequest.serveAll serve { start := start } requests).2

/-- The exchanges of a table that begins at a number. -/
def exchanges (start : Nat) (requests : List TableRequest) : List TableExchange :=
  (TableRequest.serveAll serve { start := start } requests).1

end FunctionTable

/-! ## A table with an index -/

/-- A function table that keeps the numbers of its symbols beside the symbols. -/
structure IndexedTable where
  start : Nat := 0
  symbols : List String := []
  idBySymbol : OrderedMap String Nat := {}
  frozen : Bool := false

namespace IndexedTable

/-- Appends a symbol to the symbols and to the index. -/
def register (table : IndexedTable) (symbol : String) : Except TableRefusal Nat × IndexedTable :=
  if table.frozen then (.error .frozen, table)
  else match table.idBySymbol.get? symbol with
    | some id => (.error (.alreadyRegistered symbol id), table)
    | none =>
      let id := table.start + table.symbols.length
      (.ok id, { table with
        symbols := table.symbols ++ [symbol]
        idBySymbol := table.idBySymbol.insert symbol id })

/-- The symbol at the place of a number, counted from the start. -/
def symbolFor (table : IndexedTable) (id : Int) : Except TableRefusal String :=
  let position := id - table.start
  if position < 0 then .error (.unknownId id)
  else match table.symbols[position.toNat]? with
    | some symbol => .ok symbol
    | none => .error (.unknownId id)

/-- The number that the index has for a symbol. -/
def idFor (table : IndexedTable) (symbol : String) : Except TableRefusal Nat :=
  match table.idBySymbol.get? symbol with
  | some id => .ok id
  | none => .error (.unknownSymbol symbol)

/-- The answer to a request, and the table afterwards. -/
def serve (table : IndexedTable) :
    TableRequest → Except TableRefusal TableAnswer × IndexedTable
  | .register symbol =>
    let (answer, left) := table.register symbol
    (answer.map .id, left)
  | .symbolFor id => ((table.symbolFor id).map .symbol, table)
  | .idFor symbol => ((table.idFor symbol).map .id, table)
  | .freeze => (.ok .closed, { table with frozen := true })

end IndexedTable

end MexBridge
