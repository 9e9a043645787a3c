import MexBridge.Text.Quoted

/-!
# The function table

Every native function of a session has a number.  Numbers are handed out in the order of
registration, from a starting number on and without gaps; the proxies call by number and the
gateway switches on it.  `FunctionTable.entries` is the table as pairs of number and symbol.

A table is filled by a `Registration`: the plain one enters the symbol alone, the padded one keeps
a place free in front of every symbol.
-/

namespace MexBridge

set_option autoImplicit false

/-- The native symbols of a session, numbered from `start` in order of registration. -/
structure FunctionTable where
  start : Nat := 0
  symbols : List String := []
  frozen : Bool := false
  deriving DecidableEq

/-- Why a table refuses a request. -/
inductive TableRefusal
  | negativeStart
  | frozen
  | alreadyRegistered (symbol : String) (id : Nat)
  | unknownId (id : Int)
  | unknownSymbol (symbol : String)
  deriving DecidableEq

/-- The complaint about a refused request. -/
def TableRefusal.message : TableRefusal → String
  | negativeStart => "function table start id must be non-negative"
  | frozen => "function table is frozen"
  | alreadyRegistered symbol id =>
    "native symbol " ++ Text.quoted symbol ++ " already registered as id " ++ toString id
  | unknownId id => toString id
  | unknownSymbol symbol => Text.quoted symbol

namespace FunctionTable

/-- The empty table whose numbers begin at `start`. -/
def startingAt (start : Int) : Except TableRefusal FunctionTable :=
  if start < 0 then .error .negativeStart else .ok { start := start.toNat }

/-- The number of entries. -/
def size (table : FunctionTable) : Nat :=
  table.symbols.length

/-- The number that the next symbol gets. -/
def nextId (table : FunctionTable) : Nat :=
  table.start + table.size

/-- The entries as pairs of number and symbol, in increasing order of the numbers. -/
def entries (table : FunctionTable) : List (Nat × String) :=
  (table.symbols.zipIdx table.start).map fun (symbol, id) => (id, symbol)

/-- The number of a symbol, if the table holds it. -/
def idOf? (table : FunctionTable) (symbol : String) : Option Nat :=
  (table.symbols.idxOf? symbol).map (table.start + ·)

/-- The number of a symbol. -/
def idFor (table : FunctionTable) (symbol : String) : Except TableRefusal Nat :=
  match table.idOf? symbol with
  | some id => .ok id
  | none => .error (.unknownSymbol symbol)

/-- The symbol of a number, if the table holds it. -/
def symbolOf? (table : FunctionTable) (id : Int) : Option String :=
  if id < table.start then none else table.symbols[(id - table.start).toNat]?

/-- The symbol of a number. -/
def symbolFor (table : FunctionTable) (id : Int) : Except TableRefusal String :=
  match table.symbolOf? id with
  | some symbol => .ok symbol
  | none => .error (.unknownId id)

/-- Enters a symbol at the end and gives its number; an open table takes each symbol once. -/
def register (table : FunctionTable) (symbol : String) :
    Except TableRefusal (Nat × FunctionTable) :=
  if table.frozen then .error .frozen
  else match table.idOf? symbol with
    | some id => .error (.alreadyRegistered symbol id)
    | none => .ok (table.nextId, { table with symbols := table.symbols ++ [symbol] })

/-- Closes the table: it takes no more symbols. -/
def freeze (table : FunctionTable) : FunctionTable :=
  { table with frozen := true }

/-! ## Ways of filling a table -/

/-- A way of entering a symbol: its answer, and the table that it leaves whatever the answer. -/
abbrev Registration :=
  FunctionTable → String → Except TableRefusal Nat × FunctionTable

/-- Enters the symbol alone. -/
def plainRegistration : Registration := fun table symbol =>
  match table.register symbol with
  | .ok (id, extended) => (.ok id, extended)
  | .error refusal => (.error refusal, table)

/-- Enters a placeholder for the symbol and then the symbol; a placeholder that was taken stays,
also when the symbol itself is refused. -/
def paddedRegistration : Registration := fun table symbol =>
  match plainRegistration table ("pad_" ++ symbol) with
  | (.ok _, padded) => plainRegistration padded symbol
  | (.error refusal, unchanged) => (.error refusal, unchanged)

end FunctionTable

end MexBridge
