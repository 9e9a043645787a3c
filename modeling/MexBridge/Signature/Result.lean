import MexBridge.Signature.TypeName
import MexBridge.Text.Literal

/-!
# Results

A native method can hand back nothing, one value, or a pair that becomes two outputs.  A
declaration states a `ResultShape`, which may be malformed: its kind or a category may be unknown,
the number of slots may be wrong, or a slot may have the type `void`.  `ResultShape.outcome` checks
the shape and gives the `Outcome`, for which the native statements are total functions.
-/

namespace MexBridge

set_option autoImplicit false

/-- How a returned value crosses the boundary. -/
inductive Category
  | copied
  | object
  | unknown (value : Literal)
  deriving DecidableEq

/-- How many values a method is declared to return. -/
inductive ResultKind
  | nothing
  | single
  | pair
  | unknown (value : Literal)
  deriving DecidableEq

/-- One returned value: its native type and how it crosses the boundary. -/
structure ResultSlot where
  type : TypeName
  category : Category := .copied
  isPointer : Bool := false
  deriving DecidableEq

/-- A declared result; the number of slots need not fit the kind. -/
structure ResultShape where
  kind : ResultKind
  slots : List ResultSlot := []
  deriving DecidableEq

/-- The plain values that a declaration may hold in place of a result shape. -/
inductive ValueKind
  | absent
  | truth
  | integer
  | fraction
  | text
  | sequence
  | mapping
  deriving DecidableEq

/-- The name of a kind of plain value in messages. -/
def ValueKind.written : ValueKind → String
  | absent => "NoneType"
  | truth => "bool"
  | integer => "int"
  | fraction => "float"
  | text => "str"
  | sequence => "list"
  | mapping => "dict"

/-- What a declaration gives as its result. -/
inductive DeclaredResult
  | shape (shape : ResultShape)
  | plain (value : ValueKind)
  deriving DecidableEq

/-- Why a declared result cannot be marshalled. -/
inductive ShapeFault
  | notAShape (value : ValueKind)
  | unknownKind (value : Literal)
  | slotCount (kind : String) (expected found : Nat)
  | unknownCategory (value : Literal) (typeName : String)
  | voidSlot
  deriving DecidableEq

/-- The complaint about a declared result. -/
def ShapeFault.message : ShapeFault → String
  | notAShape value => "expected a ReturnValue, got " ++ value.written
  | unknownKind value => "unknown return kind " ++ value.written
  | slotCount kind expected found =>
    kind ++ " return requires " ++ toString expected ++ " slot(s), got " ++ toString found
  | unknownCategory value typeName =>
    "unsupported return category " ++ value.written ++ " for type " ++ Text.quoted typeName
  | voidSlot => "void is not a valid return slot type"

namespace ResultSlot

/-- The local name for a shared pointer to the slot's type. -/
def sharedAlias (slot : ResultSlot) : String :=
  "Shared" ++ slot.type.base

/-- Whether the value is returned as an owned handle. -/
def needsHandle (slot : ResultSlot) : Bool :=
  slot.category == .object || slot.isPointer

/-- The C++ type of the value that the native method returns. -/
def cppType (slot : ResultSlot) : String :=
  if slot.isPointer then slot.sharedAlias else slot.type.cpp

/-- The first reason why the slot cannot be marshalled: its category, then its type. -/
def fault? (slot : ResultSlot) : Option ShapeFault :=
  match slot.category with
  | .unknown value => some (.unknownCategory value slot.type.base)
  | _ => if slot.type.base = "void" then some .voidSlot else none

end ResultSlot

/-! ## Marshalling statements -/

/-- A native statement that moves a part of the result to an output. -/
inductive Marshalling
  /-- The value is copied to the output. -/
  | copy (output : Nat) (cppType expression : String)
  /-- A shared pointer that the method returned gets a handle of its own. -/
  | share (sharedAlias holder expression : String)
  /-- The value moves into a new object behind a handle. -/
  | allocate (sharedAlias holder cppType expression : String)
  /-- A handle is handed over to the output under the name of its type. -/
  | collect (output : Nat) (holder mangledType : String)
  deriving DecidableEq

namespace Marshalling

/-- An output of the native function. -/
def outputText (output : Nat) : String :=
  "out[" ++ toString output ++ "]"

/-- The statement in C++. -/
def text : Marshalling → String
  | copy output cppType expression =>
    outputText output ++ " = wrap< " ++ cppType ++ " >(" ++ expression ++ ");"
  | share sharedAlias holder expression =>
    sharedAlias ++ "* " ++ holder ++ " = new " ++ sharedAlias ++ "(" ++ expression ++ ");"
  | allocate sharedAlias holder cppType expression =>
    sharedAlias ++ "* " ++ holder ++ " = new " ++ sharedAlias ++ "(new " ++ cppType ++ "(" ++
      expression ++ "));"
  | collect output holder mangledType =>
    outputText output ++ " = wrap_collect_shared_ptr(" ++ holder ++ ",\"" ++ mangledType ++ "\");"

end Marshalling

/-- The statements that move one returned value to an output; handles go through the local
variable `holder`. -/
def ResultSlot.marshalling (slot : ResultSlot) (expression : String) (output : Nat)
    (holder : String) : List Marshalling :=
  if slot.isPointer then
    [.share slot.sharedAlias holder expression, .collect output holder slot.type.mangled]
  else if slot.category = .object then
    [.allocate slot.sharedAlias holder slot.type.cpp expression,
      .collect output holder slot.type.mangled]
  else [.copy output slot.cppType expression]

/-! ## Checked results -/

/-- A result that can be marshalled. -/
inductive Outcome
  | nothing
  | one (slot : ResultSlot)
  | two (first second : ResultSlot)
  deriving DecidableEq

namespace Outcome

/-- The returned values, in order. -/
def slots : Outcome → List ResultSlot
  | nothing => []
  | one slot => [slot]
  | two first second => [first, second]

/-- The C++ type of the local that holds the result of the native call. -/
def cppType : Outcome → String
  | nothing => "void"
  | one slot => slot.cppType
  | two first second => "pair< " ++ first.cppType ++ ", " ++ second.cppType ++ " >"

/-- The statements that move the result, held in the given local, to the outputs. -/
def marshalling (result : String) : Outcome → List Marshalling
  | nothing => []
  | one slot => slot.marshalling result 0 "ret"
  | two first second =>
    first.marshalling (result ++ ".first") 0 "ret0" ++
      second.marshalling (result ++ ".second") 1 "ret1"

end Outcome

namespace ResultShape

/-- The number of outputs that the shape declares. -/
def outputCount (shape : ResultShape) : Nat :=
  shape.slots.length

/-- Whether the shape declares that nothing is returned. -/
def isVoid (shape : ResultShape) : Bool :=
  shape.kind == .nothing

/-- Checks the slots in order and gives the outcome if none of them has a fault. -/
def ofSlots (slots : List ResultSlot) (outcome : Outcome) : Except ShapeFault Outcome :=
  match slots.findSome? ResultSlot.fault? with
  | some fault => .error fault
  | none => .ok outcome

/-- The checked result: the kind is looked at first, then the number of slots, then the slots. -/
def outcome (shape : ResultShape) : Except ShapeFault Outcome :=
  match shape.kind, shape.slots with
  | .unknown value, _ => .error (.unknownKind value)
  | .nothing, [] => .ok .nothing
  | .nothing, slots => .error (.slotCount "VOID" 0 slots.length)
  | .single, [slot] => ofSlots [slot] (.one slot)
  | .single, slots => .error (.slotCount "SINGLE" 1 slots.length)
  | .pair, [first, second] => ofSlots [first, second] (.two first second)
  | .pair, slots => .error (.slotCount "PAIR" 2 slots.length)

end ResultShape

/-- The checked result of a declaration. -/
def DeclaredResult.outcome : DeclaredResult → Except ShapeFault Outcome
  | .shape declared => declared.outcome
  | .plain value => .error (.notAShape value)

/-- The slots that need a handle, without repeating an alias: the first of each name stays. -/
def handleSlots : List ResultSlot → List ResultSlot
  | [] => []
  | slot :: rest =>
    if slot.needsHandle then
      slot :: (handleSlots rest).filter fun later => later.sharedAlias ≠ slot.sharedAlias
    else handleSlots rest

end MexBridge
