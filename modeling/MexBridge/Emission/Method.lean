import MexBridge.Emission.Basic

/-!
# Emitting methods and classes

`emitNative` writes the native function of one overload, `emitMethod` the proxy function of a
method together with the native functions of its overloads, and `emitClass` the proxy file of a
class.  `emitMethodAt` is `emitMethod` for a nesting level that has to be checked, and
`emitMethodWritable` is `emitMethodAt` for numbers that have to be written out.
-/

namespace MexBridge.Emission

set_option autoImplicit false

/-- Writes the native function of an overload with a checked result under a number, and gives its
symbol. -/
def writeFunction (config : Config) (naming : ClassNaming) (method : String)
    (overload : Overload) (outcome : Outcome) (index : Int) (id : Int) : Emission String := do
  let symbol := Name.entrySymbol naming.matlabName method id
  let function :=
    NativeFunction.ofOverload config naming method symbol overload.arguments outcome
  writeNative function.lines
  report [.nativeWritten symbol naming.matlabName method index]
  return symbol

/-- Checks the result of an overload and writes its native function under a number; gives the
symbol. -/
def emitNative (config : Config) (naming : ClassNaming) (method : String) (overload : Overload)
    (index : Int) (id : Int) : Emission String := do
  let outcome ← requireOutcome naming method overload index
  writeFunction config naming method overload outcome index id

/-- Writes the native function of an overload, enters it into the table, and gives the branch that
calls it.  The branch refers to the number that was next before; a table that gives another one
stops the emission. -/
def emitBranch (registration : FunctionTable.Registration) (config : Config)
    (naming : ClassNaming) (method : String) (index : Nat) (overload : Overload) :
    Emission ProxyBranch := do
  let outcome ← requireOutcome naming method overload index
  let id ← nextId
  let symbol ← writeFunction config naming method overload outcome index id
  let assigned ← register registration symbol
  if assigned ≠ id then
    stop (.numberMismatch naming.matlabName method index assigned id)
  report [.overloadNumbered naming.matlabName method index id symbol]
  return ProxyBranch.ofOverload overload outcome id

/-- The branches of overloads, the first of which stands at the given position. -/
def emitBranches (registration : FunctionTable.Registration) (config : Config)
    (naming : ClassNaming) (method : String) :
    Nat → List Overload → Emission (List ProxyBranch)
  | _, [] => return []
  | index, overload :: rest => do
    let branch ← emitBranch registration config naming method index overload
    let branches ← emitBranches registration config naming method (index + 1) rest
    return branch :: branches

/-- Stops at a method without overloads, and reports the overloads that are never taken. -/
def announceMethod (naming : ClassNaming) (method : StaticMethod) : Emission Unit := do
  if method.overloads.isEmpty then
    stop (.noOverloads naming.matlabName method.name)
  report ((shadowings method.overloads).map
    (.overloadShadowed naming.matlabName method.name ·))

/-- Writes the native functions of the overloads of a method and then its proxy function; gives the
numbers of the overloads, in order. -/
def writeMethod (registration : FunctionTable.Registration) (config : Config)
    (naming : ClassNaming) (method : StaticMethod) (level : Int) : Emission (List Nat) := do
  let branches ← emitBranches registration config naming method.name 0 method.overloads
  let function : ProxyFunction :=
    { matlabClass := naming.matlabName, method := method.name, branches := branches }
  writeProxy (function.lines config level)
  return branches.map ProxyBranch.id

/-- Writes the proxy function of a method, at a nesting level, and the native functions of its
overloads; gives the numbers of these, in order. -/
def emitMethod (registration : FunctionTable.Registration) (config : Config)
    (naming : ClassNaming) (method : StaticMethod) (level : Int) : Emission (List Nat) := do
  announceMethod naming method
  writeMethod registration config naming method level

/-- Stops where an indentation of the proxy function of a method cannot be made.  The function is
opened first; its branches are nested deeper, and the first of them is begun only when the result
of its overload is in order. -/
def requireNesting (config : Config) (naming : ClassNaming) (method : StaticMethod)
    (level : Int) : Emission Unit := do
  requireIndentation config level
  match method.overloads with
  | [] => return ()
  | first :: _ =>
    let _ ← requireOutcome naming method.name first 0
    requireIndentation config (level + 1)
    requireIndentation config (level + 2)

/-- Emits a method at a nesting level of the caller's choice, which may be too deep; the levels of
a class file never are. -/
def emitMethodAt (registration : FunctionTable.Registration) (config : Config)
    (naming : ClassNaming) (method : StaticMethod) (level : Int) : Emission (List Nat) := do
  announceMethod naming method
  requireNesting config naming method level
  writeMethod registration config naming method level

/-- Emits a method whose numbers have to be written out.  A number with too many digits stops the
emission when the result of its overload is in order, before anything of the overload is written. -/
def emitMethodWritable (registration : FunctionTable.Registration) (config : Config)
    (naming : ClassNaming) (method : StaticMethod) (level : Int) : Emission (List Nat) :=
  ExceptT.adapt EmissionFault.worded do
    let room := writingBound - (← nextId)
    match method.overloads[room]? with
    | none => emitMethodAt registration config naming method level
    | some unnumbered =>
      announceMethod naming method
      requireNesting config naming method level
      let _ ← emitBranches registration config naming method.name 0 (method.overloads.take room)
      let _ ← requireOutcome naming method.name unnumbered room
      throw (.number .tooManyDigits)

/-- The first method whose capitalised name belongs to an earlier one, with that earlier one;
`earlier` are the methods that come before the list. -/
def methodCollision? (earlier : List StaticMethod) :
    List StaticMethod → Option (StaticMethod × StaticMethod)
  | [] => none
  | method :: rest =>
    match earlier.find? fun other =>
        Name.capitalized other.name = Name.capitalized method.name with
    | some other => some (other, method)
    | none => methodCollision? (earlier ++ [method]) rest

/-- Stops if two methods have one capitalised name. -/
def requireDistinctMethods (naming : ClassNaming) (methods : List StaticMethod) :
    Emission Unit :=
  match methodCollision? [] methods with
  | some (earlier, later) =>
    stop (.methodCollision naming.matlabName earlier.name later.name
      (Name.capitalized later.name))
  | none => return ()

/-- Writes the functions of methods, an empty line in front of each. -/
def emitFurtherMethods (registration : FunctionTable.Registration) (config : Config)
    (naming : ClassNaming) : List StaticMethod → Emission (List Nat)
  | [] => return []
  | method :: rest => do
    writeNested config [ClassFile.separator]
    let ids ← emitMethod registration config naming method ClassFile.functionLevel
    let furtherIds ← emitFurtherMethods registration config naming rest
    return ids ++ furtherIds

/-- Writes the block of static methods of a class that has methods. -/
def emitMethods (registration : FunctionTable.Registration) (config : Config)
    (naming : ClassNaming) : List StaticMethod → Emission (List Nat)
  | [] => return []
  | method :: rest => do
    writeNested config [ClassFile.blockOpening]
    let ids ← emitMethod registration config naming method ClassFile.functionLevel
    let furtherIds ← emitFurtherMethods registration config naming rest
    writeNested config [ClassFile.blockClosing]
    return ids ++ furtherIds

/-- Writes the proxy file of a class and the native functions of its methods; gives the numbers
of these, in order. -/
def emitClass (registration : FunctionTable.Registration) (config : Config)
    (naming : ClassNaming) (methods : List StaticMethod) : Emission (List Nat) := do
  requireDistinctMethods naming methods
  writeNested config (ClassFile.header naming)
  let ids ← emitMethods registration config naming methods
  writeNested config [ClassFile.closing]
  return ids

end MexBridge.Emission
