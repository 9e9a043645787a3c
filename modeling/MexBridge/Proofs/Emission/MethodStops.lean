import MexBridge.Proofs.Emission.Placing
import MexBridge.Proofs.Native.Statements

/-!
# What stops the work on a method

The work on a method changes three things at different moments: the native function of an overload
is written first, its symbol is entered then, and the proxy function comes last.  So the state that
is left when the work stops depends on what stopped it.

`StaticMethod.Placeable` says when a plain table lets an overload pass, in terms of the table at the
start.  `StaticMethod.Stops` lists the causes that stop the work, each with the number of symbols
that the table has gained by then and the number of native functions that were written, and
`StaticMethod.Gains` says what it means to have gained them; the native functions are found again in
the lines that were added.

The work is then cut into its parts: what comes before the overloads (`Emission.opening`), and the
overloads, with the room that is left for numbers.  What stops the work before any registration
stops it for every way of filling the table (`Emission.perform_of_unstarted`).
-/

set_option autoImplicit false

namespace MexBridge

theorem isWritable_natCast_iff {number : Nat} :
    isWritable (number : Int) = true ↔ number < writingBound := by
  rw [isWritable_iff, Int.natAbs_natCast]

/-! ## What stops the work -/

namespace StaticMethod

/-- The symbol of the overload at a position, which gets its number from a table. -/
def symbolAt (naming : ClassNaming) (method : StaticMethod) (table : FunctionTable)
    (position : Nat) : String :=
  Name.entrySymbol naming.matlabName method.name (table.nextId + position : Nat)

/-- The first indentation of the proxy function of a method that cannot be made.  The branches are
nested deeper, and they are looked at only when the result of the first overload is in order. -/
def nestingFault? (config : Config) (method : StaticMethod) (level : Int) : Option IndentFault :=
  match config.indentFault? level with
  | some fault => some fault
  | none =>
    match method.overloads with
    | [] => none
    | first :: _ =>
      match first.result.outcome with
      | .error _ => none
      | .ok _ => (config.indentFault? (level + 1)).or (config.indentFault? (level + 2))

/-- A plain table lets the overload at a position pass, once those before it have passed. -/
structure Placeable (naming : ClassNaming) (method : StaticMethod) (table : FunctionTable)
    (position : Nat) : Prop where
  wellFormed : ∃ overload, method.overloads[position]? = some overload ∧
    overload.result.IsWellFormed
  writable : isWritable (table.nextId + position : Nat) = true
  unfrozen : table.frozen = false
  fresh : method.symbolAt naming table position ∉ table.symbols

/-- A fault stops the work on a method at a plain table, when the table has gained so many symbols
and so many native functions have been written. -/
inductive Stops (config : Config) (naming : ClassNaming) (method : StaticMethod) (level : Int)
    (table : FunctionTable) : EmissionFault → Nat → Nat → Prop
  | noOverloads (empty : method.overloads = []) :
    Stops config naming method level table
      (.violation (.noOverloads naming.matlabName method.name)) 0 0
  | indentation {fault : IndentFault} (declared : method.overloads ≠ [])
      (unmade : method.nestingFault? config level = some fault) :
    Stops config naming method level table (.indentation fault) 0 0
  | malformed {position : Nat} {overload : Overload} {fault : ShapeFault}
      (nested : method.nestingFault? config level = none)
      (before : ∀ earlier < position, method.Placeable naming table earlier)
      (declared : method.overloads[position]? = some overload)
      (checked : overload.result.outcome = .error fault) :
    Stops config naming method level table
      (.violation (.malformedResult naming.matlabName method.name position fault))
      position position
  | unwritable {position : Nat} {overload : Overload}
      (nested : method.nestingFault? config level = none)
      (before : ∀ earlier < position, method.Placeable naming table earlier)
      (declared : method.overloads[position]? = some overload)
      (wellFormed : overload.result.IsWellFormed)
      (tooLong : isWritable (table.nextId + position : Nat) = false) :
    Stops config naming method level table (.number .tooManyDigits) position position
  | frozen {overload : Overload}
      (nested : method.nestingFault? config level = none)
      (declared : method.overloads[0]? = some overload)
      (wellFormed : overload.result.IsWellFormed)
      (writable : isWritable table.nextId = true)
      (closed : table.frozen = true) :
    Stops config naming method level table (.table .frozen) 0 1
  | taken {position id : Nat} {overload : Overload}
      (nested : method.nestingFault? config level = none)
      (before : ∀ earlier < position, method.Placeable naming table earlier)
      (declared : method.overloads[position]? = some overload)
      (wellFormed : overload.result.IsWellFormed)
      (writable : isWritable (table.nextId + position : Nat) = true)
      (unfrozen : table.frozen = false)
      (known : table.idOf? (method.symbolAt naming table position) = some id) :
    Stops config naming method level table
      (.table (.alreadyRegistered (method.symbolAt naming table position) id))
      position (position + 1)

/-- A function is the native function of an overload under a number, and serves its calls. -/
def IsNativeFunction (config : Config) (naming : ClassNaming) (method : StaticMethod)
    (numbered : Overload × Nat) (function : NativeFunction) : Prop :=
  ∃ outcome, numbered.1.result.outcome = .ok outcome ∧
    function = .ofOverload config naming method.name
      (Name.entrySymbol naming.matlabName method.name numbered.2) numbered.1.arguments outcome ∧
    function.Serves naming method.name numbered.1.arguments (.ofOutcome outcome)

/-- The native file has gained the native functions of the first overloads of a method, in order:
these are the functions that the lines it has gained define. -/
def Writes (config : Config) (naming : ClassNaming) (method : StaticMethod)
    (before after : Workbench) (written : Nat) : Prop :=
  ∃ functions : List NativeFunction, functions.length = written ∧
    List.Forall₂ (method.IsNativeFunction config naming)
      ((method.overloads.take written).zipIdx before.table.nextId) functions ∧
    after.native = before.native.extend (functions.flatMap NativeFunction.lines) ∧
    Wrapper.definitions (functions.flatMap NativeFunction.lines) =
      functions.map fun function => (function.symbol, function.block)

/-- The table has gained the symbols of the first overloads of a method, and the native file the
functions of the first ones. -/
structure Gains (config : Config) (naming : ClassNaming) (method : StaticMethod)
    (before after : Workbench) (entered written : Nat) : Prop where
  table : after.table =
    { before.table with symbols := before.table.symbols ++
        (List.range entered).map (method.symbolAt naming before.table) }
  native : method.Writes config naming before after written

/-- The fault that a registration gives rise to when it answers for the first overload of a method
with another number than the next one, or with a refusal. -/
def mismatchFault (naming : ClassNaming) (method : StaticMethod) (table : FunctionTable) :
    Except TableRefusal Nat → EmissionFault
  | .ok assigned => EmissionFault.worded (.violation
      (.numberMismatch naming.matlabName method.name 0 assigned table.nextId))
  | .error refusal => .table refusal

end StaticMethod

/-- A registration that never gives a symbol the number which was next. -/
def FunctionTable.Registration.Misnumbers (registration : FunctionTable.Registration) : Prop :=
  ∀ (table : FunctionTable) (symbol : String) (id : Nat) (left : FunctionTable),
    registration table symbol = (.ok id, left) → id ≠ table.nextId

namespace Emission

variable {config : Config} {naming : ClassNaming} {method : StaticMethod} {level : Int}
  {bench : Workbench} {registration : FunctionTable.Registration}

/-! ## The parts of the work -/

theorem perform_adapt {α : Type} (change : EmissionFault → EmissionFault) (emission : Emission α)
    (bench : Workbench) :
    perform (ExceptT.adapt change emission) bench =
      ((perform emission bench).1.mapError change, (perform emission bench).2) := by
  rfl

/-- The bench when the shadowed overloads of a method have been announced. -/
def announced (naming : ClassNaming) (method : StaticMethod) (bench : Workbench) : Workbench :=
  bench.reported (Station.overloadSet naming method).announcement

theorem perform_announceMethod_of_ne (declared : method.overloads ≠ []) :
    (announceMethod naming method).perform bench = (.ok (), announced naming method bench) := by
  simp [announceMethod, declared, announced, Station.announcement, Workbench.reported]

theorem perform_requireNesting (bench : Workbench) (first : Overload) (rest : List Overload)
    (declared : method.overloads = first :: rest) :
    (requireNesting config naming method level).perform bench =
      match method.nestingFault? config level with
      | some fault => (.error (.indentation fault), bench)
      | none =>
        (first.result.outcome.map (fun _ => ()) |>.mapError fun fault =>
          .violation (.malformedResult naming.matlabName method.name 0 fault), bench) := by
  unfold requireNesting StaticMethod.nestingFault?
  rw [perform_bind, perform_requireIndentation, declared]
  cases outer : config.indentFault? level with
  | some fault => simp [Config.checkedIndentation, outer, Except.mapError, Except.map]
  | none =>
    cases checked : first.result.outcome with
    | error fault =>
      simp [Config.checkedIndentation, outer, Except.mapError, Except.map, perform_bind,
        perform_requireOutcome, checked]
    | ok outcome =>
      cases inner : config.indentFault? (level + 1) with
      | some fault =>
        simp [Config.checkedIndentation, outer, Except.mapError, Except.map, perform_bind,
          perform_requireOutcome, perform_requireIndentation, checked, inner]
      | none =>
        cases innermost : config.indentFault? (level + 2) <;>
        simp [Config.checkedIndentation, outer, Except.mapError, Except.map, perform_bind,
          perform_requireOutcome, perform_requireIndentation, checked, inner, innermost]

/-- The work on a method comes to the overloads when its indentations can be made and the first
result is in order. -/
structure Opens (config : Config) (method : StaticMethod) (level : Int) : Prop where
  nested : method.nestingFault? config level = none
  first : ∃ overload, method.overloads[0]? = some overload ∧ overload.result.IsWellFormed

theorem Opens.nonempty (opens : Opens config method level) : method.overloads ≠ [] := by
  obtain ⟨overload, declared, _⟩ := opens.first
  intro empty
  rw [empty] at declared
  cases declared

theorem Opens.perform_requireNesting (opens : Opens config method level) :
    (requireNesting config naming method level).perform bench = (.ok (), bench) := by
  obtain ⟨overload, declared, wellFormed⟩ := opens.first
  obtain ⟨outcome, checked⟩ := DeclaredResult.outcome_isOk_iff.2 wellFormed
  cases parts : method.overloads with
  | nil => exact absurd parts opens.nonempty
  | cons first rest =>
    rw [parts] at declared
    cases declared
    rw [Emission.perform_requireNesting bench _ rest parts, opens.nested, checked]
    rfl

/-- Where all numbers can be written, the method is emitted as if there were no bound. -/
theorem perform_emitMethodWritable_of_room
    (room : method.overloads.length ≤ writingBound - bench.table.nextId) :
    (emitMethodWritable registration config naming method level).perform bench =
      (((emitMethodAt registration config naming method level).perform bench).1.mapError
          EmissionFault.worded,
        ((emitMethodAt registration config naming method level).perform bench).2) := by
  unfold emitMethodWritable
  rw [perform_adapt, perform_bind, perform_nextId]
  simp only [List.getElem?_eq_none room]

theorem Opens.perform_emitMethodAt (opens : Opens config method level) :
    (emitMethodAt registration config naming method level).perform bench =
      (writeMethod registration config naming method level).perform
        (announced naming method bench) := by
  unfold emitMethodAt
  rw [perform_bind, perform_announceMethod_of_ne opens.nonempty]
  simp only [perform_bind, opens.perform_requireNesting]

/-- Where a number cannot be written, the overloads in front of it are worked on first. -/
theorem Opens.perform_emitMethodWritable_of_full (opens : Opens config method level)
    {unnumbered : Overload}
    (full : method.overloads[writingBound - bench.table.nextId]? = some unnumbered) :
    (emitMethodWritable registration config naming method level).perform bench =
      match (emitBranches registration config naming method.name 0
          (method.overloads.take (writingBound - bench.table.nextId))).perform
          (announced naming method bench) with
      | (.ok _, later) =>
        (match unnumbered.result.outcome with
          | .ok _ => .error (.number .tooManyDigits)
          | .error fault => .error (.violation (.malformedResult naming.matlabName method.name
              (writingBound - bench.table.nextId : Nat) fault)), later)
      | (.error fault, left) => (.error fault.worded, left) := by
  unfold emitMethodWritable
  rw [perform_adapt, perform_bind, perform_nextId]
  simp only [full, perform_bind, perform_announceMethod_of_ne opens.nonempty,
    opens.perform_requireNesting]
  rcases (emitBranches registration config naming method.name 0
    (method.overloads.take (writingBound - bench.table.nextId))).perform
    (announced naming method bench) with ⟨answer, later⟩
  cases answer with
  | error fault => rfl
  | ok branches =>
    simp only [perform_requireOutcome]
    cases unnumbered.result.outcome <;> rfl

/-- **An overload that stops the work stops the method**, if its number can be written. -/
theorem Opens.perform_of_stop (opens : Opens config method level) {front rest : List Overload}
    {overload : Overload} {branches : List ProxyBranch} {later left : Workbench}
    {fault reported : EmissionFault} (parts : method.overloads = front ++ overload :: rest)
    (room : front.length < writingBound - bench.table.nextId)
    (placed : (emitBranches registration config naming method.name 0 front).perform
      (announced naming method bench) = (.ok branches, later))
    (stopped : (emitBranch registration config naming method.name front.length
      overload).perform later = (.error fault, left))
    (worded : fault.worded = reported) :
    (emitMethodWritable registration config naming method level).perform bench =
      (.error reported, left) := by
  subst worded
  have position : 0 + front.length = front.length := Nat.zero_add _
  cases full : method.overloads[writingBound - bench.table.nextId]? with
  | none =>
    have stops := perform_emitBranches_of_stop rest placed (position.symm ▸ stopped)
    rw [perform_emitMethodWritable_of_room (List.getElem?_eq_none_iff.1 full),
      opens.perform_emitMethodAt, writeMethod, perform_bind, parts, stops]
    rfl
  | some unnumbered =>
    have shorter : method.overloads.take (writingBound - bench.table.nextId) =
        front ++ overload :: rest.take (writingBound - bench.table.nextId - front.length - 1) := by
      rw [parts, List.take_append, List.take_of_length_le (Nat.le_of_lt room)]
      obtain ⟨remaining, count⟩ :=
        Nat.exists_eq_succ_of_ne_zero (Nat.ne_of_gt (Nat.sub_pos_of_lt room))
      rw [count]
      rfl
    have stops := perform_emitBranches_of_stop
      (rest.take (writingBound - bench.table.nextId - front.length - 1)) placed
      (position.symm ▸ stopped)
    rw [opens.perform_emitMethodWritable_of_full full, shorter, stops]

/-- The part of the work that comes before the overloads. -/
def opening (config : Config) (naming : ClassNaming) (method : StaticMethod) (level : Int) :
    Emission Unit := do
  announceMethod naming method
  requireNesting config naming method level

/-- What stops the work before it comes to the overloads stops the method. -/
theorem perform_of_opening_stop {fault reported : EmissionFault} {left : Workbench}
    (stopped : (opening config naming method level).perform bench = (.error fault, left))
    (worded : fault.worded = reported) :
    (emitMethodWritable registration config naming method level).perform bench =
      (.error reported, left) := by
  subst worded
  have stops {α : Type} (next : Emission α) :
      (announceMethod naming method >>= fun _ =>
        requireNesting config naming method level >>= fun _ => next).perform bench =
        (.error fault, left) := by
    rw [← bind_assoc]
    change (opening config naming method level >>= fun _ => next).perform bench = _
    rw [perform_bind, stopped]
  unfold emitMethodWritable
  rw [perform_adapt, perform_bind, perform_nextId]
  cases full : method.overloads[writingBound - bench.table.nextId]? with
  | none => simp only [full, emitMethodAt, stops, Except.mapError]
  | some unnumbered => simp only [full, stops, Except.mapError]

theorem perform_of_noOverloads (empty : method.overloads = []) :
    (emitMethodWritable registration config naming method level).perform bench =
      (.error (.violation (.noOverloads naming.matlabName method.name)), bench) := by
  have stopped : (opening config naming method level).perform bench =
      (.error (.violation (.noOverloads naming.matlabName method.name)), bench) := by
    simp [opening, announceMethod, empty, perform_bind]
  exact perform_of_opening_stop stopped rfl

theorem perform_of_indentation {fault : IndentFault} (declared : method.overloads ≠ [])
    (unmade : method.nestingFault? config level = some fault) :
    (emitMethodWritable registration config naming method level).perform bench =
      (.error (.indentation fault), announced naming method bench) := by
  obtain ⟨first, rest, parts⟩ := List.exists_cons_of_ne_nil declared
  have stopped : (opening config naming method level).perform bench =
      (.error (.indentation fault), announced naming method bench) := by
    rw [opening, perform_bind, perform_announceMethod_of_ne declared]
    simp only [perform_requireNesting _ first rest parts, unmade]
  exact perform_of_opening_stop stopped rfl

/-- The first result is looked at before the deeper indentations and before its number. -/
theorem perform_of_first_malformed {overload : Overload} {fault : ShapeFault}
    (nested : method.nestingFault? config level = none)
    (declared : method.overloads[0]? = some overload)
    (checked : overload.result.outcome = .error fault) :
    (emitMethodWritable registration config naming method level).perform bench =
      (.error (.violation (.malformedResult naming.matlabName method.name 0 fault)),
        announced naming method bench) := by
  obtain ⟨first, rest, parts⟩ := List.exists_cons_of_ne_nil
    (List.ne_nil_of_length_pos (List.getElem?_eq_some_iff.1 declared).1)
  rw [parts] at declared
  cases declared
  have stopped : (opening config naming method level).perform bench =
      (.error (.violation (.malformedResult naming.matlabName method.name 0 fault)),
        announced naming method bench) := by
    rw [opening, perform_bind, perform_announceMethod_of_ne (parts ▸ List.cons_ne_nil _ _)]
    simp only [perform_requireNesting _ _ rest parts, nested, checked]
    rfl
  exact perform_of_opening_stop stopped rfl

theorem Opens.perform_of_first_unwritable (opens : Opens config method level)
    (tooLong : isWritable bench.table.nextId = false) :
    (emitMethodWritable registration config naming method level).perform bench =
      (.error (.number .tooManyDigits), announced naming method bench) := by
  obtain ⟨overload, declared, wellFormed⟩ := opens.first
  obtain ⟨outcome, checked⟩ := DeclaredResult.outcome_isOk_iff.2 wellFormed
  have full : writingBound - bench.table.nextId = 0 := by
    rw [← Bool.not_eq_true, isWritable_natCast_iff] at tooLong
    omega
  rw [opens.perform_emitMethodWritable_of_full (full.symm ▸ declared), full, List.take_zero]
  simp only [emitBranches, perform_pure, checked]

/-- What stops the work before any registration stops it for every way of filling the table, and
leaves the files and the table as they are. -/
theorem perform_of_unstarted {fault : EmissionFault}
    (stops : method.Stops config naming level bench.table fault 0 0) :
    ∃ left, (emitMethodWritable registration config naming method level).perform bench =
        (.error fault, left) ∧
      left.proxy = bench.proxy ∧ left.table = bench.table ∧ left.native = bench.native := by
  cases stops with
  | noOverloads empty => exact ⟨_, perform_of_noOverloads empty, rfl, rfl, rfl⟩
  | indentation declared unmade =>
    exact ⟨_, perform_of_indentation declared unmade, rfl, rfl, rfl⟩
  | malformed nested before declared checked =>
    exact ⟨_, perform_of_first_malformed nested declared checked, rfl, rfl, rfl⟩
  | unwritable nested before declared wellFormed tooLong =>
    exact ⟨_, Opens.perform_of_first_unwritable ⟨nested, _, declared, wellFormed⟩ tooLong,
      rfl, rfl, rfl⟩

end Emission

end MexBridge
