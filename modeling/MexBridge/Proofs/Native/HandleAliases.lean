import MexBridge.Emission.Method
import MexBridge.OrderedMap
import MexBridge.Proofs.Native.Statements
import MexBridge.Proofs.Signature.WellFormed

/-!
# Aliases of handles

A value that becomes a handle goes through a shared pointer, and the body of a native function
declares a local alias for the shared pointer of each such value.  The alias is made of the name of
the value's type without its namespaces, and only the first declaration of an alias is kept.

`NativeFunction.DenotesHandles` says what a body owes to its handles: the alias of each of them
stands for the shared pointer of its own type, is declared once, and is declared before anything
uses it, so that the output is built from a pointer to this type.  `HandlesApart` is the condition
on the values under which this is so, and `NativeFunction.denotesHandles_iff` the equivalence.
`NativeFunction.PrintsHandles` says how the lines of a body show its aliases and handles.  Two types
of one name in different namespaces do not meet the condition: the alias of the second stands for
the first.
-/

set_option autoImplicit false

namespace MexBridge

/-! ## Values that need handles -/

namespace ResultSlot

theorem sharedAlias_eq_iff {slot other : ResultSlot} :
    slot.sharedAlias = other.sharedAlias ↔ slot.type.base = other.type.base :=
  String.append_right_inj "Shared"

/-- The alias of a type without a name is that of the class. -/
theorem sharedAlias_eq_shared_iff {slot : ResultSlot} :
    slot.sharedAlias = "Shared" ↔ slot.type.base = "" := by
  rw [sharedAlias, String.append_eq_left_iff]

end ResultSlot

section handleSlots

variable {slots : List ResultSlot} {slot : ResultSlot}

theorem mem_of_mem_handleSlots (member : slot ∈ handleSlots slots) :
    slot ∈ slots ∧ slot.needsHandle = true := by
  induction slots with
  | nil => cases member
  | cons first rest ih =>
    rw [handleSlots] at member
    split at member
    · next handle =>
      rcases List.mem_cons.1 member with rfl | later
      · exact ⟨List.mem_cons_self, handle⟩
      · obtain ⟨listed, needs⟩ := ih (List.mem_of_mem_filter later)
        exact ⟨List.mem_cons_of_mem _ listed, needs⟩
    · obtain ⟨listed, needs⟩ := ih member
      exact ⟨List.mem_cons_of_mem _ listed, needs⟩

/-- No alias is kept twice. -/
theorem nodup_sharedAlias_handleSlots (slots : List ResultSlot) :
    ((handleSlots slots).map ResultSlot.sharedAlias).Nodup := by
  induction slots with
  | nil => exact List.nodup_nil
  | cons first rest ih =>
    rw [handleSlots]
    split
    · refine List.nodup_cons.2 ⟨?_, ih.sublist (List.filter_sublist.map _)⟩
      intro again
      obtain ⟨later, member, same⟩ := List.mem_map.1 again
      simpa [same] using (List.mem_filter.1 member).2
    · exact ih

/-- The alias of a value that needs a handle is kept. -/
theorem exists_mem_handleSlots (member : slot ∈ slots) (handle : slot.needsHandle = true) :
    ∃ kept ∈ handleSlots slots, kept.sharedAlias = slot.sharedAlias := by
  induction slots with
  | nil => cases member
  | cons first rest ih =>
    rw [handleSlots]
    rcases List.mem_cons.1 member with rfl | later
    · rw [if_pos handle]
      exact ⟨slot, List.mem_cons_self, rfl⟩
    · obtain ⟨kept, listed, same⟩ := ih later
      split
      · by_cases before : kept.sharedAlias = first.sharedAlias
        · exact ⟨first, List.mem_cons_self, before.symm.trans same⟩
        · exact ⟨kept, List.mem_cons_of_mem _ (List.mem_filter.2 ⟨listed, by simpa using before⟩),
            same⟩
      · exact ⟨kept, listed, same⟩

end handleSlots

/-- The checked result has the values that were declared. -/
theorem ResultShape.slots_of_outcome {shape : ResultShape} {outcome : Outcome}
    (checked : shape.outcome = .ok outcome) : outcome.slots = shape.slots := by
  have kept : ∀ {slots : List ResultSlot} {other : Outcome}, ofSlots slots other = .ok outcome →
      outcome = other := by
    intro slots other passed
    unfold ofSlots at passed
    split at passed <;> cases passed
    rfl
  have count := slotCount_of_outcome checked
  obtain ⟨kind, slots⟩ := shape
  cases kind with
  | unknown value => cases count
  | nothing =>
    obtain rfl : slots = [] := List.eq_nil_of_length_eq_zero (Option.some.inj count).symm
    cases checked
    rfl
  | single =>
    obtain ⟨slot, rfl⟩ := List.length_eq_one_iff.1 (Option.some.inj count).symm
    rw [kept checked]
    rfl
  | pair =>
    obtain ⟨first, second, rfl⟩ := List.length_eq_two.1 (Option.some.inj count).symm
    rw [kept checked]
    rfl

/-! ## What a body says of aliases -/

namespace Statement

/-- The alias that a statement declares, with the type behind the pointer. -/
def declared? : Statement → Option (String × String)
  | sharedPointer cppType sharedAlias => some (sharedAlias, cppType)
  | _ => none

/-- Whether a statement may use an alias: the call names the type of its result, and marshalling
names the pointers that it makes. -/
def usesAliases : Statement → Bool
  | call _ => true
  | marshal _ => true
  | _ => false

/-- The part of the result that a statement moves. -/
def marshalled? : Statement → Option Marshalling
  | marshal marshalling => some marshalling
  | _ => none

end Statement

namespace Marshalling

/-- The local that is handed over to an output. -/
def collected? (output : Nat) : Marshalling → Option String
  | collect other holder _ => if other = output then some holder else none
  | _ => none

/-- The alias of the pointer that is put into a local. -/
def held? (holder : String) : Marshalling → Option String
  | share sharedAlias other _ => if other = holder then some sharedAlias else none
  | allocate sharedAlias other _ _ => if other = holder then some sharedAlias else none
  | _ => none

end Marshalling

namespace NativeFunction

/-- The aliases that a body declares, in order, each with the type behind the pointer. -/
def aliases (function : NativeFunction) : List (String × String) :=
  function.body.filterMap Statement.declared?

/-- The marshalling in a body, in order. -/
def marshallings (function : NativeFunction) : List Marshalling :=
  function.body.filterMap Statement.marshalled?

/-- The type behind the pointer from which an output is built. -/
def pointee? (function : NativeFunction) (output : Nat) : Option String := do
  let holder ← function.marshallings.findSome? (Marshalling.collected? output)
  let sharedAlias ← function.marshallings.findSome? (Marshalling.held? holder)
  function.aliases.lookup sharedAlias

/-- What a body owes to the values that need handles. -/
structure DenotesHandles (function : NativeFunction) (slots : List ResultSlot) : Prop where
  /-- The alias of each value stands for the pointer to its type. -/
  declared : ∀ slot ∈ slots, slot.needsHandle = true →
    (slot.sharedAlias, slot.type.cpp) ∈ function.aliases
  /-- No alias is declared twice. -/
  once : (function.aliases.map Prod.fst).Nodup
  /-- All declarations come before whatever may use an alias. -/
  early : ∃ declarations others, function.body = declarations ++ others ∧
    (∀ statement ∈ declarations, statement.usesAliases = false) ∧
    ∀ statement ∈ others, statement.declared? = none
  /-- The output of each value is built from a pointer to its type. -/
  built : ∀ position slot, slots[position]? = some slot → slot.needsHandle = true →
    function.pointee? position = some slot.type.cpp

/-- The line that declares an alias. -/
def aliasLine (sharedAlias cppType : String) : String :=
  margin ++ ("typedef boost::shared_ptr<" ++ cppType ++ "> " ++ sharedAlias ++ ";")

/-- The lines that build an output from a value: a pointer under the alias of the value is put into
a local, and the local is handed over. -/
def handleLines (slot : ResultSlot) (output : Nat) (holder expression : String) : List String :=
  let content :=
    if slot.isPointer then expression else "new " ++ slot.type.cpp ++ "(" ++ expression ++ ")"
  [margin ++ (slot.sharedAlias ++ "* " ++ holder ++ " = new " ++ slot.sharedAlias ++ "(" ++
      content ++ ");"),
    margin ++ ("out[" ++ toString output ++ "] = wrap_collect_shared_ptr(" ++ holder ++ ",\"" ++
      slot.type.mangled ++ "\");")]

/-- The lines of a body show its aliases, behind the namespaces and in front of all others.  Among
these are the line that keeps the result, under its type, and those that build the output of each
value that needs a handle. -/
def PrintsHandles (function : NativeFunction) (outcome : Outcome) : Prop :=
  ∃ namespaces others : List String,
    function.block = "\x7b" ::
      (namespaces.map (fun name => margin ++ ("using namespace " ++ name ++ ";")) ++
        function.aliases.map (fun entry => aliasLine entry.1 entry.2) ++ others) ∧
    (outcome ≠ .nothing → ∃ invocation,
      margin ++ (outcome.cppType ++ " " ++ resultLocal ++ " = " ++ invocation) ∈ others) ∧
    ∀ position slot, outcome.slots[position]? = some slot → slot.needsHandle = true →
      ∃ holder expression, handleLines slot position holder expression <:+: others

end NativeFunction

/-- Values whose handles can be told apart by the names of their types: no name is empty, and values
with one name are of one type. -/
structure HandlesApart (slots : List ResultSlot) : Prop where
  named : ∀ slot ∈ slots, slot.needsHandle = true → slot.type.base ≠ ""
  apart : ∀ slot ∈ slots, slot.needsHandle = true → ∀ other ∈ slots, other.needsHandle = true →
    slot.type.base = other.type.base → slot.type.cpp = other.type.cpp

/-! ## Outputs and the locals behind them -/

namespace ResultSlot

variable (slot : ResultSlot) (expression : String) (output : Nat) (holder : String)

theorem collected_marshalling (handle : slot.needsHandle = true) :
    (slot.marshalling expression output holder).findSome? (Marshalling.collected? output) =
      some holder := by
  unfold marshalling
  by_cases pointer : slot.isPointer = true
  · simp [pointer, List.findSome?_cons, Marshalling.collected?]
  · have object : slot.category = .object := by simpa [needsHandle, pointer] using handle
    simp [pointer, object, List.findSome?_cons, Marshalling.collected?]

/-- Marshalling to one output does not hand anything over to another. -/
theorem collected_marshalling_of_ne {asked : Nat} (other : output ≠ asked) :
    (slot.marshalling expression output holder).findSome? (Marshalling.collected? asked) =
      none := by
  unfold marshalling
  split
  · simp [Marshalling.collected?, other]
  · split <;> simp [Marshalling.collected?, other]

theorem held_marshalling (handle : slot.needsHandle = true) :
    (slot.marshalling expression output holder).findSome? (Marshalling.held? holder) =
      some slot.sharedAlias := by
  unfold marshalling
  by_cases pointer : slot.isPointer = true
  · simp [pointer, Marshalling.held?]
  · have object : slot.category = .object := by simpa [needsHandle, pointer] using handle
    simp [pointer, object, Marshalling.held?]

/-- Marshalling through one local puts nothing into another. -/
theorem held_marshalling_of_ne {asked : String} (other : holder ≠ asked) :
    (slot.marshalling expression output holder).findSome? (Marshalling.held? asked) = none := by
  unfold marshalling
  split
  · simp [Marshalling.held?, other]
  · split <;> simp [Marshalling.held?, other]

end ResultSlot

/-- A returned value is the only one, or one of two. -/
theorem Outcome.cases_of_slot {outcome : Outcome} {position : Nat} {slot : ResultSlot}
    (listed : outcome.slots[position]? = some slot) :
    (outcome = .one slot ∧ position = 0) ∨ (∃ second, outcome = .two slot second ∧ position = 0) ∨
      ∃ first, outcome = .two first slot ∧ position = 1 := by
  obtain ⟨below, found⟩ := List.getElem?_eq_some_iff.1 listed
  cases outcome with
  | nothing => cases listed
  | one only =>
    obtain rfl : position = 0 := Nat.lt_one_iff.1 below
    cases found
    exact .inl ⟨rfl, rfl⟩
  | two first second =>
    rcases Nat.le_one_iff_eq_zero_or_eq_one.1 (Nat.le_of_lt_succ below) with rfl | rfl
    · cases found
      exact .inr (.inl ⟨second, rfl, rfl⟩)
    · cases found
      exact .inr (.inr ⟨first, rfl, rfl⟩)

/-- The output of a value that needs a handle is handed over from a local that holds a pointer under
the alias of this value. -/
theorem Outcome.exists_holder {outcome : Outcome} (result : String) {position : Nat}
    {slot : ResultSlot} (listed : outcome.slots[position]? = some slot)
    (handle : slot.needsHandle = true) :
    ∃ holder,
      (outcome.marshalling result).findSome? (Marshalling.collected? position) = some holder ∧
      (outcome.marshalling result).findSome? (Marshalling.held? holder) =
        some slot.sharedAlias := by
  rcases cases_of_slot listed with ⟨rfl, rfl⟩ | ⟨second, rfl, rfl⟩ | ⟨first, rfl, rfl⟩
  · exact ⟨"ret", slot.collected_marshalling _ _ _ handle, slot.held_marshalling _ _ _ handle⟩
  · simp only [marshalling, List.findSome?_append]
    refine ⟨"ret0", ?_, ?_⟩
    · rw [slot.collected_marshalling _ _ _ handle, Option.some_or]
    · rw [slot.held_marshalling _ _ _ handle, Option.some_or]
  · simp only [marshalling, List.findSome?_append]
    refine ⟨"ret1", ?_, ?_⟩
    · rw [first.collected_marshalling_of_ne _ _ _ Nat.zero_ne_one, Option.none_or,
        slot.collected_marshalling _ _ _ handle]
    · rw [first.held_marshalling_of_ne _ _ _ (by decide), Option.none_or,
        slot.held_marshalling _ _ _ handle]

namespace NativeFunction

variable (config : Config) (naming : ClassNaming) (method symbol : String)
  (arguments : List Argument) (outcome : Outcome)

/-- The aliases of a body: those of the values that need handles, and that of the class. -/
theorem aliases_ofOverload :
    (ofOverload config naming method symbol arguments outcome).aliases =
      (handleSlots outcome.slots).map (fun slot => (slot.sharedAlias, slot.type.cpp)) ++
        [("Shared", naming.cppName)] := by
  have namespaces : (config.usingNamespaces.map Statement.usingNamespace).filterMap
      Statement.declared? = [] := filterMap_map_unread (fun _ => rfl) _
  have bindings : (arguments.mapIdx fun position argument =>
      Statement.bind argument position).filterMap Statement.declared? = [] := by
    rw [List.mapIdx_eq_zipIdx_map]
    exact filterMap_map_unread (fun _ => rfl) _
  have results : ((outcome.marshalling resultLocal).map Statement.marshal).filterMap
      Statement.declared? = [] := filterMap_map_unread (fun _ => rfl) _
  have pointers : (aliasStatements naming outcome).filterMap Statement.declared? =
      (handleSlots outcome.slots).map (fun slot => (slot.sharedAlias, slot.type.cpp)) ++
        [("Shared", naming.cppName)] := by
    rw [aliasStatements, List.filterMap_append, List.filterMap_map, ← List.filterMap_eq_map]
    rfl
  simp only [aliases, ofOverload, List.filterMap_append, namespaces, bindings, results, pointers]
  simp [Statement.declared?]

theorem marshallings_ofOverload :
    (ofOverload config naming method symbol arguments outcome).marshallings =
      outcome.marshalling resultLocal := by
  have results : ((outcome.marshalling resultLocal).map Statement.marshal).filterMap
      Statement.marshalled? = outcome.marshalling resultLocal := by
    rw [List.filterMap_map]
    exact List.filterMap_some
  rw [marshallings, filterMap_body _ _ _ _ _ _ (fun _ => rfl) fun _ _ => rfl,
    filterMap_map_unread fun _ => rfl, results]
  rfl

/-- An output is built from what the alias of its value stands for. -/
theorem pointee?_ofOverload {position : Nat} {slot : ResultSlot}
    (listed : outcome.slots[position]? = some slot) (handle : slot.needsHandle = true) :
    (ofOverload config naming method symbol arguments outcome).pointee? position =
      (ofOverload config naming method symbol arguments outcome).aliases.lookup
        slot.sharedAlias := by
  obtain ⟨holder, collected, held⟩ := Outcome.exists_holder resultLocal listed handle
  rw [pointee?, marshallings_ofOverload, collected, Option.bind_eq_bind, Option.bind_some, held]
  rfl

/-- The lines that move a value which needs a handle. -/
theorem map_text_marshalling {slot : ResultSlot} (expression : String) (output : Nat)
    (holder : String) (handle : slot.needsHandle = true) :
    (slot.marshalling expression output holder).map (fun marshalling =>
        margin ++ marshalling.text) = handleLines slot output holder expression := by
  unfold ResultSlot.marshalling handleLines
  by_cases pointer : slot.isPointer = true
  · simp [pointer, Marshalling.text, Marshalling.outputText, ← String.toList_inj]
  · have object : slot.category = .object := by simpa [ResultSlot.needsHandle, pointer] using handle
    simp [pointer, object, Marshalling.text, Marshalling.outputText, ← String.toList_inj]

/-- The lines that move a result show how each handle is made. -/
theorem exists_handleLines {outcome : Outcome} {position : Nat} {slot : ResultSlot}
    (listed : outcome.slots[position]? = some slot) (handle : slot.needsHandle = true) :
    ∃ holder expression, handleLines slot position holder expression <:+:
      (outcome.marshalling resultLocal).map fun marshalling => margin ++ marshalling.text := by
  rcases Outcome.cases_of_slot listed with ⟨rfl, rfl⟩ | ⟨second, rfl, rfl⟩ | ⟨first, rfl, rfl⟩
  · refine ⟨"ret", resultLocal, [], [], ?_⟩
    rw [Outcome.marshalling, map_text_marshalling _ _ _ handle, List.nil_append, List.append_nil]
  · refine ⟨"ret0", resultLocal ++ ".first", ?_⟩
    rw [Outcome.marshalling, List.map_append, map_text_marshalling _ _ _ handle]
    exact (List.prefix_append _ _).isInfix
  · refine ⟨"ret1", resultLocal ++ ".second", ?_⟩
    rw [Outcome.marshalling, List.map_append, map_text_marshalling _ _ _ handle]
    exact (List.suffix_append _ _).isInfix

/-- **The lines of a body show its aliases and its handles.** -/
theorem printsHandles_ofOverload :
    (ofOverload config naming method symbol arguments outcome).PrintsHandles outcome := by
  let print (statement : Statement) : String := margin ++ statement.text
  refine ⟨config.usingNamespaces, (callStatements naming method arguments outcome).map print, ?_,
    fun kept => ?_, fun position slot listed handle => ?_⟩
  · have namespaces : (config.usingNamespaces.map Statement.usingNamespace).map print =
        config.usingNamespaces.map fun name => margin ++ ("using namespace " ++ name ++ ";") :=
      List.map_map
    have pointers : (aliasStatements naming outcome).map print =
        (ofOverload config naming method symbol arguments outcome).aliases.map
          fun entry => aliasLine entry.1 entry.2 := by
      rw [aliases_ofOverload, aliasStatements, List.map_append, List.map_append, List.map_map,
        List.map_map]
      rfl
    rw [block, body_ofOverload, List.map_append, List.map_append, ← namespaces, ← pointers]
  · have called := text_callOf naming method arguments outcome
    rw [if_neg kept] at called
    have among : .call (callOf naming method arguments outcome) ∈
        callStatements naming method arguments outcome :=
      List.mem_append_left _ (List.mem_append_right _ List.mem_cons_self)
    exact ⟨_, List.mem_map.2 ⟨_, among, congrArg (margin ++ ·) called⟩⟩
  · obtain ⟨holder, expression, inside⟩ := exists_handleLines listed handle
    have moved : ((outcome.marshalling resultLocal).map Statement.marshal).map print =
        (outcome.marshalling resultLocal).map fun marshalling => margin ++ marshalling.text :=
      List.map_map
    refine ⟨holder, expression, inside.trans ?_⟩
    rw [← moved, callStatements, List.map_append]
    exact (List.suffix_append _ _).isInfix

/-- All aliases are declared in front of the check of the arguments. -/
theorem early_ofOverload : ∃ declarations others,
    (ofOverload config naming method symbol arguments outcome).body = declarations ++ others ∧
    (∀ statement ∈ declarations, statement.usesAliases = false) ∧
    ∀ statement ∈ others, statement.declared? = none := by
  refine ⟨_, callStatements naming method arguments outcome, body_ofOverload .., ?_, ?_⟩
  · simp only [aliasStatements, List.mem_append, List.mem_map, List.mem_singleton]
    rintro statement (⟨_, _, rfl⟩ | ⟨_, _, rfl⟩ | rfl) <;> rfl
  · simp only [callStatements, List.mem_append, List.mem_map, List.mem_singleton]
    rintro statement (((rfl | ⟨_, _, rfl⟩) | rfl) | ⟨_, _, rfl⟩) <;> rfl

variable {config naming method symbol arguments outcome}

/-- Where handles can be told apart, a body has what it owes to them. -/
theorem DenotesHandles.of_apart (apart : HandlesApart outcome.slots) :
    (ofOverload config naming method symbol arguments outcome).DenotesHandles outcome.slots := by
  have declared : ∀ slot ∈ outcome.slots, slot.needsHandle = true →
      (slot.sharedAlias, slot.type.cpp) ∈
        (ofOverload config naming method symbol arguments outcome).aliases := by
    intro slot member handle
    obtain ⟨kept, listed, same⟩ := exists_mem_handleSlots member handle
    obtain ⟨among, needs⟩ := mem_of_mem_handleSlots listed
    rw [← same, apart.apart slot member handle kept among needs
      (ResultSlot.sharedAlias_eq_iff.1 same.symm), aliases_ofOverload]
    exact List.mem_append_left _ (List.mem_map.2 ⟨kept, listed, rfl⟩)
  have once : ((ofOverload config naming method symbol arguments outcome).aliases.map
      Prod.fst).Nodup := by
    rw [aliases_ofOverload, List.map_append, List.map_map]
    refine List.nodup_append.2
      ⟨nodup_sharedAlias_handleSlots outcome.slots, List.pairwise_singleton _ _, ?_⟩
    rintro sharedAlias member _ last rfl
    obtain ⟨slot, listed, named⟩ := List.mem_map.1 member
    obtain ⟨among, needs⟩ := mem_of_mem_handleSlots listed
    refine apart.named slot among needs (ResultSlot.sharedAlias_eq_shared_iff.1 ?_)
    exact named.trans (List.mem_singleton.1 last)
  refine ⟨declared, once, early_ofOverload .., fun position slot listed handle => ?_⟩
  rw [pointee?_ofOverload _ _ _ _ _ _ listed handle]
  exact OrderedMap.lookup_eq_some_of_mem once
    (declared slot (List.mem_of_getElem? listed) handle)

/-- A body that has what it owes to handles tells them apart. -/
theorem DenotesHandles.apart
    (denotes : (ofOverload config naming method symbol arguments outcome).DenotesHandles
      outcome.slots) : HandlesApart outcome.slots where
  named := by
    intro slot member handle unnamed
    obtain ⟨kept, listed, same⟩ := exists_mem_handleSlots member handle
    have once := denotes.once
    rw [aliases_ofOverload, List.map_append, List.map_map] at once
    refine (List.nodup_append.1 once).2.2 "Shared" (List.mem_map.2 ⟨kept, listed, ?_⟩) "Shared"
      List.mem_cons_self rfl
    exact same.trans (ResultSlot.sharedAlias_eq_shared_iff.2 unnamed)
  apart := by
    intro slot member handle other listed needs same
    have first := OrderedMap.lookup_eq_some_of_mem denotes.once
      (denotes.declared slot member handle)
    have second := OrderedMap.lookup_eq_some_of_mem denotes.once
      (denotes.declared other listed needs)
    rw [ResultSlot.sharedAlias_eq_iff.2 same, second] at first
    exact (Option.some.inj first).symm

end NativeFunction

/-! ## The emitted function -/

namespace Emission

/-- An overload whose result can be marshalled gets its native function. -/
theorem perform_emitNative (config : Config) (naming : ClassNaming) (method : String)
    {overload : Overload} (index id : Int) (bench : Workbench) {outcome : Outcome}
    (checked : overload.result.outcome = .ok outcome) :
    (emitNative config naming method overload index id).perform bench =
      (.ok (Name.entrySymbol naming.matlabName method id),
        { bench with
          native := bench.native.extend (NativeFunction.ofOverload config naming method
            (Name.entrySymbol naming.matlabName method id) overload.arguments outcome).lines
          events := bench.events ++ [.nativeWritten (Name.entrySymbol naming.matlabName method id)
            naming.matlabName method index] }) := by
  rw [emitNative, perform_bind, perform_requireOutcome, checked]
  rfl

end Emission

namespace NativeFunction

/-- **Handles are right exactly where their types can be told apart by name.**  For an overload
whose result can be marshalled, a native function is written, whose lines show its aliases and
handles; in it every value that needs a handle has its alias declared for the pointer to its own
type, once and before any use, so that its output is built from such a pointer, exactly if the names
of the types of these values are not empty and values with one name are of one type. -/
theorem denotesHandles_iff (config : Config) (naming : ClassNaming) (method : String)
    (overload : Overload) (index id : Int) (bench : Workbench) {shape : ResultShape}
    (declared : overload.result = .shape shape) (wellFormed : shape.IsWellFormed) :
    ∃ (outcome : Outcome) (function : NativeFunction), shape.outcome = .ok outcome ∧
      function = .ofOverload config naming method (Name.entrySymbol naming.matlabName method id)
        overload.arguments outcome ∧
      ((Emission.emitNative config naming method overload index id).perform bench).1 =
        .ok function.symbol ∧
      ((Emission.emitNative config naming method overload index id).perform bench).2.native =
        bench.native.extend function.lines ∧
      function.PrintsHandles outcome ∧
      (function.DenotesHandles shape.slots ↔ HandlesApart shape.slots) := by
  obtain ⟨outcome, checked⟩ := ResultShape.outcome_isOk_iff.2 wellFormed
  have result : overload.result.outcome = .ok outcome := by
    rw [declared]
    exact checked
  refine ⟨outcome, _, checked, rfl, ?_, ?_, printsHandles_ofOverload .., ?_⟩
  · rw [Emission.perform_emitNative config naming method index id bench result]
    rfl
  · rw [Emission.perform_emitNative config naming method index id bench result]
  · rw [← ResultShape.slots_of_outcome checked]
    exact ⟨DenotesHandles.apart, DenotesHandles.of_apart⟩

/-- A pair of objects, each given back by value. -/
def objectPair (first second : TypeName) : ResultShape :=
  ⟨.pair, [⟨first, .object, false⟩, ⟨second, .object, false⟩]⟩

theorem isWellFormed_objectPair {first second : TypeName} (left : first.base ≠ "void")
    (right : second.base ≠ "void") : (objectPair first second).IsWellFormed := by
  refine ⟨rfl, ?_⟩
  simp only [objectPair, List.forall_mem_cons]
  exact ⟨⟨nofun, left⟩, ⟨nofun, right⟩, nofun⟩

/-- Two objects of one type share an alias, and both outputs are built from pointers to it. -/
theorem denotesHandles_one_type :
    (objectPair ⟨"Point2", ["gtsam"]⟩ ⟨"Point2", ["gtsam"]⟩).IsWellFormed ∧
    ∃ function : NativeFunction,
      ((Emission.emitNative ⟨"shop", "shop_wrapper", [], [], "  "⟩ ⟨"Box", "shop::Box", "Box", []⟩
        "split" ⟨[], .shape (objectPair ⟨"Point2", ["gtsam"]⟩ ⟨"Point2", ["gtsam"]⟩)⟩ 0
          0).perform {}).1 = .ok function.symbol ∧
      function.pointee? 0 = some "gtsam::Point2" ∧ function.pointee? 1 = some "gtsam::Point2" := by
  have wellFormed : (objectPair ⟨"Point2", ["gtsam"]⟩ ⟨"Point2", ["gtsam"]⟩).IsWellFormed :=
    isWellFormed_objectPair (by decide) (by decide)
  have apart : HandlesApart (objectPair ⟨"Point2", ["gtsam"]⟩ ⟨"Point2", ["gtsam"]⟩).slots :=
    ⟨by decide, by decide⟩
  obtain ⟨_, function, _, _, emitted, _, _, denotes⟩ :=
    denotesHandles_iff ⟨"shop", "shop_wrapper", [], [], "  "⟩ ⟨"Box", "shop::Box", "Box", []⟩
      "split" ⟨[], .shape (objectPair ⟨"Point2", ["gtsam"]⟩ ⟨"Point2", ["gtsam"]⟩)⟩ 0 0 {} rfl
      wellFormed
  have built := (denotes.2 apart).built
  exact ⟨wellFormed, function, emitted, built 0 _ rfl rfl, built 1 _ rfl rfl⟩

/-- Two types of one name in different namespaces: the alias of both stands for the first of them,
and so the second output is built from a pointer to the wrong type. -/
theorem not_denotesHandles_two_types :
    (objectPair ⟨"T", ["a"]⟩ ⟨"T", ["b"]⟩).IsWellFormed ∧
    ∃ function : NativeFunction,
      ((Emission.emitNative ⟨"shop", "shop_wrapper", [], [], "  "⟩ ⟨"Box", "shop::Box", "Box", []⟩
        "split" ⟨[], .shape (objectPair ⟨"T", ["a"]⟩ ⟨"T", ["b"]⟩)⟩ 0 0).perform {}) =
          (.ok function.symbol, { native := ⟨function.lines⟩, events :=
            [.nativeWritten "Box_split_0" "Box" "split" 0] }) ∧
      function.pointee? 1 = some "a::T" ∧
      ¬ function.DenotesHandles (objectPair ⟨"T", ["a"]⟩ ⟨"T", ["b"]⟩).slots := by
  refine ⟨isWellFormed_objectPair (by decide) (by decide),
    .ofOverload ⟨"shop", "shop_wrapper", [], [], "  "⟩ ⟨"Box", "shop::Box", "Box", []⟩ "split"
      "Box_split_0" [] (.two ⟨⟨"T", ["a"]⟩, .object, false⟩ ⟨⟨"T", ["b"]⟩, .object, false⟩),
    by decide, by decide, fun denotes => ?_⟩
  exact absurd (denotes.built 1 _ rfl rfl) (by decide)

end NativeFunction

end MexBridge
