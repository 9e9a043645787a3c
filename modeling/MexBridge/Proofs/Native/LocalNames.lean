import MexBridge.Name.Identifier
import MexBridge.Proofs.Native.HandleAliases

/-!
# Names that are declared in a native function

A native function declares its parameters, a local for each argument, a local for the result of the
call, and one for each value that becomes a handle.  `NativeFunction.declaredNames` reads these
names off the signature and the statements of the body, and `declaredNames_ofOverload` lists them.

The names of the arguments come from the declaration of the method, the others are always the same.
`NativeFunction.nodup_declaredNames_iff` says when no name is declared twice: if no argument has the
name of a parameter or of a local that the function makes itself.  Nothing keeps an argument from
having such a name; `not_nodup_declaredNames_result` is a method whose argument is called `result`.
-/

set_option autoImplicit false

namespace MexBridge

/-! ## What is declared -/

/-- The local that a marshalling statement declares. -/
def Marshalling.local? : Marshalling → Option String
  | share _ holder _ => some holder
  | allocate _ holder _ _ => some holder
  | _ => none

/-- The local that a statement declares. -/
def Statement.local? : Statement → Option String
  | bind argument _ => some argument.name
  | call nativeCall => nativeCall.resultType.map fun _ => resultLocal
  | marshal marshalling => marshalling.local?
  | _ => none

/-- A text declares a local if the name stands behind a type and in front of a value. -/
def DeclaresLocal (text name : String) : Prop :=
  ∃ type value : String, text = type ++ " " ++ name ++ " = " ++ value

/-- The statement that binds an argument declares a local of its name. -/
theorem Argument.declaresLocal_unwrapping (argument : Argument) (input : String) :
    DeclaresLocal (argument.unwrapping input) argument.name := by
  have copied : DeclaresLocal (argument.type.cpp ++ " " ++ argument.name ++ " = unwrap< " ++
      argument.type.cpp ++ " >(" ++ input ++ ");") argument.name := by
    refine ⟨argument.type.cpp, "unwrap< " ++ argument.type.cpp ++ " >(" ++ input ++ ");", ?_⟩
    simp [← String.toList_inj]
  unfold unwrapping
  split
  · refine ⟨"boost::shared_ptr<" ++ argument.type.cpp ++ ">", "unwrap_shared_ptr< " ++
      argument.type.cpp ++ " >(" ++ input ++ ", \"ptr_" ++ argument.type.mangled ++ "\");", ?_⟩
    simp [← String.toList_inj]
  · split
    · exact copied
    · refine ⟨argument.type.cpp ++ "&", "*unwrap_shared_ptr< " ++ argument.type.cpp ++ " >(" ++
        input ++ ", \"ptr_" ++ argument.type.mangled ++ "\");", ?_⟩
      simp [← String.toList_inj]
  · exact copied

theorem Marshalling.declaresLocal_text {marshalling : Marshalling} {name : String}
    (declares : marshalling.local? = some name) : DeclaresLocal marshalling.text name := by
  cases marshalling with
  | copy output cppType expression => cases declares
  | share sharedAlias holder expression =>
    cases declares
    refine ⟨sharedAlias ++ "*", "new " ++ sharedAlias ++ "(" ++ expression ++ ");", ?_⟩
    simp [text, ← String.toList_inj]
  | allocate sharedAlias holder cppType expression =>
    cases declares
    refine ⟨sharedAlias ++ "*", "new " ++ sharedAlias ++ "(new " ++ cppType ++ "(" ++ expression ++
      "));", ?_⟩
    simp [text, ← String.toList_inj]
  | collect output holder mangledType => cases declares

theorem NativeCall.declaresLocal_text {call : NativeCall} {name : String}
    (declares : call.resultType.map (fun _ => resultLocal) = some name) :
    DeclaresLocal call.text name := by
  obtain ⟨cppType, kept, same⟩ := Option.map_eq_some_iff.1 declares
  rw [← same, text, kept]
  refine ⟨cppType, call.callee ++ "(" ++ Argument.callList call.arguments ++ ");", ?_⟩
  simp

/-- The text of a statement declares the local that is read off it. -/
theorem Statement.declaresLocal_text {statement : Statement} {name : String}
    (declares : statement.local? = some name) : DeclaresLocal statement.text name := by
  cases statement with
  | usingNamespace _ => cases declares
  | sharedPointer _ _ => cases declares
  | checkArguments _ _ => cases declares
  | bind argument position =>
    cases declares
    exact argument.declaresLocal_unwrapping _
  | call nativeCall =>
    exact nativeCall.declaresLocal_text declares
  | marshal marshalling => exact Marshalling.declaresLocal_text declares

namespace NativeFunction

/-- The parameters of every native function: each name with what stands before and behind it. -/
def parameters : List (String × String × String) :=
  [("int ", "nargout", ""), ("mxArray *", "out", "[]"), ("int ", "nargin", ""),
    ("const mxArray *", "in", "[]")]

theorem boundaryParameters_eq :
    boundaryParameters = String.intercalate ", "
      (parameters.map fun (type, name, ending) => type ++ name ++ ending) := by
  decide

/-- The names of the parameters. -/
def parameterNames : List String :=
  parameters.map fun (_, name, _) => name

/-- The names that a native function declares, in order: its parameters, and the locals of its
body. -/
def declaredNames (function : NativeFunction) : List String :=
  parameterNames ++ function.body.filterMap Statement.local?

end NativeFunction

/-! ## The names of an overload -/

/-- The locals that are made for a returned value. -/
def ResultSlot.locals (slot : ResultSlot) (holder : String) : List String :=
  if slot.needsHandle then [holder] else []

/-- The locals that are made to move a result to the outputs. -/
def Outcome.holders : Outcome → List String
  | nothing => []
  | one slot => slot.locals "ret"
  | two first second => first.locals "ret0" ++ second.locals "ret1"

/-- The locals that are made for a result: one for the result of the call, if there is any, and one
for each handle. -/
def Outcome.locals (outcome : Outcome) : List String :=
  (if outcome = .nothing then [] else [resultLocal]) ++ outcome.holders

theorem ResultSlot.filterMap_local?_marshalling (slot : ResultSlot) (expression : String)
    (output : Nat) (holder : String) :
    (slot.marshalling expression output holder).filterMap Marshalling.local? =
      slot.locals holder := by
  unfold marshalling locals needsHandle
  by_cases pointer : slot.isPointer = true
  · simp [pointer, Marshalling.local?]
  · by_cases object : slot.category = .object
    · simp [pointer, object, Marshalling.local?]
    · simp [pointer, object, Marshalling.local?]

theorem Outcome.filterMap_local?_marshalling (outcome : Outcome) (result : String) :
    (outcome.marshalling result).filterMap Marshalling.local? = outcome.holders := by
  cases outcome with
  | nothing => rfl
  | one slot => exact slot.filterMap_local?_marshalling result 0 "ret"
  | two first second =>
    rw [marshalling, List.filterMap_append, first.filterMap_local?_marshalling,
      second.filterMap_local?_marshalling]
    rfl

/-- The locals of a result are some of four names. -/
theorem Outcome.locals_sublist (outcome : Outcome) :
    outcome.locals.Sublist [resultLocal, "ret", "ret0", "ret1"] := by
  have made : ∀ (slot : ResultSlot) (holder : String), (slot.locals holder).Sublist [holder] := by
    intro slot holder
    unfold ResultSlot.locals
    split
    · exact List.Sublist.refl _
    · exact List.nil_sublist _
  cases outcome with
  | nothing => exact List.nil_sublist _
  | one slot =>
    refine .cons_cons _ ((made slot "ret").trans ?_)
    exact List.sublist_append_left ["ret"] ["ret0", "ret1"]
  | two first second =>
    refine .cons_cons _ (.cons _ ?_)
    exact (made first "ret0").append (made second "ret1")

namespace NativeFunction

/-- What a native function names itself: its parameters and the locals for its result. -/
def ownNames (outcome : Outcome) : List String :=
  parameterNames ++ outcome.locals

/-- A native function does not name anything twice itself. -/
theorem nodup_ownNames (outcome : Outcome) : (ownNames outcome).Nodup := by
  have distinct : (parameterNames ++ [resultLocal, "ret", "ret0", "ret1"]).Nodup := by decide
  exact distinct.sublist (outcome.locals_sublist.append_left parameterNames)

variable (config : Config) (naming : ClassNaming) (method symbol : String)
  (arguments : List Argument) (outcome : Outcome)

/-- The names that the native function of an overload declares. -/
theorem declaredNames_ofOverload :
    (ofOverload config naming method symbol arguments outcome).declaredNames =
      parameterNames ++ arguments.map Argument.name ++ outcome.locals := by
  have bindings : (arguments.zipIdx.map fun entry => Statement.bind entry.1 entry.2).filterMap
      Statement.local? = arguments.map Argument.name := by
    rw [List.filterMap_map, ← List.zipIdx_map_fst 0 arguments, List.map_map,
      List.zipIdx_map_fst, ← List.filterMap_eq_map]
    rfl
  have called : [Statement.call (callOf naming method arguments outcome)].filterMap
      Statement.local? = if outcome = .nothing then [] else [resultLocal] := by
    unfold callOf
    split <;> rfl
  have results : ((outcome.marshalling resultLocal).map Statement.marshal).filterMap
      Statement.local? = outcome.holders := by
    rw [List.filterMap_map]
    exact outcome.filterMap_local?_marshalling resultLocal
  have check : [Statement.checkArguments (naming.matlabName ++ "." ++ method)
      arguments.length].filterMap Statement.local? = [] := rfl
  rw [declaredNames, filterMap_body _ _ _ _ _ _ (fun _ => rfl) fun _ _ => rfl, check, bindings,
    called, results, Outcome.locals]
  simp only [List.nil_append, List.append_assoc]

variable {config naming method symbol arguments outcome}

/-- If the arguments have distinct names, only the name of an argument and one that the function
makes itself can be the same. -/
theorem nodup_declaredNames_ofOverload (distinct : (arguments.map Argument.name).Nodup) :
    (ofOverload config naming method symbol arguments outcome).declaredNames.Nodup ↔
      ∀ argument ∈ arguments, argument.name ∉ ownNames outcome := by
  -- the order of the names does not matter, so all that the function names itself comes last
  have perm : (parameterNames ++ arguments.map Argument.name ++ outcome.locals).Perm
      (arguments.map Argument.name ++ ownNames outcome) := by
    rw [ownNames, ← List.append_assoc]
    exact List.perm_append_comm.append_right _
  rw [declaredNames_ofOverload, perm.nodup_iff, List.nodup_append]
  constructor
  · rintro ⟨_, _, disjoint⟩ argument member own
    exact disjoint _ (List.mem_map_of_mem member) _ own rfl
  · intro apart
    refine ⟨distinct, nodup_ownNames outcome, fun name named other own same => ?_⟩
    obtain ⟨argument, member, rfl⟩ := List.mem_map.1 named
    exact apart argument member (same ▸ own)

/-- **No name is declared twice exactly if no argument has a name that the function uses itself.**
For an overload whose result can be marshalled and whose arguments have distinct names, a native
function is written.  It declares its parameters, the arguments, the result of the call unless there
is none, and a holder for each handle, the parameters in its first line and the locals by statements
whose texts do so; and it declares no name twice exactly if no argument has the name of a parameter,
of the result or of a holder. -/
theorem nodup_declaredNames_iff (config : Config) (naming : ClassNaming) (method : String)
    (overload : Overload) (index id : Int) (bench : Workbench) {shape : ResultShape}
    (declared : overload.result = .shape shape) (wellFormed : shape.IsWellFormed)
    (distinct : (overload.arguments.map Argument.name).Nodup) :
    ∃ (outcome : Outcome) (function : NativeFunction), shape.outcome = .ok outcome ∧
      ((Emission.emitNative config naming method overload index id).perform bench).1 =
        .ok function.symbol ∧
      ((Emission.emitNative config naming method overload index id).perform bench).2.native =
        bench.native.extend function.lines ∧
      function.lines.head? = some ("void " ++ function.symbol ++ "(" ++ String.intercalate ", "
        (parameters.map fun (type, name, ending) => type ++ name ++ ending) ++ ")") ∧
      function.declaredNames =
        parameterNames ++ overload.arguments.map Argument.name ++ outcome.locals ∧
      (∀ statement ∈ function.body, ∀ name, statement.local? = some name →
        DeclaresLocal statement.text name) ∧
      (function.declaredNames.Nodup ↔
        ∀ argument ∈ overload.arguments, argument.name ∉ ownNames outcome) := by
  obtain ⟨outcome, checked⟩ := ResultShape.outcome_isOk_iff.2 wellFormed
  have result : overload.result.outcome = .ok outcome := by
    rw [declared]
    exact checked
  refine ⟨outcome, .ofOverload config naming method (Name.entrySymbol naming.matlabName method id)
    overload.arguments outcome, checked, ?_, ?_, ?_, ?_, ?_, ?_⟩
  · rw [Emission.perform_emitNative config naming method index id bench result]
    rfl
  · rw [Emission.perform_emitNative config naming method index id bench result]
  · rw [← boundaryParameters_eq]
    rfl
  · exact declaredNames_ofOverload _ _ _ _ _ _
  · intro statement _ name declares
    exact Statement.declaresLocal_text declares
  · exact nodup_declaredNames_ofOverload distinct

/-- An argument may be called `ret` where the holders are called `ret0` and `ret1`. -/
theorem nodup_declaredNames_ret :
    (objectPair ⟨"Point2", []⟩ ⟨"Pose2", []⟩).IsWellFormed ∧
    ∃ function : NativeFunction,
      ((Emission.emitNative ⟨"shop", "shop_wrapper", [], [], "  "⟩ ⟨"Box", "shop::Box", "Box", []⟩
        "split" ⟨[⟨⟨"double", []⟩, "ret", false, .value⟩],
          .shape (objectPair ⟨"Point2", []⟩ ⟨"Pose2", []⟩)⟩ 0 0).perform {}).1 =
            .ok function.symbol ∧
      function.declaredNames =
        ["nargout", "out", "nargin", "in", "ret", "result", "ret0", "ret1"] ∧
      function.declaredNames.Nodup := by
  have wellFormed : (objectPair ⟨"Point2", []⟩ ⟨"Pose2", []⟩).IsWellFormed :=
    isWellFormed_objectPair (by decide) (by decide)
  obtain ⟨outcome, function, checked, emitted, _, _, names, _, distinct⟩ :=
    nodup_declaredNames_iff ⟨"shop", "shop_wrapper", [], [], "  "⟩ ⟨"Box", "shop::Box", "Box", []⟩
      "split" ⟨[⟨⟨"double", []⟩, "ret", false, .value⟩],
        .shape (objectPair ⟨"Point2", []⟩ ⟨"Pose2", []⟩)⟩ 0 0 {} rfl wellFormed (by decide)
  cases checked
  exact ⟨wellFormed, function, emitted, names, distinct.2 (by decide)⟩

/-- An argument that is called `result`, in a method that returns a value: the native function
declares this name twice. -/
theorem not_nodup_declaredNames_result :
    Name.isIdentifier "result" = true ∧
    (⟨.single, [⟨⟨"double", []⟩, .copied, false⟩]⟩ : ResultShape).IsWellFormed ∧
    ∃ function : NativeFunction,
      ((Emission.emitNative ⟨"shop", "shop_wrapper", [], [], "  "⟩ ⟨"Box", "shop::Box", "Box", []⟩
        "scaled" ⟨[⟨⟨"double", []⟩, "result", false, .value⟩],
          .shape ⟨.single, [⟨⟨"double", []⟩, .copied, false⟩]⟩⟩ 0 0).perform {}) =
            (.ok function.symbol, { native := ⟨function.lines⟩, events :=
              [.nativeWritten "Box_scaled_0" "Box" "scaled" 0] }) ∧
      function.declaredNames = ["nargout", "out", "nargin", "in", "result", "result"] ∧
      ¬ function.declaredNames.Nodup := by
  refine ⟨by decide, ⟨rfl, ?_⟩, .ofOverload ⟨"shop", "shop_wrapper", [], [], "  "⟩
    ⟨"Box", "shop::Box", "Box", []⟩ "scaled" "Box_scaled_0"
    [⟨⟨"double", []⟩, "result", false, .value⟩] (.one ⟨⟨"double", []⟩, .copied, false⟩),
    by decide, by decide, by decide⟩
  intro slot member
  rw [List.mem_singleton.1 member]
  exact ⟨nofun, by decide⟩

end NativeFunction

end MexBridge
