import MexBridge.Proofs.Reading.Wrapper
import MexBridge.Proxy.Function
import Mathlib.Data.List.Forall2

/-!
# The statements of a native function

The body of a native function is a list of statements.  Four kinds of them matter to a caller: the
check of the number of arguments, the binding of an argument to an input, the call of the wrapped
method, and the writing of an output.  `Statement.checkedCount?`, `Statement.bound?`,
`Statement.called?` and `Statement.output?` find them in a body.

`NativeFunction.serves_ofOverload` says what they are in the native function of an overload, and how
they are printed: `BodyLines.Serve` cuts the lines of a body into declarations, the check, the
bindings, the call and the outputs, and gives the text of each.
-/

set_option autoImplicit false

namespace MexBridge

namespace Statement

/-- The number of arguments that a statement checks for. -/
def checkedCount? : Statement → Option Nat
  | checkArguments _ count => some count
  | _ => none

/-- The argument that a statement binds, with the position of its input. -/
def bound? : Statement → Option (Argument × Nat)
  | bind argument position => some (argument, position)
  | _ => none

/-- The call that a statement makes. -/
def called? : Statement → Option NativeCall
  | call nativeCall => some nativeCall
  | _ => none

/-- The output that a statement writes. -/
def output? : Statement → Option Nat
  | marshal (.copy output _ _) => some output
  | marshal (.collect output _ _) => some output
  | _ => none

end Statement

/-- The number of outputs that a binding binds. -/
def OutputBinding.count : OutputBinding → Nat
  | nothing => 0
  | one => 1
  | two => 2

/-! ## Printed bodies -/

/-- The lines of a body around its check and its call, and what stands in front of the call. -/
structure BodyLines where
  declarations : List String
  bindings : List String
  result : String
  outputs : List String

/-- A line that declares a namespace or an alias. -/
def IsDeclarationLine (line : String) : Prop :=
  ∃ rest, line = NativeFunction.margin ++ ("using namespace " ++ rest) ∨
    line = NativeFunction.margin ++ ("typedef boost::shared_ptr<" ++ rest)

/-- A line that binds an argument: it declares a local of the argument's name, and takes a value of
the argument's type from the input at a place. -/
def Argument.BoundBy (argument : Argument) (place : Nat) (line : String) : Prop :=
  ∃ declared taken ending : String,
    line = NativeFunction.margin ++ (declared ++ " " ++ argument.name ++ " = " ++ taken ++ "< " ++
      argument.type.cpp ++ " >(in[" ++ toString place ++ "]" ++ ending) ∧
    taken ∈ ["unwrap", "unwrap_shared_ptr", "*unwrap_shared_ptr"] ∧
    ending ∈ [");", ", \"ptr_" ++ argument.type.mangled ++ "\");"]

/-- The output that a line writes. -/
def writtenOutput? (line : String) : Option String :=
  (Text.between? (NativeFunction.margin ++ "out[") "" line).map fun rest =>
    String.ofList (rest.toList.takeWhile fun character => character ≠ ']')

/-- The lines of a body serve the calls of one overload: behind declarations, the number of
arguments is checked, each argument is bound to the input at its place, the method is called with
the arguments, and the outputs that the proxy binds are written. -/
structure BodyLines.Serve (parts : BodyLines) (block : List String) (naming : ClassNaming)
    (method : String) (arguments : List Argument) (binding : OutputBinding) : Prop where
  whole : block = "\x7b" :: (parts.declarations ++
    [NativeFunction.margin ++ ("checkArguments(\"" ++ naming.matlabName ++ "." ++ method ++
      "\",nargout,nargin," ++ toString arguments.length ++ ");")] ++
    parts.bindings ++
    [NativeFunction.margin ++ (parts.result ++ (naming.cppName ++ "::" ++ method ++ "(" ++
      String.intercalate ", " (arguments.map Argument.name) ++ ");"))] ++
    parts.outputs)
  declares : ∀ line ∈ parts.declarations, IsDeclarationLine line
  binds : List.Forall₂ (fun entry line => entry.1.BoundBy entry.2 line) arguments.zipIdx
    parts.bindings
  keeps : if binding = .nothing then parts.result = ""
    else ∃ type, parts.result = type ++ " " ++ resultLocal ++ " = "
  writes : parts.outputs.filterMap writtenOutput? = (List.range binding.count).map toString

/-- What a native function does for the calls of one overload: it checks their number of values,
binds each argument to the input at its place, calls the method with the arguments, and writes the
outputs that the proxy binds; and its lines do so, too. -/
structure NativeFunction.Serves (function : NativeFunction) (naming : ClassNaming)
    (method : String) (arguments : List Argument) (binding : OutputBinding) : Prop where
  checks : function.body.filterMap Statement.checkedCount? = [arguments.length]
  binds : function.body.filterMap Statement.bound? = arguments.zipIdx
  calls : ∃ resultType, function.body.filterMap Statement.called? =
    [{ resultType := resultType, callee := naming.cppName ++ "::" ++ method
       arguments := arguments }]
  writes : function.body.filterMap Statement.output? = List.range binding.count
  printed : ∃ parts : BodyLines, parts.Serve function.block naming method arguments binding

/-- Every returned value is written to the output at its place. -/
theorem Outcome.outputs_marshalling (outcome : Outcome) (result : String) :
    (((outcome.marshalling result).map Statement.marshal).filterMap Statement.output?) =
      List.range (OutputBinding.ofOutcome outcome).count := by
  have slotOutputs : ∀ (slot : ResultSlot) (expression : String) (output : Nat) (holder : String),
      ((slot.marshalling expression output holder).map Statement.marshal).filterMap
        Statement.output? = [output] := by
    intro slot expression output holder
    unfold ResultSlot.marshalling
    split
    · rfl
    · split <;> rfl
  cases outcome with
  | nothing => rfl
  | one slot => exact slotOutputs slot result 0 "ret"
  | two first second =>
    rw [Outcome.marshalling, List.map_append, List.filterMap_append, slotOutputs, slotOutputs]
    rfl

namespace NativeFunction

variable {β : Type} {read : Statement → Option β}

/-- Statements of a kind that is not read leave nothing. -/
theorem filterMap_map_unread {α : Type} {make : α → Statement}
    (unread : ∀ entry, read (make entry) = none) (entries : List α) :
    (entries.map make).filterMap read = [] := by
  apply List.filterMap_eq_nil_iff.2
  intro statement member
  obtain ⟨entry, _, rfl⟩ := List.mem_map.1 member
  exact unread entry

/-- The statements behind the declarations: the check, the bindings, the call and the outputs. -/
def callStatements (naming : ClassNaming) (method : String) (arguments : List Argument)
    (outcome : Outcome) : List Statement :=
  [.checkArguments (naming.matlabName ++ "." ++ method) arguments.length] ++
    (arguments.zipIdx.map fun entry => .bind entry.1 entry.2) ++
    [.call (callOf naming method arguments outcome)] ++
    (outcome.marshalling resultLocal).map .marshal

theorem body_ofOverload (config : Config) (naming : ClassNaming) (method symbol : String)
    (arguments : List Argument) (outcome : Outcome) :
    (ofOverload config naming method symbol arguments outcome).body =
      config.usingNamespaces.map .usingNamespace ++ aliasStatements naming outcome ++
        callStatements naming method arguments outcome := by
  simp only [ofOverload, callStatements, List.mapIdx_eq_zipIdx_map, List.append_assoc]

/-- Reading a body apart from its declarations: the check, the bindings, the call and the
outputs. -/
theorem filterMap_body (config : Config) (naming : ClassNaming) (method symbol : String)
    (arguments : List Argument) (outcome : Outcome)
    (namespaces : ∀ name, read (.usingNamespace name) = none)
    (pointers : ∀ cppType sharedAlias, read (.sharedPointer cppType sharedAlias) = none) :
    (ofOverload config naming method symbol arguments outcome).body.filterMap read =
      [Statement.checkArguments (naming.matlabName ++ "." ++ method) arguments.length].filterMap
          read ++
        (arguments.zipIdx.map fun entry => Statement.bind entry.1 entry.2).filterMap read ++
        [Statement.call (callOf naming method arguments outcome)].filterMap read ++
        ((outcome.marshalling resultLocal).map Statement.marshal).filterMap read := by
  have aliases : (aliasStatements naming outcome).filterMap read = [] := by
    rw [aliasStatements, List.filterMap_append, filterMap_map_unread fun _ => pointers _ _,
      List.nil_append, List.filterMap_cons_none (pointers _ _), List.filterMap_nil]
  simp only [body_ofOverload, callStatements, List.filterMap_append,
    filterMap_map_unread namespaces, aliases, List.nil_append]

/-- The line that binds an argument takes it from its input. -/
theorem boundBy_unwrapping (argument : Argument) (place : Nat) :
    argument.BoundBy place (margin ++ argument.unwrapping (Argument.input place)) := by
  have input : Argument.input place = "in[" ++ toString place ++ "]" := rfl
  have copied : argument.BoundBy place (margin ++ (argument.type.cpp ++ " " ++ argument.name ++
      " = unwrap< " ++ argument.type.cpp ++ " >(" ++ Argument.input place ++ ");")) := by
    refine ⟨argument.type.cpp, "unwrap", ");", ?_, by decide, List.mem_cons_self⟩
    simp [input, ← String.toList_inj]
  unfold Argument.unwrapping
  split
  · refine ⟨"boost::shared_ptr<" ++ argument.type.cpp ++ ">", "unwrap_shared_ptr",
      ", \"ptr_" ++ argument.type.mangled ++ "\");", ?_, by decide,
      List.mem_cons_of_mem _ List.mem_cons_self⟩
    simp [input, ← String.toList_inj]
  · split
    · exact copied
    · refine ⟨argument.type.cpp ++ "&", "*unwrap_shared_ptr",
        ", \"ptr_" ++ argument.type.mangled ++ "\");", ?_, by decide,
        List.mem_cons_of_mem _ List.mem_cons_self⟩
      simp [input, ← String.toList_inj]
  · exact copied

/-- The lines that bind the arguments, in order. -/
theorem forall₂_boundBy (arguments : List Argument) (first : Nat) :
    List.Forall₂ (fun entry line => entry.1.BoundBy entry.2 line) (arguments.zipIdx first)
      ((arguments.zipIdx first).map fun entry =>
        margin ++ entry.1.unwrapping (Argument.input entry.2)) := by
  rw [List.forall₂_map_right_iff]
  exact List.forall₂_same.2 fun entry _ => boundBy_unwrapping entry.1 entry.2

theorem writtenOutput?_output (output : Nat) (rest : String) :
    writtenOutput? (margin ++ (Marshalling.outputText output ++ rest)) =
      some (toString output) := by
  have inner : Text.between? (margin ++ "out[") ""
      (margin ++ (Marshalling.outputText output ++ rest)) =
        some (toString output ++ "]" ++ rest) := by
    rw [Text.between?_eq_some_iff]
    simp [Marshalling.outputText, ← String.toList_inj]
  have digits : ∀ character ∈ (toString output).toList, character ≠ ']' := by
    rintro character member rfl
    have digit := Text.isDigit_of_mem_toString member
    exact absurd digit (by decide)
  have bracket : "]".toList = [']'] := by decide
  rw [writtenOutput?, inner, Option.map_some, String.toList_append, String.toList_append,
    List.append_assoc, List.takeWhile_append_of_pos (by simpa using digits), bracket,
    List.cons_append, List.takeWhile_cons_of_neg (by simp), List.append_nil, String.ofList_toList]

/-- Moving one value writes the output at its place, and no other line does. -/
theorem filterMap_writtenOutput? (slot : ResultSlot) (expression : String) (output : Nat)
    (holder : String) :
    ((slot.marshalling expression output holder).map fun marshalling =>
      margin ++ marshalling.text).filterMap writtenOutput? = [toString output] := by
  have aliased : ∀ rest : String, writtenOutput? (margin ++ (slot.sharedAlias ++ rest)) = none := by
    intro rest
    have unread : Text.between? (margin ++ "out[") "" (margin ++ (slot.sharedAlias ++ rest)) =
        none := by
      refine Text.between?_eq_none_iff.2 fun inner same => ?_
      simp [margin, ResultSlot.sharedAlias, ← String.toList_inj] at same
    rw [writtenOutput?, unread]
    rfl
  have collected : ∀ rest : String, writtenOutput? (margin ++
      (Marshalling.outputText output ++ rest)) = some (toString output) :=
    writtenOutput?_output output
  unfold ResultSlot.marshalling
  split
  · simp [Marshalling.text, String.append_assoc, aliased, collected]
  · split
    · simp [Marshalling.text, String.append_assoc, aliased, collected]
    · simp [Marshalling.text, String.append_assoc, collected]

/-- The lines of a body, in their parts. -/
def bodyLines (config : Config) (naming : ClassNaming) (arguments : List Argument)
    (outcome : Outcome) : BodyLines where
  declarations := (config.usingNamespaces.map Statement.usingNamespace ++
    aliasStatements naming outcome).map fun statement => margin ++ statement.text
  bindings := arguments.zipIdx.map fun entry =>
    margin ++ entry.1.unwrapping (Argument.input entry.2)
  result := if outcome = .nothing then "" else outcome.cppType ++ " " ++ resultLocal ++ " = "
  outputs := (outcome.marshalling resultLocal).map fun marshalling => margin ++ marshalling.text

/-- The lines in front of the check declare namespaces and aliases. -/
theorem isDeclarationLine_of_mem {config : Config} {naming : ClassNaming}
    {arguments : List Argument} {outcome : Outcome} {line : String}
    (member : line ∈ (bodyLines config naming arguments outcome).declarations) :
    IsDeclarationLine line := by
  obtain ⟨statement, listed, rfl⟩ := List.mem_map.1 member
  have pointer : ∀ cppType sharedAlias, IsDeclarationLine (margin ++
      (Statement.sharedPointer cppType sharedAlias).text) := by
    intro cppType sharedAlias
    have written : (Statement.sharedPointer cppType sharedAlias).text =
        "typedef boost::shared_ptr<" ++ cppType ++ "> " ++ sharedAlias ++ ";" := rfl
    exact ⟨cppType ++ "> " ++ sharedAlias ++ ";",
      .inr (by simp only [written, String.append_assoc])⟩
  rcases List.mem_append.1 listed with inside | aliased
  · obtain ⟨name, _, rfl⟩ := List.mem_map.1 inside
    have written : (Statement.usingNamespace name).text = "using namespace " ++ name ++ ";" := rfl
    exact ⟨name ++ ";", .inl (by rw [written, String.append_assoc])⟩
  · rcases List.mem_append.1 aliased with handled | own
    · obtain ⟨slot, _, rfl⟩ := List.mem_map.1 handled
      exact pointer _ _
    · rw [List.mem_singleton.1 own]
      exact pointer _ _

/-- The call with its arguments, behind the local that keeps the result, if there is any. -/
theorem text_callOf (naming : ClassNaming) (method : String) (arguments : List Argument)
    (outcome : Outcome) :
    (Statement.call (callOf naming method arguments outcome)).text =
      (if outcome = .nothing then "" else outcome.cppType ++ " " ++ resultLocal ++ " = ") ++
        (naming.cppName ++ "::" ++ method ++ "(" ++
          String.intercalate ", " (arguments.map Argument.name) ++ ");") := by
  have called : (Statement.call (callOf naming method arguments outcome)).text =
      (callOf naming method arguments outcome).text := rfl
  rw [called]
  unfold callOf NativeCall.text Argument.callList
  split <;> simp_all

theorem text_checkArguments (matlabClass method : String) (count : Nat) :
    (Statement.checkArguments (matlabClass ++ "." ++ method) count).text =
      "checkArguments(\"" ++ matlabClass ++ "." ++ method ++ "\",nargout,nargin," ++
        toString count ++ ");" := by
  have written : (Statement.checkArguments (matlabClass ++ "." ++ method) count).text =
      "checkArguments(\"" ++ (matlabClass ++ "." ++ method) ++ "\",nargout,nargin," ++
        toString count ++ ");" := rfl
  rw [written, ← String.append_assoc, ← String.append_assoc]

theorem bodyLines_serve (config : Config) (naming : ClassNaming) (method symbol : String)
    (arguments : List Argument) (outcome : Outcome) :
    (bodyLines config naming arguments outcome).Serve
      (ofOverload config naming method symbol arguments outcome).block naming method arguments
      (.ofOutcome outcome) where
  whole := by
    rw [block, body_ofOverload, callStatements]
    simp only [List.map_append, List.map_singleton, List.map_map, List.append_assoc,
      text_checkArguments, text_callOf]
    simp only [bodyLines, List.map_append, List.map_map, List.append_assoc]
    rfl
  declares _ := isDeclarationLine_of_mem
  binds := forall₂_boundBy arguments 0
  keeps := by
    cases outcome with
    | nothing => rfl
    | one slot => exact ⟨_, rfl⟩
    | two first second => exact ⟨_, rfl⟩
  writes := by
    cases outcome with
    | nothing => rfl
    | one slot => exact filterMap_writtenOutput? slot _ _ _
    | two first second =>
      have parts : (bodyLines config naming arguments (.two first second)).outputs =
          (first.marshalling (resultLocal ++ ".first") 0 "ret0").map
              (fun marshalling => margin ++ marshalling.text) ++
            (second.marshalling (resultLocal ++ ".second") 1 "ret1").map
              fun marshalling => margin ++ marshalling.text := List.map_append
      rw [parts, List.filterMap_append, filterMap_writtenOutput?, filterMap_writtenOutput?]
      rfl

/-- **The native function of an overload serves its calls.** -/
theorem serves_ofOverload (config : Config) (naming : ClassNaming) (method symbol : String)
    (arguments : List Argument) (outcome : Outcome) :
    (ofOverload config naming method symbol arguments outcome).Serves naming method arguments
      (.ofOutcome outcome) := by
  refine ⟨?checks, ?binds, ⟨if outcome = .nothing then none else some outcome.cppType, ?calls⟩,
    ?writes, ⟨_, bodyLines_serve config naming method symbol arguments outcome⟩⟩
  case checks =>
    rw [filterMap_body _ _ _ _ _ _ (fun _ => rfl) fun _ _ => rfl,
      filterMap_map_unread fun _ => rfl, filterMap_map_unread fun _ => rfl]
    rfl
  case binds =>
    have bound : (arguments.zipIdx.map fun entry => Statement.bind entry.1 entry.2).filterMap
        Statement.bound? = arguments.zipIdx := by
      rw [List.filterMap_map]
      exact List.filterMap_some
    rw [filterMap_body _ _ _ _ _ _ (fun _ => rfl) fun _ _ => rfl, bound,
      filterMap_map_unread fun _ => rfl]
    exact (List.append_nil _).trans (List.append_nil _)
  case calls =>
    rw [filterMap_body _ _ _ _ _ _ (fun _ => rfl) fun _ _ => rfl,
      filterMap_map_unread fun _ => rfl, filterMap_map_unread fun _ => rfl]
    rfl
  case writes =>
    rw [filterMap_body _ _ _ _ _ _ (fun _ => rfl) fun _ _ => rfl,
      filterMap_map_unread fun _ => rfl, outcome.outputs_marshalling]
    rfl

end NativeFunction

end MexBridge
