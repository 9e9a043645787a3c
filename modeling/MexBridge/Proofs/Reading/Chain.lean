import MexBridge.Proofs.Reading.Condition
import MexBridge.Proofs.Reading.Proxy
import MexBridge.Proofs.Reading.Wrapper

/-!
# Reading the branches of a proxy

What a call comes to is decided by the lines of a function: `if` and `elseif` with a condition each
and a call behind it, and `else` with the line that is left.  `Chain.read?` reads these lines, and
`ClassFile.chains` lists the functions in some lines with what was read of each.  `Chain.Takes` says
which branch a call takes, by nothing but the conditions that were read.

Read back, a class file shows its functions with their conditions and calls (`chains_lines`), and so
does a single function among other lines (`chains_function`).
-/

set_option autoImplicit false

namespace MexBridge

universe u

/-- A branch as its lines show it: the condition, and the binding and the number of the call. -/
structure ShownBranch where
  condition : String
  binding : OutputBinding
  id : String
  deriving DecidableEq

/-- The branches of a function as its lines show them, and the line that is left when no condition
holds. -/
structure Chain where
  branches : List ShownBranch
  otherwise : String
  deriving DecidableEq

namespace Chain

/-- The branches from a keyword on, each of two lines, up to the branch without a condition. -/
def read? (wrapperName : String) : String → List String → Option Chain
  | keyword, heading :: action :: rest =>
    match Text.between? (keyword ++ " ") "" heading with
    | some condition => do
      let (binding, id) ← ProxyMark.called? wrapperName action
      let later ← read? wrapperName "elseif" rest
      return { later with branches := ⟨condition, binding, id⟩ :: later.branches }
    | none =>
      if keyword = "elseif" ∧ heading = "else" ∧ rest.head? = some "end" then some ⟨[], action⟩
      else none
  | _, _ => none

/-- The first branch whose condition holds, and its position. -/
structure Takes {Value : Type u} (chain : Chain) (isa : Value → String → Prop)
    (values : List Value) (position : Nat) (branch : ShownBranch) : Prop where
  listed : chain.branches[position]? = some branch
  holds : Condition.Holds isa values branch.condition
  first : ∀ earlier < position, ∀ other, chain.branches[earlier]? = some other →
    ¬ Condition.Holds isa values other.condition

end Chain

namespace ClassFile

/-- The name of the function that a line opens. -/
def functionName? (wrapperName content : String) : Option String :=
  match ProxyMark.read? wrapperName content with
  | some (.function name) => some name
  | _ => none

/-- The functions in some lines, each with the branches that are read from its heading on. -/
def chains (wrapperName : String) (lines : List String) : List (String × Option Chain) :=
  Wrapper.sections (functionName? wrapperName) (Chain.read? wrapperName "if")
    (lines.map Text.unindented)

end ClassFile

/-- What the lines of a branch show. -/
def ProxyBranch.shown (branch : ProxyBranch) : ShownBranch where
  condition := branchCondition branch.tags
  binding := branch.binding
  id := toString branch.id

/-- What the lines of a function show. -/
def ProxyFunction.chain (function : ProxyFunction) : Chain where
  branches := function.branches.map ProxyBranch.shown
  otherwise := "error('Arguments do not match any overload of function " ++
    function.matlabClass ++ "." ++ function.name ++ "');"

/-! ## Functions -/

namespace ProxyFunction

/-- The contents of the lines of some branches. -/
def branchContents (wrapperName : String) (branches : List (ProxyBranch × Nat)) : List String :=
  branches.flatMap fun (branch, position) =>
    [keyword position ++ " " ++ branchCondition branch.tags, branch.call wrapperName]

/-- The contents of a function behind its heading. -/
def innerContents (wrapperName : String) (function : ProxyFunction) : List String :=
  branchContents wrapperName (function.branches.zipIdx 0) ++
    ["else", function.chain.otherwise, "end", "end"]

theorem map_content_nestedLines (wrapperName : String) (function : ProxyFunction) (level : Int) :
    (function.nestedLines wrapperName level).map NestedLine.content =
      ("function varargout = " ++ function.name ++ "(varargin)") ::
        function.innerContents wrapperName := by
  have branches : (function.branchLines wrapperName level).map NestedLine.content =
      branchContents wrapperName (function.branches.zipIdx 0) := by
    rw [branchLines, List.mapIdx_eq_zipIdx_map, List.map_flatten, List.map_map, branchContents,
      List.flatMap_def]
    rfl
  rw [nestedLines, List.map_append, List.map_cons, branches]
  rfl

end ProxyFunction

variable {wrapperName : String}

open ProxyFunction (branchContents innerContents)

/-- **Branches are read as their conditions and calls**, up to the line that is left. -/
theorem Chain.read?_branches (leads : Name.LeadsWithWord wrapperName) (action : String)
    (rest : List String) {branches : List ProxyBranch} {position : Nat}
    (branched : position = 0 → branches ≠ []) :
    read? wrapperName (ProxyFunction.keyword position)
        (branchContents wrapperName (branches.zipIdx position) ++
          "else" :: action :: "end" :: rest) =
      some ⟨branches.map ProxyBranch.shown, action⟩ := by
  induction branches generalizing position with
  | nil =>
    have behind : ProxyFunction.keyword position = "elseif" :=
      if_neg fun opening => branched opening rfl
    have unread : Text.between? ("elseif" ++ " ") "" "else" = none := by decide
    rw [behind]
    show read? wrapperName "elseif" ("else" :: action :: "end" :: rest) = _
    rw [read?, unread]
    exact if_pos ⟨rfl, rfl, rfl⟩
  | cons branch others ih =>
    have behind : ProxyFunction.keyword (position + 1) = "elseif" :=
      if_neg (Nat.succ_ne_zero position)
    have later := @ih (position + 1) fun opening => absurd opening (Nat.succ_ne_zero position)
    rw [behind] at later
    have condition : Text.between? (ProxyFunction.keyword position ++ " ") ""
        (ProxyFunction.keyword position ++ " " ++ branchCondition branch.tags) =
          some (branchCondition branch.tags) :=
      Text.between?_eq_some_iff.2 String.append_empty.symm
    show read? wrapperName _ ((ProxyFunction.keyword position ++ " " ++
      branchCondition branch.tags) :: branch.call wrapperName ::
        (branchContents wrapperName (others.zipIdx (position + 1)) ++
          "else" :: action :: "end" :: rest)) = _
    rw [read?, condition]
    simp only [ProxyMark.called?_call leads, later]
    rfl

namespace ClassFile

theorem functionName?_function (name : String) :
    functionName? wrapperName ("function varargout = " ++ name ++ "(varargin)") = some name := by
  rw [functionName?, ProxyMark.read?_function]

theorem functionName?_of_read? {content : String} {mark : Option ProxyMark}
    (read : ProxyMark.read? wrapperName content = mark)
    (other : ∀ name : String, mark ≠ some (.function name)) :
    functionName? wrapperName content = none := by
  rw [functionName?, read]
  split
  · next name => exact absurd rfl (other name)
  · rfl

/-- Behind its heading a function opens no other one. -/
theorem functionName?_of_mem_innerContents (leads : Name.LeadsWithWord wrapperName)
    {function : ProxyFunction} {content : String}
    (member : content ∈ function.innerContents wrapperName) :
    functionName? wrapperName content = none := by
  rcases List.mem_append.1 member with inside | closing
  · obtain ⟨⟨branch, position⟩, _, written⟩ := List.mem_flatMap.1 inside
    rcases List.mem_pair.1 written with rfl | rfl
    · refine functionName?_of_read? (ProxyMark.read?_test position _) fun name => ?_
      split <;> exact nofun
    · exact functionName?_of_read? (ProxyMark.read?_call leads branch) fun _ => nofun
  · simp only [List.mem_cons, List.not_mem_nil, or_false] at closing
    rcases closing with rfl | rfl | rfl | rfl
    · exact functionName?_of_read? ProxyMark.read?_otherwise fun _ => nofun
    · exact functionName?_of_read? (ProxyMark.read?_overloadError _ _) fun _ => nofun
    · exact functionName?_of_read? (ProxyMark.read?_end leads) fun _ => nofun
    · exact functionName?_of_read? (ProxyMark.read?_end leads) fun _ => nofun

/-- **A function is read as its name and its branches**, whatever stands behind it. -/
theorem sections_function (leads : Name.LeadsWithWord wrapperName) {function : ProxyFunction}
    (branched : function.branches ≠ []) (level : Int) (rest : List String) :
    Wrapper.sections (functionName? wrapperName) (Chain.read? wrapperName "if")
        ((function.nestedLines wrapperName level).map NestedLine.content ++ rest) =
      (function.name, some function.chain) ::
        Wrapper.sections (functionName? wrapperName) (Chain.read? wrapperName "if") rest := by
  have chain : Chain.read? wrapperName "if" (function.innerContents wrapperName ++ rest) =
      some function.chain := by
    have whole : function.innerContents wrapperName ++ rest =
        branchContents wrapperName (function.branches.zipIdx 0) ++
          "else" :: function.chain.otherwise :: "end" :: "end" :: rest := by
      rw [innerContents, List.append_assoc]
      rfl
    have opening : ProxyFunction.keyword 0 = "if" := rfl
    have read := @Chain.read?_branches wrapperName leads function.chain.otherwise ("end" :: rest)
      function.branches 0 fun _ => branched
    rw [opening] at read
    rw [whole, read]
    rfl
  have inner : ∀ content ∈ function.innerContents wrapperName,
      functionName? wrapperName content = none :=
    fun _ => functionName?_of_mem_innerContents leads
  rw [ProxyFunction.map_content_nestedLines, List.cons_append,
    Wrapper.sections_cons_of_some (functionName?_function _), chain,
    Wrapper.sections_append inner]

/-- A function that stands alone is read as its name and its branches. -/
theorem chains_function {settings : Settings} {config : Config}
    (accepted : settings.resolve = .ok config) {function : ProxyFunction}
    (branched : function.branches ≠ []) (level : Int) :
    chains config.wrapperName (function.lines config level) =
      [(function.name, some function.chain)] := by
  have leads := Settings.leadsWithWord_wrapperName accepted
  have alone := sections_function leads branched level []
  rw [chains, ProxyFunction.lines,
    unindented_map_text accepted fun _ => NestedLine.flush_function leads]
  rwa [List.append_nil] at alone

theorem sections_furtherLines (leads : Name.LeadsWithWord wrapperName)
    {functions : List ProxyFunction} (branched : ∀ function ∈ functions, function.branches ≠ [])
    (rest : List String) :
    Wrapper.sections (functionName? wrapperName) (Chain.read? wrapperName "if")
        ((furtherLines wrapperName functions).map NestedLine.content ++ rest) =
      functions.map (fun function => (function.name, some function.chain)) ++
        Wrapper.sections (functionName? wrapperName) (Chain.read? wrapperName "if") rest := by
  induction functions with
  | nil => rfl
  | cons function others ih =>
    obtain ⟨own, later⟩ := List.forall_mem_cons.1 branched
    have separated : functionName? wrapperName separator.content = none :=
      functionName?_of_read? (ProxyMark.read?_empty leads) fun _ => nofun
    have whole : (furtherLines wrapperName (function :: others)).map NestedLine.content ++ rest =
        [separator.content] ++ ((function.nestedLines wrapperName functionLevel).map
          NestedLine.content ++
            ((furtherLines wrapperName others).map NestedLine.content ++ rest)) := by
      simp [furtherLines]
    rw [whole, Wrapper.sections_append (by simpa using separated), sections_function leads own,
      ih later]
    rfl

/-- **A class file shows its functions with their branches**, in order. -/
theorem chains_lines {settings : Settings} {config : Config}
    (accepted : settings.resolve = .ok config) (naming : ClassNaming)
    {functions : List ProxyFunction}
    (branched : ∀ function ∈ functions, function.branches ≠ []) :
    chains config.wrapperName (lines config naming functions) =
      functions.map fun function => (function.name, some function.chain) := by
  have leads := Settings.leadsWithWord_wrapperName accepted
  have header : ∀ content ∈ (header naming).map NestedLine.content,
      functionName? config.wrapperName content = none := by
    intro content member
    rcases List.mem_pair.1 member with rfl | rfl
    · rw [String.append_assoc, String.append_assoc]
      exact functionName?_of_read? (ProxyMark.read?_comment leads _) fun _ => nofun
    · rw [String.append_assoc]
      exact functionName?_of_read? (ProxyMark.read?_classdef leads _) fun _ => nofun
  have ending : functionName? config.wrapperName "end" = none :=
    functionName?_of_read? (ProxyMark.read?_end leads) fun _ => nofun
  rw [chains, lines, unindented_map_text accepted fun _ => NestedLine.flush_classFile leads,
    nestedLines, List.append_assoc, List.map_append, Wrapper.sections_append header]
  cases functions with
  | nil => exact Wrapper.sections_of_forall_none (by simpa [blockLines, closing] using ending)
  | cons first rest =>
    obtain ⟨own, others⟩ := List.forall_mem_cons.1 branched
    have opening : functionName? config.wrapperName blockOpening.content = none :=
      functionName?_of_read? ProxyMark.read?_blockOpening fun _ => nofun
    have whole : (blockLines config.wrapperName (first :: rest) ++ [closing]).map
        NestedLine.content = [blockOpening.content] ++
          ((first.nestedLines config.wrapperName functionLevel).map NestedLine.content ++
            ((furtherLines config.wrapperName rest).map NestedLine.content ++ ["end", "end"])) := by
      simp [blockLines, blockClosing, closing]
    rw [whole, Wrapper.sections_append (by simpa using opening), sections_function leads own,
      sections_furtherLines leads others,
      Wrapper.sections_of_forall_none (by simpa using ending), List.append_nil]
    rfl

end ClassFile

end MexBridge
