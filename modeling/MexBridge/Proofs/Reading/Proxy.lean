import MexBridge.Proofs.Emission.ClassFiles
import MexBridge.Proofs.Name.LeadingWord

/-!
# Reading a class file

A class file is read line by line, without the blanks in front of the lines and without regard to
how they were written.  A line can open a function, open a branch, or call the wrapper; a
`ProxyMark` says which, with the name of the function or the number of the call, and
`ClassFile.marks` lists the marks of a file.

Read back, a class file shows for each function its name, then a test and a call for each branch in
order, and then the branch without a test (`marks_lines`).  The wrapper's name is arbitrary as far
as settings are accepted, so it can be a word of the proxy language itself; a call is still told
apart, by the character behind its first word.
-/

set_option autoImplicit false

namespace MexBridge

/-- What a line of a class file says about the order of a call. -/
inductive ProxyMark
  /-- A function is opened. -/
  | function (name : String)
  /-- The first test. -/
  | first
  /-- A further test. -/
  | further
  /-- The branch without a test. -/
  | otherwise
  /-- The wrapper is called with a number. -/
  | call (id : String)
  deriving DecidableEq

namespace ProxyMark

/-- The binding and the number with which a line calls the wrapper. -/
def called? (wrapperName content : String) : Option (OutputBinding × String) :=
  [OutputBinding.nothing, .one, .two].findSome? fun binding =>
    (Text.between? (binding.text ++ wrapperName ++ "(") ", varargin\x7b:\x7d);" content).map
      (binding, ·)

/-- The number with which a line calls the wrapper. -/
def calledId? (wrapperName content : String) : Option String :=
  (called? wrapperName content).map Prod.snd

/-- The mark of a line without its indentation. -/
def read? (wrapperName content : String) : Option ProxyMark :=
  [(Text.between? "function varargout = " "(varargin)" content).map function,
    (Text.between? "if " "" content).map fun _ => first,
    (Text.between? "elseif " "" content).map fun _ => further,
    if content = "else" then some otherwise else none,
    (calledId? wrapperName content).map call].findSome? id

/-- Whether a mark opens a function or a branch. -/
def isHeading : ProxyMark → Bool
  | call _ => false
  | _ => true

/-- The number of a call. -/
def id? : ProxyMark → Option String
  | call id => some id
  | _ => none

end ProxyMark

namespace ClassFile

/-- The marks of the lines of a class file, in order. -/
def marks (wrapperName : String) (lines : List String) : List ProxyMark :=
  lines.filterMap fun line => ProxyMark.read? wrapperName (Text.unindented line)

end ClassFile

/-- The marks of a function: its name, a test and a call for each branch, and the last branch. -/
def ProxyFunction.marks (function : ProxyFunction) : List ProxyMark :=
  .function function.name ::
    (function.branches.mapIdx fun position branch =>
      [if position = 0 then .first else .further, .call (toString branch.id)]).flatten ++
    [.otherwise]

namespace ProxyMark

variable {wrapperName : String}

/-! ## Lines that say nothing -/

/-- A line is no heading if it has no space behind its first word and is not the single word. -/
theorem read?_of_afterWord {content : String} (space : Name.afterWord content ≠ some ' ')
    (other : content ≠ "else") :
    read? wrapperName content = (calledId? wrapperName content).map call := by
  have function : Text.between? "function varargout = " "(varargin)" content = none :=
    Name.between?_of_afterWord (by decide) space
  have opening : Text.between? "if " "" content = none :=
    Name.between?_of_afterWord (by decide) space
  have alternative : Text.between? "elseif " "" content = none :=
    Name.between?_of_afterWord (by decide) space
  simp [read?, function, opening, alternative, other]

/-- The characters that can stand behind the first word of a call. -/
def callSigns : OutputBinding → List Char
  | .nothing => ['(', '\n']
  | .one => ['\x7b']
  | .two => ['[']

/-- The bindings are told apart by these characters. -/
theorem callSigns_disjoint {first second : OutputBinding} {sign : Char}
    (here : sign ∈ callSigns first) (there : sign ∈ callSigns second) : first = second := by
  cases first <;> cases second <;> first | rfl | skip
  all_goals
    simp only [callSigns, List.mem_cons, List.not_mem_nil, or_false] at here there
    grind

theorem afterWord_opening (leads : Name.LeadsWithWord wrapperName) (binding : OutputBinding) :
    ∃ sign ∈ callSigns binding,
      Name.afterWord (binding.text ++ wrapperName ++ "(") = some sign := by
  cases binding with
  | nothing =>
    have text : OutputBinding.nothing.text ++ wrapperName = wrapperName := String.empty_append
    rw [text]
    rcases leads.afterWord_append "(" '(' (by decide) (by decide) with
      sign | sign
    · exact ⟨'(', by decide, sign⟩
    · exact ⟨'\n', by decide, sign⟩
  | one =>
    have sign : Name.afterWord OutputBinding.one.text = some '\x7b' := by decide
    refine ⟨'\x7b', by decide, ?_⟩
    exact Name.afterWord_append (Name.afterWord_append sign)
  | two =>
    have sign : Name.afterWord OutputBinding.two.text = some '[' := by decide
    refine ⟨'[', by decide, ?_⟩
    exact Name.afterWord_append (Name.afterWord_append sign)

theorem call_eq (branch : ProxyBranch) :
    branch.call wrapperName = branch.binding.text ++ wrapperName ++ "(" ++ toString branch.id ++
      ", varargin\x7b:\x7d);" := rfl

/-- Behind the first word of a call stands a character of its binding. -/
theorem afterWord_call (leads : Name.LeadsWithWord wrapperName) (branch : ProxyBranch) :
    ∃ sign ∈ callSigns branch.binding, Name.afterWord (branch.call wrapperName) = some sign := by
  obtain ⟨sign, member, found⟩ := afterWord_opening leads branch.binding
  refine ⟨sign, member, ?_⟩
  rw [call_eq, String.append_assoc]
  exact Name.afterWord_append found

/-- A line is no call if another character stands behind its first word. -/
theorem between?_call_of_afterWord (leads : Name.LeadsWithWord wrapperName)
    {binding : OutputBinding} {content : String}
    (other : ∀ sign ∈ callSigns binding, Name.afterWord content ≠ some sign) :
    Text.between? (binding.text ++ wrapperName ++ "(") ", varargin\x7b:\x7d);" content = none := by
  obtain ⟨sign, member, found⟩ := afterWord_opening leads binding
  exact Name.between?_of_afterWord found (other sign member)

theorem called?_eq_none {content : String}
    (unread : ∀ binding : OutputBinding, Text.between? (binding.text ++ wrapperName ++ "(")
      ", varargin\x7b:\x7d);" content = none) : called? wrapperName content = none := by
  refine List.findSome?_eq_none_iff.2 fun binding _ => ?_
  rw [unread binding]
  rfl

theorem calledId?_eq_none {content : String}
    (unread : ∀ binding : OutputBinding, Text.between? (binding.text ++ wrapperName ++ "(")
      ", varargin\x7b:\x7d);" content = none) : calledId? wrapperName content = none := by
  rw [calledId?, called?_eq_none unread]
  rfl

theorem calledId?_of_afterWord (leads : Name.LeadsWithWord wrapperName) {content : String}
    (other : ∀ sign, Name.afterWord content = some sign → sign ∉ ['(', '\n', '\x7b', '[']) :
    calledId? wrapperName content = none := by
  refine calledId?_eq_none fun binding =>
    between?_call_of_afterWord leads fun sign member found => other sign found ?_
  cases binding <;> simp_all [callSigns]

/-- Of the bindings, the one is found under which something is read. -/
theorem findSome?_bindings {β : Type} {read : OutputBinding → Option β}
    (binding : OutputBinding) {entry : β} (own : read binding = some entry)
    (others : ∀ other, other ≠ binding → read other = none) :
    [OutputBinding.nothing, .one, .two].findSome? read = some entry := by
  cases binding with
  | nothing => simp [own]
  | one => simp [own, others .nothing nofun]
  | two => simp [own, others .nothing nofun, others .one nofun]

/-- **A call is read as its binding and its number.** -/
theorem called?_call (leads : Name.LeadsWithWord wrapperName) (branch : ProxyBranch) :
    called? wrapperName (branch.call wrapperName) =
      some (branch.binding, toString branch.id) := by
  obtain ⟨sign, member, after⟩ := afterWord_call leads branch
  refine findSome?_bindings branch.binding ?own ?others
  case own =>
    rw [call_eq, Text.between?_append]
    rfl
  case others =>
    intro binding different
    rw [between?_call_of_afterWord leads fun mark memberOther same => ?_]
    · rfl
    · rw [after, Option.some.injEq] at same
      subst same
      exact different (callSigns_disjoint memberOther member)

theorem calledId?_call (leads : Name.LeadsWithWord wrapperName) (branch : ProxyBranch) :
    calledId? wrapperName (branch.call wrapperName) = some (toString branch.id) := by
  rw [calledId?, called?_call leads]
  rfl

/-! ## The lines of a class file -/

theorem read?_function (name : String) :
    read? wrapperName ("function varargout = " ++ name ++ "(varargin)") =
      some (.function name) := by
  simp [read?]

/-- A test is read by its first word, which tells the first one from the further ones. -/
theorem read?_test (position : Nat) (condition : String) :
    read? wrapperName (ProxyFunction.keyword position ++ " " ++ condition) =
      some (if position = 0 then .first else .further) := by
  by_cases opening : position = 0
  · have content : ProxyFunction.keyword position ++ " " ++ condition =
        "if " ++ condition ++ "" := by
      rw [ProxyFunction.keyword, if_pos opening, String.append_empty]
      rfl
    have function : Text.between? "function varargout = " "(varargin)" ("if " ++ condition ++ "") =
        none := Text.between?_of_head 'f' (by decide) (by simp)
    rw [content, if_pos opening]
    simp only [read?, function, Text.between?_append]
    rfl
  · have content : ProxyFunction.keyword position ++ " " ++ condition =
        "elseif " ++ condition ++ "" := by
      rw [ProxyFunction.keyword, if_neg opening, String.append_empty]
      rfl
    have function : Text.between? "function varargout = " "(varargin)"
        ("elseif " ++ condition ++ "") = none :=
      Text.between?_of_head 'f' (by decide) (by simp)
    have first : Text.between? "if " "" ("elseif " ++ condition ++ "") = none :=
      Text.between?_of_head 'i' (by decide) (by simp)
    rw [content, if_neg opening]
    simp only [read?, function, first, Text.between?_append]
    rfl

theorem read?_otherwise : read? wrapperName "else" = some .otherwise := by
  have function : Text.between? "function varargout = " "(varargin)" "else" = none := by decide
  have opening : Text.between? "if " "" "else" = none := by decide
  have alternative : Text.between? "elseif " "" "else" = none := by decide
  simp [read?, function, opening, alternative]

theorem read?_call (leads : Name.LeadsWithWord wrapperName) (branch : ProxyBranch) :
    read? wrapperName (branch.call wrapperName) = some (.call (toString branch.id)) := by
  obtain ⟨sign, member, after⟩ := afterWord_call leads branch
  rw [read?_of_afterWord, calledId?_call leads]
  · rfl
  · rw [after]
    rintro ⟨⟩
    revert member
    cases branch.binding <;> decide
  · intro word
    rw [word] at after
    exact absurd after (by simp [show Name.afterWord "else" = none by decide])

/-- A line without a mark character behind its first word is not read. -/
theorem read?_eq_none (leads : Name.LeadsWithWord wrapperName) {content : String}
    (other : ∀ sign, Name.afterWord content = some sign →
      sign ∉ [' ', '(', '\n', '\x7b', '[']) (different : content ≠ "else") :
    read? wrapperName content = none := by
  rw [read?_of_afterWord _ different, calledId?_of_afterWord leads]
  · rfl
  · intro sign found member
    exact other sign found (List.mem_cons_of_mem _ member)
  · intro found
    exact other ' ' found (by decide)

/-- The line of an error is no call, even of a wrapper with that name. -/
theorem read?_error (message : String) :
    read? wrapperName ("error('" ++ message ++ "');") = none := by
  have sign : Name.afterWord ("error('" ++ message ++ "');") = some '(' :=
    Name.afterWord_append (Name.afterWord_append (by decide))
  rw [read?_of_afterWord]
  · have uncalled : calledId? wrapperName ("error('" ++ message ++ "');") = none :=
      calledId?_eq_none fun _ =>
        Text.between?_of_tail ", varargin\x7b:" "\x7d);" (by decide) (by decide)
    rw [uncalled]
    rfl
  · rw [sign]
    decide
  · intro word
    rw [word] at sign
    exact absurd sign (by decide)

theorem read?_overloadError (matlabClass name : String) :
    read? wrapperName ("error('Arguments do not match any overload of function " ++ matlabClass ++
      "." ++ name ++ "');") = none := by
  have message : "error('Arguments do not match any overload of function " ++ matlabClass ++
      "." ++ name ++ "');" = "error('" ++ ("Arguments do not match any overload of function " ++
        matlabClass ++ "." ++ name) ++ "');" := by
    simp only [← String.append_assoc]
    rfl
  rw [message]
  exact read?_error _

theorem read?_comment (leads : Name.LeadsWithWord wrapperName) (text : String) :
    read? wrapperName ("%class " ++ text) = none := by
  have sign : Name.afterWord ("%class " ++ text) = some '%' := Name.afterWord_append (by decide)
  refine read?_eq_none leads (fun other found => ?_) (fun word => ?_)
  · rw [sign] at found
    cases found
    decide
  · rw [word] at sign
    exact absurd sign (by decide)

/-- The line that opens a class has a space behind its first word, but is no heading. -/
theorem read?_classdef (leads : Name.LeadsWithWord wrapperName) (text : String) :
    read? wrapperName ("classdef " ++ text) = none := by
  have sign : Name.afterWord ("classdef " ++ text) = some ' ' :=
    Name.afterWord_append (by decide)
  have begins : ("classdef " ++ text).toList.head? = some 'c' := by
    simp
  have uncalled : calledId? wrapperName ("classdef " ++ text) =
      none := by
    refine calledId?_of_afterWord leads fun other found => ?_
    rw [sign] at found
    cases found
    decide
  have unread : ∀ opening closing : String, opening.toList.head? ∈ [some 'f', some 'i', some 'e'] →
      Text.between? opening closing ("classdef " ++ text) = none := by
    intro opening closing heads
    simp only [List.mem_cons, List.not_mem_nil, or_false] at heads
    rcases heads with head | head | head <;>
      exact Text.between?_of_head _ head (by rw [begins]; decide)
  have different : "classdef " ++ text ≠ "else" := by
    intro word
    rw [word] at sign
    exact absurd sign (by decide)
  simp only [read?, unread "function varargout = " "(varargin)" (by decide),
    unread "if " "" (by decide), unread "elseif " "" (by decide), if_neg different, uncalled]
  rfl

theorem read?_blockOpening :
    read? wrapperName ClassFile.blockOpening.content = none := by
  rw [read?_of_afterWord (by decide) (by decide)]
  have uncalled : calledId? wrapperName ClassFile.blockOpening.content = none :=
    calledId?_eq_none fun _ => Text.between?_of_last ';' (by decide) (by decide)
  rw [uncalled]
  rfl

theorem read?_eq_none_of_word (leads : Name.LeadsWithWord wrapperName) {content : String}
    (unsigned : Name.afterWord content = none) (different : content ≠ "else") :
    read? wrapperName content = none := by
  refine read?_eq_none leads (fun sign found => ?_) different
  rw [unsigned] at found
  cases found

theorem read?_end (leads : Name.LeadsWithWord wrapperName) : read? wrapperName "end" = none :=
  read?_eq_none_of_word leads (by decide) (by decide)

theorem read?_empty (leads : Name.LeadsWithWord wrapperName) : read? wrapperName "" = none :=
  read?_eq_none_of_word leads (by decide) (by decide)

/-- The marks of nested lines, which do not depend on the indentation. -/
def ofNested (wrapperName : String) (nested : List NestedLine) : List ProxyMark :=
  (nested.map NestedLine.content).filterMap (read? wrapperName)

theorem ofNested_append (earlier later : List NestedLine) :
    ofNested wrapperName (earlier ++ later) =
      ofNested wrapperName earlier ++ ofNested wrapperName later := by
  rw [ofNested, List.map_append, List.filterMap_append]
  rfl

/-- **A function is read as its name, its tests and its calls, and its last branch.** -/
theorem ofNested_function (leads : Name.LeadsWithWord wrapperName) (function : ProxyFunction)
    (level : Int) :
    ofNested wrapperName (function.nestedLines wrapperName level) = function.marks := by
  have branches : ofNested wrapperName (function.branchLines wrapperName level) =
      (function.branches.mapIdx fun position branch =>
        [if position = 0 then .first else .further, .call (toString branch.id)]).flatten := by
    rw [ofNested, ProxyFunction.branchLines, List.map_flatten, List.filterMap_flatten,
      List.mapIdx_eq_zipIdx_map, List.map_map, List.map_map, List.mapIdx_eq_zipIdx_map]
    refine congrArg _ (List.map_congr_left fun (branch, position) _ => ?_)
    change List.filterMap (read? wrapperName) [ProxyFunction.keyword position ++ " " ++
      branchCondition branch.tags, branch.call wrapperName] = _
    rw [List.filterMap_cons_some (read?_test position _),
      List.filterMap_cons_some (read?_call leads branch), List.filterMap_nil]
  have opening : ofNested wrapperName
      [⟨level, "function varargout = " ++ function.name ++ "(varargin)"⟩] =
        [.function function.name] :=
    List.filterMap_cons_some (read?_function function.name)
  have closing : ofNested wrapperName [⟨level + 1, "else"⟩,
      ⟨level + 2, "error('Arguments do not match any overload of function " ++
        function.matlabClass ++ "." ++ function.name ++ "');"⟩,
      ⟨level + 1, "end"⟩, ⟨level, "end"⟩] = [.otherwise] := by
    change List.filterMap (read? wrapperName)
      ["else", "error('Arguments do not match any overload of function " ++
        function.matlabClass ++ "." ++ function.name ++ "');", "end", "end"] = _
    rw [List.filterMap_cons_some read?_otherwise,
      List.filterMap_cons_none (read?_overloadError _ _),
      List.filterMap_cons_none (read?_end leads), List.filterMap_cons_none (read?_end leads),
      List.filterMap_nil]
  have whole : function.nestedLines wrapperName level =
      [⟨level, "function varargout = " ++ function.name ++ "(varargin)"⟩] ++
        function.branchLines wrapperName level ++
        [⟨level + 1, "else"⟩,
          ⟨level + 2, "error('Arguments do not match any overload of function " ++
            function.matlabClass ++ "." ++ function.name ++ "');"⟩,
          ⟨level + 1, "end"⟩, ⟨level, "end"⟩] := rfl
  rw [whole, ofNested_append, ofNested_append, opening, branches, closing]
  rfl

theorem ofNested_furtherLines (leads : Name.LeadsWithWord wrapperName)
    (functions : List ProxyFunction) :
    ofNested wrapperName (ClassFile.furtherLines wrapperName functions) =
      functions.flatMap ProxyFunction.marks := by
  induction functions with
  | nil => rfl
  | cons function rest ih =>
    have whole : ClassFile.furtherLines wrapperName (function :: rest) =
        [ClassFile.separator] ++ function.nestedLines wrapperName ClassFile.functionLevel ++
          ClassFile.furtherLines wrapperName rest := rfl
    have separator : ofNested wrapperName [ClassFile.separator] = [] :=
      List.filterMap_cons_none (read?_empty leads)
    rw [whole, ofNested_append, ofNested_append, separator, ofNested_function leads, ih]
    rfl

/-- **A class file is read as its functions, one after the other.** -/
theorem ofNested_classFile (leads : Name.LeadsWithWord wrapperName) (naming : ClassNaming)
    (functions : List ProxyFunction) :
    ofNested wrapperName (ClassFile.nestedLines wrapperName naming functions) =
      functions.flatMap ProxyFunction.marks := by
  have header : ofNested wrapperName (ClassFile.header naming) = [] := by
    change List.filterMap (read? wrapperName)
      ["%class " ++ naming.matlabName ++ ", generated by mexwrap for " ++ naming.cppName,
        "classdef " ++ naming.matlabName ++ " < handle"] = _
    rw [String.append_assoc, String.append_assoc, String.append_assoc,
      List.filterMap_cons_none (read?_comment leads _),
      List.filterMap_cons_none (read?_classdef leads _), List.filterMap_nil]
  have closing : ofNested wrapperName [ClassFile.closing] = [] :=
    List.filterMap_cons_none (read?_end leads)
  have block : ofNested wrapperName (ClassFile.blockLines wrapperName functions) =
      functions.flatMap ProxyFunction.marks := by
    cases functions with
    | nil => rfl
    | cons first rest =>
      have whole : ClassFile.blockLines wrapperName (first :: rest) =
          [ClassFile.blockOpening] ++ first.nestedLines wrapperName ClassFile.functionLevel ++
            ClassFile.furtherLines wrapperName rest ++ [ClassFile.blockClosing] := by
        simp [ClassFile.blockLines]
      have opening : ofNested wrapperName [ClassFile.blockOpening] = [] :=
        List.filterMap_cons_none read?_blockOpening
      have blockEnd : ofNested wrapperName [ClassFile.blockClosing] = [] :=
        List.filterMap_cons_none (read?_end leads)
      rw [whole, ofNested_append, ofNested_append, ofNested_append, opening, blockEnd,
        ofNested_function leads, ofNested_furtherLines leads, List.append_nil]
      rfl
  rw [ClassFile.nestedLines, ofNested_append, ofNested_append, header, block, closing,
    List.append_nil, List.nil_append]

end ProxyMark

/-! ## Indentation -/

namespace NestedLine

/-- A line whose content does not begin with a blank. -/
def Flush (line : NestedLine) : Prop :=
  ∀ character ∈ line.content.toList.head?, Text.isBlank character = false

theorem flush_of_head {line : NestedLine} (character : Char)
    (begins : line.content.toList.head? = some character)
    (visible : Text.isBlank character = false) : line.Flush := by
  intro first found
  rw [begins] at found
  cases found
  exact visible

theorem flush_call {wrapperName : String} (leads : Name.LeadsWithWord wrapperName)
    (branch : ProxyBranch) (level : Int) : Flush ⟨level, branch.call wrapperName⟩ := by
  unfold ProxyBranch.call
  cases branch.binding with
  | nothing =>
    obtain ⟨first, begins, initial⟩ := leads.begins
      ("(" ++ toString branch.id ++ ", varargin\x7b:\x7d);")
    refine flush_of_head first ?_ (Name.isBlank_of_isInitial initial)
    simpa [OutputBinding.text, String.append_assoc] using begins
  | one => exact flush_of_head 'v' (by simp [OutputBinding.text]) (by decide)
  | two => exact flush_of_head '[' (by simp [OutputBinding.text]) (by decide)

theorem flush_function {wrapperName : String} (leads : Name.LeadsWithWord wrapperName)
    {function : ProxyFunction} {level : Int} {line : NestedLine}
    (member : line ∈ function.nestedLines wrapperName level) : line.Flush := by
  rw [ProxyFunction.nestedLines, List.mem_append, List.mem_cons] at member
  rcases member with (rfl | branches) | closing
  · exact flush_of_head 'f' (by simp) (by decide)
  · obtain ⟨lines, listed, inside⟩ := List.mem_flatten.1 branches
    obtain ⟨position, _, rfl⟩ := List.mem_mapIdx.1 listed
    rcases List.mem_pair.1 inside with rfl | rfl
    · unfold ProxyFunction.keyword
      split
      · exact flush_of_head 'i' (by simp) (by decide)
      · exact flush_of_head 'e' (by simp) (by decide)
    · exact flush_call leads _ _
  · simp only [List.mem_cons, List.not_mem_nil, or_false] at closing
    rcases closing with rfl | rfl | rfl | rfl <;>
      exact flush_of_head 'e' (by simp) (by decide)

/-- No content of a class file begins with a blank. -/
theorem flush_classFile {wrapperName : String} (leads : Name.LeadsWithWord wrapperName)
    {naming : ClassNaming} {functions : List ProxyFunction} {line : NestedLine}
    (member : line ∈ ClassFile.nestedLines wrapperName naming functions) : line.Flush := by
  rw [ClassFile.nestedLines, List.mem_append, List.mem_append] at member
  rcases member with (header | block) | closing
  · rcases List.mem_pair.1 header with rfl | rfl
    · exact flush_of_head '%' (by simp) (by decide)
    · exact flush_of_head 'c' (by simp) (by decide)
  · cases functions with
    | nil => cases block
    | cons first rest =>
      rw [ClassFile.blockLines, List.mem_cons, List.mem_append, List.mem_append,
        List.mem_singleton] at block
      rcases block with rfl | (own | others) | rfl
      · exact flush_of_head 'm' (by decide) (by decide)
      · exact flush_function leads own
      · obtain ⟨function, _, inside⟩ := List.mem_flatMap.1 others
        rcases List.mem_cons.1 inside with rfl | own
        · intro character begins
          cases begins
        · exact flush_function leads own
      · exact flush_of_head 'e' (by decide) (by decide)
  · rw [List.mem_singleton.1 closing]
    exact flush_of_head 'e' (by decide) (by decide)

end NestedLine

namespace ClassFile

/-- Indented lines without their indentation are their contents. -/
theorem unindented_map_text {settings : Settings} {config : Config}
    (accepted : settings.resolve = .ok config) {nested : List NestedLine}
    (flush : ∀ line ∈ nested, line.Flush) :
    (nested.map (NestedLine.text config)).map Text.unindented = nested.map NestedLine.content := by
  rw [List.map_map]
  refine List.map_congr_left fun line member => ?_
  exact Text.unindented_append (Settings.allBlank_indentation accepted line.level)
    (flush line member)

/-- Indented lines have the marks of their contents. -/
theorem marks_map_text {settings : Settings} {config : Config}
    (accepted : settings.resolve = .ok config) {nested : List NestedLine}
    (flush : ∀ line ∈ nested, line.Flush) :
    marks config.wrapperName (nested.map (NestedLine.text config)) =
      ProxyMark.ofNested config.wrapperName nested := by
  rw [ProxyMark.ofNested, ← unindented_map_text accepted flush, List.filterMap_map]
  rfl

/-- **A class file shows its functions, with their tests and calls, in order.** -/
theorem marks_lines {settings : Settings} {config : Config}
    (accepted : settings.resolve = .ok config) (naming : ClassNaming)
    (functions : List ProxyFunction) :
    marks config.wrapperName (lines config naming functions) =
      functions.flatMap ProxyFunction.marks := by
  have leads := Settings.leadsWithWord_wrapperName accepted
  rw [lines, marks_map_text accepted fun _ => NestedLine.flush_classFile leads]
  exact ProxyMark.ofNested_classFile leads naming functions

end ClassFile

end MexBridge
