import MexBridge.Proofs.Reading.Proxy
import Mathlib.Data.List.Forall2

/-!
# The blocks of a class file

A class file is a class definition with a block of methods, in which functions stand, in each of
which a conditional stands.  Lines open such blocks, close them, or go on with a conditional.
`Blocks.readLines` reads lines without their indentation: it keeps the blocks that are open, gives
up where nothing is open that a line could close or go on with, and tells for each line how deep it
stands and which block it closes.  A line that closes a block or goes on with one stands as deep as
the line that opened it.

Nested lines are read as they are nested if every line stands as deep as its level says, save the
empty ones: this is `Blocks.Reads`, and `Reads.append` puts two lists of lines one after the other.
`reads_function` and `reads_classFile` say how the lines of a function and of a class file are read,
and which blocks are closed on the way.
-/

set_option autoImplicit false

namespace MexBridge

/-- The blocks of a class file. -/
inductive BlockKind
  | classdef
  | methods
  | function
  | conditional
  deriving DecidableEq

/-- What a line without its indentation does to the blocks that are open. -/
inductive BlockRole
  /-- A block is opened. -/
  | opens (kind : BlockKind)
  /-- A conditional goes on with its next part; the last part is the one without a test. -/
  | continues (last : Bool)
  /-- The innermost block is closed. -/
  | closes
  /-- Something stands in the innermost block. -/
  | statement
  /-- The line is empty. -/
  | blank
  deriving DecidableEq

/-- A block that is open: the statements directly in it, blocks under their kinds, and whether its
part without a test has begun. -/
structure Block where
  kind : BlockKind
  statements : List (Option BlockKind) := []
  hasElse : Bool := false
  deriving DecidableEq

/-- A block that was closed, with the kinds of the blocks around it, the innermost first. -/
structure ClosedBlock where
  block : Block
  around : List BlockKind
  deriving DecidableEq

/-- What is read of a line: how many blocks it stands in, and the block that it closes. -/
structure LineReading where
  depth : Nat
  closed : Option ClosedBlock := none
  deriving DecidableEq

namespace BlockRole

/-- Whether a line begins with a text. -/
def begins (opening content : String) : Bool :=
  (Text.between? opening "" content).isSome

/-- The role of a line without its indentation. -/
def ofContent (content : String) : BlockRole :=
  if content = "" then blank
  else if content = "methods(Static = true)" then opens .methods
  else if content = "end" then closes
  else if content = "else" then continues true
  else if begins "elseif " content then continues false
  else if begins "if " content then opens .conditional
  else if begins "function " content then opens .function
  else if begins "classdef " content then opens .classdef
  else statement

end BlockRole

namespace Blocks

/-- The open blocks, with one more statement in the innermost one. -/
def noteIn (statement : Option BlockKind) : List Block → List Block
  | [] => []
  | block :: around => { block with statements := block.statements ++ [statement] } :: around

/-- Reads a line inside open blocks, and gives the blocks that are open afterwards. -/
def readLine (opened : List Block) (content : String) : Option (LineReading × List Block) :=
  match BlockRole.ofContent content, opened with
  | .blank, opened => some ({ depth := opened.length }, opened)
  | .statement, opened => some ({ depth := opened.length }, noteIn none opened)
  | .opens kind, opened =>
    some ({ depth := opened.length }, { kind := kind } :: noteIn (some kind) opened)
  | .continues last, block :: around =>
    if block.kind = .conditional ∧ block.hasElse = false then
      some ({ depth := around.length }, { block with hasElse := last } :: around)
    else none
  | .closes, block :: around =>
    some ({ depth := around.length, closed := some ⟨block, around.map Block.kind⟩ }, around)
  | .continues _, [] => none
  | .closes, [] => none

/-- Reads lines one after the other. -/
def readLines (opened : List Block) : List String → Option (List LineReading × List Block)
  | [] => some ([], opened)
  | content :: rest =>
    (readLine opened content).bind fun (reading, later) =>
      (readLines later rest).map fun (readings, left) => (reading :: readings, left)

/-- How deep the lines of a file stand. -/
def depths (contents : List String) : List Nat :=
  ((readLines [] contents).map fun (readings, _) => readings.map LineReading.depth).getD []

/-- The lines of a file, each behind an indentation for the blocks that it stands in; empty lines
stay empty. -/
def indented (config : Config) (contents : List String) : List String :=
  List.zipWith
    (fun content (depth : Nat) => if content = "" then "" else config.indentation depth ++ content)
    contents (depths contents)

theorem map_kind_noteIn (statement : Option BlockKind) (opened : List Block) :
    (noteIn statement opened).map Block.kind = opened.map Block.kind := by
  cases opened <;> rfl

@[simp] theorem length_noteIn (statement : Option BlockKind) (opened : List Block) :
    (noteIn statement opened).length = opened.length := by
  cases opened <;> rfl

theorem readLines_append {opened middle left : List Block} {first second : List String}
    {earlier later : List LineReading} (front : readLines opened first = some (earlier, middle))
    (back : readLines middle second = some (later, left)) :
    readLines opened (first ++ second) = some (earlier ++ later, left) := by
  induction first generalizing opened earlier with
  | nil =>
    cases front
    exact back
  | cons content rest ih =>
    obtain ⟨⟨reading, next⟩, read, others⟩ := Option.bind_eq_some_iff.1 front
    obtain ⟨⟨readings, last⟩, further, same⟩ := Option.map_eq_some_iff.1 others
    cases same
    rw [List.cons_append, readLines, read, Option.bind_some]
    simp only [ih further, Option.map_some]
    rfl

/-! ## Nested lines -/

/-- Nested lines are read from some open blocks on: they close blocks and leave others open, and
each of them stands as deep as its level says, unless it is empty and has no indentation. -/
def Reads (opened : List Block) (nested : List NestedLine) (closed : List ClosedBlock)
    (left : List Block) : Prop :=
  ∃ readings, readLines opened (nested.map NestedLine.content) = some (readings, left) ∧
    readings.filterMap LineReading.closed = closed ∧
    List.Forall₂ (fun line reading =>
      line.level = if line.content = "" then 0 else (reading.depth : Int)) nested readings

namespace Reads

variable {opened middle left : List Block} {level : Int} {content : String}

theorem append {first second : List NestedLine} {earlier later : List ClosedBlock}
    (front : Reads opened first earlier middle) (back : Reads middle second later left) :
    Reads opened (first ++ second) (earlier ++ later) left := by
  obtain ⟨before, readFirst, rfl, levelsFirst⟩ := front
  obtain ⟨after, readSecond, rfl, levelsSecond⟩ := back
  refine ⟨before ++ after, ?_, List.filterMap_append, ?_⟩
  · rw [List.map_append]
    exact readLines_append readFirst readSecond
  · exact List.rel_append levelsFirst levelsSecond

/-- Lines that close nothing may come first. -/
theorem silent_append {first second : List NestedLine} {later : List ClosedBlock}
    (front : Reads opened first [] middle) (back : Reads middle second later left) :
    Reads opened (first ++ second) later left :=
  front.append back

theorem of_readLine {reading : LineReading}
    (read : readLine opened content = some (reading, left))
    (standing : level = if content = "" then 0 else (reading.depth : Int)) :
    Reads opened [⟨level, content⟩] reading.closed.toList left := by
  refine ⟨[reading], ?_, ?_, .cons standing .nil⟩
  · rw [List.map_singleton, readLines, read]
    rfl
  · cases closed : reading.closed with
    | none => rw [List.filterMap_cons_none closed]; rfl
    | some block => rw [List.filterMap_cons_some closed]; rfl

theorem ne_empty_of_role {role : BlockRole} (read : BlockRole.ofContent content = role)
    (other : role ≠ .blank) : content ≠ "" := by
  rintro rfl
  exact other read.symm

theorem blank : Reads opened [⟨0, ""⟩] [] opened := by
  have read : readLine opened "" = some ({ depth := opened.length }, opened) := rfl
  exact of_readLine read rfl

theorem statement (opened : List Block) (role : BlockRole.ofContent content = .statement)
    (standing : level = opened.length) :
    Reads opened [⟨level, content⟩] [] (noteIn none opened) := by
  have read : readLine opened content =
      some ({ depth := opened.length }, noteIn none opened) := by
    simp only [readLine, role]
  refine of_readLine read ?_
  rw [if_neg (ne_empty_of_role role (by decide)), standing]

theorem opens (opened : List Block) {kind : BlockKind}
    (role : BlockRole.ofContent content = .opens kind) (standing : level = opened.length) :
    Reads opened [⟨level, content⟩] [] ({ kind := kind } :: noteIn (some kind) opened) := by
  have read : readLine opened content =
      some ({ depth := opened.length }, { kind := kind } :: noteIn (some kind) opened) := by
    simp only [readLine, role]
  refine of_readLine read ?_
  rw [if_neg (ne_empty_of_role role (by simp)), standing]

theorem continues {last : Bool} {statements : List (Option BlockKind)}
    (role : BlockRole.ofContent content = .continues last) (standing : level = opened.length) :
    Reads (⟨.conditional, statements, false⟩ :: opened) [⟨level, content⟩] []
      (⟨.conditional, statements, last⟩ :: opened) := by
  have read : readLine (⟨.conditional, statements, false⟩ :: opened) content =
      some ({ depth := opened.length }, ⟨.conditional, statements, last⟩ :: opened) := by
    simp [readLine, role]
  refine of_readLine read ?_
  rw [if_neg (ne_empty_of_role role (by simp)), standing]

theorem closes (block : Block) (opened : List Block)
    (role : BlockRole.ofContent content = .closes) (standing : level = opened.length) :
    Reads (block :: opened) [⟨level, content⟩] [⟨block, opened.map Block.kind⟩] opened := by
  have read : readLine (block :: opened) content =
      some ({ depth := opened.length, closed := some ⟨block, opened.map Block.kind⟩ },
        opened) := by
    simp only [readLine, role]
  refine of_readLine read ?_
  rw [if_neg (ne_empty_of_role role (by decide)), standing]

/-- Lines that are read as they are nested have the indentation of the blocks they stand in. -/
theorem map_text {config : Config} {nested : List NestedLine} {closed : List ClosedBlock}
    (reads : Reads [] nested closed left) :
    nested.map (NestedLine.text config) = indented config (nested.map NestedLine.content) := by
  obtain ⟨readings, read, -, levels⟩ := reads
  rw [indented, depths, read]
  simp only [Option.map_some, Option.getD_some]
  -- the levels alone go through the lines one by one; the reading is fixed from here on
  clear read
  induction levels with
  | nil => rfl
  | @cons line reading _ _ standing _ ih =>
    rw [List.map_cons, List.map_cons, List.map_cons, List.zipWith_cons_cons, ih, NestedLine.text,
      standing]
    by_cases empty : line.content = ""
    · rw [if_pos empty, if_pos empty, empty, Config.indentation_eq_join]
      rfl
    · rw [if_neg empty, if_neg empty]

end Reads

end Blocks

/-! ## The roles of the lines of a class file -/

namespace BlockRole

theorem begins_append (opening rest : String) : begins opening (opening ++ rest) = true := by
  have found := Text.between?_append opening "" rest
  rw [String.append_empty] at found
  rw [begins, found]
  rfl

/-- A line with another character behind its first word than the opening does not begin with it. -/
theorem begins_of_afterWord {opening content : String} {character : Char}
    (found : Name.afterWord opening = some character)
    (different : Name.afterWord content ≠ some character) : begins opening content = false := by
  rw [begins, Name.between?_of_afterWord found different]
  rfl

theorem begins_of_head {opening content : String} (character : Char)
    (first : opening.toList.head? = some character)
    (different : content.toList.head? ≠ some character) : begins opening content = false := by
  rw [begins, Text.between?_of_head character first different]
  rfl

/-- A line with no space behind its first word, which is none of the words of the language, is a
statement. -/
theorem ofContent_of_afterWord {content : String} {character : Char}
    (sign : Name.afterWord content = some character) (space : character ≠ ' ')
    (other : content ≠ "methods(Static = true)") : ofContent content = statement := by
  have different : Name.afterWord content ≠ some ' ' := by
    rw [sign]
    simpa using space
  have unequal : ∀ word : String, Name.afterWord word = none → content ≠ word := by
    rintro word unsigned rfl
    rw [unsigned] at sign
    cases sign
  have apart : ∀ opening : String, Name.afterWord opening = some ' ' →
      begins opening content = false :=
    fun _ found => begins_of_afterWord found different
  simp [ofContent, unequal "" (by decide), unequal "end" (by decide), unequal "else" (by decide),
    other, apart "elseif " (by decide), apart "if " (by decide), apart "function " (by decide),
    apart "classdef " (by decide)]

/-- The roles of lines with a space behind their first word, told apart by that word. -/
theorem ofContent_of_space {content : String} (space : Name.afterWord content = some ' ') :
    ofContent content =
      if begins "elseif " content then continues false
      else if begins "if " content then opens .conditional
      else if begins "function " content then opens .function
      else if begins "classdef " content then opens .classdef
      else statement := by
  have unequal : ∀ word : String, Name.afterWord word ≠ some ' ' → content ≠ word := by
    rintro word different rfl
    exact different space
  rw [ofContent, if_neg (unequal "" (by decide)),
    if_neg (unequal "methods(Static = true)" (by decide)), if_neg (unequal "end" (by decide)),
    if_neg (unequal "else" (by decide))]

theorem ofContent_further (rest : String) : ofContent ("elseif " ++ rest) = continues false := by
  rw [ofContent_of_space (Name.afterWord_append (by decide)), if_pos (begins_append _ _)]

theorem ofContent_first (rest : String) : ofContent ("if " ++ rest) = opens .conditional := by
  have further : begins "elseif " ("if " ++ rest) = false :=
    begins_of_head 'e' (by decide) (by simp)
  rw [ofContent_of_space (Name.afterWord_append (by decide)), further, if_neg Bool.false_ne_true,
    if_pos (begins_append _ _)]

theorem ofContent_function (rest : String) : ofContent ("function " ++ rest) = opens .function := by
  have further : begins "elseif " ("function " ++ rest) = false :=
    begins_of_head 'e' (by decide) (by simp)
  have first : begins "if " ("function " ++ rest) = false :=
    begins_of_head 'i' (by decide) (by simp)
  rw [ofContent_of_space (Name.afterWord_append (by decide)), further, first,
    if_neg Bool.false_ne_true, if_neg Bool.false_ne_true, if_pos (begins_append _ _)]

theorem ofContent_classdef (rest : String) : ofContent ("classdef " ++ rest) = opens .classdef := by
  have further : begins "elseif " ("classdef " ++ rest) = false :=
    begins_of_head 'e' (by decide) (by simp)
  have first : begins "if " ("classdef " ++ rest) = false :=
    begins_of_head 'i' (by decide) (by simp)
  have function : begins "function " ("classdef " ++ rest) = false :=
    begins_of_head 'f' (by decide) (by simp)
  rw [ofContent_of_space (Name.afterWord_append (by decide)), further, first, function,
    if_neg Bool.false_ne_true, if_neg Bool.false_ne_true, if_neg Bool.false_ne_true,
    if_pos (begins_append _ _)]

theorem ofContent_test (position : Nat) (condition : String) :
    ofContent (ProxyFunction.keyword position ++ " " ++ condition) =
      if position = 0 then opens .conditional else continues false := by
  unfold ProxyFunction.keyword
  split
  · exact ofContent_first condition
  · exact ofContent_further condition

theorem ofContent_call {wrapperName : String} (leads : Name.LeadsWithWord wrapperName)
    (branch : ProxyBranch) : ofContent (branch.call wrapperName) = statement := by
  obtain ⟨sign, member, after⟩ := ProxyMark.afterWord_call leads branch
  refine ofContent_of_afterWord after ?_ ?_
  · rintro rfl
    revert member
    cases branch.binding <;> decide
  · intro same
    have last : (branch.call wrapperName).toList.getLast? = some ';' := by
      rw [ProxyBranch.call, String.toList_append, List.getLast?_append]
      rfl
    rw [same] at last
    exact absurd last (by decide)

theorem ofContent_error (message : String) :
    ofContent ("error('" ++ message) = statement := by
  have sign : Name.afterWord ("error('" ++ message) = some '(' := Name.afterWord_append (by decide)
  refine ofContent_of_afterWord sign (by decide) ?_
  intro same
  have first := congrArg (fun text => text.toList.head?) same
  simp at first

theorem ofContent_comment (text : String) : ofContent ("%class " ++ text) = statement := by
  have sign : Name.afterWord ("%class " ++ text) = some '%' := Name.afterWord_append (by decide)
  refine ofContent_of_afterWord sign (by decide) ?_
  intro same
  have first := congrArg (fun text => text.toList.head?) same
  simp at first

end BlockRole

/-! ## Functions and class files -/

/-- The blocks of a function: its conditional, with a statement in each of its parts, and then the
function itself, in which nothing but the conditional stands. -/
def ProxyFunction.blocks (around : List BlockKind) (function : ProxyFunction) : List ClosedBlock :=
  [⟨⟨.conditional, List.replicate (function.branches.length + 1) none, true⟩, .function :: around⟩,
    ⟨⟨.function, [some .conditional], false⟩, around⟩]

namespace Blocks

variable {wrapperName : String} {opened : List Block}

/-- Behind the first branch of a conditional, each branch is a further part with one statement. -/
theorem reads_furtherBranches (leads : Name.LeadsWithWord wrapperName) {level : Int}
    (standing : level + 1 = opened.length) (branches : List ProxyBranch) {position : Nat}
    (behind : position ≠ 0) (statements : List (Option BlockKind)) :
    Reads (⟨.conditional, statements, false⟩ :: opened)
      ((branches.zipIdx position).flatMap fun (branch, place) =>
        branch.lines wrapperName (ProxyFunction.keyword place) level) []
      (⟨.conditional, statements ++ List.replicate branches.length none, false⟩ :: opened) := by
  induction branches generalizing position statements with
  | nil =>
    rw [List.length_nil, List.replicate_zero, List.append_nil]
    exact ⟨[], rfl, rfl, .nil⟩
  | cons branch rest ih =>
    have test : BlockRole.ofContent (ProxyFunction.keyword position ++ " " ++
        branchCondition branch.tags) = .continues false := by
      rw [BlockRole.ofContent_test, if_neg behind]
    -- the conditional stays open and has one statement more, so the rest begins with that
    have own : Reads (⟨.conditional, statements, false⟩ :: opened)
        (branch.lines wrapperName (ProxyFunction.keyword position) level) []
        (⟨.conditional, statements ++ [none], false⟩ :: opened) := by
      refine (Reads.continues test standing).silent_append
        (Reads.statement _ (BlockRole.ofContent_call leads branch) ?_)
      rw [List.length_cons]
      omega
    have later := ih (Nat.succ_ne_zero position) (statements ++ [none])
    rw [List.append_assoc, List.singleton_append, ← List.replicate_succ] at later
    exact own.silent_append later

/-- The branches of a function make one conditional, which is left open. -/
theorem reads_branchLines (leads : Name.LeadsWithWord wrapperName) {function : ProxyFunction}
    (branched : function.branches ≠ []) {level : Int} (standing : level = opened.length) :
    Reads (⟨.function, [], false⟩ :: opened) (function.branchLines wrapperName level) []
      (⟨.conditional, List.replicate function.branches.length none, false⟩ ::
        ⟨.function, [some .conditional], false⟩ :: opened) := by
  obtain ⟨first, rest, branches⟩ := List.exists_cons_of_ne_nil branched
  have test : BlockRole.ofContent (ProxyFunction.keyword 0 ++ " " ++ branchCondition first.tags) =
      .opens .conditional := by
    rw [BlockRole.ofContent_test, if_pos rfl]
  have own : Reads (⟨.function, [], false⟩ :: opened)
      (first.lines wrapperName (ProxyFunction.keyword 0) level) []
      (⟨.conditional, [none], false⟩ :: ⟨.function, [some .conditional], false⟩ :: opened) := by
    refine (Reads.opens _ test ?_).silent_append
      (Reads.statement _ (BlockRole.ofContent_call leads first) ?_)
    · rw [List.length_cons]
      omega
    · rw [List.length_cons, length_noteIn, List.length_cons]
      omega
  have others : Reads
      (⟨.conditional, [none], false⟩ :: ⟨.function, [some .conditional], false⟩ :: opened)
      ((rest.zipIdx 1).flatMap fun (branch, place) =>
        branch.lines wrapperName (ProxyFunction.keyword place) level) []
      (⟨.conditional, List.replicate (rest.length + 1) none, false⟩ ::
        ⟨.function, [some .conditional], false⟩ :: opened) := by
    refine reads_furtherBranches leads ?_ rest Nat.one_ne_zero [none]
    rw [List.length_cons]
    omega
  have lines : function.branchLines wrapperName level =
      first.lines wrapperName (ProxyFunction.keyword 0) level ++
        (rest.zipIdx 1).flatMap fun (branch, place) =>
          branch.lines wrapperName (ProxyFunction.keyword place) level := by
    rw [ProxyFunction.branchLines, branches, List.mapIdx_eq_zipIdx_map]
    rfl
  rw [lines, branches, List.length_cons]
  exact own.silent_append others

/-- The branch without a test is the last part of a conditional. -/
theorem reads_otherwise (message : String) {level : Int} (standing : level + 1 = opened.length)
    (statements : List (Option BlockKind)) :
    Reads (⟨.conditional, statements, false⟩ :: opened)
      [⟨level + 1, "else"⟩, ⟨level + 2, "error('" ++ message⟩] []
      (⟨.conditional, statements ++ [none], true⟩ :: opened) := by
  refine (Reads.continues (by decide : BlockRole.ofContent "else" = .continues true)
    standing).silent_append (Reads.statement _ (BlockRole.ofContent_error message) ?_)
  rw [List.length_cons]
  omega

/-- **A function is read as a block with one conditional, whose last part has no test.** -/
theorem reads_function (leads : Name.LeadsWithWord wrapperName) {function : ProxyFunction}
    (branched : function.branches ≠ []) {level : Int} (standing : level = opened.length) :
    Reads opened (function.nestedLines wrapperName level)
      (function.blocks (opened.map Block.kind)) (noteIn (some .function) opened) := by
  let outside := noteIn (some .function) opened
  have outsideStanding : level = outside.length := by
    rw [length_noteIn]
    exact standing
  have inside : level + 1 = (⟨.function, [some .conditional], false⟩ :: outside : List Block).length
    := by
    rw [List.length_cons]
    omega
  have opening : Reads opened
      [⟨level, "function varargout = " ++ function.name ++ "(varargin)"⟩] []
      (⟨.function, [], false⟩ :: outside) := by
    refine Reads.opens _ ?_ standing
    rw [String.append_assoc]
    exact BlockRole.ofContent_function ("varargout = " ++ (function.name ++ "(varargin)"))
  have branches := reads_branchLines leads branched outsideStanding
  have otherwise := reads_otherwise ("Arguments do not match any overload of function " ++
    (function.matlabClass ++ ("." ++ (function.name ++ "');")))) inside
      (List.replicate function.branches.length none)
  have role : BlockRole.ofContent "end" = .closes := by decide
  have closing : Reads
      (⟨.conditional, List.replicate (function.branches.length + 1) none, true⟩ ::
        ⟨.function, [some .conditional], false⟩ :: outside)
      [⟨level + 1, "end"⟩, ⟨level, "end"⟩] (function.blocks (opened.map Block.kind)) outside := by
    have read := (Reads.closes ⟨.conditional,
      List.replicate (function.branches.length + 1) none, true⟩ _ role inside).append
        (Reads.closes _ _ role outsideStanding)
    rwa [List.map_cons, map_kind_noteIn] at read
  rw [← List.replicate_succ'] at otherwise
  have whole := ((opening.silent_append branches).silent_append otherwise).silent_append closing
  have lines : function.nestedLines wrapperName level =
      [⟨level, "function varargout = " ++ function.name ++ "(varargin)"⟩] ++
        function.branchLines wrapperName level ++
        [⟨level + 1, "else"⟩, ⟨level + 2, "error('" ++
          ("Arguments do not match any overload of function " ++
            (function.matlabClass ++ ("." ++ (function.name ++ "');"))))⟩] ++
        [⟨level + 1, "end"⟩, ⟨level, "end"⟩] := by
    simp only [ProxyFunction.nestedLines, ← String.append_assoc, List.append_assoc]
    rfl
  rw [lines]
  exact whole

/-- Functions with empty lines in front of them are statements of one block. -/
theorem reads_furtherLines (leads : Name.LeadsWithWord wrapperName) {functions : List ProxyFunction}
    (branched : ∀ function ∈ functions, function.branches ≠ []) {block : Block}
    {around : List Block} (standing : ClassFile.functionLevel = (block :: around).length) :
    Reads (block :: around) (ClassFile.furtherLines wrapperName functions)
      (functions.flatMap (ProxyFunction.blocks ((block :: around).map Block.kind)))
      ({ block with statements :=
        block.statements ++ List.replicate functions.length (some .function) } :: around) := by
  induction functions generalizing block with
  | nil =>
    rw [List.length_nil, List.replicate_zero, List.append_nil]
    exact ⟨[], rfl, rfl, .nil⟩
  | cons function rest ih =>
    have own := reads_function leads (branched function List.mem_cons_self) standing
    have later : Reads
        ({ block with statements := block.statements ++ [some .function] } :: around)
        (ClassFile.furtherLines wrapperName rest) _ _ :=
      ih (fun other listed => branched other (List.mem_cons_of_mem _ listed)) standing
    rw [List.append_assoc, List.singleton_append, ← List.replicate_succ] at later
    exact Reads.blank.silent_append (own.append later)

end Blocks

/-- The blocks of a class file in the order in which they are closed: those of its functions, the
block of methods around them, if there are any, and the class definition. -/
def ClassFile.blocks (functions : List ProxyFunction) : List ClosedBlock :=
  functions.flatMap (ProxyFunction.blocks [.methods, .classdef]) ++
    if functions = [] then [⟨⟨.classdef, [], false⟩, []⟩]
    else
      [⟨⟨.methods, List.replicate functions.length (some .function), false⟩, [.classdef]⟩,
        ⟨⟨.classdef, [some .methods], false⟩, []⟩]

namespace Blocks

variable {wrapperName : String}

/-- The block of methods is the one statement of a class with methods. -/
theorem reads_blockLines (leads : Name.LeadsWithWord wrapperName) {first : ProxyFunction}
    {rest : List ProxyFunction}
    (branched : ∀ function ∈ first :: rest, function.branches ≠ []) :
    Reads [{ kind := .classdef }] (ClassFile.blockLines wrapperName (first :: rest))
      ((first :: rest).flatMap (ProxyFunction.blocks [.methods, .classdef]) ++
        [⟨⟨.methods, List.replicate (first :: rest).length (some .function), false⟩,
          [.classdef]⟩])
      [⟨.classdef, [some .methods], false⟩] := by
  have opening : Reads [{ kind := .classdef }] [ClassFile.blockOpening] []
      [{ kind := .methods }, ⟨.classdef, [some .methods], false⟩] :=
    Reads.opens [{ kind := .classdef }] (by decide) rfl
  have own : Reads [{ kind := .methods }, ⟨.classdef, [some .methods], false⟩]
      (first.nestedLines wrapperName ClassFile.functionLevel) _ _ :=
    reads_function leads (branched first List.mem_cons_self) rfl
  have others : Reads [⟨.methods, [some .function], false⟩, ⟨.classdef, [some .methods], false⟩]
      (ClassFile.furtherLines wrapperName rest) _ _ :=
    reads_furtherLines leads
      (fun function listed => branched function (List.mem_cons_of_mem _ listed)) rfl
  have closing : Reads
      [⟨.methods, List.replicate (first :: rest).length (some .function), false⟩,
        ⟨.classdef, [some .methods], false⟩]
      [ClassFile.blockClosing]
      [⟨⟨.methods, List.replicate (first :: rest).length (some .function), false⟩, [.classdef]⟩]
      [⟨.classdef, [some .methods], false⟩] :=
    Reads.closes _ [⟨.classdef, [some .methods], false⟩] (by decide) rfl
  exact opening.silent_append ((own.append others).append closing)

/-- **A class file is read from its first line to its last, with no block open before or after.** -/
theorem reads_classFile (leads : Name.LeadsWithWord wrapperName) (naming : ClassNaming)
    {functions : List ProxyFunction}
    (branched : ∀ function ∈ functions, function.branches ≠ []) :
    Reads [] (ClassFile.nestedLines wrapperName naming functions)
      (ClassFile.blocks functions) [] := by
  have header : Reads [] (ClassFile.header naming) [] [{ kind := .classdef }] := by
    have comment : BlockRole.ofContent ("%class " ++ naming.matlabName ++
        ", generated by mexwrap for " ++ naming.cppName) = .statement := by
      rw [String.append_assoc, String.append_assoc]
      exact BlockRole.ofContent_comment _
    have opening : BlockRole.ofContent ("classdef " ++ naming.matlabName ++ " < handle") =
        .opens .classdef := by
      rw [String.append_assoc]
      exact BlockRole.ofContent_classdef _
    exact (Reads.statement [] comment rfl).silent_append (Reads.opens [] opening rfl)
  have closing (statements : List (Option BlockKind)) :
      Reads [⟨.classdef, statements, false⟩] [ClassFile.closing]
        [⟨⟨.classdef, statements, false⟩, []⟩] [] :=
    Reads.closes _ [] (by decide) rfl
  cases functions with
  | nil => exact header.silent_append (closing [])
  | cons first rest =>
    have whole := (header.silent_append (reads_blockLines leads branched)).append
      (closing [some .methods])
    rwa [List.append_assoc (List.flatMap _ _)] at whole

end Blocks

end MexBridge
