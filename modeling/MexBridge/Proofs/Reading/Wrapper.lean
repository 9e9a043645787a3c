import MexBridge.Native.Function
import MexBridge.Native.Gateway
import MexBridge.Proofs.Text.Between

/-!
# Reading a wrapper file

A wrapper file is read line by line, without regard to how it was written.  `Wrapper.definitions`
finds the functions with the common parameters, each with the lines of its body, and
`Wrapper.casesOf` finds the cases in a body: a label, and the symbols that are called before the
next break.

Read back, the file of a session shows the native functions in their order and then the gateway
(`definitions_file`), and the gateway shows one case for each entry of the table
(`casesOf_gatewayBody`).
-/

set_option autoImplicit false

namespace MexBridge

namespace Wrapper

/-- The parts of a file that begin with lines of one kind: for each such line its name, and what is
made of the lines behind it. -/
def sections {β : Type} (name? : String → Option String) (content : List String → β) :
    List String → List (String × β)
  | [] => []
  | line :: rest =>
    match name? line with
    | some name => (name, content rest) :: sections name? content rest
    | none => sections name? content rest

/-- The symbol that a line defines as a function with the common parameters. -/
def definedSymbol? (line : String) : Option String :=
  Text.between? "void " ("(" ++ NativeFunction.boundaryParameters ++ ")") line

/-- The functions with the common parameters, each with the lines of its body. -/
def definitions : List String → List (String × List String) :=
  sections definedSymbol? (List.takeWhile fun line => line ≠ "\x7d")

/-- The number of a case label. -/
def label? (line : String) : Option String :=
  Text.between? "    case " ":" line

/-- The symbol that a line of a case calls with the remaining inputs. -/
def calledSymbol? (line : String) : Option String :=
  Text.between? "      " "(nargout, out, nargin-1, in+1);" line

/-- The cases in a body: each label with the symbols that are called before the next break. -/
def casesOf : List String → List (String × List String) :=
  sections label? fun rest =>
    (rest.takeWhile fun line => line ≠ "      break;").filterMap calledSymbol?

/-- The cases of the function that MATLAB calls. -/
def gatewayCases (lines : List String) : List (String × List String) :=
  casesOf (((definitions lines).lookup "mexFunction").getD [])

section

variable {β : Type} {name? : String → Option String} {content : List String → β}

theorem sections_cons_of_some {line name : String} (named : name? line = some name)
    (rest : List String) :
    sections name? content (line :: rest) =
      (name, content rest) :: sections name? content rest := by
  rw [sections, named]

/-- Lines without a name are skipped. -/
theorem sections_append {plain : List String} (unnamed : ∀ line ∈ plain, name? line = none)
    (rest : List String) :
    sections name? content (plain ++ rest) = sections name? content rest := by
  induction plain with
  | nil => rfl
  | cons line others ih =>
    obtain ⟨first, later⟩ := List.forall_mem_cons.1 unnamed
    rw [List.cons_append, sections, first, ih later]

theorem sections_of_forall_none {plain : List String}
    (unnamed : ∀ line ∈ plain, name? line = none) :
    sections name? content plain = [] := by
  rw [← List.append_nil plain, sections_append unnamed, sections]

end

/-! ## Definitions -/

theorem definedSymbol?_signature (symbol : String) :
    definedSymbol? ("void " ++ symbol ++ ("(" ++ NativeFunction.boundaryParameters ++ ")")) =
      some symbol :=
  Text.between?_append _ _ _

theorem definedSymbol?_of_head {line : String} (begins : line.toList.head? ≠ some 'v') :
    definedSymbol? line = none :=
  Text.between?_of_head 'v' rfl begins

theorem definedSymbol?_margin (text : String) :
    definedSymbol? (NativeFunction.margin ++ text) = none :=
  definedSymbol?_of_head (by simp [NativeFunction.margin])

end Wrapper

/-- The lines of the body of a native function, its opening brace included. -/
def NativeFunction.block (function : NativeFunction) : List String :=
  "\x7b" :: function.body.map fun statement => margin ++ statement.text

theorem NativeFunction.lines_eq (function : NativeFunction) :
    function.lines = ("void " ++ function.symbol ++ ("(" ++ boundaryParameters ++ ")")) ::
      (function.block ++ ["\x7d", ""]) := by
  simp [NativeFunction.lines, NativeFunction.block, String.append_assoc]

namespace Wrapper

theorem definedSymbol?_of_mem_block {function : NativeFunction} {line : String}
    (member : line ∈ function.block) : definedSymbol? line = none := by
  rcases List.mem_cons.1 member with rfl | inside
  · decide
  · obtain ⟨statement, _, rfl⟩ := List.mem_map.1 inside
    exact definedSymbol?_margin statement.text

theorem ne_brace_of_mem_block {function : NativeFunction} {line : String}
    (member : line ∈ function.block) : line ≠ "\x7d" := by
  rcases List.mem_cons.1 member with rfl | inside
  · decide
  · obtain ⟨statement, _, rfl⟩ := List.mem_map.1 inside
    intro same
    have characters := congrArg String.toList same
    simp [NativeFunction.margin] at characters

/-- A body ends in front of the first closing brace. -/
theorem takeWhile_body {body rest : List String} (inside : ∀ line ∈ body, line ≠ "\x7d") :
    (body ++ "\x7d" :: rest).takeWhile (fun later => later ≠ "\x7d") = body := by
  rw [List.takeWhile_append_of_pos fun line member => by simpa using inside line member,
    List.takeWhile_cons_of_neg (by simp), List.append_nil]

/-- A native function is read as its symbol and its body. -/
theorem definitions_function (function : NativeFunction) (rest : List String) :
    definitions (function.lines ++ rest) =
      (function.symbol, function.block) :: definitions rest := by
  have plain : ∀ line ∈ function.block ++ ["\x7d", ""], definedSymbol? line = none := by
    intro line member
    rcases List.mem_append.1 member with inside | ending
    · exact definedSymbol?_of_mem_block inside
    · rcases List.mem_pair.1 ending with rfl | rfl <;> decide
  rw [NativeFunction.lines_eq, List.cons_append, definitions,
    sections_cons_of_some (definedSymbol?_signature _), sections_append plain, List.append_assoc,
    List.cons_append, takeWhile_body fun _ => ne_brace_of_mem_block]

theorem definitions_functions (functions : List NativeFunction) (rest : List String) :
    definitions (functions.flatMap NativeFunction.lines ++ rest) =
      functions.map (fun function => (function.symbol, function.block)) ++ definitions rest := by
  induction functions with
  | nil => rfl
  | cons function others ih =>
    rw [List.flatMap_cons, List.append_assoc, definitions_function, ih, List.map_cons,
      List.cons_append]

/-- Native functions on their own are read as their symbols and bodies. -/
theorem definitions_flatMap_lines (functions : List NativeFunction) :
    definitions (functions.flatMap NativeFunction.lines) =
      functions.map fun function => (function.symbol, function.block) := by
  have read := definitions_functions functions []
  have nothing : definitions [] = [] := rfl
  rwa [nothing, List.append_nil, List.append_nil] at read

/-! ## The gateway -/

/-- The lines of the gateway between the one that opens it and the one that closes it. -/
def gatewayBody (config : Config) (table : FunctionTable) : List String :=
  Gateway.opening.tail ++ Gateway.cases table ++ (Gateway.closing config).dropLast

theorem gateway_eq (config : Config) (table : FunctionTable) :
    Gateway.lines config table =
      ("void " ++ "mexFunction" ++ ("(" ++ NativeFunction.boundaryParameters ++ ")")) ::
        (gatewayBody config table ++ ["\x7d"]) := by
  simp [Gateway.lines, gatewayBody, Gateway.opening, Gateway.closing,
    NativeFunction.boundaryParameters]

/-- The lines of the gateway's body are empty, or begin with a blank or a brace. -/
theorem head?_of_mem_gatewayBody {config : Config} {table : FunctionTable} {line : String}
    (member : line ∈ gatewayBody config table) :
    line.toList.head? = none ∨ line.toList.head? = some ' ' ∨ line.toList.head? = some '\x7b' := by
  rw [gatewayBody, List.mem_append, List.mem_append] at member
  rcases member with (first | inside) | last
  · have every : ∀ fixed ∈ Gateway.opening.tail, fixed.toList.head? = none ∨
        fixed.toList.head? = some ' ' ∨ fixed.toList.head? = some '\x7b' := by decide
    exact every line first
  · obtain ⟨entry, _, within⟩ := List.mem_flatMap.1 inside
    simp only [Gateway.caseLines, List.mem_cons, List.not_mem_nil, or_false] at within
    rcases within with rfl | rfl | rfl <;> exact .inr (.inl (by simp))
  · simp only [Gateway.closing, List.dropLast, List.mem_cons, List.not_mem_nil, or_false] at last
    rcases last with rfl | rfl | rfl | rfl | rfl | rfl | rfl | rfl <;> simp

theorem definitions_gateway (config : Config) (table : FunctionTable) :
    definitions (Gateway.lines config table) = [("mexFunction", gatewayBody config table)] := by
  have undefined : ∀ line ∈ gatewayBody config table ++ ["\x7d"], definedSymbol? line = none := by
    intro line member
    apply definedSymbol?_of_head
    rcases List.mem_append.1 member with inside | ending
    · rcases head?_of_mem_gatewayBody inside with head | head | head <;> simp [head]
    · rw [List.mem_singleton.1 ending]
      decide
  have inside : ∀ line ∈ gatewayBody config table, line ≠ "\x7d" := by
    rintro line member rfl
    rcases head?_of_mem_gatewayBody member with head | head | head <;> simp at head
  rw [gateway_eq, definitions, sections_cons_of_some (definedSymbol?_signature _),
    sections_of_forall_none undefined, takeWhile_body inside]

/-! ## Cases -/

theorem label?_of_ending {front ending : String} (ends : ending.toList.getLast? = some ';') :
    label? (front ++ ending) = none :=
  Text.between?_of_ending rfl ends (by decide)

/-- The case of an entry is read as its number and its symbol. -/
theorem casesOf_caseLines (id : Nat) (symbol : String) (rest : List String) :
    casesOf (Gateway.caseLines id symbol ++ rest) = (toString id, [symbol]) :: casesOf rest := by
  have call : "      " ++ symbol ++ "(nargout, out, nargin-1, in+1);" ≠ "      break;" := by
    intro same
    have reversed := congrArg (fun text => text.toList.reverse) same
    simp [String.toList_append] at reversed
  have unlabelled : ∀ line ∈ ["      " ++ symbol ++ "(nargout, out, nargin-1, in+1);",
      "      break;"], label? line = none := by
    intro line member
    rcases List.mem_pair.1 member with rfl | rfl
    · exact label?_of_ending rfl
    · decide
  have label : label? ("    case " ++ toString id ++ ":") = some (toString id) :=
    Text.between?_append _ _ _
  have called : calledSymbol? ("      " ++ symbol ++ "(nargout, out, nargin-1, in+1);") =
      some symbol := Text.between?_append _ _ _
  rw [Gateway.caseLines, List.cons_append, casesOf, sections_cons_of_some label,
    sections_append unlabelled, List.cons_append, List.takeWhile_cons_of_pos (by simpa using call),
    List.cons_append, List.takeWhile_cons_of_neg (by simp), List.filterMap_cons_some called,
    List.filterMap_nil]

theorem casesOf_cases (table : FunctionTable) (rest : List String) :
    casesOf (Gateway.cases table ++ rest) =
      table.entries.map (fun (id, symbol) => (toString id, [symbol])) ++ casesOf rest := by
  unfold Gateway.cases
  induction table.entries with
  | nil => rfl
  | cons entry others ih =>
    rw [List.flatMap_cons, List.append_assoc, casesOf_caseLines, ih, List.map_cons,
      List.cons_append]

/-- **The gateway has one case for each entry of the table, which calls its symbol.** -/
theorem casesOf_gatewayBody (config : Config) (table : FunctionTable) :
    casesOf (gatewayBody config table) =
      table.entries.map fun (id, symbol) => (toString id, [symbol]) := by
  have before : ∀ line ∈ Gateway.opening.tail, label? line = none := by decide
  have after : ∀ line ∈ (Gateway.closing config).dropLast, label? line = none := by
    intro line member
    simp only [Gateway.closing, List.dropLast, List.mem_cons, List.not_mem_nil, or_false] at member
    rcases member with rfl | rfl | rfl | rfl | rfl | rfl | rfl | rfl
    case inr.inr.inr.inr.inl => exact label?_of_ending rfl
    all_goals decide
  rw [gatewayBody, List.append_assoc, casesOf, sections_append before, ← casesOf, casesOf_cases,
    casesOf, sections_of_forall_none after, List.append_nil]

/-! ## The file -/

/-- The text of a wrapper file with given native functions and a given table. -/
def file (config : Config) (functions : List NativeFunction) (table : FunctionTable) :
    List String :=
  Gateway.prologue config ++ functions.flatMap NativeFunction.lines ++ Gateway.lines config table

/-- **A wrapper file defines its native functions, in order, and then the gateway.** -/
theorem definitions_file (config : Config) (functions : List NativeFunction)
    (table : FunctionTable) :
    definitions (file config functions table) =
      functions.map (fun function => (function.symbol, function.block)) ++
        [("mexFunction", gatewayBody config table)] := by
  have prologue : ∀ line ∈ Gateway.prologue config, definedSymbol? line = none := by
    intro line member
    apply definedSymbol?_of_head
    simp only [Gateway.prologue, List.mem_append, List.mem_singleton, List.mem_map] at member
    rcases member with (rfl | ⟨_, _, rfl⟩) | rfl <;> simp
  rw [file, List.append_assoc, definitions, sections_append prologue, ← definitions,
    definitions_functions, definitions_gateway]

/-- The gateway of a file is found by its name, which no native function has. -/
theorem gatewayCases_file {config : Config} {functions : List NativeFunction}
    {table : FunctionTable} (other : ∀ function ∈ functions, function.symbol ≠ "mexFunction") :
    gatewayCases (file config functions table) =
      table.entries.map fun (id, symbol) => (toString id, [symbol]) := by
  have found : (definitions (file config functions table)).lookup "mexFunction" =
      some (gatewayBody config table) := by
    rw [definitions_file]
    induction functions with
    | nil => rfl
    | cons function rest ih =>
      obtain ⟨first, later⟩ := List.forall_mem_cons.1 other
      rw [List.map_cons, List.cons_append, List.lookup_cons, beq_false_of_ne first.symm]
      exact ih later
  rw [gatewayCases, found]
  exact casesOf_gatewayBody config table

end Wrapper

end MexBridge
