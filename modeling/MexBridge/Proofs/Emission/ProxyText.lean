import MexBridge.Proofs.Emission.Placing
import Mathlib.Data.List.Forall2

/-!
# The proxy text of an emission that ends well

Whatever the table answers, work that ends well has written all that it had to write.  A method gets
one proxy function, with a branch for each of its overloads (`ProxyFunction.Serves`), and a class
gets the class file of such functions: this is `exists_functions_of_emitClass`.  It covers every
way of filling a table, and every bench to begin with.
-/

set_option autoImplicit false

namespace MexBridge

/-- A proxy function is that of a method: it has the names of class and method, and a branch for
each overload, of which there is one at least. -/
structure ProxyFunction.Serves (naming : ClassNaming) (function : ProxyFunction)
    (method : StaticMethod) : Prop where
  matlabClass : function.matlabClass = naming.matlabName
  named : function.method = method.name
  covered : function.branches.length = method.overloads.length
  branched : function.branches ≠ []

namespace Emission

variable {registration : FunctionTable.Registration} {config : Config} {naming : ClassNaming}
  {bench left : Workbench}

/-- Work in sequence that ends well has parts that end well. -/
theorem of_perform_bind {α β : Type} {first : Emission α} {next : α → Emission β} {value : β}
    (done : (first >>= next).perform bench = (.ok value, left)) :
    ∃ middle later, first.perform bench = (.ok middle, later) ∧
      (next middle).perform later = (.ok value, left) := by
  rw [perform_bind] at done
  rcases performed : first.perform bench with ⟨answer, later⟩
  rw [performed] at done
  cases answer with
  | error fault => cases done
  | ok middle => exact ⟨middle, later, rfl, done⟩

/-- An overload leaves the proxy file as it is, also where its number is entered by other means. -/
theorem proxy_of_emitBranch {method : String} {index : Nat} {overload : Overload}
    {branch : ProxyBranch}
    (done : (emitBranch registration config naming method index overload).perform bench =
      (.ok branch, left)) : left.proxy = bench.proxy := by
  cases checked : overload.result.outcome with
  | error fault =>
    rw [perform_emitBranch_of_malformed checked] at done
    cases done
  | ok outcome =>
    rcases answered : registration bench.table
        (Name.entrySymbol naming.matlabName method bench.table.nextId) with ⟨answer, table⟩
    cases answer with
    | error refusal =>
      rw [perform_emitBranch_of_refused checked answered] at done
      cases done
    | ok assigned =>
      -- the table may have handed out another number than the one that was asked for
      by_cases same : assigned = bench.table.nextId
      · simp only [emitBranch, writeFunction, perform_bind, perform_requireOutcome, checked,
          Except.mapError, perform_nextId, perform_writeNative, perform_report, perform_pure,
          perform_register, answered, same, ne_eq, not_true_eq_false, if_false] at done
        cases done
        rfl
      · rw [perform_emitBranch_of_mismatch checked answered same] at done
        cases done

/-- Each overload gets a branch, and the proxy file waits. -/
theorem branches_of_emitBranches {method : String} {index : Nat} {overloads : List Overload}
    {branches : List ProxyBranch}
    (done : (emitBranches registration config naming method index overloads).perform bench =
      (.ok branches, left)) :
    branches.length = overloads.length ∧ left.proxy = bench.proxy := by
  induction overloads generalizing index bench branches with
  | nil =>
    cases done
    exact ⟨rfl, rfl⟩
  | cons overload rest ih =>
    obtain ⟨branch, middle, own, further⟩ := of_perform_bind done
    obtain ⟨others, later, emitted, ending⟩ := of_perform_bind further
    cases ending
    obtain ⟨length, kept⟩ := ih emitted
    exact ⟨congrArg (· + 1) length, kept.trans (proxy_of_emitBranch own)⟩

theorem of_announceMethod {method : StaticMethod} {value : Unit}
    (done : (announceMethod naming method).perform bench = (.ok value, left)) :
    method.overloads ≠ [] ∧ left.proxy = bench.proxy := by
  by_cases empty : method.overloads = []
  · simp [announceMethod, empty, perform_bind] at done
  · simp only [announceMethod, List.isEmpty_iff, empty, if_false] at done
    cases done
    exact ⟨empty, rfl⟩

/-- A method gets its proxy function. -/
theorem exists_function_of_emitMethod {method : StaticMethod} {level : Int} {ids : List Nat}
    (done : (emitMethod registration config naming method level).perform bench =
      (.ok ids, left)) :
    ∃ function : ProxyFunction, function.Serves naming method ∧
      left.proxy = bench.proxy.extend (function.lines config level) := by
  obtain ⟨_, announced, announcement, work⟩ := of_perform_bind done
  obtain ⟨declared, before⟩ := of_announceMethod announcement
  obtain ⟨branches, later, emitted, writing⟩ := of_perform_bind work
  obtain ⟨covered, kept⟩ := branches_of_emitBranches emitted
  have branched : branches ≠ [] := by
    rintro rfl
    exact declared (List.length_eq_zero_iff.1 covered.symm)
  rw [perform_bind, perform_writeProxy] at writing
  cases writing
  refine ⟨⟨naming.matlabName, method.name, branches⟩, ⟨rfl, rfl, covered, branched⟩, ?_⟩
  rw [← before, ← kept]

/-- Further methods get their proxy functions, with an empty line in front of each. -/
theorem exists_functions_of_emitFurtherMethods {methods : List StaticMethod} {ids : List Nat}
    (done : (emitFurtherMethods registration config naming methods).perform bench =
      (.ok ids, left)) :
    ∃ functions : List ProxyFunction,
      List.Forall₂ (ProxyFunction.Serves naming) functions methods ∧
      left.proxy = bench.proxy.extend
        ((ClassFile.furtherLines config.wrapperName functions).map (NestedLine.text config)) := by
  induction methods generalizing bench ids with
  | nil =>
    cases done
    exact ⟨[], .nil, (TextBuffer.extend_nil _).symm⟩
  | cons method rest ih =>
    obtain ⟨_, opened, separation, work⟩ := of_perform_bind done
    obtain ⟨own, middle, emitted, further⟩ := of_perform_bind work
    obtain ⟨others, later, emittedOthers, ending⟩ := of_perform_bind further
    cases separation
    cases ending
    obtain ⟨function, serves, text⟩ := exists_function_of_emitMethod emitted
    obtain ⟨functions, serveOthers, textOthers⟩ := ih emittedOthers
    refine ⟨function :: functions, .cons serves serveOthers, ?_⟩
    rw [textOthers, text]
    simp [ClassFile.furtherLines, ProxyFunction.lines, TextBuffer.extend_extend]

theorem exists_functions_of_emitMethods {methods : List StaticMethod} {ids : List Nat}
    (done : (emitMethods registration config naming methods).perform bench = (.ok ids, left)) :
    ∃ functions : List ProxyFunction,
      List.Forall₂ (ProxyFunction.Serves naming) functions methods ∧
      left.proxy = bench.proxy.extend
        ((ClassFile.blockLines config.wrapperName functions).map (NestedLine.text config)) := by
  cases methods with
  | nil =>
    cases done
    exact ⟨[], .nil, (TextBuffer.extend_nil _).symm⟩
  | cons method rest =>
    obtain ⟨_, opened, opening, work⟩ := of_perform_bind done
    obtain ⟨own, middle, emitted, further⟩ := of_perform_bind work
    obtain ⟨others, later, emittedOthers, ending⟩ := of_perform_bind further
    cases opening
    cases ending
    obtain ⟨function, serves, text⟩ := exists_function_of_emitMethod emitted
    obtain ⟨functions, serveOthers, textOthers⟩ :=
      exists_functions_of_emitFurtherMethods emittedOthers
    refine ⟨function :: functions, .cons serves serveOthers, ?_⟩
    change later.proxy.extend [ClassFile.blockClosing.text config] = _
    rw [textOthers, text]
    simp [ClassFile.blockLines, ProxyFunction.lines, TextBuffer.extend_extend]

theorem eq_of_requireDistinctMethods {methods : List StaticMethod} {value : Unit}
    (done : (requireDistinctMethods naming methods).perform bench = (.ok value, left)) :
    left = bench := by
  unfold requireDistinctMethods at done
  cases collision : methodCollision? [] methods with
  | none =>
    rw [collision] at done
    cases done
    rfl
  | some pair =>
    rw [collision] at done
    cases done

/-- **A class gets the class file of the proxy functions of its methods.** -/
theorem exists_functions_of_emitClass {methods : List StaticMethod} {ids : List Nat}
    (done : (emitClass registration config naming methods).perform bench = (.ok ids, left)) :
    ∃ functions : List ProxyFunction,
      List.Forall₂ (ProxyFunction.Serves naming) functions methods ∧
      left.proxy = bench.proxy.extend (ClassFile.lines config naming functions) := by
  obtain ⟨_, opened, distinct, work⟩ := of_perform_bind done
  cases eq_of_requireDistinctMethods distinct
  obtain ⟨_, begun, header, block⟩ := of_perform_bind work
  obtain ⟨own, later, emitted, ending⟩ := of_perform_bind block
  cases header
  cases ending
  obtain ⟨functions, serve, text⟩ := exists_functions_of_emitMethods emitted
  refine ⟨functions, serve, ?_⟩
  change later.proxy.extend [ClassFile.closing.text config] = _
  rw [text]
  simp [ClassFile.lines, ClassFile.nestedLines, TextBuffer.extend_extend]

end Emission

end MexBridge
