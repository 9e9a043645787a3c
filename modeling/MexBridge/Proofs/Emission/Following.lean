import MexBridge.Proofs.Traversal.Passage

/-!
# Emissions that follow a traversal

An emission follows a list of stations when it does what passing them does, and no more: it stops
with the cause of the first station that is not clear, with the bench as the stations before it
leave it, and otherwise it ends with a given value and a given proxy file, with the bench as all of
them leave it.  `Emission.Follows` says this of one bench, and `Follows.bind` puts two emissions one
after the other, and their stations too.

Each emitter follows its part of the traversal: `follows_emitBranches`, `follows_emitMethod`,
`follows_emitClass` and `follows_emitClassFiles`.  The proxy files are given as data: a
`ProxyFunction` for each method, whose branches are numbered on from method to method and from class
to class, printed by `ClassFile.lines`.
-/

set_option autoImplicit false

namespace MexBridge

namespace Emission

variable {α β : Type} {config : Config} {bench : Workbench}

/-- Work at a bench that does what passing stations does: it stops where they stop it, and
otherwise ends with a value and a proxy file. -/
structure Follows (config : Config) (bench : Workbench) (stations : List Station)
    (emission : Emission α) (value : α) (proxy : TextBuffer) : Prop where
  completes : (∀ station ∈ stations, station.Clear) →
    emission.perform bench =
      (.ok value, (bench.passAll config stations).withProxy proxy)
  stops : ∀ {before : List Station} {station : Station} {after : List Station}
    {violation : Violation}, stations = before ++ station :: after →
    (∀ passed ∈ before, passed.Clear) → station.violation? = some violation →
    ∃ left, emission.perform bench =
      (.error (.violation violation), (bench.passAll config before).withProxy left)

/-! ## Rules -/

namespace Follows

theorem not_clear {station : Station} {violation : Violation}
    (found : station.violation? = some violation) : ¬ station.Clear := by
  intro clear
  rw [Station.violation?_eq_none_iff.2 clear] at found
  cases found

/-- Work that writes to the proxy file at most follows no station. -/
theorem of_perform {emission : Emission α} {value : α} {proxy : TextBuffer}
    (performed : emission.perform bench = (.ok value, bench.withProxy proxy)) :
    Follows config bench [] emission value proxy := by
  refine ⟨fun _ => performed, ?_⟩
  intro before first after violation parts _ _
  exact absurd parts (List.append_ne_nil_of_right_ne_nil _ (List.cons_ne_nil _ _)).symm

/-- Work that does what one clear station leaves follows this station. -/
theorem of_clear {station : Station} {emission : Emission α} {value : α} {proxy : TextBuffer}
    (clear : station.Clear)
    (performed : emission.perform bench =
      (.ok value, (bench.pass config station).withProxy proxy)) :
    Follows config bench [station] emission value proxy := by
  refine ⟨fun _ => performed, ?_⟩
  intro before first after violation parts _ found
  have member : first ∈ [station] := by
    rw [parts]
    exact List.mem_append_right _ List.mem_cons_self
  cases List.mem_singleton.1 member
  exact absurd clear (not_clear found)

/-- Work that stops with the cause of the first station follows any list behind it. -/
theorem of_stop {station : Station} {rest : List Station} {emission : Emission α} {value : α}
    {proxy : TextBuffer} (violation : Violation) (found : station.violation? = some violation)
    (performed : emission.perform bench = (.error (.violation violation), bench)) :
    Follows config bench (station :: rest) emission value proxy := by
  constructor
  · intro clear
    exact absurd (clear station List.mem_cons_self) (not_clear found)
  · intro before first after cause parts passed later
    cases before with
    | nil =>
      cases parts
      cases found.symm.trans later
      exact ⟨bench.proxy, performed⟩
    | cons head tail =>
      cases parts
      exact absurd (passed station List.mem_cons_self) (not_clear found)

/-- A clear station that leaves nothing may stand in front. -/
theorem cons {station : Station} {stations : List Station} {emission : Emission α} {value : α}
    {proxy : TextBuffer} (clear : station.Clear) (silent : bench.pass config station = bench)
    (follows : Follows config bench stations emission value proxy) :
    Follows config bench (station :: stations) emission value proxy := by
  constructor
  · intro allClear
    rw [Workbench.passAll_cons, silent]
    exact follows.completes fun later member => allClear later (List.mem_cons_of_mem _ member)
  · intro before first after violation parts passed found
    cases before with
    | nil =>
      cases parts
      exact absurd clear (not_clear found)
    | cons head tail =>
      cases parts
      rw [Workbench.passAll_cons, silent]
      exact follows.stops rfl (fun later member => passed later (List.mem_cons_of_mem _ member))
        found

/-- **Work in sequence follows the stations in sequence.** -/
theorem bind {stations further : List Station} {first : Emission α} {next : α → Emission β}
    {value : α} {result : β} {proxy later : TextBuffer}
    (earlier : Follows config bench stations first value proxy)
    (rest : Follows config ((bench.passAll config stations).withProxy proxy) further
      (next value) result later) :
    Follows config bench (stations ++ further) (first >>= next) result later := by
  constructor
  · intro clear
    rw [perform_bind, earlier.completes fun station member =>
      clear station (List.mem_append_left _ member)]
    have performed := rest.completes fun station member =>
      clear station (List.mem_append_right _ member)
    rw [Workbench.passAll_withProxy] at performed
    rw [Workbench.passAll_append]
    exact performed
  · intro before station after violation parts passed found
    rcases List.append_eq_append_iff.1 parts with ⟨middle, whole, tail⟩ | ⟨middle, whole, tail⟩
    · -- the station that stops belongs to the second part
      rw [whole] at passed ⊢
      rw [perform_bind, earlier.completes fun station member =>
        passed station (List.mem_append_left _ member)]
      obtain ⟨left, performed⟩ := rest.stops tail
        (fun station member => passed station (List.mem_append_right _ member)) found
      rw [Workbench.passAll_withProxy] at performed
      rw [Workbench.passAll_append]
      exact ⟨left, performed⟩
    · cases middle with
      | nil =>
        rw [List.append_nil] at whole
        rw [← whole] at passed ⊢
        rw [perform_bind, earlier.completes passed]
        have parts : further = [] ++ station :: after := tail.symm
        obtain ⟨left, performed⟩ := rest.stops parts
          (fun station impossible => nomatch impossible) found
        exact ⟨left, performed⟩
      | cons head others =>
        cases tail
        obtain ⟨left, performed⟩ := earlier.stops whole passed found
        rw [perform_bind, performed]
        exact ⟨left, rfl⟩

/-- Work that writes to the proxy file at most may come first. -/
theorem silent_bind {stations : List Station} {first : Emission α} {next : α → Emission β}
    {value : α} {result : β} {proxy later : TextBuffer}
    (performed : first.perform bench = (.ok value, bench.withProxy proxy))
    (rest : Follows config (bench.withProxy proxy) stations (next value) result later) :
    Follows config bench stations (first >>= next) result later :=
  (of_perform performed).bind rest

/-- Work that writes to the proxy file at most may come last. -/
theorem bind_silent {stations : List Station} {first : Emission α} {next : α → Emission β}
    {value : α} {result : β} {proxy later : TextBuffer}
    (earlier : Follows config bench stations first value proxy)
    (performed : (next value).perform ((bench.passAll config stations).withProxy proxy) =
      (.ok result, (bench.passAll config stations).withProxy later)) :
    Follows config bench stations (first >>= next) result later := by
  have last : Follows config ((bench.passAll config stations).withProxy proxy) [] (next value)
      result later := of_perform performed
  have followed := earlier.bind last
  rwa [List.append_nil] at followed

/-- Work that looks for the first cause at silent stations follows them. -/
theorem of_findSome {stations : List Station} {emission : Emission α} {value : α}
    (silent : ∀ before, before <+: stations → bench.passAll config before = bench)
    (performed : emission.perform bench =
      match stations.findSome? Station.violation? with
      | some violation => (.error (.violation violation), bench)
      | none => (.ok value, bench)) :
    Follows config bench stations emission value bench.proxy := by
  constructor
  · intro clear
    have unfound : stations.findSome? Station.violation? = none :=
      Station.findSome?_violation?_eq_none_iff.2 clear
    rw [unfound] at performed
    rw [silent stations List.prefix_rfl]
    exact performed
  · intro before station after violation parts passed found
    have unfound : before.findSome? Station.violation? = none :=
      Station.findSome?_violation?_eq_none_iff.2 passed
    have first : stations.findSome? Station.violation? = some violation := by
      rw [parts, List.findSome?_append, unfound, List.findSome?_cons, found]
      rfl
    rw [first] at performed
    rw [silent before (parts ▸ List.prefix_append _ _)]
    exact ⟨bench.proxy, performed⟩

end Follows

end Emission

end MexBridge
