import MexBridge.Proofs.Registry.Log
import MexBridge.Proofs.Registry.TwoTables

/-!
# A registry shows what its log says

A registry keeps each class with its naming and its methods, and is changed by two kinds of calls,
one of which does the work of the other where a class is new.  `Registry.Keeps` relates a registry
to a log of calls, class by class; one call preserves it (`Keeps.serve`), and so do many
(`Keeps.serveAll`).

The main statement is `Registry.refines_log`, about a new registry after any calls: every question
is answered from the log of successful calls alone, the calls that are refused are exactly those
that come too late or contradict the naming of a class, nothing that is refused leaves a trace, and
nothing changes after the registry was frozen.  A registry that keeps the namings and the methods in
two maps gives the same answers, and holds the two parts of what this one holds.
-/

set_option autoImplicit false

namespace MexBridge

namespace RegistryLog

/-- The log of exchanges: the calls that were not refused. -/
def ofExchanges (exchanges : List RegistryExchange) : RegistryLog :=
  (exchanges.filter fun exchange => exchange.2.isOk).map Prod.fst

theorem ofExchanges_cons (exchange : RegistryExchange) (rest : List RegistryExchange) :
    ofExchanges (exchange :: rest) = ofExchanges [exchange] ++ ofExchanges rest := by
  rw [ofExchanges, ← List.singleton_append, List.filter_append, List.map_append]
  rfl

@[simp] theorem ofExchanges_ok (call : RegistryCall) (answer : RegistryAnswer) :
    ofExchanges [(call, .ok answer)] = [call] := rfl

@[simp] theorem ofExchanges_error (call : RegistryCall) (refusal : RegistryRefusal) :
    ofExchanges [(call, .error refusal)] = [] := rfl

end RegistryLog

/-- A registered class as a log shows it. -/
structure RegisteredClass.Keeps (registered : RegisteredClass) (log : RegistryLog)
    (className : String) : Prop where
  naming : log.namingOf? className = some registered.naming
  methodNames : registered.methods.keys = log.methodNames className
  overloads : ∀ method, registered.overloadsOf method = log.overloadsOf className method

/-- A registry as a log shows it. -/
structure Registry.Keeps (registry : Registry) (log : RegistryLog) : Prop where
  frozen : registry.frozen = true ↔ .freeze ∈ log
  classNames : registry.classNames = log.classNames
  classes : ∀ {className : String} {registered : RegisteredClass},
    registry.classes.get? className = some registered → registered.Keeps log className

/-! ## One call -/

namespace RegisteredClass

/-- One more overload, for the class as a table of methods. -/
theorem keys_addOverload (registered : RegisteredClass) (method : String) (overload : Overload) :
    (registered.addOverload method overload).methods.keys =
      if method ∈ registered.methods.keys then registered.methods.keys
      else registered.methods.keys ++ [method] :=
  OrderedMap.keys_insert ..

theorem overloadsOf_addOverload (registered : RegisteredClass) (method other : String)
    (overload : Overload) :
    (registered.addOverload method overload).overloadsOf other =
      if other = method then registered.overloadsOf method ++ [overload]
      else registered.overloadsOf other := by
  rw [overloadsOf, addOverload, OrderedMap.get?_insert]
  split <;> rfl

/-- A call that records nothing for a class leaves the class as it is. -/
theorem Keeps.concat_of_ne {registered : RegisteredClass} {log : RegistryLog} {className : String}
    (keeps : registered.Keeps log className) {call : RegistryCall}
    (other : ∀ entry, call.recorded? = some entry → entry.className ≠ className) :
    registered.Keeps (log ++ [call]) className where
  naming := RegistryLog.namingOf?_append_of_some keeps.naming [call]
  methodNames := keeps.methodNames.trans (RegistryLog.methodNames_concat_of_ne other).symm
  overloads := fun method =>
    (keeps.overloads method).trans (RegistryLog.overloadsOf_concat_of_ne other).symm

end RegisteredClass

namespace Registry

variable {registry : Registry} {log : RegistryLog}

/-- What becomes of a class that is named. -/
theorem registerClass_cases (registry : Registry) (declaration : ClassDeclaration) :
    (registry.frozen = true ∧ registry.registerClass declaration = .error .frozen) ∨
    (registry.frozen = false ∧ ∃ registered,
      registry.classes.get? declaration.name = some registered ∧
      registered.naming ≠ declaration.naming ∧
      registry.registerClass declaration = .error (.conflictingNaming declaration.name)) ∨
    (registry.frozen = false ∧ ∃ registered,
      registry.classes.get? declaration.name = some registered ∧
      registered.naming = declaration.naming ∧
      registry.registerClass declaration = .ok (declaration.naming, registry)) ∨
    (registry.frozen = false ∧ registry.classes.get? declaration.name = none ∧
      registry.registerClass declaration = .ok (declaration.naming, { registry with
        classes := registry.classes.insert declaration.name
          { naming := declaration.naming } })) := by
  unfold registerClass
  cases registry.frozen with
  | true => exact .inl ⟨rfl, rfl⟩
  | false =>
    cases found : registry.classes.get? declaration.name with
    | none => exact .inr (.inr (.inr ⟨rfl, rfl, rfl⟩))
    | some registered =>
      by_cases same : registered.naming = declaration.naming
      · exact .inr (.inr (.inl ⟨rfl, registered, rfl, same, by simp [same]⟩))
      · exact .inr (.inl ⟨rfl, registered, rfl, same, by simp [same]⟩)

/-- What becomes of an overload that is registered. -/
theorem register_cases (registry : Registry) (className method : String) (overload : Overload) :
    (registry.frozen = true ∧ registry.register className method overload = .error .frozen) ∨
    (registry.frozen = false ∧ registry.register className method overload =
      .ok { registry with
        classes := registry.classes.insert className
          (((registry.classes.get? className).getD
            { naming := ClassDeclaration.naming { name := className } }).addOverload
              method overload) }) := by
  unfold register
  cases registry.frozen with
  | true => exact .inl ⟨rfl, rfl⟩
  | false => exact .inr ⟨rfl, rfl⟩

namespace Keeps

theorem get?_eq_none_iff (keeps : registry.Keeps log) {className : String} :
    registry.classes.get? className = none ↔ className ∉ log.classNames := by
  rw [OrderedMap.get?_eq_none_iff, ← keeps.classNames]
  rfl

/-- A class that is new, or as it is. -/
theorem methods_getD (keeps : registry.Keeps log) (className : String) (naming : ClassNaming) :
    ((registry.classes.get? className).getD { naming := naming }).methods.keys =
        log.methodNames className ∧
      ∀ method, ((registry.classes.get? className).getD { naming := naming }).overloadsOf method =
        log.overloadsOf className method := by
  cases found : registry.classes.get? className with
  | some registered =>
    exact ⟨(keeps.classes found).methodNames, (keeps.classes found).overloads⟩
  | none =>
    have unknown := keeps.get?_eq_none_iff.1 found
    rw [RegistryLog.methodNames_of_unknown unknown]
    exact ⟨rfl, fun method => (RegistryLog.overloadsOf_of_unknown unknown).symm⟩

/-- A class that is mentioned has the naming of its first mention. -/
theorem naming_getD (keeps : registry.Keeps log) {call : RegistryCall} {naming : ClassNaming}
    (names : call.naming? = some naming) :
    RegistryLog.namingOf? (log ++ [call]) naming.name =
      some ((registry.classes.get? naming.name).getD { naming := naming }).naming := by
  cases found : registry.classes.get? naming.name with
  | some registered =>
    exact RegistryLog.namingOf?_append_of_some (keeps.classes found).naming [call]
  | none =>
    exact RegistryLog.namingOf?_concat_of_none names
      (RegistryLog.namingOf?_eq_none_iff.2 (keeps.get?_eq_none_iff.1 found))

/-- A call that mentions a class does not freeze. -/
theorem frozen_concat_of_named (keeps : registry.Keeps log) {call : RegistryCall}
    {naming : ClassNaming} (names : call.naming? = some naming) :
    registry.frozen = true ↔ .freeze ∈ log ++ [call] := by
  have other : .freeze ≠ call := by
    rintro rfl
    cases names
  simpa [other] using keeps.frozen

/-- A class table with one class put into it, in place of what was known of this class. -/
theorem insert (keeps : registry.Keeps log) {call : RegistryCall} {naming : ClassNaming}
    (names : call.naming? = some naming)
    (records : ∀ entry, call.recorded? = some entry → entry.className = naming.name)
    {registered : RegisteredClass} (shown : registered.Keeps (log ++ [call]) naming.name) :
    ({ registry with classes := registry.classes.insert naming.name registered } :
      Registry).Keeps (log ++ [call]) where
  frozen := keeps.frozen_concat_of_named names
  classNames := by
    have keys : registry.classes.keys = log.classNames := keeps.classNames
    rw [RegistryLog.classNames_concat names, ← keys]
    exact OrderedMap.keys_insert ..
  classes := by
    intro className other found
    rw [OrderedMap.get?_insert] at found
    split at found
    · next same =>
      cases found
      rw [same]
      exact shown
    · next apart =>
      exact (keeps.classes found).concat_of_ne fun entry recorded same =>
        apart (same.symm.trans (records entry recorded))

/-- A class that is named once more with the same naming. -/
theorem concat_of_known (keeps : registry.Keeps log) {call : RegistryCall} {naming : ClassNaming}
    (names : call.naming? = some naming) (recordless : call.recorded? = none)
    (known : naming.name ∈ log.classNames) : registry.Keeps (log ++ [call]) where
  frozen := keeps.frozen_concat_of_named names
  classNames := by
    rw [RegistryLog.classNames_concat names, if_pos known]
    exact keeps.classNames
  classes := fun found => (keeps.classes found).concat_of_ne fun entry recorded => by
    rw [recordless] at recorded
    cases recorded

/-- A call that mentions no class. -/
theorem concat_of_unnamed (keeps : registry.Keeps log) {call : RegistryCall}
    (unnamed : call.naming? = none) {frozen : Bool}
    (closed : frozen = true ↔ .freeze ∈ log ++ [call]) :
    ({ registry with frozen := frozen } : Registry).Keeps (log ++ [call]) where
  frozen := closed
  classNames := by
    have same : RegistryLog.answer (log ++ [call]) .classNames = log.answer .classNames :=
      RegistryLog.answer_concat_of_unnamed unnamed .classNames
    simp only [RegistryLog.answer, Except.ok.injEq, RegistryAnswer.names.injEq] at same
    exact keeps.classNames.trans same.symm
  classes := fun found => (keeps.classes found).concat_of_ne fun entry recorded => by
    rw [RegistryCall.naming?_of_recorded recorded] at unnamed
    cases unnamed

/-- **One call preserves what a log says**, extended by the call unless it is refused. -/
theorem serve (keeps : registry.Keeps log) (call : RegistryCall) :
    (registry.serve call).2.Keeps
      (log ++ RegistryLog.ofExchanges [(call, (registry.serve call).1)]) := by
  cases call with
  | registerClass declaration =>
    have names : (RegistryCall.registerClass declaration).naming? = some declaration.naming := rfl
    rcases registry.registerClass_cases declaration with
      ⟨_, refused⟩ | ⟨_, registered, _, _, refused⟩ | ⟨_, registered, found, _, served⟩ |
        ⟨_, unknown, served⟩
    · simpa [Registry.serve, refused] using keeps
    · simpa [Registry.serve, refused] using keeps
    · simp only [Registry.serve, served, RegistryLog.ofExchanges_ok]
      refine keeps.concat_of_known names rfl (by_contra fun absent => ?_)
      rw [show declaration.naming.name = declaration.name from rfl,
        ← keeps.get?_eq_none_iff, found] at absent
      cases absent
    · simp only [Registry.serve, served, RegistryLog.ofExchanges_ok]
      have recordless : ∀ entry,
          (RegistryCall.registerClass declaration).recorded? ≠ some entry := by
        intro entry recorded
        cases recorded
      refine keeps.insert names (fun entry recorded => absurd recorded (recordless entry)) ?_
      have naming := keeps.naming_getD names
      obtain ⟨methods, overloads⟩ := keeps.methods_getD declaration.name declaration.naming
      rw [show declaration.naming.name = declaration.name from rfl, unknown] at naming
      rw [unknown] at methods overloads
      refine ⟨naming, ?_, fun method => ?_⟩
      · rw [RegistryLog.methodNames_concat_of_ne fun entry recorded =>
          absurd recorded (recordless entry)]
        exact methods
      · rw [RegistryLog.overloadsOf_concat_of_ne fun entry recorded =>
          absurd recorded (recordless entry)]
        exact overloads method
  | register className method overload =>
    rcases registry.register_cases className method overload with ⟨_, refused⟩ | ⟨_, served⟩
    · simpa [Registry.serve, refused] using keeps
    · simp only [Registry.serve, served, RegistryLog.ofExchanges_ok]
      have records : (RegistryCall.register className method overload).recorded? =
          some ⟨className, method, overload⟩ := rfl
      have names := RegistryCall.naming?_of_recorded records
      obtain ⟨methods, overloads⟩ := keeps.methods_getD className
        (ClassDeclaration.naming { name := className })
      refine keeps.insert names (fun entry recorded => ?_) ⟨keeps.naming_getD names, ?_, ?_⟩
      · cases recorded
        rfl
      · rw [RegisteredClass.keys_addOverload, methods]
        exact (RegistryLog.methodNames_concat_of_recorded records).symm
      · intro other
        rw [RegisteredClass.overloadsOf_addOverload, overloads, overloads]
        refine .trans ?_ (RegistryLog.overloadsOf_concat_of_recorded records).symm
        split
        · next same => rw [same]
        · rfl
  | freeze => exact keeps.concat_of_unnamed rfl (by simp)
  | query asked =>
    simp only [Registry.serve]
    cases registry.answer asked with
    | ok answer => exact keeps.concat_of_unnamed rfl (by simpa using keeps.frozen)
    | error refusal => simpa using keeps

theorem empty : Registry.empty.Keeps [] where
  frozen := by simp [Registry.empty]
  classNames := rfl
  classes := nofun

/-- **Many calls preserve what a log says**, extended by those that are not refused. -/
theorem serveAll (keeps : registry.Keeps log) (calls : List RegistryCall) :
    (registry.serveAll calls).2.Keeps
      (log ++ RegistryLog.ofExchanges (registry.serveAll calls).1) := by
  induction calls generalizing registry log with
  | nil =>
    rw [show RegistryLog.ofExchanges (registry.serveAll []).1 = [] from rfl, List.append_nil]
    exact keeps
  | cons call rest ih =>
    have later := ih (keeps.serve call)
    rwa [List.append_assoc, ← RegistryLog.ofExchanges_cons] at later

/-- A class has the naming that the log gives it. -/
theorem map_naming_get? (keeps : registry.Keeps log) (className : String) :
    (registry.classes.get? className).map RegisteredClass.naming = log.namingOf? className := by
  cases found : registry.classes.get? className with
  | some registered => exact (keeps.classes found).naming.symm
  | none => exact (RegistryLog.namingOf?_eq_none_iff.2 (keeps.get?_eq_none_iff.1 found)).symm

end Keeps

end Registry

/-! ## What is shown -/

/-- The methods of a class, each with its overloads. -/
theorem RegisteredClass.Keeps.staticMethods {registered : RegisteredClass} {log : RegistryLog}
    {className : String} (keeps : registered.Keeps log className) :
    registered.staticMethods = log.methodsOf className := by
  have entries : registered.methods.entries = registered.methods.keys.map
      fun method => (method, log.overloadsOf className method) := by
    refine OrderedMap.entries_eq_map_keys fun method member => ?_
    obtain ⟨overloads, found⟩ := OrderedMap.exists_get?_of_mem member
    rw [← keeps.overloads, overloadsOf, found]
    rfl
  rw [RegisteredClass.staticMethods, entries, keeps.methodNames, List.map_map]
  rfl

/-- A snapshot as a log shows it: its classes with their namings, their methods, and the overloads
of these, none more and none less. -/
structure Snapshot.Holds (snapshot : Snapshot) (log : RegistryLog) : Prop where
  classes : snapshot.classes = log.namings
  classNamed : ∀ className, snapshot.classNamed? className = log.namingOf? className
  classNames : snapshot.methods.keys = log.classNames
  methodsOf : ∀ className, snapshot.methodsOf className = log.methodsOf className
  overloadCount : snapshot.overloadCount = log.size

namespace Registry

variable {registry : Registry} {log : RegistryLog}

/-- A snapshot has the overloads of its registry, in the same order. -/
theorem overloads_snapshot (registry : Registry) :
    registry.snapshot.overloads = registry.overloads := by
  simp only [Snapshot.overloads, snapshot, overloads, OrderedMap.values, OrderedMap.mapValues,
    List.map_map, List.flatMap_map, RegisteredClass.staticMethods, Function.comp_def]
  simp only [List.flatMap_def]

/-- **A snapshot of a registry holds what the log shows.** -/
theorem Keeps.holds (keeps : registry.Keeps log) : registry.snapshot.Holds log := by
  have keys : registry.snapshot.methods.keys = log.classNames :=
    (OrderedMap.keys_mapValues ..).trans keeps.classNames
  have classes : registry.snapshot.classes = log.namings := by
    rw [snapshot, OrderedMap.values_eq_filterMap_keys, List.map_filterMap, RegistryLog.namings,
      ← keeps.classNames]
    exact List.filterMap_congr fun className _ => keeps.map_naming_get? className
  have methods : ∀ className ∈ registry.snapshot.methods.keys,
      registry.snapshot.methods.get? className = some (log.methodsOf className) := by
    intro className member
    rw [keys, ← keeps.classNames] at member
    obtain ⟨registered, found⟩ := OrderedMap.exists_get?_of_mem member
    rw [snapshot, OrderedMap.get?_mapValues, found, Option.map_some,
      (keeps.classes found).staticMethods]
  refine ⟨classes, fun className => ?_, keys, fun className => ?_, ?_⟩
  · rw [Snapshot.classNamed?, classes]
    exact log.find?_namings className
  · rw [Snapshot.methodsOf]
    by_cases known : className ∈ registry.snapshot.methods.keys
    · rw [methods className known]
      rfl
    · rw [OrderedMap.get?_eq_none_iff.2 known, RegistryLog.methodsOf,
        RegistryLog.methodNames_of_unknown (keys ▸ known)]
      rfl
  · have values : registry.snapshot.methods.values = log.classNames.map log.methodsOf := by
      rw [OrderedMap.values, OrderedMap.entries_eq_map_keys methods, keys, List.map_map]
      rfl
    rw [Snapshot.overloadCount, Snapshot.overloads, values, List.flatMap_map,
      log.perm_overloads.length_eq, List.length_map, RegistryLog.size]

theorem Keeps.size_eq (keeps : registry.Keeps log) : registry.size = log.size := by
  rw [size, ← overloads_snapshot]
  exact keeps.holds.overloadCount

/-- **A registry answers every question as the log does.** -/
theorem Keeps.answer (keeps : registry.Keeps log) (asked : RegistryQuery) :
    registry.answer asked = log.answer asked := by
  cases asked with
  | classNames => rw [Registry.answer, keeps.classNames, RegistryLog.answer]
  | namingOf className =>
    rw [Registry.answer, namingOf, RegistryLog.answer, ← keeps.map_naming_get?]
    cases registry.classes.get? className <;> rfl
  | methodNames className =>
    have same : registry.methodNames className = log.methodNames className := by
      unfold methodNames
      cases found : registry.classes.get? className with
      | some registered => exact (keeps.classes found).methodNames
      | none =>
        exact (RegistryLog.methodNames_of_unknown (keeps.get?_eq_none_iff.1 found)).symm
    rw [Registry.answer, same, RegistryLog.answer]
  | overloadsOf className method =>
    have same : registry.overloadsOf className method = log.overloadsOf className method := by
      unfold overloadsOf
      cases found : registry.classes.get? className with
      | some registered => exact (keeps.classes found).overloads method
      | none =>
        exact (RegistryLog.overloadsOf_of_unknown (keeps.get?_eq_none_iff.1 found)).symm
    rw [Registry.answer, same, RegistryLog.answer]
  | size => rw [Registry.answer, keeps.size_eq, RegistryLog.answer]

/-! ## Calls that are refused, and calls after the end -/

/-- A call is refused and changes nothing, or it is answered; only freezing gives a snapshot. -/
theorem serve_cases (registry : Registry) (call : RegistryCall) :
    (∃ refusal, registry.serve call = (.error refusal, registry)) ∨
    ∃ answer, (registry.serve call).1 = .ok answer ∧
      ∀ taken, answer = .snapshot taken → call = .freeze := by
  cases call with
  | registerClass declaration =>
    simp only [serve]
    rcases registry.registerClass_cases declaration with
      ⟨_, refused⟩ | ⟨_, _, _, _, refused⟩ | ⟨_, _, _, _, named⟩ | ⟨_, _, named⟩
    · rw [refused]
      exact .inl ⟨_, rfl⟩
    · rw [refused]
      exact .inl ⟨_, rfl⟩
    · rw [named]
      exact .inr ⟨_, rfl, by simp⟩
    · rw [named]
      exact .inr ⟨_, rfl, by simp⟩
  | register className method overload =>
    simp only [serve]
    rcases registry.register_cases className method overload with ⟨_, refused⟩ | ⟨_, recorded⟩
    · rw [refused]
      exact .inl ⟨_, rfl⟩
    · rw [recorded]
      exact .inr ⟨_, rfl, by simp⟩
  | freeze => exact .inr ⟨_, rfl, fun _ _ => rfl⟩
  | query asked =>
    cases asked with
    | namingOf className =>
      simp only [serve, Registry.answer, namingOf]
      cases registry.classes.get? className with
      | none => exact .inl ⟨_, rfl⟩
      | some registered => exact .inr ⟨_, rfl, by simp⟩
    | classNames => exact .inr ⟨_, rfl, by simp⟩
    | methodNames className => exact .inr ⟨_, rfl, by simp⟩
    | overloadsOf className method => exact .inr ⟨_, rfl, by simp⟩
    | size => exact .inr ⟨_, rfl, by simp⟩

/-- What is refused leaves a registry as it is. -/
theorem serve_of_error {call : RegistryCall} {refusal : RegistryRefusal}
    (refused : (registry.serve call).1 = .error refusal) : (registry.serve call).2 = registry := by
  rcases registry.serve_cases call with ⟨_, served⟩ | ⟨answer, served, _⟩
  · rw [served]
  · rw [served] at refused
    cases refused

/-- A frozen registry stays as it is. -/
theorem serve_of_frozen (frozen : registry.frozen = true) (call : RegistryCall) :
    (registry.serve call).2 = registry := by
  cases call with
  | registerClass declaration => simp only [serve, registerClass, frozen, if_true]
  | register className method overload => simp only [serve, register, frozen, if_true]
  | freeze =>
    obtain ⟨classes, _⟩ := registry
    cases frozen
    rfl
  | query asked => rfl

theorem serveAll_of_frozen (frozen : registry.frozen = true) (calls : List RegistryCall) :
    (registry.serveAll calls).2 = registry := by
  induction calls with
  | nil => rfl
  | cons call rest ih =>
    have step : (registry.serveAll (call :: rest)).2 =
        ((registry.serve call).2.serveAll rest).2 := rfl
    rw [step, serve_of_frozen frozen, ih]

/-- A snapshot that is given is that of the registry, which is frozen then. -/
theorem eq_snapshot_of_serve {call : RegistryCall} {taken : Snapshot}
    (answered : (registry.serve call).1 = .ok (.snapshot taken)) :
    taken = registry.snapshot ∧ (registry.serve call).2.frozen = true ∧
      (registry.serve call).2.snapshot = registry.snapshot := by
  rcases registry.serve_cases call with ⟨_, served⟩ | ⟨answer, served, only⟩
  · rw [served] at answered
    cases answered
  · rw [served, Except.ok.injEq] at answered
    cases only taken answered
    cases served.trans (congrArg Except.ok answered)
    exact ⟨rfl, rfl, rfl⟩

/-- **All snapshots that are taken are that of the registry at the end.** -/
theorem eq_snapshot_of_mem_serveAll {calls : List RegistryCall} {call : RegistryCall}
    {taken : Snapshot} (served : (call, .ok (.snapshot taken)) ∈ (registry.serveAll calls).1) :
    taken = (registry.serveAll calls).2.snapshot := by
  induction calls generalizing registry with
  | nil => cases served
  | cons first rest ih =>
    have step : (registry.serveAll (first :: rest)) =
        ((first, (registry.serve first).1) :: ((registry.serve first).2.serveAll rest).1,
          ((registry.serve first).2.serveAll rest).2) := rfl
    rw [step] at served ⊢
    rcases List.mem_cons.1 served with here | later
    · obtain ⟨same, frozen, kept⟩ := eq_snapshot_of_serve (congrArg Prod.snd here).symm
      rw [serveAll_of_frozen frozen, kept, same]
    · exact ih later

/-! ## A new registry after calls -/

/-- The log of the calls that a new registry does not refuse. -/
def logOf (calls : List RegistryCall) : RegistryLog :=
  .ofExchanges (exchanges calls)

theorem keeps_after (calls : List RegistryCall) : (after calls).Keeps (logOf calls) :=
  Keeps.empty.serveAll calls

theorem serveAll_append (registry : Registry) (calls later : List RegistryCall) :
    registry.serveAll (calls ++ later) =
      ((registry.serveAll calls).1 ++ ((registry.serveAll calls).2.serveAll later).1,
        ((registry.serveAll calls).2.serveAll later).2) := by
  induction calls generalizing registry with
  | nil => rfl
  | cons call rest ih =>
    have step : ∀ others, registry.serveAll (call :: others) =
        ((call, (registry.serve call).1) :: ((registry.serve call).2.serveAll others).1,
          ((registry.serve call).2.serveAll others).2) := fun _ => rfl
    rw [List.cons_append, step, step, ih]
    rfl

theorem after_append (calls later : List RegistryCall) :
    after (calls ++ later) = ((after calls).serveAll later).2 := by
  rw [after, serveAll_append]
  rfl

theorem logOf_append (calls later : List RegistryCall) :
    logOf (calls ++ later) =
      logOf calls ++ RegistryLog.ofExchanges ((after calls).serveAll later).1 := by
  rw [logOf, exchanges, serveAll_append, RegistryLog.ofExchanges, List.filter_append,
    List.map_append]
  rfl

/-- Freezing is never refused. -/
theorem freeze_mem_ofExchanges_iff (registry : Registry) (calls : List RegistryCall) :
    .freeze ∈ RegistryLog.ofExchanges (registry.serveAll calls).1 ↔ .freeze ∈ calls := by
  induction calls generalizing registry with
  | nil => rfl
  | cons call rest ih =>
    have step : (registry.serveAll (call :: rest)).1 =
        (call, (registry.serve call).1) :: ((registry.serve call).2.serveAll rest).1 := rfl
    rw [step, RegistryLog.ofExchanges_cons, List.mem_append, ih, List.mem_cons]
    refine or_congr_left ?_
    by_cases freezes : .freeze = call
    · subst freezes
      simp [serve]
    · cases (registry.serve call).1 <;> simp [freezes]

theorem frozen_after_iff (calls : List RegistryCall) :
    (after calls).frozen = true ↔ .freeze ∈ calls :=
  (keeps_after calls).frozen.trans (freeze_mem_ofExchanges_iff empty calls)

/-- **A registry shows what the log of its successful calls says.**  For any calls to a new
registry: a question is answered from the log alone; an overload is refused exactly if the registry
is frozen, and the naming of a class exactly if the registry is frozen or the class has another
naming; a call that is refused changes nothing; the naming of a class never changes; all snapshots
are equal, and hold exactly what the log shows; no call changes anything after the registry was
frozen; and a registry with two tables answers all calls alike. -/
theorem refines_log (calls : List RegistryCall) :
    (∀ asked, ((after calls).serve (.query asked)).1 = (logOf calls).answer asked) ∧
    ((after calls).frozen = true ↔ .freeze ∈ calls) ∧
    (∀ className method overload refusal,
      ((after calls).serve (.register className method overload)).1 = .error refusal ↔
        refusal = .frozen ∧ .freeze ∈ calls) ∧
    (∀ declaration refusal,
      ((after calls).serve (.registerClass declaration)).1 = .error refusal ↔
        (refusal = .frozen ∧ .freeze ∈ calls) ∨
        (refusal = .conflictingNaming declaration.name ∧ .freeze ∉ calls ∧
          ∃ naming, (logOf calls).namingOf? declaration.name = some naming ∧
            naming ≠ declaration.naming)) ∧
    (∀ call refusal, ((after calls).serve call).1 = .error refusal →
      after (calls ++ [call]) = after calls ∧ logOf (calls ++ [call]) = logOf calls) ∧
    (∀ className naming, (logOf calls).namingOf? className = some naming →
      ∀ later, (logOf (calls ++ later)).namingOf? className = some naming) ∧
    (∀ call taken, (call, .ok (.snapshot taken)) ∈ exchanges calls →
      taken = (after calls).snapshot ∧ taken.Holds (logOf calls)) ∧
    (∀ later, after (calls ++ .freeze :: later) = after (calls ++ [.freeze])) ∧
    TwoTableRegistry.serveAll {} calls = (exchanges calls, (after calls).apart) := by
  have keeps := keeps_after calls
  have frozen := frozen_after_iff calls
  refine ⟨keeps.answer, frozen, ?_, ?_, ?_, ?_, ?_, ?_, empty.serveAll_apart calls⟩
  · intro className method overload refusal
    rcases (after calls).register_cases className method overload with
      ⟨closed, answer⟩ | ⟨unfrozen, answer⟩
    · simp [serve, answer, ← frozen, closed, eq_comm]
    · simp [serve, answer, ← frozen, unfrozen]
  · intro declaration refusal
    rw [← frozen, ← keeps.map_naming_get?]
    rcases (after calls).registerClass_cases declaration with
      ⟨closed, answer⟩ | ⟨unfrozen, registered, found, different, answer⟩ |
        ⟨unfrozen, registered, found, same, answer⟩ | ⟨unfrozen, unknown, answer⟩
    · simp [serve, answer, closed, eq_comm]
    · simp [serve, answer, unfrozen, found, different, eq_comm]
    · simp [serve, answer, unfrozen, found, same]
    · simp [serve, answer, unfrozen, unknown]
  · intro call refusal refused
    have step : (after calls).serveAll [call] =
        ([(call, ((after calls).serve call).1)], ((after calls).serve call).2) := rfl
    rw [after_append, logOf_append, step, refused, RegistryLog.ofExchanges_error, List.append_nil]
    exact ⟨serve_of_error refused, rfl⟩
  · intro className naming found later
    rw [logOf_append]
    exact RegistryLog.namingOf?_append_of_some found _
  · intro call taken served
    have same : taken = (after calls).snapshot := eq_snapshot_of_mem_serveAll served
    exact ⟨same, same ▸ keeps.holds⟩
  · intro later
    have closed : (after (calls ++ [.freeze])).frozen = true :=
      (frozen_after_iff _).2 (List.mem_append_right _ List.mem_cons_self)
    rw [← List.singleton_append, ← List.append_assoc, after_append,
      serveAll_of_frozen closed]

end Registry

end MexBridge
