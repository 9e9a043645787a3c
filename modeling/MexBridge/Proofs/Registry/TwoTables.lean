import MexBridge.Registry.Call

/-!
# A registry with two tables

A registry that keeps the namings of the classes and their methods in two maps changes them in two
places, and naming a class is a part of registering an overload.  `Registry.apart` takes the two
maps out of a registry that keeps a class in one place.  Serving a call commutes with it
(`Registry.serve_apart`), and so do many calls (`Registry.serveAll_apart`): the two maps always have
the same keys in the same order, so that no class is named without room for its methods.
-/

set_option autoImplicit false

namespace MexBridge

namespace Registry

/-- The two maps of a registry. -/
def apart (registry : Registry) : TwoTableRegistry where
  namings := registry.classes.mapValues RegisteredClass.naming
  methods := registry.classes.mapValues RegisteredClass.methods
  frozen := registry.frozen

variable (registry : Registry)

theorem namings_get?_apart (className : String) :
    registry.apart.namings.get? className =
      (registry.classes.get? className).map RegisteredClass.naming :=
  OrderedMap.get?_mapValues ..

theorem methods_get?_apart (className : String) :
    registry.apart.methods.get? className =
      (registry.classes.get? className).map RegisteredClass.methods :=
  OrderedMap.get?_mapValues ..

/-- The two maps of a registry with one more class, or with a class that is replaced. -/
theorem apart_insert (className : String) (registered : RegisteredClass) :
    ({ registry with classes := registry.classes.insert className registered } : Registry).apart =
      { registry.apart with
        namings := registry.apart.namings.insert className registered.naming
        methods := registry.apart.methods.insert className registered.methods } := by
  simp only [apart, OrderedMap.mapValues_insert]

/-- A class that is named is entered into both maps. -/
theorem registerClass_apart (declaration : ClassDeclaration) :
    registry.apart.registerClass declaration =
      (registry.registerClass declaration).map fun (naming, later) => (naming, later.apart) := by
  have closed : registry.apart.frozen = registry.frozen := rfl
  unfold TwoTableRegistry.registerClass registerClass
  rw [closed, namings_get?_apart]
  split
  · rfl
  · cases found : registry.classes.get? declaration.name with
    | none =>
      have absent : registry.apart.methods.contains declaration.name = false := by
        rw [OrderedMap.contains, methods_get?_apart, found, Option.map_none, Option.isSome_none]
      have entered := registry.apart_insert declaration.name { naming := declaration.naming }
      simp [OrderedMap.setDefault, absent, Except.map, entered, closed]
    | some registered =>
      have present : registry.apart.methods.contains declaration.name = true := by
        rw [OrderedMap.contains, methods_get?_apart, found, Option.map_some, Option.isSome_some]
      by_cases same : registered.naming = declaration.naming
      · have kept : registry.apart.namings.insert declaration.name declaration.naming =
            registry.apart.namings :=
          OrderedMap.insert_of_get? (by rw [namings_get?_apart, found, Option.map_some, same])
        simp only [OrderedMap.setDefault, present, same, kept, Option.map_some, Option.any_some,
          if_true, ne_eq, not_true_eq_false, decide_false, Bool.false_eq_true, if_false]
        rfl
      · simp [same, Except.map]

/-- An overload of a class that has a naming is entered into the map of the methods. -/
theorem addOverload_apart {className : String} {registered : RegisteredClass}
    (found : registry.classes.get? className = some registered) (method : String)
    (overload : Overload) :
    registry.apart.addOverload className method overload =
      .ok ({ registry with
        classes := registry.classes.insert className
          (registered.addOverload method overload) } : Registry).apart := by
  have methods : registry.apart.methods.get? className = some registered.methods := by
    rw [methods_get?_apart, found, Option.map_some]
  have kept : registry.apart.namings.insert className registered.naming =
      registry.apart.namings :=
    OrderedMap.insert_of_get? (by rw [namings_get?_apart, found, Option.map_some])
  have naming : (registered.addOverload method overload).naming = registered.naming := rfl
  rw [TwoTableRegistry.addOverload, methods, apart_insert, naming, kept]
  rfl

/-- **Overloads are registered alike**; a class that is new is named on the way. -/
theorem register_apart (className method : String) (overload : Overload) :
    registry.apart.register className method overload =
      (registry.register className method overload).map apart := by
  have closed : registry.apart.frozen = registry.frozen := rfl
  have known : registry.apart.namings.contains className =
      (registry.classes.get? className).isSome := by
    rw [OrderedMap.contains, namings_get?_apart, Option.isSome_map]
  unfold TwoTableRegistry.register register
  rw [closed, known]
  split
  · rfl
  · next unfrozen =>
    cases found : registry.classes.get? className with
    | some registered => exact registry.addOverload_apart found method overload
    | none =>
      let fresh : RegisteredClass := { naming := ClassDeclaration.naming { name := className } }
      let named : Registry :=
        { registry with classes := registry.classes.insert className fresh }
      have served : registry.registerClass { name := className } = .ok (fresh.naming, named) := by
        rw [registerClass, if_neg unfrozen, found]
      have there : named.classes.get? className = some fresh := by
        rw [OrderedMap.get?_insert, if_pos rfl]
      have replaced : named.classes.insert className (fresh.addOverload method overload) =
          registry.classes.insert className (fresh.addOverload method overload) :=
        OrderedMap.insert_insert ..
      have entered := named.addOverload_apart there method overload
      rw [replaced] at entered
      rw [registerClass_apart, served]
      exact entered

/-- Questions are answered alike. -/
theorem answer_apart (asked : RegistryQuery) :
    registry.apart.answer asked = registry.answer asked := by
  have methods (className : String) : registry.apart.methodsOf className =
      ((registry.classes.get? className).map RegisteredClass.methods).getD .empty := by
    rw [TwoTableRegistry.methodsOf, methods_get?_apart]
  cases asked with
  | classNames => rw [TwoTableRegistry.answer, answer, classNames, apart, OrderedMap.keys_mapValues]
  | namingOf className =>
    simp only [TwoTableRegistry.answer, answer, namingOf, namings_get?_apart]
    cases registry.classes.get? className <;> rfl
  | methodNames className =>
    simp only [TwoTableRegistry.answer, answer, methodNames, methods]
    cases registry.classes.get? className <;> rfl
  | overloadsOf className method =>
    simp only [TwoTableRegistry.answer, answer, overloadsOf, methods]
    cases registry.classes.get? className <;> rfl
  | size =>
    have values : registry.apart.methods.values =
        registry.classes.values.map RegisteredClass.methods := by
      simp [apart, OrderedMap.values, OrderedMap.mapValues]
    rw [TwoTableRegistry.answer, values, List.flatMap_map]
    rfl

theorem snapshot_apart : registry.apart.snapshot = registry.snapshot := by
  simp [TwoTableRegistry.snapshot, snapshot, apart, OrderedMap.values, OrderedMap.mapValues,
    RegisteredClass.staticMethods, Function.comp_def]

/-- **A call is answered alike**, and leaves the two maps of the registry that it leaves. -/
theorem serve_apart (call : RegistryCall) :
    registry.apart.serve call = ((registry.serve call).1, (registry.serve call).2.apart) := by
  cases call with
  | registerClass declaration =>
    rw [TwoTableRegistry.serve, registerClass_apart, serve]
    cases registry.registerClass declaration <;> rfl
  | register className method overload =>
    rw [TwoTableRegistry.serve, register_apart, serve]
    cases registry.register className method overload <;> rfl
  | freeze =>
    rw [TwoTableRegistry.serve, snapshot_apart]
    rfl
  | query asked =>
    rw [TwoTableRegistry.serve, answer_apart]
    rfl

/-- **Two tables change no answer.** -/
theorem serveAll_apart (calls : List RegistryCall) :
    registry.apart.serveAll calls =
      ((registry.serveAll calls).1, (registry.serveAll calls).2.apart) := by
  induction calls generalizing registry with
  | nil => rfl
  | cons call rest ih =>
    simp only [TwoTableRegistry.serveAll, serveAll, serve_apart, ih]

end Registry

end MexBridge
