import MexBridge.Proofs.Registry.Refinement
import MexBridge.Proofs.Traversal.Listing

/-!
# The registrations of a log and the overloads of a snapshot

A registry is told of overloads in any order of classes and methods; a snapshot lists them class by
class and method by method.  `RegistryLog.registrations` gives the overloads of a log in the order
in which they were registered, each with the naming of its class and its place among the overloads
of its method.  `RegistryLog.perm_registrations` says that a snapshot of the registry lists exactly
these, so that whatever numbers the listed overloads numbers the registrations
(`RegistryLog.exists_numbering`).
-/

set_option autoImplicit false

namespace MexBridge

namespace RegistryLog

/-- A registered overload as it is listed: its class has the naming of its first mention, and the
earlier overloads of its method stand in front of it. -/
def listed (log : RegistryLog) (earlier : List RecordedOverload) (entry : RecordedOverload) :
    ListedOverload where
  naming := (log.namingOf? entry.className).getD
    (ClassDeclaration.naming { name := entry.className })
  method := entry.method
  index := earlier.countP fun other =>
    other.className = entry.className ∧ other.method = entry.method
  overload := entry.overload

/-- Registered overloads that come behind earlier ones, as they are listed. -/
def listedBehind (log : RegistryLog) (earlier : List RecordedOverload) :
    List RecordedOverload → List ListedOverload
  | [] => []
  | entry :: rest => log.listed earlier entry :: log.listedBehind (earlier ++ [entry]) rest

/-- The registered overloads in the order of their registration. -/
def registrations (log : RegistryLog) : List ListedOverload :=
  log.listedBehind [] log.recorded

variable {log : RegistryLog} {className method : String} {naming : ClassNaming}

@[simp] theorem name_listed (log : RegistryLog) (earlier : List RecordedOverload)
    (entry : RecordedOverload) : (log.listed earlier entry).naming.name = entry.className := by
  rw [listed]
  cases found : log.namingOf? entry.className with
  | some naming => exact name_of_namingOf found
  | none => rfl

@[simp] theorem method_listed (log : RegistryLog) (earlier : List RecordedOverload)
    (entry : RecordedOverload) : (log.listed earlier entry).method = entry.method := rfl

theorem exists_of_mem_listedBehind {earlier entries : List RecordedOverload}
    {overload : ListedOverload} (member : overload ∈ log.listedBehind earlier entries) :
    ∃ entry ∈ entries, overload.naming.name = entry.className ∧
      overload.method = entry.method := by
  induction entries generalizing earlier with
  | nil => cases member
  | cons entry rest ih =>
    rcases List.mem_cons.1 member with rfl | later
    · exact ⟨entry, List.mem_cons_self, log.name_listed earlier entry, rfl⟩
    · obtain ⟨other, listedLater, same⟩ := ih later
      exact ⟨other, List.mem_cons_of_mem _ listedLater, same⟩

theorem length_registrations (log : RegistryLog) : log.registrations.length = log.size := by
  have each : ∀ earlier entries : List RecordedOverload,
      (log.listedBehind earlier entries).length = entries.length := by
    intro earlier entries
    induction entries generalizing earlier with
    | nil => rfl
    | cons entry rest ih => rw [listedBehind, List.length_cons, ih, List.length_cons]
  exact each [] log.recorded

/-- The overloads that are registered for a method stand one behind the other. -/
theorem filter_listedBehind (named : log.namingOf? className = some naming)
    (earlier entries : List RecordedOverload) :
    ((log.listedBehind earlier entries).filter fun overload =>
      overload.naming.name = className ∧ overload.method = method) =
      (((entries.filter fun entry => entry.className = className ∧ entry.method = method).map
        RecordedOverload.overload).zipIdx (earlier.countP fun entry =>
          entry.className = className ∧ entry.method = method)).map
            fun (overload, index) => ⟨naming, method, index, overload⟩ := by
  induction entries generalizing earlier with
  | nil => rfl
  | cons entry rest ih =>
    have later := ih (earlier ++ [entry])
    rw [List.countP_append, List.countP_singleton] at later
    rw [listedBehind]
    by_cases here : entry.className = className ∧ entry.method = method
    · have own : log.listed earlier entry = ⟨naming, method, earlier.countP fun other =>
          other.className = className ∧ other.method = method, entry.overload⟩ := by
        rw [listed, here.1, here.2, named]
        rfl
      rw [if_pos (decide_eq_true here)] at later
      rw [List.filter_cons_of_pos (by simpa using here),
        List.filter_cons_of_pos (by simpa using here), later, own, List.map_cons,
        List.zipIdx_cons, List.map_cons]
    · rw [if_neg (by simpa using here), Nat.add_zero] at later
      rw [List.filter_cons_of_neg (by simpa using here),
        List.filter_cons_of_neg (by simpa using here), later]

/-- The overloads that are registered for a method are those that are listed for it. -/
theorem filter_registrations (named : log.namingOf? className = some naming) :
    (log.registrations.filter fun overload =>
      overload.naming.name = className ∧ overload.method = method) =
      StaticMethod.listed naming ⟨method, log.overloadsOf className method⟩ :=
  filter_listedBehind named [] log.recorded

/-- **A snapshot lists the registered overloads**, each of them once. -/
theorem perm_registrations {snapshot : Snapshot} (holds : snapshot.Holds log) :
    log.registrations.Perm snapshot.listedOverloads := by
  have known : ∀ overload ∈ log.registrations, overload.naming.name ∈ log.classNames ∧
      overload.method ∈ log.methodNames overload.naming.name := by
    intro overload member
    obtain ⟨entry, recorded, name, method⟩ := exists_of_mem_listedBehind member
    rw [name, method]
    exact ⟨className_mem_of_recorded recorded, method_mem_of_recorded recorded⟩
  have grouped := perm_grouped (fun overload : ListedOverload => overload.naming.name)
    ListedOverload.method known
  refine grouped.symm.trans (.of_eq ?_)
  rw [Snapshot.listedOverloads, holds.classes, ← map_name_namings, List.flatMap_map]
  refine List.flatMap_congr fun naming member => ?_
  rw [holds.methodsOf, methodsOf, List.flatMap_map]
  exact List.flatMap_congr fun method _ => filter_registrations (namingOf?_of_mem_namings member)

/-- Every registration gets a number of its own when the listed overloads are numbered. -/
theorem exists_numbering {snapshot : Snapshot} (holds : snapshot.Holds log) (first : Nat) :
    ∃ numbered : List (ListedOverload × Nat), numbered.map Prod.fst = log.registrations ∧
      numbered.Perm (snapshot.listedOverloads.zipIdx first) := by
  have perm : log.registrations.Perm ((snapshot.listedOverloads.zipIdx first).map Prod.fst) := by
    rw [List.zipIdx_map_fst]
    exact perm_registrations holds
  obtain ⟨numbered, same, numbering⟩ :=
    (congrFun₂ (List.eq_map_comp_perm Prod.fst) log.registrations _).mpr perm
  exact ⟨numbered, same.symm, numbering⟩

end RegistryLog

end MexBridge
