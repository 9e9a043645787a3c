import MexBridge.Registry.Call
import Mathlib.Data.List.Induction
import Mathlib.Data.List.Perm.Basic

/-!
# The log of successful calls

What a registry shows is determined by the calls that it did not refuse, in their order: its log.
`RegistryLog` reads each observation off a log without keeping anything beside it.  The classes are
those that were mentioned, in the order of their first mention, and a class has the naming of its
first mention; the methods of a class are those that got an overload, in the order of their first
one; and the overloads of a method are those that were recorded for it, duplicates kept.

`RegistryLog.perm_overloads` says that the overloads of all methods of all classes are the recorded
ones, none twice and none left out.
-/

set_option autoImplicit false

namespace MexBridge

/-! ## Lists in groups -/

/-- One more entry at the end is kept exactly if it is new. -/
theorem eraseDups_concat {α : Type} [DecidableEq α] (entries : List α) (last : α) :
    (entries ++ [last]).eraseDups =
      if last ∈ entries then entries.eraseDups else entries.eraseDups ++ [last] := by
  rw [List.eraseDups_append, List.removeAll]
  by_cases known : last ∈ entries
  · simp [known]
  · simp [known, List.eraseDups_cons]

theorem nodup_eraseDups {α : Type} [DecidableEq α] (entries : List α) :
    entries.eraseDups.Nodup := by
  induction entries using List.reverseRecOn with
  | nil => exact List.nodup_nil
  | append_singleton earlier last ih =>
    rw [eraseDups_concat]
    split
    · exact ih
    · next fresh =>
      refine List.nodup_append.2 ⟨ih, List.pairwise_singleton _ _, ?_⟩
      rintro entry member _ isLast rfl
      rw [List.mem_singleton.1 isLast, List.mem_eraseDups] at member
      exact fresh member

/-- A list without repetitions stays as it is. -/
theorem eraseDups_of_nodup {α : Type} [DecidableEq α] {entries : List α}
    (distinct : entries.Nodup) : entries.eraseDups = entries := by
  induction entries using List.reverseRecOn with
  | nil => rfl
  | append_singleton earlier last ih =>
    obtain ⟨before, _, apart⟩ := List.nodup_append.1 distinct
    have fresh : last ∉ earlier := fun known => apart last known last List.mem_cons_self rfl
    rw [eraseDups_concat, if_neg fresh, ih before]

/-- Entries group by group are all entries, if there is a group for each. -/
theorem perm_flatMap_filter {α κ : Type} [DecidableEq κ] {key : α → κ} {groups : List κ}
    (distinct : groups.Nodup) {entries : List α} (grouped : ∀ entry ∈ entries, key entry ∈ groups) :
    (groups.flatMap fun group => entries.filter fun entry => key entry = group).Perm entries := by
  induction groups generalizing entries with
  | nil =>
    rw [List.eq_nil_iff_forall_not_mem.2 fun entry member =>
      List.not_mem_nil (grouped entry member)]
    exact .nil
  | cons first rest ih =>
    obtain ⟨fresh, others⟩ := List.nodup_cons.1 distinct
    -- the groups behind the first one see the same entries without those of the first one
    have later : (rest.flatMap fun group => entries.filter fun entry => key entry = group) =
        rest.flatMap fun group => (entries.filter fun entry => !decide (key entry = first)).filter
          fun entry => key entry = group := by
      refine List.flatMap_congr fun group member => ?_
      rw [List.filter_filter]
      refine List.filter_congr fun entry _ => ?_
      by_cases here : key entry = group
      · have apart : group ≠ first := fun same => fresh (same ▸ member)
        simp [here, apart]
      · simp [here]
    have remaining : ∀ entry ∈ entries.filter fun entry => !decide (key entry = first),
        key entry ∈ rest := by
      intro entry member
      obtain ⟨listed, apart⟩ := List.mem_filter.1 member
      rcases List.mem_cons.1 (grouped entry listed) with same | behind
      · simp [same] at apart
      · exact behind
    rw [List.flatMap_cons, later]
    exact ((ih others remaining).append_left _).trans (List.filter_append_perm _ entries)

/-! ## What a call leaves in the log -/

/-- An overload as it was registered. -/
structure RecordedOverload where
  className : String
  method : String
  overload : Overload
  deriving DecidableEq

namespace RegistryCall

/-- The naming that a call gives the class it mentions. -/
def naming? : RegistryCall → Option ClassNaming
  | registerClass declaration => some declaration.naming
  | register className _ _ => some (ClassDeclaration.naming { name := className })
  | freeze => none
  | query _ => none

/-- The overload that a call registers. -/
def recorded? : RegistryCall → Option RecordedOverload
  | register className method overload => some ⟨className, method, overload⟩
  | registerClass _ => none
  | freeze => none
  | query _ => none

/-- A call that registers an overload mentions its class. -/
theorem naming?_of_recorded {call : RegistryCall} {recorded : RecordedOverload}
    (records : call.recorded? = some recorded) :
    call.naming? = some (ClassDeclaration.naming { name := recorded.className }) := by
  cases call with
  | register className method overload =>
    cases records
    rfl
  | registerClass declaration => cases records
  | freeze => cases records
  | query asked => cases records

end RegistryCall

/-! ## What a log shows -/

/-- Calls that were not refused, in order. -/
abbrev RegistryLog := List RegistryCall

namespace RegistryLog

/-- The namings with which classes are mentioned, in order. -/
def mentions (log : RegistryLog) : List ClassNaming :=
  log.filterMap RegistryCall.naming?

/-- The registered overloads, in order. -/
def recorded (log : RegistryLog) : List RecordedOverload :=
  log.filterMap RegistryCall.recorded?

/-- The classes, in the order of their first mention. -/
def classNames (log : RegistryLog) : List String :=
  (log.mentions.map ClassNaming.name).eraseDups

/-- The naming of a class: that of its first mention. -/
def namingOf? (log : RegistryLog) (className : String) : Option ClassNaming :=
  log.mentions.find? fun naming => naming.name = className

/-- The namings of all classes, in the order of their first mention. -/
def namings (log : RegistryLog) : List ClassNaming :=
  log.classNames.filterMap log.namingOf?

/-- The methods of a class, in the order of their first overload. -/
def methodNames (log : RegistryLog) (className : String) : List String :=
  ((log.recorded.filter fun entry => entry.className = className).map
    RecordedOverload.method).eraseDups

/-- The overloads of a method, in order. -/
def overloadsOf (log : RegistryLog) (className method : String) : List Overload :=
  (log.recorded.filter fun entry => entry.className = className ∧ entry.method = method).map
    RecordedOverload.overload

/-- The methods of a class with their overloads. -/
def methodsOf (log : RegistryLog) (className : String) : List StaticMethod :=
  (log.methodNames className).map fun method => ⟨method, log.overloadsOf className method⟩

/-- The number of registered overloads. -/
def size (log : RegistryLog) : Nat :=
  log.recorded.length

/-- What a log answers to a question. -/
def answer (log : RegistryLog) : RegistryQuery → Except RegistryRefusal RegistryAnswer
  | .classNames => .ok (.names log.classNames)
  | .namingOf className =>
    match log.namingOf? className with
    | some naming => .ok (.naming naming)
    | none => .error (.unknownClass className)
  | .methodNames className => .ok (.names (log.methodNames className))
  | .overloadsOf className method => .ok (.overloads (log.overloadsOf className method))
  | .size => .ok (.count log.size)

variable {log : RegistryLog} {call : RegistryCall} {className method : String}

theorem mem_classNames_iff :
    className ∈ log.classNames ↔ ∃ naming ∈ log.mentions, naming.name = className := by
  rw [classNames, List.mem_eraseDups, List.mem_map]

theorem name_of_namingOf {naming : ClassNaming} (found : log.namingOf? className = some naming) :
    naming.name = className := by
  simpa using List.find?_some found

theorem namingOf?_eq_none_iff : log.namingOf? className = none ↔ className ∉ log.classNames := by
  rw [mem_classNames_iff, namingOf?, List.find?_eq_none]
  simp

theorem exists_namingOf (mentioned : className ∈ log.classNames) :
    ∃ naming, log.namingOf? className = some naming :=
  Option.ne_none_iff_exists'.1 fun unknown => namingOf?_eq_none_iff.1 unknown mentioned

/-- The class of a registered overload was mentioned. -/
theorem className_mem_of_recorded {entry : RecordedOverload} (member : entry ∈ log.recorded) :
    entry.className ∈ log.classNames := by
  obtain ⟨call, served, records⟩ := List.mem_filterMap.1 member
  exact mem_classNames_iff.2 ⟨_, List.mem_filterMap.2
    ⟨call, served, RegistryCall.naming?_of_recorded records⟩, rfl⟩

/-- The method of a registered overload is a method of its class. -/
theorem method_mem_of_recorded {entry : RecordedOverload} (member : entry ∈ log.recorded) :
    entry.method ∈ log.methodNames entry.className := by
  rw [methodNames, List.mem_eraseDups]
  exact List.mem_map_of_mem (List.mem_filter.2 ⟨member, by simp⟩)

/-- The first class of a name among the mentioned ones has the naming of this name. -/
theorem find?_namings (log : RegistryLog) (className : String) :
    (log.namings.find? fun naming => naming.name = className) = log.namingOf? className := by
  have among : ∀ names : List String,
      ((names.filterMap log.namingOf?).find? fun naming => naming.name = className) =
        if className ∈ names then log.namingOf? className else none := by
    intro names
    induction names with
    | nil => rfl
    | cons first rest ih =>
      cases found : log.namingOf? first with
      | none =>
        rw [List.filterMap_cons_none found, ih]
        by_cases same : className = first
        · subst same
          simp [found]
        · simp [same]
      | some naming =>
        have name := name_of_namingOf found
        rw [List.filterMap_cons_some found, List.find?_cons, ih, name]
        by_cases same : className = first
        · subst same
          simp [found]
        · simp [same, Ne.symm same]
  rw [namings, among]
  split
  · rfl
  · next unknown => exact (namingOf?_eq_none_iff.2 unknown).symm

/-- The listed namings are those of the classes, one for each. -/
theorem map_name_namings (log : RegistryLog) :
    log.namings.map ClassNaming.name = log.classNames := by
  have each : ∀ name ∈ log.classNames, (log.namingOf? name).map ClassNaming.name = some name := by
    intro name mentioned
    obtain ⟨naming, found⟩ := exists_namingOf mentioned
    rw [found, Option.map_some, name_of_namingOf found]
  rw [namings, List.map_filterMap, List.filterMap_congr each, List.filterMap_some]

theorem namingOf?_of_mem_namings {naming : ClassNaming} (member : naming ∈ log.namings) :
    log.namingOf? naming.name = some naming := by
  obtain ⟨name, _, found⟩ := List.mem_filterMap.1 member
  rw [name_of_namingOf found]
  exact found

/-- Every method has an overload. -/
theorem overloadsOf_ne_nil (listed : method ∈ log.methodNames className) :
    log.overloadsOf className method ≠ [] := by
  rw [methodNames, List.mem_eraseDups, List.mem_map] at listed
  obtain ⟨entry, member, rfl⟩ := listed
  obtain ⟨recorded, same⟩ := List.mem_filter.1 member
  refine List.ne_nil_of_mem (List.mem_map_of_mem (List.mem_filter.2 ⟨recorded, ?_⟩))
  simpa using same

/-- Nothing is recorded for a class that was not mentioned. -/
theorem filter_recorded_of_unknown (unknown : className ∉ log.classNames) :
    (log.recorded.filter fun entry => entry.className = className) = [] := by
  refine List.filter_eq_nil_iff.2 fun entry member same => unknown ?_
  rw [← of_decide_eq_true same]
  exact className_mem_of_recorded member

theorem methodNames_of_unknown (unknown : className ∉ log.classNames) :
    log.methodNames className = [] := by
  rw [methodNames, filter_recorded_of_unknown unknown]
  rfl

theorem overloadsOf_of_unknown (unknown : className ∉ log.classNames) :
    log.overloadsOf className method = [] := by
  have apart : (log.recorded.filter fun entry =>
      entry.className = className ∧ entry.method = method) =
      (log.recorded.filter fun entry => entry.className = className).filter
        fun entry => entry.method = method := by
    rw [List.filter_filter]
    exact List.filter_congr fun entry _ => by simp [Bool.and_comm]
  rw [overloadsOf, apart, filter_recorded_of_unknown unknown]
  rfl

/-! ## One more call -/

theorem mentions_concat : mentions (log ++ [call]) = log.mentions ++ call.naming?.toList := by
  rw [mentions, List.filterMap_append]
  cases named : call.naming? <;> simp [mentions, named]

theorem recorded_concat : recorded (log ++ [call]) = log.recorded ++ call.recorded?.toList := by
  rw [recorded, List.filterMap_append]
  cases records : call.recorded? <;> simp [recorded, records]

theorem classNames_concat {naming : ClassNaming} (names : call.naming? = some naming) :
    classNames (log ++ [call]) =
      if naming.name ∈ log.classNames then log.classNames
      else log.classNames ++ [naming.name] := by
  simp only [classNames, mentions_concat, names, Option.toList_some, List.map_append,
    List.map_singleton, eraseDups_concat, List.mem_eraseDups]

/-- The naming of a class stays as it is. -/
theorem namingOf?_append_of_some {naming : ClassNaming}
    (found : log.namingOf? className = some naming) (later : RegistryLog) :
    namingOf? (log ++ later) className = some naming := by
  rw [namingOf?, mentions] at found
  rw [namingOf?, mentions, List.filterMap_append, List.find?_append, found]
  rfl

theorem namingOf?_concat_of_none {naming : ClassNaming} (names : call.naming? = some naming)
    (unknown : log.namingOf? naming.name = none) :
    namingOf? (log ++ [call]) naming.name = some naming := by
  rw [namingOf?] at unknown
  rw [namingOf?, mentions_concat, List.find?_append, unknown, names]
  simp

/-- A call shows in the methods of a class only if it records an overload of this class. -/
theorem methodNames_concat_of_ne (other : ∀ entry, call.recorded? = some entry →
    entry.className ≠ className) :
    methodNames (log ++ [call]) className = log.methodNames className := by
  rw [methodNames, recorded_concat, List.filter_append]
  cases records : call.recorded? with
  | none => simp [methodNames]
  | some entry => simp [methodNames, other entry records]

theorem overloadsOf_concat_of_ne (other : ∀ entry, call.recorded? = some entry →
    entry.className ≠ className) :
    overloadsOf (log ++ [call]) className method = log.overloadsOf className method := by
  rw [overloadsOf, recorded_concat, List.filter_append]
  cases records : call.recorded? with
  | none => simp [overloadsOf]
  | some entry => simp [overloadsOf, other entry records]

theorem methodNames_concat_of_recorded {entry : RecordedOverload}
    (records : call.recorded? = some entry) :
    methodNames (log ++ [call]) entry.className =
      if entry.method ∈ log.methodNames entry.className then log.methodNames entry.className
      else log.methodNames entry.className ++ [entry.method] := by
  have last : (methodNames (log ++ [call]) entry.className) =
      (((log.recorded.filter fun earlier => earlier.className = entry.className).map
        RecordedOverload.method) ++ [entry.method]).eraseDups := by
    simp [methodNames, recorded_concat, records]
  rw [last, eraseDups_concat]
  simp only [methodNames, List.mem_eraseDups]

theorem overloadsOf_concat_of_recorded {entry : RecordedOverload}
    (records : call.recorded? = some entry) :
    overloadsOf (log ++ [call]) entry.className method =
      if method = entry.method then log.overloadsOf entry.className method ++ [entry.overload]
      else log.overloadsOf entry.className method := by
  simp only [overloadsOf, recorded_concat, records, Option.toList_some, List.filter_append,
    List.map_append]
  by_cases same : method = entry.method
  · simp [same]
  · simp [same, Ne.symm same]

/-- A call that mentions no class changes nothing that a log shows of classes and overloads. -/
theorem answer_concat_of_unnamed (names : call.naming? = none) (asked : RegistryQuery) :
    answer (log ++ [call]) asked = log.answer asked := by
  have records : call.recorded? = none := by
    cases found : call.recorded? with
    | none => rfl
    | some entry =>
      rw [RegistryCall.naming?_of_recorded found] at names
      cases names
  have sameMentions : mentions (log ++ [call]) = log.mentions := by simp [mentions_concat, names]
  have sameRecorded : recorded (log ++ [call]) = log.recorded := by
    simp [recorded_concat, records]
  cases asked <;>
    simp only [answer, classNames, namingOf?, methodNames, overloadsOf, size, sameMentions,
      sameRecorded]

/-! ## All overloads -/

theorem nodup_classNames (log : RegistryLog) : log.classNames.Nodup :=
  nodup_eraseDups _

theorem nodup_methodNames (log : RegistryLog) (className : String) :
    (log.methodNames className).Nodup :=
  nodup_eraseDups _

/-- Entries class by class, and method by method, are all entries, if their classes and methods were
recorded. -/
theorem perm_grouped {α : Type} (classOf methodOf : α → String) {entries : List α}
    (known : ∀ entry ∈ entries, classOf entry ∈ log.classNames ∧
      methodOf entry ∈ log.methodNames (classOf entry)) :
    (log.classNames.flatMap fun className =>
      (log.methodNames className).flatMap fun method =>
        entries.filter fun entry => classOf entry = className ∧ methodOf entry = method).Perm
      entries := by
  refine .trans (.flatMap_left _ fun className _ => ?_)
    (perm_flatMap_filter log.nodup_classNames fun entry member => (known entry member).1)
  have apart : ∀ method, (entries.filter fun entry =>
      classOf entry = className ∧ methodOf entry = method) =
      (entries.filter fun entry => classOf entry = className).filter
        fun entry => methodOf entry = method := by
    intro method
    rw [List.filter_filter]
    exact List.filter_congr fun entry _ => by simp [Bool.and_comm]
  simp only [apart]
  refine perm_flatMap_filter (log.nodup_methodNames className) fun entry member => ?_
  obtain ⟨listed, same⟩ := List.mem_filter.1 member
  rw [← of_decide_eq_true same]
  exact (known entry listed).2

/-- **The overloads of all methods of all classes are the recorded ones.** -/
theorem perm_overloads (log : RegistryLog) :
    (log.classNames.flatMap fun className =>
      (log.methodsOf className).flatMap StaticMethod.overloads).Perm
      (log.recorded.map RecordedOverload.overload) := by
  have known : ∀ entry ∈ log.recorded, entry.className ∈ log.classNames ∧
      entry.method ∈ log.methodNames entry.className := fun _ member =>
    ⟨className_mem_of_recorded member, method_mem_of_recorded member⟩
  have grouped := (perm_grouped RecordedOverload.className RecordedOverload.method known).map
    RecordedOverload.overload
  simp only [List.map_flatMap] at grouped
  simpa only [methodsOf, List.flatMap_map, overloadsOf] using grouped

end RegistryLog

end MexBridge
