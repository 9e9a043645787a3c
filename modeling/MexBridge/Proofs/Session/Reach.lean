import MexBridge.Proofs.Session.Outcome
import Mathlib.Data.List.TakeWhile

/-!
# How far a session comes

Which station stops a session, and how many overloads are placed before, is a matter of the
snapshot alone: `Snapshot.hindrance?` and `Snapshot.reach`.  With the first number they decide the
outcome (`Session.fst_runWritable`), so that runs on one snapshot can be compared without going
through the stations again.
-/

set_option autoImplicit false

namespace MexBridge

namespace Snapshot

/-- The cause of the first station that is not clear. -/
def hindrance? (snapshot : Snapshot) : Option Violation :=
  snapshot.stations.findSome? Station.violation?

/-- The number of overloads that are placed before the first station that is not clear. -/
def reach (snapshot : Snapshot) : Nat :=
  (Station.placements
    (snapshot.stations.takeWhile fun station => station.violation?.isNone)).length

theorem hindrance?_eq_none_iff {snapshot : Snapshot} :
    snapshot.hindrance? = none ↔ ∀ station ∈ snapshot.stations, station.Clear :=
  Station.findSome?_violation?_eq_none_iff

theorem isNone_of_clear {station : Station} (clear : station.Clear) :
    station.violation?.isNone = true := by
  rw [Station.violation?_eq_none_iff.2 clear]
  rfl

theorem reach_of_clear {snapshot : Snapshot}
    (clear : ∀ station ∈ snapshot.stations, station.Clear) :
    snapshot.reach = (Station.placements snapshot.stations).length := by
  rw [reach, List.takeWhile_eq_self_iff.2 fun station member =>
    isNone_of_clear (clear station member)]

/-- The stations before the one that stops a session are the reach of its snapshot. -/
theorem FirstUnclear.hindrance?_reach {snapshot : Snapshot} {before : List Station}
    {station : Station} (first : snapshot.FirstUnclear before station) {violation : Violation}
    (found : station.violation? = some violation) :
    snapshot.hindrance? = some violation ∧
      snapshot.reach = (Station.placements before).length := by
  obtain ⟨after, parts⟩ := first.reached
  rw [List.append_assoc, List.singleton_append] at parts
  constructor
  · exact List.findSome?_eq_some_iff.2 ⟨before, station, after, parts.symm, found,
      fun earlier member => Station.violation?_eq_none_iff.2 (first.passed earlier member)⟩
  · have stopped : station.violation?.isNone = false := by
      rw [found]
      rfl
    rw [reach, ← parts, List.takeWhile_append_of_pos fun earlier member =>
      isNone_of_clear (first.passed earlier member), List.takeWhile_cons_of_neg (by simp [stopped]),
      List.append_nil]

end Snapshot

namespace Session

variable {session : Session}

/-- The outcome of a session whose numbers need not be written. -/
theorem fst_run (nonneg : 0 ≤ session.startId) :
    session.run.1 = match session.snapshot.hindrance? with
      | some violation => .error (.violation violation)
      | none => .ok session.assembled := by
  rcases session.snapshot.clear_or_firstUnclear with clear | ⟨before, station, first⟩
  · rw [Snapshot.hindrance?_eq_none_iff.2 clear, run_of_clear nonneg clear]
  · obtain ⟨violation, found⟩ := first.exists_violation
    rw [(first.hindrance?_reach found).1, run_of_firstUnclear nonneg first found]

/-- A session writes as many native functions as its snapshot reaches. -/
theorem countP_isNative_run (nonneg : 0 ≤ session.startId) :
    session.run.2.countP Event.isNative = session.snapshot.reach := by
  rcases session.snapshot.clear_or_firstUnclear with clear | ⟨before, station, first⟩
  · rw [run_of_clear nonneg clear, List.countP_append, countP_isNative_logAfter,
      Snapshot.reach_of_clear clear]
    rfl
  · obtain ⟨violation, found⟩ := first.exists_violation
    rw [run_of_firstUnclear nonneg first found, countP_isNative_logAfter,
      (first.hindrance?_reach found).2]

/-- **The outcome of a session** is that of its snapshot if the numbers on the way can be
written. -/
theorem fst_runWritable (nonneg : 0 ≤ session.startId) :
    session.runWritable.1 =
      if session.snapshot.reach ≤ writingBound - session.startId.toNat then
        match session.snapshot.hindrance? with
        | some violation => .error (.violation violation)
        | none => .ok session.assembled
      else .error (.number .tooManyDigits) := by
  rw [← countP_isNative_run nonneg, ← fst_run nonneg]
  split
  next room => rw [runWritable_of_canNumber nonneg ((canNumber_iff nonneg).2 room)]
  next full =>
    exact runWritable_of_not_canNumber nonneg fun room => full ((canNumber_iff nonneg).1 room)

/-- A session from a number below zero on is refused by its table. -/
theorem fst_runWritable_of_negative (negative : session.startId < 0) :
    session.runWritable.1 = .error (.table .negativeStart) := by
  have refused : session.run = (.error (.table .negativeStart), []) := by
    rw [run, FunctionTable.startingAt, if_pos negative]
  have unwritten : session.run.2.countP Event.isNative = 0 := by
    rw [refused]
    rfl
  rw [runWritable_eq_run (unwritten ▸ Nat.zero_le _), refused]

end Session

end MexBridge
