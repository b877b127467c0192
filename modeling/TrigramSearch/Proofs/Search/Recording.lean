import TrigramSearch.Proofs.Search.Accounting

/-!
# How far a recording comes

A recording counts the query first and estimates its speedup last.  The estimate
needs the time of both phases together, and there may be no duration that long;
this is the only thing that can stop a recording (`Observation.TimesOverflow`).
When it does, the query has been counted under its kind with its documents,
candidates, matches and times, and only the average of the speedups misses it.

## Main results

* `Observation.estimateSpeedup_eq_overflow_iff`: when an estimate fails.
* `Tally.record_eq_count`: what a recording that stops has done by then.
* `Tally.record_advances`: one recording, from any tally.
* `Tally.recordAll_advances`: several recordings, one after the other.
-/

namespace TrigramSearch

theorem Duration.add?_eq_none_iff (a b : Duration) :
    a.add? b = none ↔ limit ≤ a.nanoseconds + b.nanoseconds := by
  simp only [add?]
  split <;> simp <;> omega

namespace Observation

/-- The speedup of a query is estimated from the time of both phases together, and that is more
than a duration can hold. -/
structure TimesOverflow (o : Observation) : Prop where
  kind : o.kind = .accelerated
  candidates : ∃ n, o.candidates = some (n + 1)
  limit_le : Duration.limit ≤ o.filterTime.nanoseconds + o.verifyTime.nanoseconds

/-- An estimate fails iff it is made and its times overflow. -/
theorem estimateSpeedup_eq_overflow_iff (o : Observation) :
    o.estimateSpeedup = .overflow ↔ o.TimesOverflow := by
  constructor
  · intro h
    rw [estimateSpeedup] at h
    split at h
    · cases h
    · rename_i hkind
      split at h
      · cases h
      · cases h
      · rename_i n hzero hcandidates
        obtain ⟨m, rfl⟩ : ∃ m, n = m + 1 := Nat.exists_eq_add_one_of_ne_zero hzero
        split at h
        · rename_i hsum
          exact ⟨not_not.mp hkind, ⟨m, hcandidates⟩, (Duration.add?_eq_none_iff _ _).mp hsum⟩
        · dsimp only at h
          split at h <;> cases h
  · rintro ⟨hkind, ⟨n, hcandidates⟩, hlimit⟩
    have hsum := (Duration.add?_eq_none_iff o.filterTime o.verifyTime).mpr hlimit
    rw [estimateSpeedup, if_neg (not_not.mpr hkind), hcandidates]
    simp only [hsum]

end Observation

namespace Tally

/-- A recording comes to its end iff the estimate does not fail. -/
theorem record_finished_iff (t : Tally) (o : Observation) :
    (t.record o).finished = true ↔ ¬ o.TimesOverflow := by
  rw [← o.estimateSpeedup_eq_overflow_iff, record]
  cases o.estimateSpeedup <;> simp

/-- A recording that stops has counted the query and has not touched the speedups. -/
theorem record_eq_count {t : Tally} {o : Observation} (h : o.TimesOverflow) :
    t.record o = ⟨t.count o, false⟩ ∧ (t.count o).speedupSum = t.speedupSum ∧
      (t.count o).speedupSamples = t.speedupSamples := by
  refine ⟨?_, ?_, ?_⟩
  · rw [record, o.estimateSpeedup_eq_overflow_iff.mpr h]
  · cases hk : o.kind <;> simp [count, countKind, countCandidates, hk]
  · cases hk : o.kind <;> simp [count, countKind, countCandidates, hk]

/-- The counters of queries do not depend on the estimate. -/
theorem record_queries (t : Tally) (o : Observation) :
    (t.record o).tally.totalQueries = t.totalQueries + 1 ∧
      ∀ kind, (t.record o).tally.ofKind kind = t.ofKind kind + if o.kind = kind then 1 else 0 := by
  have hkinds : ∀ kind, (t.count o).ofKind kind =
      t.ofKind kind + if o.kind = kind then 1 else 0 := by
    intro kind
    rw [ofKind_count]
    split <;> rfl
  have htotal := (t.count_sums o).1
  rw [record]
  cases o.estimateSpeedup with
  | unknown => exact ⟨htotal, hkinds⟩
  | overflow => exact ⟨htotal, hkinds⟩
  | factor x =>
      refine ⟨htotal, fun kind => ?_⟩
      rw [← hkinds kind]
      cases kind <;> rfl

/-- **How far a recording comes.**  From any tally, every query is counted, and under its kind
alone.  The recording comes to its end, and the speedup can be estimated, unless there are
candidates and the times of both phases add up to more than a duration can hold; then everything
is counted but the speedup. -/
theorem record_advances (t : Tally) (o : Observation) :
    ((t.record o).finished = true ↔ ¬ o.TimesOverflow) ∧
      (o.estimateSpeedup = .overflow ↔ o.TimesOverflow) ∧
      (t.record o).tally.totalQueries = t.totalQueries + 1 ∧
      (∀ kind, (t.record o).tally.ofKind kind =
        t.ofKind kind + if o.kind = kind then 1 else 0) ∧
      (o.TimesOverflow → (t.record o).tally = t.count o ∧
        (t.record o).tally.speedupSum = t.speedupSum ∧
        (t.record o).tally.speedupSamples = t.speedupSamples) := by
  obtain ⟨htotal, hkinds⟩ := t.record_queries o
  refine ⟨t.record_finished_iff o, o.estimateSpeedup_eq_overflow_iff, htotal, hkinds, ?_⟩
  intro h
  obtain ⟨hrecord, hsum, hsamples⟩ := record_eq_count (t := t) h
  rw [hrecord]
  exact ⟨rfl, hsum, hsamples⟩

/-- A query with a candidate that took the longest time there is, and one nanosecond more. -/
def longest : Observation :=
  ⟨.accelerated, 1, some 1, 1, ⟨Duration.limit - 1⟩, ⟨1⟩⟩

theorem longest_timesOverflow : longest.TimesOverflow :=
  ⟨rfl, ⟨0, rfl⟩, by decide⟩

theorem record_advances_longest :
    longest.TimesOverflow ∧ (empty.record longest).tally = empty.count longest ∧
      (empty.record longest).tally.totalQueries = 1 ∧
      (empty.record longest).tally.prefilterHits = 1 ∧
      (empty.record longest).tally.speedupSamples = 0 := by
  obtain ⟨_, _, htotal, hkinds, hstopped⟩ := empty.record_advances longest
  obtain ⟨hcount, _, hsamples⟩ := hstopped longest_timesOverflow
  exact ⟨longest_timesOverflow, hcount, htotal, hkinds .accelerated, hsamples⟩

/-- Each time is a duration by itself, and yet the recording stops: the query has been counted,
its speedup has not. -/
theorem record_stops_halfway :
    longest.filterTime.nanoseconds < Duration.limit ∧
      longest.verifyTime.nanoseconds < Duration.limit ∧
      longest.estimateSpeedup = .overflow ∧ (empty.record longest).finished = false ∧
      (empty.record longest).tally.totalQueries = 1 ∧
      (empty.record longest).tally.candidatesAfter = 1 ∧
      (empty.record longest).tally.speedupSamples = 0 := by
  have hstops := longest.estimateSpeedup_eq_overflow_iff.mpr longest_timesOverflow
  have hrecord := (record_eq_count (t := empty) longest_timesOverflow).1
  rw [hrecord]
  exact ⟨by decide, by decide, hstops, rfl, rfl, rfl, rfl⟩

/-! ## Several recordings -/

/-- Records queries one after the other, up to the first recording that stops. -/
def recordAll (t : Tally) : List Observation → Recorded
  | [] => ⟨t, true⟩
  | o :: os => if (t.record o).finished then recordAll (t.record o).tally os else t.record o

/-- All queries are recorded iff the times of none of them overflow; they are then counted, each
under its kind. -/
theorem recordAll_advances (t : Tally) (os : List Observation) :
    ((recordAll t os).finished = true ↔ ∀ o ∈ os, ¬ o.TimesOverflow) ∧
      ((recordAll t os).finished = true →
        (recordAll t os).tally.totalQueries = t.totalQueries + UInt64.ofNat os.length ∧
        ∀ kind, (recordAll t os).tally.ofKind kind =
          t.ofKind kind + UInt64.ofNat (os.countP fun o => o.kind = kind)) := by
  induction os generalizing t with
  | nil => simp [recordAll]
  | cons o os ih =>
      rw [recordAll]
      by_cases hfinished : (t.record o).finished = true
      · obtain ⟨htotal, hkinds⟩ := t.record_queries o
        obtain ⟨hall, hcounts⟩ := ih (t.record o).tally
        rw [if_pos hfinished]
        have hnot := (t.record_finished_iff o).mp hfinished
        refine ⟨by simp [hall, hnot], ?_⟩
        intro h
        obtain ⟨hrest, hrests⟩ := hcounts h
        refine ⟨?_, fun kind => ?_⟩
        · rw [hrest, htotal, List.length_cons, Nat.add_comm, UInt64.ofNat_add, ← UInt64.add_assoc]
          rfl
        · rw [hrests, hkinds, List.countP_cons, Nat.add_comm, UInt64.ofNat_add,
            ← UInt64.add_assoc]
          by_cases hkind : o.kind = kind <;> simp [hkind]
      · rw [if_neg hfinished]
        have hover := not_not.mp (mt (t.record_finished_iff o).mpr hfinished)
        refine ⟨?_, fun h => absurd h hfinished⟩
        exact iff_of_false hfinished fun hall => hall o List.mem_cons_self hover

end Tally
end TrigramSearch
