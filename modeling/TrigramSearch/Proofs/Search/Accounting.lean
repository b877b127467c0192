import Mathlib.Algebra.GroupWithZero.Nat
import Mathlib.Algebra.Order.BigOperators.Group.List
import Mathlib.Algebra.Order.Group.Nat
import TrigramSearch.Proofs.Index.Lifetime
import TrigramSearch.Proofs.Search.Candidates
import TrigramSearch.Proofs.Search.Session

/-!
# Statistics account for every query

Every search leaves an outcome: the size of its collection, its result, and the
number of indexes it built.  The counters of a tally are sums over the outcomes
since the last reset, as 64-bit words (`Tally.Counts`); a search adds its outcome
to the sums and nothing else changes them.  In every single outcome the matches
of a candidate set are no more than the candidates and these no more than the
documents (`Outcome.Ordered`), and so it is for the sums.

## Main results

* `Tally.record_counts` — recording an observation adds an outcome to the sums.
* `Engine.search_counts` — a search adds its outcome.
* `SearchSession.run_counts` — the counters after a stretch of a run without a
  reset.
* `SearchSession.statistics_account` — the counters are the sums, and agree with
  each other.
-/

namespace TrigramSearch

/-! ## Outcomes -/

/-- The kind of query that a strategy belongs to. -/
def Strategy.kind : Strategy → QueryKind
  | .accelerated _ => .accelerated
  | .fullScan .disabled => .disabled
  | .fullScan (.ineligible .tooShort) => .tooShort
  | .fullScan (.ineligible .tooComplex) => .unsupported
  | .fullScan (.ineligible .noLiterals) => .unsupported
  | .fullScan (.ineffective _) => .ineffective
  | .invalidPattern _ => .invalidPattern

/-- What can be observed of a search that was carried out. -/
structure Outcome where
  /-- The number of documents. -/
  size : Nat
  result : SearchResult
  /-- The number of indexes that were built. -/
  builds : Nat

namespace Outcome

def kind (o : Outcome) : QueryKind := o.result.strategy.kind

/-- The number of candidates of an accelerated search. -/
def candidates (o : Outcome) : Nat :=
  match o.result.strategy with
  | .accelerated n => n
  | _ => 0

/-- The number of matches. -/
def found (o : Outcome) : Nat := o.result.positions.length

end Outcome

/-! ## Sums -/

/-- The accelerated ones of some searches. -/
def accelerated (log : List Outcome) : List Outcome :=
  log.filter fun o => o.kind = .accelerated

/-- The number of searches of a kind. -/
def countOf (kind : QueryKind) (log : List Outcome) : Nat := log.countP fun o => o.kind = kind

namespace Tally

/-- The counter of a kind of query. -/
def ofKind (t : Tally) : QueryKind → UInt64
  | .accelerated => t.prefilterHits
  | .ineffective => t.ineffectivePrefilters
  | .disabled => t.disabledScans
  | .tooShort => t.shortPatterns
  | .unsupported => t.unsupportedPatterns
  | .invalidPattern => t.invalidPatterns

/-- The counters are the sums over some searches and a number of builds. -/
structure Counts (t : Tally) (log : List Outcome) (builds : Nat) : Prop where
  queries : t.totalQueries = UInt64.ofNat log.length
  kinds : ∀ kind, t.ofKind kind = UInt64.ofNat (countOf kind log)
  builds : t.indexBuilds = UInt64.ofNat builds
  before : t.candidatesBefore = UInt64.ofNat ((accelerated log).map Outcome.size).sum
  after : t.candidatesAfter = UInt64.ofNat ((accelerated log).map Outcome.candidates).sum
  verified : t.verifiedCandidates = UInt64.ofNat ((accelerated log).map Outcome.found).sum
  found : t.totalMatches = UInt64.ofNat (log.map Outcome.found).sum

theorem empty_counts : empty.Counts [] 0 where
  queries := rfl
  kinds kind := by cases kind <;> rfl
  builds := rfl
  before := rfl
  after := rfl
  verified := rfl
  found := rfl

/-- Only the counter of its kind grows by a query. -/
theorem ofKind_count (t : Tally) (o : Observation) (kind : QueryKind) :
    (t.count o).ofKind kind = t.ofKind kind + UInt64.ofNat (if o.kind = kind then 1 else 0) := by
  cases hk : o.kind <;> cases kind <;> simp [count, countKind, countCandidates, ofKind, hk]

/-- What a query adds to the counters that all kinds share. -/
theorem count_sums (t : Tally) (o : Observation) :
    (t.count o).totalQueries = t.totalQueries + 1 ∧
      (t.count o).totalMatches = t.totalMatches + UInt64.ofNat o.found ∧
      (t.count o).indexBuilds = t.indexBuilds := by
  cases hk : o.kind <;> simp [count, countKind, countCandidates, hk]

/-- What a query adds to the counters of candidates, if it was accelerated. -/
theorem count_candidates (t : Tally) (o : Observation) :
    (t.count o).candidatesBefore = t.candidatesBefore +
        UInt64.ofNat (if o.kind = .accelerated then o.collectionSize else 0) ∧
      (t.count o).candidatesAfter = t.candidatesAfter +
        UInt64.ofNat (if o.kind = .accelerated then o.candidates.getD 0 else 0) ∧
      (t.count o).verifiedCandidates = t.verifiedCandidates +
        UInt64.ofNat (if o.kind = .accelerated then o.found else 0) := by
  cases hk : o.kind <;> simp [count, countKind, countCandidates, hk]

/-- The speedup aside, a recording counts the query. -/
theorem record_counters {t : Tally} {o : Observation} {log : List Outcome} {builds : Nat}
    (h : (t.count o).Counts log builds) : (t.record o).tally.Counts log builds := by
  rw [record]
  split
  · exact h
  · exact ⟨h.queries, h.kinds, h.builds, h.before, h.after, h.verified, h.found⟩
  · exact h

end Tally

namespace Outcome

/-- What is recorded about a search with this outcome. -/
structure SeenAs (o : Outcome) (seen : Observation) : Prop where
  kind : seen.kind = o.kind
  size : seen.collectionSize = o.size
  candidates : seen.kind = .accelerated → seen.candidates.getD 0 = o.candidates
  found : seen.found = o.found

end Outcome

namespace Tally

/-- Recording a search adds its outcome to the sums. -/
theorem record_counts {t : Tally} {log : List Outcome} {builds : Nat} (h : t.Counts log builds)
    {o : Outcome} {seen : Observation} (ho : o.SeenAs seen) :
    (t.record seen).tally.Counts (log ++ [o]) builds := by
  obtain ⟨hqueries, hfound, hbuilds⟩ := t.count_sums seen
  obtain ⟨hbefore, hafter, hverified⟩ := t.count_candidates seen
  have haccelerated : ∀ f : Outcome → Nat, ((accelerated (log ++ [o])).map f).sum =
      ((accelerated log).map f).sum + if seen.kind = .accelerated then f o else 0 := by
    intro f
    by_cases hkind : o.kind = .accelerated <;> simp [accelerated, ho.kind, hkind]
  have hcandidates : (if seen.kind = .accelerated then seen.candidates.getD 0 else 0) =
      if seen.kind = .accelerated then o.candidates else 0 := by
    split
    · exact ho.candidates ‹_›
    · rfl
  apply record_counters
  constructor
  · rw [hqueries, h.queries, List.length_append, UInt64.ofNat_add]
    rfl
  · intro kind
    rw [ofKind_count, h.kinds, ho.kind, ← UInt64.ofNat_add]
    simp [countOf, List.countP_append, List.countP_cons]
  · rw [hbuilds, h.builds]
  · rw [hbefore, h.before, ho.size, haccelerated, UInt64.ofNat_add]
  · rw [hafter, h.after, hcandidates, haccelerated, UInt64.ofNat_add]
  · rw [hverified, h.verified, ho.found, haccelerated, UInt64.ofNat_add]
  · rw [hfound, h.found, ho.found, List.map_append, List.sum_append, UInt64.ofNat_add]
    simp

theorem countBuild_counts {t : Tally} {log : List Outcome} {builds : Nat}
    (h : t.Counts log builds) (built : Bool) :
    (Engine.countBuild t built).Counts log (builds + built.toNat) := by
  cases built with
  | false => exact h
  | true =>
      have hbuilds : t.indexBuilds + 1 = UInt64.ofNat (builds + 1) := by
        rw [h.builds, UInt64.ofNat_add]
        rfl
      exact ⟨h.queries, h.kinds, hbuilds, h.before, h.after, h.verified, h.found⟩

end Tally

/-! ## One search -/

namespace Plan

/-- The cache has counted the build of a plan. -/
theorem make_builds (settings : SearchSettings) (k : IndexCache) (isLive : CollectionId → Bool)
    (c : Collection) (field : String) (pattern : List Char) (options : MatchOptions) :
    (make settings k isLive c field pattern options).cache.builds =
      k.builds + (make settings k isLive c field pattern options).built.toNat := by
  rcases make_cases settings k isLive c field pattern options with
    ⟨hbuilt, hcache, _⟩ | ⟨hbuilt, hcache, _⟩
  · rw [hbuilt, hcache]
    rfl
  · rw [hbuilt, hcache, IndexCache.ensure_builds]

end Plan

namespace Engine

section
variable (g : Engine) (isLive : CollectionId → Bool) (timing : Timing) (c : Collection)
  (field : String) (pattern options : List Char) (overrides : Option Overrides)

/-- The outcome of a search. -/
def outcome : Outcome :=
  let (result, after) := g.search isLive timing c field pattern options overrides
  ⟨c.length, result, after.cache.builds - g.cache.builds⟩

/-- The outcome of a search together with what is recorded about it. -/
theorem outcome_cases :
    let o := g.outcome isLive timing c field pattern options overrides
    let tally := (g.search isLive timing c field pattern options overrides).2.tally
    (∃ message, o = ⟨c.length, ⟨[], [], .invalidPattern message⟩, 0⟩ ∧
      tally = (g.tally.record
        ⟨.invalidPattern, c.length, none, 0, Duration.zero, timing.verifyTime⟩).tally) ∨
    (∃ v : Verifier,
      let made := Plan.make (g.settings.withOverrides overrides) g.cache isLive c field pattern
        (MatchOptions.ofChars options)
      let positions := positionsOf v c made.plan
      o = ⟨c.length, ⟨positions.filterMap c.get?, positions, strategyOf made.plan⟩,
        made.built.toNat⟩ ∧
      tally = ((countBuild g.tally made.built).record
        (observe made.plan c.length positions.length timing)).tally) := by
  dsimp only
  rw [outcome, search, plan]
  cases Verifier.compile pattern (MatchOptions.ofChars options) field with
  | error e =>
      left
      refine ⟨e.message, ?_, rfl⟩
      simp [finish]
  | ok v =>
      right
      refine ⟨v, ?_, rfl⟩
      simp [finish, Query.positions, Plan.make_builds]

/-- What is recorded about a plan belongs to its strategy. -/
theorem observe_kind (plan : Plan) (size found : Nat) :
    (observe plan size found timing).kind = (strategyOf plan).kind := by
  cases plan with
  | ineligible reason => cases reason <;> rfl
  | _ => rfl

/-- A search adds its outcome to the sums. -/
theorem search_counts {log : List Outcome} {builds : Nat} (h : g.tally.Counts log builds) :
    let o := g.outcome isLive timing c field pattern options overrides
    (g.search isLive timing c field pattern options overrides).2.tally.Counts (log ++ [o])
      (builds + o.builds) := by
  rcases g.outcome_cases isLive timing c field pattern options overrides with
    ⟨message, houtcome, htally⟩ | ⟨v, houtcome, htally⟩
  · dsimp only
    rw [houtcome, htally]
    refine Tally.record_counts h ⟨rfl, rfl, ?_, rfl⟩
    intro hkind
    cases hkind
  · dsimp only at houtcome htally ⊢
    rw [houtcome, htally]
    refine Tally.record_counts (Tally.countBuild_counts h _) ⟨?_, rfl, ?_, rfl⟩
    · exact observe_kind timing _ _ _
    · intro hkind
      generalize Plan.make _ _ _ _ _ _ _ = made at hkind ⊢
      cases hplan : made.plan with
      | candidates positions => rfl
      | ineligible reason =>
          rw [hplan] at hkind
          cases reason <;> cases hkind
      | disabled =>
          rw [hplan] at hkind
          cases hkind
      | ineffective count =>
          rw [hplan] at hkind
          cases hkind

end
end Engine

/-- No more candidates than documents. -/
theorem length_candidates_le (bloom : BloomIndex) (c : Collection) (field idField : String)
    (grams : List Trigram) : (candidates bloom c field idField grams).length ≤ c.length := by
  have hfilter := List.length_filter_le
    (fun d : Json.Value × Nat => isCandidate bloom field idField grams d.1 d.2) c.enumerate
  rw [Collection.enumerate, List.length_zipIdx] at hfilter
  rw [candidates, List.length_map]
  exact hfilter

namespace Outcome

/-- Matches of a candidate set are candidates, candidates are documents, and an index is built only
for candidates. -/
structure Ordered (o : Outcome) : Prop where
  found_le : o.kind = .accelerated → o.found ≤ o.candidates
  candidates_le : o.kind = .accelerated → o.candidates ≤ o.size
  builds_le : o.builds ≤
    (if o.kind = .accelerated then 1 else 0) + (if o.kind = .ineffective then 1 else 0)

/-- A search of all documents has no candidates to be compared. -/
theorem ordered_of_fullScan {o : Outcome} (hkind : o.kind ≠ .accelerated)
    (hbuilds : o.builds ≤ if o.kind = .ineffective then 1 else 0) : o.Ordered where
  found_le h := absurd h hkind
  candidates_le h := absurd h hkind
  builds_le := Nat.le_trans hbuilds (Nat.le_add_left _ _)

end Outcome

theorem Engine.outcome_ordered (g : Engine) (isLive : CollectionId → Bool) (timing : Timing)
    (c : Collection) (field : String) (pattern options : List Char)
    (overrides : Option Overrides) :
    (g.outcome isLive timing c field pattern options overrides).Ordered := by
  rcases g.outcome_cases isLive timing c field pattern options overrides with
    ⟨message, houtcome, _⟩ | ⟨v, houtcome, _⟩
  · rw [houtcome]
    exact Outcome.ordered_of_fullScan nofun (Nat.zero_le _)
  · rw [houtcome]
    have hcases := Plan.make_cases (g.settings.withOverrides overrides) g.cache isLive c field
      pattern (MatchOptions.ofChars options)
    generalize Plan.make _ _ _ _ _ _ _ = made at hcases ⊢
    have hone := Bool.toNat_le made.built
    rcases hcases with ⟨hbuilt, _, hplan | ⟨reason, hplan⟩⟩ | ⟨_, _, grams, hplan⟩
    · rw [hbuilt, hplan]
      exact Outcome.ordered_of_fullScan nofun (Nat.zero_le _)
    · rw [hbuilt, hplan]
      cases reason <;> exact Outcome.ordered_of_fullScan nofun (Nat.zero_le _)
    · rw [hplan, Plan.ofCandidates]
      split
      · exact Outcome.ordered_of_fullScan nofun hone
      · exact ⟨fun _ => List.length_filter_le _ _, fun _ => length_candidates_le _ c field _ grams,
          hone⟩

/-! ## Sums over ordered outcomes -/

theorem length_eq_sum_countOf (log : List Outcome) :
    log.length = countOf .accelerated log + countOf .ineffective log + countOf .disabled log +
      countOf .tooShort log + countOf .unsupported log + countOf .invalidPattern log := by
  induction log with
  | nil => rfl
  | cons o log ih =>
      simp only [countOf, List.countP_cons, List.length_cons] at ih ⊢
      cases o.kind <;> simp <;> omega

section
variable {log : List Outcome} (h : ∀ o ∈ log, o.Ordered)
include h

theorem ordered_of_mem_accelerated {o : Outcome} (ho : o ∈ accelerated log) :
    o.Ordered ∧ o.kind = .accelerated := by
  obtain ⟨hmem, hkind⟩ := List.mem_filter.mp ho
  exact ⟨h o hmem, of_decide_eq_true hkind⟩

theorem sum_found_le :
    ((accelerated log).map Outcome.found).sum ≤ ((accelerated log).map Outcome.candidates).sum := by
  apply List.sum_le_sum
  intro o ho
  obtain ⟨hordered, hkind⟩ := ordered_of_mem_accelerated h ho
  exact hordered.found_le hkind

theorem sum_candidates_le :
    ((accelerated log).map Outcome.candidates).sum ≤ ((accelerated log).map Outcome.size).sum := by
  apply List.sum_le_sum
  intro o ho
  obtain ⟨hordered, hkind⟩ := ordered_of_mem_accelerated h ho
  exact hordered.candidates_le hkind

theorem sum_builds_le :
    (log.map Outcome.builds).sum ≤ countOf .accelerated log + countOf .ineffective log := by
  induction log with
  | nil => exact Nat.le_refl 0
  | cons o log ih =>
      have hlog := ih fun p hp => h p (List.mem_cons_of_mem o hp)
      have ho := (h o List.mem_cons_self).builds_le
      simp only [countOf, List.countP_cons, List.map_cons, List.sum_cons, decide_eq_true_eq]
        at hlog ⊢
      omega

end

theorem sum_accelerated_le (log : List Outcome) :
    ((accelerated log).map Outcome.found).sum ≤ (log.map Outcome.found).sum :=
  (List.filter_sublist.map Outcome.found).sum_le_sum fun _ _ => Nat.zero_le _

/-! ## Runs -/

namespace SearchSession

/-- The outcome of an action, if it is a search in a collection that exists. -/
def outcome? (w : SearchSession) : Action → Option Outcome
  | .search timing name field pattern options overrides =>
    (w.store.get? name).map fun c =>
      w.engine.outcome w.store.isLive timing c field pattern options overrides
  | _ => none

/-- The outcomes of several actions, in their order. -/
def outcomes (w : SearchSession) : List Action → List Outcome
  | [] => []
  | a :: as => (w.outcome? a).toList ++ (w.act a).outcomes as

/-- An action other than a reset adds its outcome to the sums. -/
theorem act_counts {w : SearchSession} {log : List Outcome} {builds : Nat}
    (h : w.engine.tally.Counts log builds) {a : Action} (ha : a ≠ .reset) :
    (w.act a).engine.tally.Counts (log ++ (w.outcome? a).toList)
      (builds + ((w.outcome? a).toList.map Outcome.builds).sum) := by
  have hnone : w.outcome? a = none → w.engine.tally.Counts (log ++ (w.outcome? a).toList)
      (builds + ((w.outcome? a).toList.map Outcome.builds).sum) := by
    intro hnone
    simpa [hnone] using h
  cases a with
  | search timing name field pattern options overrides =>
      cases hc : w.store.get? name with
      | none =>
          simp only [act, hc]
          exact hnone (by simp [outcome?, hc])
      | some c =>
          have hsearch := w.engine.search_counts w.store.isLive timing c field pattern options
            overrides h
          simpa [act, outcome?, hc, search] using hsearch
  | configure settings =>
      have hsame : (w.act (.configure settings)).engine.tally = w.engine.tally := by
        rw [act, Engine.configure]
        cases settings.check <;> rfl
      rw [hsame]
      exact hnone rfl
  | reset => exact absurd rfl ha
  | _ => exact hnone rfl

theorem act_outcome_ordered {w : SearchSession} {a : Action} {o : Outcome}
    (ho : w.outcome? a = some o) : o.Ordered := by
  cases a with
  | search timing name field pattern options overrides =>
      obtain ⟨c, _, rfl⟩ := Option.map_eq_some_iff.mp ho
      exact w.engine.outcome_ordered w.store.isLive timing c field pattern options overrides
  | _ => cases ho

/-- The counters after a stretch without a reset. -/
theorem run_counts (actions : List Action) :
    ∀ {w : SearchSession} {log : List Outcome} {builds : Nat},
      w.engine.tally.Counts log builds → .reset ∉ actions →
      (actions.foldl act w).engine.tally.Counts (log ++ w.outcomes actions)
        (builds + ((w.outcomes actions).map Outcome.builds).sum) := by
  induction actions with
  | nil =>
      intro w log builds h _
      simpa [outcomes] using h
  | cons a as ih =>
      intro w log builds h hreset
      rw [List.mem_cons, not_or] at hreset
      have hrest := ih (act_counts h (Ne.symm hreset.1)) hreset.2
      simpa [outcomes, Nat.add_assoc] using hrest

theorem outcomes_ordered (actions : List Action) :
    ∀ {w : SearchSession}, ∀ o ∈ w.outcomes actions, o.Ordered := by
  induction actions with
  | nil =>
      intro w o ho
      cases ho
  | cons a as ih =>
      intro w o ho
      rcases List.mem_append.mp ho with hhere | hlater
      · exact act_outcome_ordered (Option.mem_toList.mp hhere)
      · exact ih o hlater

/-- Nothing is counted in a new session, nor right after a reset. -/
theorem counts_at_start (settings : SearchSettings) {before : List Action}
    (h : before = [] ∨ ∃ earlier, before = earlier ++ [.reset]) :
    (run settings before).engine.tally.Counts [] 0 := by
  rcases h with rfl | ⟨earlier, rfl⟩
  · exact Tally.empty_counts
  · rw [run, List.foldl_append]
    exact Tally.empty_counts

/-- **Accounting.**  The counters of a run are the sums over the searches since the last reset, or
since the beginning: each kind counts its searches, together all of them; the candidate counters
are sums over the accelerated ones.  So no more candidates verify than there are, no more are
left than there were documents, and no more indexes are built than candidate sets are asked for.
The sums are assumed to fit into 64 bits. -/
theorem statistics_account (settings : SearchSettings) (before after : List Action)
    (hbefore : before = [] ∨ ∃ earlier, before = earlier ++ [.reset]) (hafter : .reset ∉ after) :
    let log := (run settings before).outcomes after
    let s := (run settings (before ++ after)).engine.statistics
    log.length < 2 ^ 64 → ((accelerated log).map Outcome.size).sum < 2 ^ 64 →
    (log.map Outcome.found).sum < 2 ^ 64 →
    s.totalQueries.toNat = log.length ∧
    s.totalQueries.toNat = s.prefilterHits.toNat + s.ineffectivePrefilters.toNat +
      s.disabledScans.toNat + s.shortPatterns.toNat + s.unsupportedPatterns.toNat +
      s.invalidPatterns.toNat ∧
    s.prefilterHits.toNat = countOf .accelerated log ∧
    s.ineffectivePrefilters.toNat = countOf .ineffective log ∧
    s.disabledScans.toNat = countOf .disabled log ∧
    s.shortPatterns.toNat = countOf .tooShort log ∧
    s.unsupportedPatterns.toNat = countOf .unsupported log ∧
    s.invalidPatterns.toNat = countOf .invalidPattern log ∧
    s.candidatesBefore.toNat = ((accelerated log).map Outcome.size).sum ∧
    s.candidatesAfter.toNat = ((accelerated log).map Outcome.candidates).sum ∧
    s.verifiedCandidates.toNat = ((accelerated log).map Outcome.found).sum ∧
    s.totalMatches.toNat = (log.map Outcome.found).sum ∧
    s.indexBuilds.toNat = (log.map Outcome.builds).sum ∧
    s.verifiedCandidates ≤ s.candidatesAfter ∧ s.candidatesAfter ≤ s.candidatesBefore ∧
    s.verifiedCandidates ≤ s.totalMatches ∧
    s.indexBuilds.toNat ≤ s.prefilterHits.toNat + s.ineffectivePrefilters.toNat := by
  intro log s hqueries hsizes hmatches
  have hcounts : (run settings (before ++ after)).engine.tally.Counts log
      (log.map Outcome.builds).sum := by
    have hrun := run_counts after (counts_at_start settings hbefore) hafter
    rw [run, ← List.foldl_append] at hrun
    simpa [run, log] using hrun
  have hordered : ∀ o ∈ log, o.Ordered := outcomes_ordered after
  -- each sum is at most one of the three that are assumed to fit
  have hkinds := length_eq_sum_countOf log
  have hcandidates := sum_candidates_le hordered
  have hfound := sum_found_le hordered
  have hall := sum_accelerated_le log
  have hbuilds := sum_builds_le hordered
  have hword : ∀ {w : UInt64} {n : Nat}, w = UInt64.ofNat n → n < 2 ^ 64 → w.toNat = n := by
    intro w n hw hn
    rw [hw]
    exact UInt64.toNat_ofNat_of_lt' hn
  have htotal : s.totalQueries.toNat = log.length := hword hcounts.queries hqueries
  have hkind : ∀ kind, ((run settings (before ++ after)).engine.tally.ofKind kind).toNat =
      countOf kind log := by
    intro kind
    exact hword (hcounts.kinds kind) (Nat.lt_of_le_of_lt List.countP_le_length hqueries)
  have haccelerated : s.prefilterHits.toNat = _ := hkind .accelerated
  have hineffective : s.ineffectivePrefilters.toNat = _ := hkind .ineffective
  have hdisabled : s.disabledScans.toNat = _ := hkind .disabled
  have hshort : s.shortPatterns.toNat = _ := hkind .tooShort
  have hunsupported : s.unsupportedPatterns.toNat = _ := hkind .unsupported
  have hinvalid : s.invalidPatterns.toNat = _ := hkind .invalidPattern
  have hsize : s.candidatesBefore.toNat = _ := hword hcounts.before hsizes
  have hleft : s.candidatesAfter.toNat = _ := hword hcounts.after (by omega)
  have hverified : s.verifiedCandidates.toNat = _ := hword hcounts.verified (by omega)
  have hmatched : s.totalMatches.toNat = _ := hword hcounts.found hmatches
  have hbuilt : s.indexBuilds.toNat = _ := hword hcounts.builds (by omega)
  refine ⟨htotal, ?_, haccelerated, hineffective, hdisabled, hshort, hunsupported, hinvalid,
    hsize, hleft, hverified, hmatched, hbuilt, ?_, ?_, ?_, ?_⟩
  · omega
  · exact UInt64.le_iff_toNat_le.mpr (by omega)
  · exact UInt64.le_iff_toNat_le.mpr (by omega)
  · exact UInt64.le_iff_toNat_le.mpr (by omega)
  · omega

/-- Searches of several kinds after a reset: accelerated, with a pattern that does not compile, with
one that is too short, and without filters. -/
theorem statistics_account_after_reset :
    let document := Json.Value.object [("text", .string "abcd")]
    let search (pattern : List Char) (overrides : Option Overrides) : Action :=
      .search Timing.none "c" "text" pattern [] overrides
    let before : List Action :=
      [.collection (.create "c" [document]), search ['a', 'b', 'c'] none, .reset]
    let after : List Action :=
      [search ['a', 'b', 'c'] none, search ['('] none, search ['a', 'b'] none,
        search ['b', 'c', 'd'] (some { useFilters := some false })]
    let log := (run {} before).outcomes after
    let s := (run {} (before ++ after)).engine.statistics
    .reset ∉ after ∧ log.length = 4 ∧ s.totalQueries.toNat = log.length ∧
      s.totalQueries.toNat = s.prefilterHits.toNat + s.ineffectivePrefilters.toNat +
        s.disabledScans.toNat + s.shortPatterns.toNat + s.unsupportedPatterns.toNat +
        s.invalidPatterns.toNat ∧
      s.prefilterHits.toNat = countOf .accelerated log := by
  intro document search before after log s
  have hbefore : before = [] ∨ ∃ earlier, before = earlier ++ [.reset] :=
    Or.inr ⟨before.dropLast, rfl⟩
  have hafter : .reset ∉ after := by simp [after, search]
  obtain ⟨htotal, hkinds, haccelerated, _⟩ := statistics_account {} before after hbefore hafter
    (by decide +kernel) (by decide +kernel) (by decide +kernel)
  exact ⟨hafter, by decide +kernel, htotal, hkinds, haccelerated⟩

end SearchSession
end TrigramSearch
