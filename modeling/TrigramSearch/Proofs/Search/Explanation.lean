import TrigramSearch.Proofs.Pattern.Verdict
import TrigramSearch.Proofs.Search.Assertion

/-!
# What is explained is what is done

An analysis and a search judge a pattern separately: the analysis reports the
verdict and the trigrams, the search plans.  Each plan follows from the verdict,
and the index that is probed is the one that is cached afterwards.  The
candidates are counted without reference to their positions: in an index that
knows all texts they are the documents whose entry contains every trigram.

## Main results

* `length_candidates_eq_hits` — the number of candidates.
* `Plan.make_of_obstacle`, `Plan.make_of_eligible` — the plan of each verdict.
* `Engine.search_of_eligible` — what is counted when there is no obstacle.
* `SearchSession.search_explained` — analysis and search agree after every run.
-/

namespace TrigramSearch

/-! ## Counting candidates -/

/-- Whether a document has an entry, and the entry contains all of several trigrams. -/
def BloomIndex.holdsAll (bloom : BloomIndex) (id : DocumentId) (grams : List Trigram) : Bool :=
  (bloom.filter? id).any fun f => grams.all f.contains

/-- The number of documents whose entry contains all of several trigrams. -/
def BloomIndex.hits (bloom : BloomIndex) (c : Collection) (idField : String)
    (grams : List Trigram) : Nat :=
  c.enumerate.countP fun d => bloom.holdsAll (DocumentId.resolve d.1 d.2 idField) grams

/-- In an index that knows all texts, a document is a candidate iff its entry contains the
trigrams. -/
theorem isCandidate_eq_holdsAll {bloom : BloomIndex} {c : Collection} {field idField : String}
    (h : bloom.KnowsTexts c field idField) (grams : List Trigram) {document : Json.Value}
    {position : Nat} (hd : c.get? position = some document) :
    isCandidate bloom field idField grams document position =
      bloom.holdsAll (DocumentId.resolve document position idField) grams := by
  rw [isCandidate, BloomIndex.probeAll?, BloomIndex.holdsAll]
  cases hfilter : bloom.filter? (DocumentId.resolve document position idField) with
  | some f => rfl
  | none =>
      have hunknown : bloom.contains (DocumentId.resolve document position idField) = false := by
        rw [BloomIndex.contains, hfilter]
        rfl
      cases htext : (Document.text? document field).isSome with
      | false => simp
      | true =>
          rw [h position document hd htext] at hunknown
          cases hunknown

theorem length_candidates_eq_hits {bloom : BloomIndex} {c : Collection}
    {field idField : String} (h : bloom.KnowsTexts c field idField) (grams : List Trigram) :
    (candidates bloom c field idField grams).length = bloom.hits c idField grams := by
  rw [candidates, List.length_map, ← List.countP_eq_length_filter, BloomIndex.hits]
  apply List.countP_congr
  intro d hd
  rw [isCandidate_eq_holdsAll h grams (Collection.mem_enumerate.mp hd)]

theorem BuiltIndex.build_knowsTexts (c : Collection) (field idField : String) (sizing : Sizing) :
    (build c field idField sizing).bloom.KnowsTexts c field idField :=
  (candidates?_eq_some_iff.mp (candidates?_build c field idField sizing [])).1

/-! ## Plans -/

/-- Whether it was built or served, an index is cached under its key afterwards. -/
theorem IndexCache.ensure_get? (k : IndexCache) (isLive : CollectionId → Bool) (c : Collection)
    (field idField : String) (sizing : Sizing) :
    (k.ensure isLive c field idField sizing).cache.get? ⟨c.id, field, sizing⟩ =
      some (k.ensure isLive c field idField sizing).index := by
  rcases ensure_eq k isLive c field idField sizing with ⟨x, hx, _, heq⟩ | ⟨_, heq⟩
  · rw [heq]
    exact hx
  · rw [heq]
    exact List.lookup_cons_self

/-- With filters in use, an obstacle is passed on. -/
theorem Plan.make_of_obstacle {settings : SearchSettings} (huse : settings.useFilters = true)
    {pattern : List Char} {options : MatchOptions} {reason : Ineligibility}
    (hobstacle : (Eligibility.assess pattern options settings).obstacle = some reason)
    (k : IndexCache) (isLive : CollectionId → Bool) (c : Collection) (field : String) :
    (make settings k isLive c field pattern options).plan = .ineligible reason := by
  rw [make, huse]
  simp only [Bool.not_true, Bool.false_eq_true, if_false, hobstacle]

/-- With filters in use, an eligible pattern is looked for in the index that is cached
afterwards. -/
theorem Plan.make_of_eligible {settings : SearchSettings} (huse : settings.useFilters = true)
    {pattern : List Char} {options : MatchOptions}
    (heligible : (Eligibility.assess pattern options settings).obstacle = none)
    (k : IndexCache) (isLive : CollectionId → Bool) (c : Collection) (field : String) :
    let r := k.ensure isLive c field settings.idField (sizing settings)
    let grams := (Eligibility.assess pattern options settings).trigrams
    (make settings k isLive c field pattern options).plan =
        ofCandidates (TrigramSearch.candidates r.index.bloom c field settings.idField grams)
          c.length settings.effectivenessThreshold ∧
      (make settings k isLive c field pattern options).cache = r.cache := by
  dsimp only
  rw [make, huse]
  simp only [Bool.not_true, Bool.false_eq_true, if_false, heligible, and_self]

/-- The strategy for some candidates carries their number. -/
theorem Engine.strategyOf_ofCandidates (positions : List Nat) (total : Nat)
    (threshold : Binary64) :
    strategyOf (Plan.ofCandidates positions total threshold) = .accelerated positions.length ∨
      strategyOf (Plan.ofCandidates positions total threshold) =
        .fullScan (.ineffective positions.length) := by
  rw [Plan.ofCandidates]
  split
  · exact Or.inr rfl
  · exact Or.inl rfl

/-! ## Searches -/

namespace Engine

section
variable {g : Engine} {pattern options : List Char} {e : Regex.Expr}
  (he : Regex.compile pattern (MatchOptions.ofChars options) = .ok e)
  (isLive : CollectionId → Bool) (timing : Timing) (c : Collection) (field : String)
include he

/-- The strategy and the cache of a search for a pattern that compiles are those of its plan. -/
theorem search_of_compiles :
    let found := g.search isLive timing c field pattern options none
    let made := Plan.make g.settings g.cache isLive c field pattern (MatchOptions.ofChars options)
    found.1.strategy = strategyOf made.plan ∧ found.2.cache = made.cache := by
  dsimp only
  rw [search, plan, Verifier.compile, he]
  exact ⟨rfl, rfl⟩

/-- Without filters in use, nothing else is asked. -/
theorem search_of_disabled (huse : g.settings.useFilters = false) :
    (g.search isLive timing c field pattern options none).1.strategy = .fullScan .disabled := by
  rw [(search_of_compiles he isLive timing c field).1, Plan.make, huse]
  rfl

/-- The obstacle that an analysis names is the reason why all documents are verified. -/
theorem search_of_obstacle (huse : g.settings.useFilters = true) {reason : Ineligibility}
    (hreason : (g.analyze pattern options).reason = some reason) :
    (g.search isLive timing c field pattern options none).1.strategy =
      .fullScan (.ineligible reason) := by
  rw [(search_of_compiles he isLive timing c field).1, Plan.make_of_obstacle huse hreason]
  rfl

/-- Without an obstacle, the documents are counted whose entry contains the listed trigrams. -/
theorem search_of_eligible {s : Store} (hfresh : g.cache.Fresh s) {name : String}
    (hc : s.Has name c) (huse : g.settings.useFilters = true)
    (hreason : (g.analyze pattern options).reason = none) :
    let index := BuiltIndex.build c field g.settings.idField (Plan.sizing g.settings)
    let n := index.bloom.hits c g.settings.idField (g.analyze pattern options).trigrams
    let found := g.search isLive timing c field pattern options none
    found.2.cache.get? ⟨c.id, field, Plan.sizing g.settings⟩ = some index ∧
      (found.1.strategy = .accelerated n ∨ found.1.strategy = .fullScan (.ineffective n)) := by
  intro index n found
  obtain ⟨hstrategy, hcache⟩ := search_of_compiles (g := g) he isLive timing c field
  obtain ⟨hplan, hensured⟩ := Plan.make_of_eligible huse hreason g.cache isLive c field
  have hindex := IndexCache.ensure_index hfresh hc isLive field g.settings.idField
    (Plan.sizing g.settings)
  have hknows : index.bloom.KnowsTexts c field g.settings.idField :=
    BuiltIndex.build_knowsTexts c field g.settings.idField (Plan.sizing g.settings)
  constructor
  · rw [hcache, hensured, IndexCache.ensure_get?, hindex]
  · have hn : n = _ := (length_candidates_eq_hits hknows _).symm
    rw [hstrategy, hplan, hindex, hn]
    exact strategyOf_ofCandidates _ _ _

end

/-- An analysis that names no obstacle calls the pattern suitable and lists trigrams, if filters
are in use. -/
theorem analyze_suitable {g : Engine} {pattern options : List Char}
    (huse : g.settings.useFilters = true) (hreason : (g.analyze pattern options).reason = none) :
    (g.analyze pattern options).suitable = true ∧ (g.analyze pattern options).trigrams ≠ [] := by
  refine ⟨?_, Eligibility.trigrams_ne_nil hreason⟩
  show ((Eligibility.assess pattern (.ofChars options) g.settings).obstacle.isNone &&
    g.settings.useFilters) = true
  rw [show (Eligibility.assess pattern (.ofChars options) g.settings).obstacle = none from hreason,
    huse]
  rfl

/-- Whatever would be said about a pattern that does not compile, it matches nothing. -/
theorem search_of_not_compiles (g : Engine) {pattern options : List Char}
    {fault : Regex.PatternFault}
    (hfault : Regex.compile pattern (MatchOptions.ofChars options) = .error fault)
    (isLive : CollectionId → Bool) (timing : Timing) (c : Collection) (field : String) :
    ∃ message, (g.search isLive timing c field pattern options none).1 =
      ⟨[], [], .invalidPattern message⟩ := by
  rw [search, plan, Verifier.compile, hfault]
  exact ⟨_, rfl⟩

end Engine

namespace SearchSession

/-- **Explanations.**  After any run, for a pattern that compiles: a search scans everything for
want of filters iff the settings turn them off; otherwise it scans everything for an obstacle iff
the analysis names this obstacle; otherwise the analysis calls the pattern suitable and lists
trigrams, and the search counts as candidates the documents whose entry in the index contains all
of them.  For a pattern that does not compile nothing is found, and an analysis changes nothing. -/
theorem search_explained (initial : SearchSettings) (actions : List Action) {name : String}
    {c : Collection} (hc : (run initial actions).store.get? name = some c) (timing : Timing)
    (field : String) (pattern options : List Char) :
    let w := run initial actions
    let settings := w.engine.settings
    let a := w.engine.analyze pattern options
    let found := w.search timing c field pattern options none
    (∀ e, Regex.compile pattern (MatchOptions.ofChars options) = .ok e →
      (found.1.strategy = .fullScan .disabled ↔ settings.useFilters = false) ∧
      (settings.useFilters = true →
        (∀ reason, found.1.strategy = .fullScan (.ineligible reason) ↔ a.reason = some reason) ∧
        (a.reason = none →
          a.suitable = true ∧ a.trigrams ≠ [] ∧
          ∃ index, found.2.cache.get? ⟨c.id, field, Plan.sizing settings⟩ = some index ∧
            index = BuiltIndex.build c field settings.idField (Plan.sizing settings) ∧
            let n := index.bloom.hits c settings.idField a.trigrams
            (found.1.strategy = .accelerated n ∨
              found.1.strategy = .fullScan (.ineffective n))))) ∧
    (∀ fault, Regex.compile pattern (MatchOptions.ofChars options) = .error fault →
      ∃ message, found.1 = ⟨[], [], .invalidPattern message⟩) ∧
    w.act (.analyze pattern options) = w := by
  intro w settings a found
  refine ⟨?_, ?_, rfl⟩
  · intro e he
    cases huse : settings.useFilters with
    | false =>
        have hscan := Engine.search_of_disabled he w.store.isLive timing c field huse
        exact ⟨iff_of_true hscan rfl, nofun⟩
    | true =>
        cases hreason : a.reason with
        | some obstacle =>
            have hscan : found.1.strategy = .fullScan (.ineligible obstacle) :=
              Engine.search_of_obstacle he w.store.isLive timing c field huse hreason
            simp [hscan]
        | none =>
            obtain ⟨hget, hstrategy⟩ := Engine.search_of_eligible (g := w.engine) he
              w.store.isLive timing c field (run_sound initial actions).cache
              (Store.has_of_get? hc) huse hreason
            obtain ⟨hsuitable, htrigrams⟩ := Engine.analyze_suitable huse hreason
            have hother : found.1.strategy ≠ .fullScan .disabled ∧
                ∀ reason, found.1.strategy ≠ .fullScan (.ineligible reason) := by
              show (w.engine.search _ _ _ _ _ _ _).1.strategy ≠ _ ∧
                ∀ reason, (w.engine.search _ _ _ _ _ _ _).1.strategy ≠ _
              rcases hstrategy with h | h <;> simp [h]
            refine ⟨iff_of_false hother.1 nofun, fun _ => ⟨?_, fun _ => ?_⟩⟩
            · intro reason
              exact iff_of_false (hother.2 reason) nofun
            · exact ⟨hsuitable, htrigrams, _, hget, rfl, hstrategy⟩
  · intro fault hfault
    exact w.engine.search_of_not_compiles hfault w.store.isLive timing c field

/-- Two documents of one identity and one without text, after an override that left another index
behind: the trigrams stand in no single text, but in the entry that the first two share. -/
theorem search_explained_shared :
    let first := Json.Value.object [("_id", .string "a"), ("text", .string "abc")]
    let second := Json.Value.object [("_id", .string "a"), ("text", .string "bcd")]
    let third := Json.Value.object [("title", .string "abcd")]
    let actions : List Action :=
      [.collection (.create "c" [first, second]),
        .search Timing.none "c" "text" ['a', 'b', 'c'] [] (some { filterSizeBytes := some 8 }),
        .collection (.push "c" third)]
    let c : Collection := ⟨⟨1⟩, 1, [first, second, third]⟩
    let w := run {} actions
    let a := w.engine.analyze ['a', 'b', 'c', 'd'] []
    let found := w.search Timing.none c "text" ['a', 'b', 'c', 'd'] [] none
    w.store.get? "c" = some c ∧ w.engine.settings.useFilters = true ∧ a.reason = none ∧
      a.trigrams ≠ [] ∧
      ∃ index : BuiltIndex, index.bloom.hits c "_id" a.trigrams = 2 ∧
        (found.1.strategy = .accelerated 2 ∨ found.1.strategy = .fullScan (.ineffective 2)) := by
  intro first second third actions c w a found
  have hc : w.store.get? "c" = some c := rfl
  have huse : w.engine.settings.useFilters = true := by decide +kernel
  have hreason : a.reason = none := by decide +kernel
  have hcompiles : (Regex.compile ['a', 'b', 'c', 'd'] (MatchOptions.ofChars [])).isOk = true := by
    decide +kernel
  cases he : Regex.compile ['a', 'b', 'c', 'd'] (MatchOptions.ofChars []) with
  | error fault =>
      rw [he] at hcompiles
      cases hcompiles
  | ok e =>
      obtain ⟨_, hverdict⟩ :=
        (search_explained {} actions hc Timing.none "text" ['a', 'b', 'c', 'd'] []).1 e he
      obtain ⟨_, htrigrams, index, _, hindex, hstrategy⟩ := (hverdict huse).2 hreason
      have hhits : index.bloom.hits c "_id" a.trigrams = 2 := by
        rw [hindex]
        decide +kernel
      rw [show (run {} actions).engine.settings.idField = "_id" by decide +kernel, hhits]
        at hstrategy
      exact ⟨hc, huse, hreason, htrigrams, index, hhits, hstrategy⟩

end SearchSession
end TrigramSearch
