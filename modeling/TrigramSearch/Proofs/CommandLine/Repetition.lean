import TrigramSearch.CommandLine.FileTree
import TrigramSearch.CommandLine.Run
import TrigramSearch.Proofs.CommandLine.Reporting

/-!
# Searches that are repeated

The program may be told to search several times, and it prints only some of the
matches.  Neither shows in what it finds: the first search leaves the cache in a
state in which the same search builds nothing and plans as before
(`Plan.make_again`), so that each further search gives the same result and adds
the same outcome to the statistics (`Engine.Repeats`).

The clocks of the system are not known.  All that is asked of them is that they
give back what they have timed (`IsHonest`).

The options of a search are overrides of the settings.  Those that are not given
override nothing, so it makes no difference that without any of them there are no
overrides at all (`withOverrides_flags`).

## Main results

* `Engine.search_repeats` — after a search, the same search repeats it.
* `Steady.timedSearch` — one more search of the program.
* `Steady.searchAgain` — all searches of the program.
* `searchAndReport_eq` — the report of all searches.
* `search_reports_once` — the report of the program is that of one search, in
  words and in JSON.
-/

namespace TrigramSearch

/-! ## The same search again -/

/-- Asked again, the cache serves the index that it has given before. -/
theorem IndexCache.ensure_again (k : IndexCache) (isLive : CollectionId → Bool) (c : Collection)
    (field idField : String) (sizing : Sizing) :
    let r := k.ensure isLive c field idField sizing
    r.cache.ensure isLive c field idField sizing = ⟨r.index, false, r.cache⟩ := by
  rcases ensure_eq k isLive c field idField sizing with ⟨x, _, _, heq⟩ | ⟨_, heq⟩
  · rw [heq]
    exact heq
  · rw [heq]
    -- the index that has been built is the first one under its key, and current
    have hfound : (k.rebuilt isLive c field idField sizing).cache.get? ⟨c.id, field, sizing⟩ =
        some (BuiltIndex.build c field idField sizing) := List.lookup_cons_self
    have hbuilt := BuiltIndex.build_built c field idField sizing
    have hcurrent : (BuiltIndex.build c field idField sizing).isCurrent c idField = true := by
      simp [BuiltIndex.isCurrent, hbuilt.generation, hbuilt.idField]
    dsimp only
    rw [ensure, hfound]
    exact if_pos hcurrent

/-- Planned again, a query has the same plan, for which nothing is built. -/
theorem Plan.make_again (settings : SearchSettings) (k : IndexCache)
    (isLive : CollectionId → Bool) (c : Collection) (field : String) (pattern : List Char)
    (options : MatchOptions) :
    let made := make settings k isLive c field pattern options
    make settings made.cache isLive c field pattern options = ⟨made.plan, false, made.cache⟩ := by
  have hagain := IndexCache.ensure_again k isLive c field settings.idField (sizing settings)
  simp only [make]
  split
  · rfl
  · split
    · rfl
    · rw [hagain]

/-- A search builds one index at most. -/
theorem Outcome.Ordered.builds_le_one {o : Outcome} (h : o.Ordered) : o.builds ≤ 1 := by
  have hbuilds := h.builds_le
  by_cases hkind : o.kind = .accelerated
  · simpa [hkind] using hbuilds
  · rw [if_neg hkind] at hbuilds
    split at hbuilds <;> omega

namespace Engine

section
variable (g : Engine) (isLive : CollectionId → Bool) (timing : Timing) (c : Collection)
  (field : String) (pattern options : List Char) (overrides : Option Overrides)

/-- A search by this engine gives this result and builds nothing, however long it takes. -/
structure Repeats (once : SearchResult) : Prop where
  result : ∀ timing, (g.search isLive timing c field pattern options overrides).1 = once
  cache : ∀ timing, (g.search isLive timing c field pattern options overrides).2.cache = g.cache

/-- After a search, the same search repeats it. -/
theorem search_repeats :
    let r := g.search isLive timing c field pattern options overrides
    r.2.Repeats isLive c field pattern options overrides r.1 := by
  dsimp only
  rw [search, plan]
  cases hv : Verifier.compile pattern (MatchOptions.ofChars options) field with
  | error e =>
      constructor
      · intro later
        rw [search, plan, hv]
        rfl
      · intro later
        rw [search, plan, hv]
        rfl
  | ok v =>
      have hagain := Plan.make_again (g.settings.withOverrides overrides) g.cache isLive c field
        pattern (MatchOptions.ofChars options)
      constructor
      · intro later
        rw [search, plan, hv]
        simp only [finish, Query.positions, hagain]
      · intro later
        rw [search, plan, hv]
        simp only [finish, hagain]

variable {g isLive c field pattern options overrides} {once : SearchResult}

/-- A search that repeats another builds nothing. -/
theorem Repeats.outcome (h : g.Repeats isLive c field pattern options overrides once) :
    g.outcome isLive timing c field pattern options overrides = ⟨c.length, once, 0⟩ := by
  rw [Engine.outcome]
  dsimp only
  rw [h.result timing, h.cache timing, Nat.sub_self]

end

/-- The first search of a collection gives the answer under the settings of the call. -/
theorem new_search (settings : SearchSettings) (isLive : CollectionId → Bool) (timing : Timing)
    (c : Collection) (field : String) (pattern options : List Char)
    (overrides : Option Overrides) :
    ((new settings).search isLive timing c field pattern options overrides).1 =
      answer (settings.withOverrides overrides) c field pattern options :=
  search_answer (IndexCache.empty_fresh ⟨1, [("", c)]⟩) List.mem_cons_self isLive timing field
    pattern options overrides

end Engine

namespace CommandLine

/-! ## One search of the program -/

section
variable {σ α β : Type}

/-- The clocks give back what they have timed. -/
def IsHonest (sys : System (StateM σ)) : Prop :=
  ∀ {α : Type} (compute : Unit → α) (w : σ), (sys.timed compute w).1.1 = compute ()

private theorem bind_apply (x : StateM σ α) (f : α → StateM σ β) (w : σ) :
    (x >>= f) w = f (x w).1 (x w).2 := rfl

private theorem pure_apply (a : α) (w : σ) : (pure a : StateM σ α) w = (a, w) := rfl

end

/-- The search that is asked for, by an engine. -/
def SearchRequest.search (r : SearchRequest) (g : Engine) (timing : Timing) (c : Collection) :
    SearchResult × Engine :=
  g.search (fun _ => true) timing c r.field r.pattern.toList r.options.toList r.overrides

/-- A collection that has not been changed, as the program makes it. -/
def loaded (documents : List Json.Value) : Collection := ⟨⟨0⟩, 0, documents⟩

section
variable {σ : Type} {sys : System (StateM σ)}

/-- A timed search is a search. -/
theorem timedSearch_eq (honest : IsHonest sys) (g : Engine) (c : Collection) (r : SearchRequest)
    (w : σ) : ∃ timing nanoseconds w',
      timedSearch sys g c r w =
        (⟨(r.search g timing c).1, (r.search g timing c).2, nanoseconds⟩, w') := by
  rw [timedSearch]
  simp only [bind_apply, pure_apply, honest _ _]
  exact ⟨_, _, _, rfl⟩

/-! ## Several searches -/

/-- What is known after the search of a request has been done `n` times by a new engine: the next
one will be no different, each has added its matches to the statistics, and one index at most has
been built. -/
structure Steady (r : SearchRequest) (c : Collection) (once : SearchResult) (n : Nat)
    (s : Searched) : Prop where
  result : s.result = once
  repeats : s.engine.Repeats (fun _ => true) c r.field r.pattern.toList r.options.toList
    r.overrides once
  counts : ∃ log builds, s.engine.tally.Counts log builds ∧ log.length = n ∧
    (∀ o ∈ log, o.found = once.positions.length) ∧ builds ≤ 1

variable {r : SearchRequest} {c : Collection} {once : SearchResult} {n : Nat} {s : Searched}

/-- The first search of a new engine. -/
theorem Steady.first (honest : IsHonest sys) (settings : SearchSettings) (w : σ) :
    Steady r c (Engine.answer (settings.withOverrides r.overrides) c r.field r.pattern.toList
      r.options.toList) 1 (timedSearch sys (Engine.new settings) c r w).1 := by
  obtain ⟨timing, nanoseconds, w', heq⟩ := timedSearch_eq honest (Engine.new settings) c r w
  have hresult := Engine.new_search settings (fun _ => true) timing c r.field r.pattern.toList
    r.options.toList r.overrides
  have hrepeats := (Engine.new settings).search_repeats (fun _ => true) timing c r.field
    r.pattern.toList r.options.toList r.overrides
  have hcounts := (Engine.new settings).search_counts (fun _ => true) timing c r.field
    r.pattern.toList r.options.toList r.overrides Tally.empty_counts
  have hordered := (Engine.new settings).outcome_ordered (fun _ => true) timing c r.field
    r.pattern.toList r.options.toList r.overrides
  rw [heq, ← hresult]
  refine ⟨rfl, hrepeats, _, _, hcounts, rfl, ?_, ?_⟩
  · intro o ho
    rw [List.mem_singleton.mp ho]
    rfl
  · rw [Nat.zero_add]
    exact hordered.builds_le_one

/-- One more search changes nothing but the counters. -/
theorem Steady.next (honest : IsHonest sys) (h : Steady r c once n s) (w : σ) :
    Steady r c once (n + 1) (timedSearch sys s.engine c r w).1 := by
  obtain ⟨timing, nanoseconds, w', heq⟩ := timedSearch_eq honest s.engine c r w
  have hresult : (r.search s.engine timing c).1 = once := h.repeats.result timing
  have hrepeats := s.engine.search_repeats (fun _ => true) timing c r.field r.pattern.toList
    r.options.toList r.overrides
  obtain ⟨log, builds, hcounts, hlength, hfound, hbuilds⟩ := h.counts
  have hnext := s.engine.search_counts (fun _ => true) timing c r.field r.pattern.toList
    r.options.toList r.overrides hcounts
  rw [h.repeats.outcome timing] at hnext
  rw [heq]
  refine ⟨hresult, hresult ▸ hrepeats, _, _, hnext, ?_, ?_, hbuilds⟩
  · rw [List.length_append, hlength]
    rfl
  · intro o ho
    rcases List.mem_append.mp ho with hold | hnew
    · exact hfound o hold
    · rw [List.mem_singleton.mp hnew]
      rfl

/-- Any number of further searches. -/
theorem Steady.again (honest : IsHonest sys) (more : Nat) (h : Steady r c once n s) (w : σ) :
    Steady r c once (n + more) (searchAgain sys c r s more w).1 := by
  induction more generalizing n s w with
  | zero => exact h
  | succ more ih =>
      have hnext := h.next honest w
      have hsum : n + (more + 1) = n + 1 + more := by omega
      rw [searchAgain, bind_apply, hsum]
      -- the sum of the times is no part of what is known
      refine ih ?_ _
      exact ⟨hnext.result, hnext.repeats, hnext.counts⟩

end

/-! ## Reports -/

/-- What is printed in a format. -/
def SearchReport.printed (r : SearchReport) (idField : String) : OutputFormat → Outcome
  | .text => .success (r.matchLines idField) r.summary
  | .json => .success (r.value.pretty ++ "\n")

/-- In words, the matches are followed by the summary. -/
theorem SearchReport.printed_text (r : SearchReport)
    (hpaired : r.result.documents.map some = r.result.positions.map r.collection.get?)
    (idField : String) :
    r.printed idField .text = .success
      (String.join (((r.result.positions.zip r.result.documents).take r.limit).map fun m =>
        (DocumentId.resolve m.2 m.1 idField).display ++ "\t" ++ m.2.compact ++ "\n"))
      ("\nFound " ++ toString r.result.documents.length ++ " matches in " ++
        toString r.collection.length ++ " documents (" ++ strategyText r.result.strategy ++
        ") in " ++ r.elapsed.toFixed 3 ++ "ms\n" ++ r.stats.elim "" fun s =>
          s.1.display ++ "\n") := by
  rw [printed, matchLines_eq hpaired, summary_eq]

/-- What the options of a search override. -/
def SearchRequest.flags (r : SearchRequest) : Overrides where
  useFilters := if r.noBloom then some false else none
  filterSizeBytes := r.sizeBytes
  minLiteralLength := r.minLiteral

/-- Without options there are no overrides, which comes to the same. -/
theorem withOverrides_flags (settings : SearchSettings) (r : SearchRequest) :
    settings.withOverrides r.overrides = settings.withOverrides (some r.flags) := by
  rw [SearchRequest.overrides]
  split
  · rename_i hnone
    simp only [Bool.and_eq_true, Bool.not_eq_true', Option.isNone_iff_eq_none] at hnone
    obtain ⟨⟨hbloom, hsize⟩, hliteral⟩ := hnone
    rw [settings.withOverrides_eq, settings.withOverrides_eq]
    simp [SearchRequest.flags, hbloom, hsize, hliteral]
  · rfl

/-- What statistics say after searches with this number of matches each. The counters are words of
64 bits. -/
structure Sums (searches found : Nat) (s : Statistics) : Prop where
  queries : s.totalQueries = UInt64.ofNat searches
  matched : s.totalMatches = UInt64.ofNat (searches * found)
  builds : s.indexBuilds ≤ 1

/-- As long as they fit into the counters, the sums are what is reported. -/
theorem Sums.toNat {searches found : Nat} {s : Statistics} (h : Sums searches found s)
    (hsearches : searches < 2 ^ 64) :
    s.totalQueries.toNat = searches ∧
      (searches * found < 2 ^ 64 → s.totalMatches.toNat = searches * found) := by
  rw [h.queries, h.matched]
  exact ⟨UInt64.toNat_ofNat_of_lt' hsearches, UInt64.toNat_ofNat_of_lt'⟩

theorem Steady.sums {r : SearchRequest} {c : Collection} {once : SearchResult} {n : Nat}
    {s : Searched} (h : Steady r c once n s) :
    Sums n once.positions.length s.engine.statistics := by
  obtain ⟨log, builds, hcounts, hlength, hfound, hbuilds⟩ := h.counts
  have hsum : (log.map TrigramSearch.Outcome.found).sum = n * once.positions.length := by
    rw [List.map_eq_replicate_iff.mpr hfound, List.sum_replicate_nat, hlength]
  refine ⟨?_, ?_, ?_⟩
  · rw [← hlength]
    exact hcounts.queries
  · rw [← hsum]
    exact hcounts.found
  · have hword : s.engine.statistics.indexBuilds = UInt64.ofNat builds := hcounts.builds
    have hcases : builds = 0 ∨ builds = 1 := by omega
    rw [hword]
    rcases hcases with rfl | rfl <;> decide

/-- A pattern that compiles has a plan. -/
theorem answer_strategy {settings : SearchSettings} {c : Collection} {field : String}
    {pattern options : List Char} {e : Regex.Expr}
    (hcompile : Regex.compile pattern (MatchOptions.ofChars options) = .ok e) :
    ∃ plan, (Engine.answer settings c field pattern options).strategy = Engine.strategyOf plan := by
  rw [Engine.answer, Verifier.compile, hcompile]
  exact ⟨_, rfl⟩

section
variable {σ : Type} {sys : System (StateM σ)}

/-- The report of all searches is that of one, with the counters of all. -/
theorem searchAndReport_eq (honest : IsHonest sys) (settings : SettingsFile) (r : SearchRequest)
    (documents : List Json.Value) {e : Regex.Expr}
    (hcompile : Regex.compile r.pattern.toList (MatchOptions.ofChars r.options.toList) = .ok e)
    (w : σ) :
    let c := loaded documents
    let once := Engine.answer (settings.settings.withOverrides r.overrides) c r.field
      r.pattern.toList r.options.toList
    ∃ (report : SearchReport) (s : Statistics) (lastReset : Moment),
      (∀ format, (searchAndReport sys settings r format documents w).1 =
        report.printed settings.search.idField format) ∧
      report.collection = c ∧ report.result = once ∧ report.limit = r.limit ∧
      report.stats = (if r.stats then some (s, lastReset) else none) ∧
      Sums (max r.repetitions 1) once.positions.length s := by
  intro c once
  let first := timedSearch sys (Engine.new settings.settings) c r (sys.now w).2
  have hfirst : Steady r c once 1 first.1 := Steady.first honest settings.settings (sys.now w).2
  have hlast := hfirst.again honest (r.repetitions - 1) first.2
  have hnumber : 1 + (r.repetitions - 1) = max r.repetitions 1 := by omega
  rw [hnumber] at hlast
  obtain ⟨⟨last, w'⟩, hafter⟩ : ∃ after, searchAgain sys c r first.1 (r.repetitions - 1) first.2 =
    after := ⟨_, rfl⟩
  rw [hafter] at hlast
  obtain ⟨plan, hplan⟩ : ∃ plan, last.result.strategy = Engine.strategyOf plan := by
    rw [hlast.result]
    exact answer_strategy hcompile
  let report : SearchReport :=
    { collection := c
      result := last.result
      limit := r.limit
      elapsed := averageMilliseconds last.nanoseconds (max r.repetitions 1)
      stats := if r.stats then some (last.engine.statistics, (sys.now w).1) else none }
  refine ⟨report, last.engine.statistics, (sys.now w).1, ?_, rfl, hlast.result, rfl, rfl,
    hlast.sums⟩
  intro format
  have hc : (⟨⟨0⟩, 0, documents⟩ : Collection) = c := rfl
  rw [searchAndReport]
  simp only [bind_apply, hc]
  rw [hafter]
  dsimp only
  rw [hplan]
  cases plan <;> cases format <;> rfl

/-- **Repetition and limit.**  If the documents can be read and the pattern compiles, then however
often the program searches, and however many matches it prints, its report is that of one search of
an engine with the same settings and the options as overrides: the number of the matches, as many
of them as asked for in the order of the collection, and the strategy.  The statistics, if they are
asked for, count every search and all matches, and one index at most.  Nothing is said of a search
that cannot be carried out. -/
theorem search_reports_once (honest : IsHonest sys) (settings : SettingsFile) (r : SearchRequest)
    {documents : List Json.Value} {e : Regex.Expr} {w : σ}
    (hload : loadDocuments r.file (sys.read r.file w).1 = .ok documents)
    (hcompile : Regex.compile r.pattern.toList (MatchOptions.ofChars r.options.toList) = .ok e)
    (isLive : CollectionId → Bool) (timing : Timing) :
    let c := loaded documents
    let once := ((Engine.new settings.settings).search isLive timing c r.field r.pattern.toList
      r.options.toList (some r.flags)).1
    let total := once.documents.length
    once.WellFormed c r.field r.pattern.toList (MatchOptions.ofChars r.options.toList) ∧
    ∀ (repetitions limit : Nat) (stats : Bool),
      let asked : SearchRequest := { r with repetitions, limit, stats }
      let listed := (once.positions.zip once.documents).take limit
      let outcome format := (search sys settings asked format w).1
      asked.Admissible settings →
      listed.length = min limit total ∧
      ∃ (s : Statistics) (value : Json.Value) (milliseconds : Binary64),
        outcome .json = .success (value.pretty ++ "\n") ∧
        Shows value once limit (if stats then some s else none) ∧
        outcome .text = .success
          (String.join (listed.map fun m =>
            (DocumentId.resolve m.2 m.1 settings.search.idField).display ++ "\t" ++
              m.2.compact ++ "\n"))
          ("\nFound " ++ toString total ++ " matches in " ++ toString documents.length ++
            " documents (" ++ strategyText once.strategy ++ ") in " ++
            milliseconds.toFixed 3 ++ "ms\n" ++ (if stats then s.display ++ "\n" else "")) ∧
        (∃ rest, s.display = toString s.totalQueries.toNat ++ " queries, " ++ rest) ∧
        Sums (max repetitions 1) total s ∧
        s.totalQueries.toNat = max repetitions 1 ∧
        (max repetitions 1 * total < 2 ^ 64 →
          s.totalMatches.toNat = max repetitions 1 * total) := by
  intro c once total
  have hwellFormed := (Engine.new settings.settings).search_wellFormed isLive timing c r.field
    r.pattern.toList r.options.toList (some r.flags)
  have honce : once = Engine.answer (settings.settings.withOverrides r.overrides) c r.field
      r.pattern.toList r.options.toList := by
    rw [withOverrides_flags]
    exact Engine.new_search settings.settings isLive timing c r.field r.pattern.toList
      r.options.toList (some r.flags)
  have htotal : total = once.positions.length := hwellFormed.length_eq
  refine ⟨hwellFormed, ?_⟩
  intro repetitions limit stats asked listed outcome hadmissible
  obtain ⟨report, s, lastReset, hprinted, hcollection, hresult, hlimit, hstats, hsums⟩ :=
    searchAndReport_eq honest settings asked documents hcompile (sys.read r.file w).2
  have hsame : report.result = once := hresult.trans honce.symm
  have houtcome : ∀ format, outcome format = report.printed settings.search.idField format := by
    intro format
    rw [← hprinted format]
    simp only [outcome]
    rw [search, if_neg hadmissible.size_pos, bind_apply, hload]
  have hcounters : Sums (max repetitions 1) total s := by
    rw [htotal, honce]
    exact hsums
  have hsearches : max repetitions 1 < 2 ^ 64 := by
    have hroom : repetitions < 2 ^ 59 := hadmissible.repetitions_lt
    omega
  refine ⟨?_, s, report.value, report.elapsed, houtcome .json, ?_, ?_, display_queries s, hcounters,
    hcounters.toNat hsearches⟩
  · rw [List.length_take, List.length_zip, ← htotal, Nat.min_self]
  · have hshows := report.value_shows
    rw [hsame, hlimit, hstats] at hshows
    cases stats <;> exact hshows
  · have hpaired : report.result.documents.map some =
        report.result.positions.map report.collection.get? := by
      rw [hsame, hcollection]
      exact hwellFormed.paired
    have htext := report.printed_text hpaired settings.search.idField
    rw [hsame, hcollection, hlimit, hstats] at htext
    rw [houtcome, htext]
    cases stats <;> rfl

end

/-- Three searches with a filter size of their own, of whose two matches one is listed. -/
theorem search_reports_once_of_three :
    let line (text : String) := "\x7b\"text\":\"" ++ text ++ "\"\x7d\n"
    let tree : FileTree := ⟨"/", [(["notes"], line "xAbcc" ++ line "ab" ++ line "abc")], []⟩
    let sys := FileTree.system "sift.toml"
    let r : SearchRequest := ⟨"notes", "abc+", "text", "i", false, some 8, none, 1, 3, true⟩
    let settings : SettingsFile := {}
    let once (documents : List Json.Value) := ((Engine.new settings.settings).search
      (fun _ => true) Timing.none (loaded documents) r.field r.pattern.toList r.options.toList
      (some r.flags)).1
    r.Admissible settings ∧
      ∃ documents, loadDocuments r.file (sys.read r.file tree).1 = .ok documents ∧
      (once documents).positions = [0, 2] ∧ (once documents).strategy = .accelerated 2 ∧
      ∃ (s : Statistics) (value : Json.Value),
        (search sys settings r .json tree).1 = .success (value.pretty ++ "\n") ∧
        value.get? "total" = some (Json.Value.ofNat 2) ∧
        value.get? "matches" = some (.array ((once documents).documents.take 1)) ∧
        value.get? "strategy" =
          some (.object [("Accelerated", .object [("candidates", Json.Value.ofNat 2)])]) ∧
        (value.get? "stats").isSome = true ∧
        (∃ listed milliseconds, (search sys settings r .text tree).1 = .success listed
          ("\nFound 2 matches in 3 documents (prefiltered to 2 candidates) in " ++ milliseconds ++
            "ms\n" ++ (s.display ++ "\n"))) ∧
        s.totalQueries.toNat = 3 ∧ s.totalMatches.toNat = 6 ∧ s.indexBuilds ≤ 1 := by
  intro line tree sys r settings once
  have hadmissible : r.Admissible settings := ⟨by decide, by decide, by decide⟩
  have hfound : (loadDocuments r.file (sys.read r.file tree).1).toOption.any (fun documents =>
      documents.length = 3 ∧ (once documents).positions = [0, 2] ∧
        (once documents).strategy = .accelerated 2) = true := by
    decide +kernel
  have hcompile : (Regex.compile r.pattern.toList
      (MatchOptions.ofChars r.options.toList)).toOption.isSome = true := by decide +kernel
  cases hload : loadDocuments r.file (sys.read r.file tree).1 with
  | error fault =>
      rw [hload] at hfound
      cases hfound
  | ok documents =>
  cases he : Regex.compile r.pattern.toList (MatchOptions.ofChars r.options.toList) with
  | error fault =>
      rw [he] at hcompile
      cases hcompile
  | ok e =>
      rw [hload] at hfound
      obtain ⟨hlength, hpositions, hstrategy⟩ := of_decide_eq_true hfound
      obtain ⟨hwellFormed, hreports⟩ := search_reports_once (fun _ _ => rfl) settings r
        hload he (fun _ => true) Timing.none
      have htotal := hwellFormed.length_eq.trans (congrArg List.length hpositions)
      obtain ⟨_, s, value, milliseconds, hvalue, hshows, htext, _, hsums, hqueries, hcounted⟩ :=
        hreports 3 1 true hadmissible
      rw [htotal] at hcounted
      have hmatched := hcounted (by decide)
      obtain ⟨shown, hshown, _⟩ := hshows.asked s rfl
      refine ⟨hadmissible, documents, rfl, hpositions, hstrategy, s, value, hvalue, ?_,
        hshows.listed, ?_, ?_, ?_, hqueries, hmatched, hsums.builds⟩
      · rw [hshows.total, htotal]
        rfl
      · rw [hshows.strategy, hstrategy]
        rfl
      · rw [hshown]
        rfl
      · rw [htotal, hlength, hstrategy] at htext
        exact ⟨_, milliseconds.toFixed 3, htext⟩

end CommandLine
end TrigramSearch
