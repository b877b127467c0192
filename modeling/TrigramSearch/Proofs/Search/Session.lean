import TrigramSearch.Search.Engine
import TrigramSearch.Proofs.Index.Freshness

/-!
# Answers do not depend on the past

An engine keeps indexes, settings and statistics between searches.  Only the
settings may show in a later answer: an index that is served from the cache is
the one that a build would give, and the statistics are never read.

`Engine.answer` is an answer in which nothing of an engine but its settings
occurs, with an index built for the purpose.  Every search of every run gives
it.

## Main results

* `SearchSettings.withOverrides_eq` — the settings of a call.
* `Engine.search_answer` — with a fresh cache, a search gives the answer under
  the settings of the call.
* `SearchSession.run_sound` — the cache is fresh after every run of searches,
  changes of settings and changes of collections.
* `SearchSession.search_eq_new` — a search after any run gives what a new
  engine would give, and overrides of a call do not outlive the call.
-/

namespace TrigramSearch

/-- The settings of a call: four of them have the values of its overrides where there are any, the
others are not touched. -/
theorem SearchSettings.withOverrides_eq (s : SearchSettings) (overrides : Option Overrides) :
    s.withOverrides overrides = { s with
      useFilters := (overrides.bind Overrides.useFilters).getD s.useFilters
      filterSizeBytes := (overrides.bind Overrides.filterSizeBytes).getD s.filterSizeBytes
      minLiteralLength := (overrides.bind Overrides.minLiteralLength).getD s.minLiteralLength
      maxPatternComplexity :=
        (overrides.bind Overrides.maxPatternComplexity).getD s.maxPatternComplexity } := by
  cases overrides with
  | none => rfl
  | some o => rfl

/-! ## Answers without a past -/

namespace Plan

/-- The plan of a query, with an index built for it. -/
def ofBuild (settings : SearchSettings) (c : Collection) (field : String) (pattern : List Char)
    (options : MatchOptions) : Plan :=
  if !settings.useFilters then .disabled
  else
    let e := Eligibility.assess pattern options settings
    match e.obstacle with
    | some reason => .ineligible reason
    | none =>
      let index := BuiltIndex.build c field settings.idField (sizing settings)
      ofCandidates (TrigramSearch.candidates index.bloom c field settings.idField e.trigrams)
        c.length settings.effectivenessThreshold

/-- A plan leaves the cache alone and does not filter, or asks it for an index and counts the
candidates. -/
theorem make_cases (settings : SearchSettings) (k : IndexCache) (isLive : CollectionId → Bool)
    (c : Collection) (field : String) (pattern : List Char) (options : MatchOptions) :
    let made := make settings k isLive c field pattern options
    let r := k.ensure isLive c field settings.idField (sizing settings)
    (made.built = false ∧ made.cache = k ∧
      (made.plan = .disabled ∨ ∃ reason, made.plan = .ineligible reason)) ∨
    (made.built = r.built ∧ made.cache = r.cache ∧
      ∃ grams, made.plan =
        ofCandidates (TrigramSearch.candidates r.index.bloom c field settings.idField grams)
          c.length settings.effectivenessThreshold) := by
  dsimp only
  rw [make]
  cases settings.useFilters with
  | false => exact Or.inl ⟨rfl, rfl, Or.inl rfl⟩
  | true =>
      simp only [Bool.not_true, Bool.false_eq_true, if_false]
      cases (Eligibility.assess pattern options settings).obstacle with
      | some reason => exact Or.inl ⟨rfl, rfl, Or.inr ⟨reason, rfl⟩⟩
      | none =>
          dsimp only
          exact Or.inr ⟨rfl, rfl, (Eligibility.assess pattern options settings).trigrams, rfl⟩

/-- With a fresh cache, the cache does not show in a plan. -/
theorem make_plan {k : IndexCache} {s : Store} (h : k.Fresh s) {name : String} {c : Collection}
    (hc : s.Has name c) (settings : SearchSettings) (isLive : CollectionId → Bool)
    (field : String) (pattern : List Char) (options : MatchOptions) :
    (make settings k isLive c field pattern options).plan =
      ofBuild settings c field pattern options := by
  have hindex := IndexCache.ensure_index h hc isLive field settings.idField (sizing settings)
  rw [make, ofBuild]
  split
  · rfl
  · dsimp only
    cases (Eligibility.assess pattern options settings).obstacle with
    | some reason => rfl
    | none =>
        dsimp only
        rw [hindex]

/-- A plan keeps the cache fresh: it leaves it alone, or asks it for an index. -/
theorem make_fresh {k : IndexCache} {s : Store} (h : k.Fresh s) (hs : s.WellFormed)
    {name : String} {c : Collection} (hc : s.Has name c) (settings : SearchSettings)
    (isLive : CollectionId → Bool) (field : String) (pattern : List Char)
    (options : MatchOptions) :
    (make settings k isLive c field pattern options).cache.Fresh s := by
  rcases make_cases settings k isLive c field pattern options with
    ⟨_, hcache, _⟩ | ⟨_, hcache, _⟩
  · rw [hcache]
    exact h
  · rw [hcache]
    exact IndexCache.ensure_fresh h hs hc isLive field _ _

end Plan

namespace Engine

/-- The result of a search under some settings, with an index built for it. -/
def answer (settings : SearchSettings) (c : Collection) (field : String)
    (pattern options : List Char) : SearchResult :=
  let options := MatchOptions.ofChars options
  match Verifier.compile pattern options field with
  | .error e => ⟨[], [], .invalidPattern e.message⟩
  | .ok v =>
    let plan := Plan.ofBuild settings c field pattern options
    let positions := positionsOf v c plan
    ⟨positions.filterMap c.get?, positions, strategyOf plan⟩

/-- With a fresh cache, a search gives the answer under the settings of the call. -/
theorem search_answer {g : Engine} {s : Store} (h : g.cache.Fresh s) {name : String}
    {c : Collection} (hc : s.Has name c) (isLive : CollectionId → Bool) (timing : Timing)
    (field : String) (pattern options : List Char) (overrides : Option Overrides) :
    (g.search isLive timing c field pattern options overrides).1 =
      answer (g.settings.withOverrides overrides) c field pattern options := by
  rw [search, plan, answer]
  cases hv : Verifier.compile pattern (MatchOptions.ofChars options) field with
  | error e => rfl
  | ok v =>
      have hplan := Plan.make_plan h hc (g.settings.withOverrides overrides) isLive field pattern
        (MatchOptions.ofChars options)
      simp only [Query.positions, finish, hplan]

/-- A search leaves the settings alone. -/
theorem search_settings (g : Engine) (isLive : CollectionId → Bool) (timing : Timing)
    (c : Collection) (field : String) (pattern options : List Char)
    (overrides : Option Overrides) :
    (g.search isLive timing c field pattern options overrides).2.settings = g.settings := by
  rw [search]
  cases g.plan isLive c field pattern options overrides <;> rfl

/-- A search keeps the cache fresh. -/
theorem search_fresh {g : Engine} {s : Store} (h : g.cache.Fresh s) (hs : s.WellFormed)
    {name : String} {c : Collection} (hc : s.Has name c) (isLive : CollectionId → Bool)
    (timing : Timing) (field : String) (pattern options : List Char)
    (overrides : Option Overrides) :
    (g.search isLive timing c field pattern options overrides).2.cache.Fresh s := by
  rw [search, plan]
  cases hv : Verifier.compile pattern (MatchOptions.ofChars options) field with
  | error e => exact h
  | ok v => exact Plan.make_fresh h hs hc _ isLive field pattern _

/-- The cache of a newly configured engine is the old one or has no indexes. -/
theorem configure_fresh {g g' : Engine} {s : Store} (h : g.cache.Fresh s)
    {settings : SearchSettings} (hg : g.configure settings = .ok g') : g'.cache.Fresh s := by
  rw [configure] at hg
  split at hg
  · cases hg
  · obtain rfl := Except.ok.inj hg
    dsimp only
    split
    · exact IndexCache.clear_fresh g.cache s
    · exact h

end Engine

/-! ## Runs -/

/-- Collections, and an engine that searches them. -/
structure SearchSession where
  store : Store
  engine : Engine

namespace SearchSession

/-- What can be done with collections and an engine, in any order. -/
inductive Action where
  | collection (a : Store.Action)
  | search (timing : Timing) (name field : String) (pattern options : List Char)
      (overrides : Option Overrides)
  | configure (settings : SearchSettings)
  | clear
  | invalidate (id : CollectionId)
  | reset
  | analyze (pattern options : List Char)

/-- No collections, and a new engine. -/
def start (settings : SearchSettings) : SearchSession := ⟨Store.empty, Engine.new settings⟩

/-- A search in a collection of the session, with the engine after it. -/
def search (w : SearchSession) (timing : Timing) (c : Collection) (field : String)
    (pattern options : List Char) (overrides : Option Overrides) : SearchResult × Engine :=
  w.engine.search w.store.isLive timing c field pattern options overrides

/-- The session after an action. A search under a name without a collection, settings that cannot
be used, and an analysis, which only reads the settings, change nothing. -/
def act (w : SearchSession) : Action → SearchSession
  | .collection a => { w with store := w.store.act a }
  | .search timing name field pattern options overrides =>
    match w.store.get? name with
    | some c => { w with engine := (w.search timing c field pattern options overrides).2 }
    | none => w
  | .configure settings =>
    match w.engine.configure settings with
    | .ok g => { w with engine := g }
    | .error _ => w
  | .clear => { w with engine := w.engine.clear }
  | .invalidate id => { w with engine := w.engine.invalidate id }
  | .reset => { w with engine := w.engine.reset }
  | .analyze _ _ => w

/-- The session after several actions. -/
def run (settings : SearchSettings) (actions : List Action) : SearchSession :=
  actions.foldl act (start settings)

/-- The settings that are chosen by an action: those it configures, if they can be used. -/
def configured (settings : SearchSettings) : Action → SearchSettings
  | .configure other =>
    match other.check with
    | .ok () => other
    | .error _ => settings
  | _ => settings

/-- What holds in every session of a run. -/
structure Sound (w : SearchSession) : Prop where
  store : w.store.WellFormed
  cache : w.engine.cache.Fresh w.store

theorem act_sound {w : SearchSession} (h : w.Sound) (a : Action) : (w.act a).Sound := by
  cases a with
  | collection a =>
      exact ⟨Store.act_wellFormed h.store a, IndexCache.fresh_act h.cache a⟩
  | search timing name field pattern options overrides =>
      rw [act]
      split
      · rename_i c hc
        exact ⟨h.store, Engine.search_fresh h.cache h.store (Store.has_of_get? hc) _ timing
          field pattern options overrides⟩
      · exact h
  | configure settings =>
      rw [act]
      split
      · rename_i g hg
        exact ⟨h.store, Engine.configure_fresh h.cache hg⟩
      · exact h
  | clear => exact ⟨h.store, IndexCache.clear_fresh w.engine.cache w.store⟩
  | invalidate id => exact ⟨h.store, IndexCache.invalidate_fresh h.cache id⟩
  | reset => exact ⟨h.store, h.cache⟩
  | analyze pattern options => exact h

theorem run_sound (settings : SearchSettings) (actions : List Action) :
    (run settings actions).Sound :=
  List.foldlRecOn actions act ⟨Store.empty_wellFormed, IndexCache.empty_fresh Store.empty⟩
    fun _ h a _ => act_sound h a

/-- Only `configure` changes the settings. -/
theorem act_settings (w : SearchSession) (a : Action) :
    (w.act a).engine.settings = configured w.engine.settings a := by
  cases a with
  | search timing name field pattern options overrides =>
      rw [act]
      split
      · exact Engine.search_settings w.engine _ timing _ field pattern options overrides
      · rfl
  | configure settings =>
      rw [act, configured, Engine.configure]
      cases settings.check <;> rfl
  | _ => rfl

theorem run_settings (settings : SearchSettings) (actions : List Action) :
    (run settings actions).engine.settings = actions.foldl configured settings := by
  have hall : ∀ w : SearchSession,
      (actions.foldl act w).engine.settings = actions.foldl configured w.engine.settings := by
    induction actions with
    | nil =>
        intro w
        rfl
    | cons a as ih =>
        intro w
        rw [List.foldl_cons, ih, act_settings, List.foldl_cons]
  exact hall (start settings)

/-- **The past does not show.**  After any run, the result of a search is the one that a new
engine gives whose settings are the present ones, with the overrides of the call applied; and
the present settings are those configured last, whatever overrides there were. -/
theorem search_eq_new (settings : SearchSettings) (actions : List Action) {name : String}
    {c : Collection} (hc : (run settings actions).store.get? name = some c)
    (timing timing' : Timing) (isLive : CollectionId → Bool) (field : String)
    (pattern options : List Char) (overrides : Option Overrides) :
    let w := run settings actions
    (w.search timing c field pattern options overrides).1 =
        ((Engine.new (w.engine.settings.withOverrides overrides)).search isLive timing' c field
          pattern options none).1 ∧
      w.engine.settings = actions.foldl configured settings := by
  intro w
  have hhas := Store.has_of_get? hc
  have hhere := Engine.search_answer (run_sound settings actions).cache hhas w.store.isLive
    timing field pattern options overrides
  have hnew := Engine.search_answer (g := Engine.new (w.engine.settings.withOverrides overrides))
    (IndexCache.empty_fresh w.store) hhas isLive timing' field pattern options none
  exact ⟨hhere.trans hnew.symm, run_settings settings actions⟩

/-- A search that fills the cache with filters of another size, other settings that keep it,
and a change of the collection.  Filters of one byte do not tell the documents apart, those of the
settings do. -/
theorem search_eq_new_after_override :
    let document (text : String) := Json.Value.object [("text", .string text)]
    let sized : Overrides := { filterSizeBytes := some 1 }
    let actions : List Action :=
      [.collection (.create "c" [document "quiet", document "uvxyz"]),
        .search Timing.none "c" "text" ['a', 'b', 'c'] [] (some sized),
        .configure { minLiteralLength := 1 }, .collection (.push "c" (document "abcd"))]
    let c : Collection := ⟨⟨1⟩, 1, [document "quiet", document "uvxyz", document "abcd"]⟩
    let w := run {} actions
    w.store.get? "c" = some c ∧
      (w.search Timing.none c "text" ['b', 'c', 'd'] [] (some sized)).1.strategy =
        .fullScan (.ineffective 3) ∧
      (w.search Timing.none c "text" ['b', 'c', 'd'] [] none).1.strategy = .accelerated 1 ∧
      (w.search Timing.none c "text" ['b', 'c', 'd'] [] (some sized)).1 =
        ((Engine.new (w.engine.settings.withOverrides (some sized))).search (fun _ => true)
          Timing.none c "text" ['b', 'c', 'd'] [] none).1 ∧
      w.engine.settings = actions.foldl configured {} := by
  intro document sized actions c w
  have hc : w.store.get? "c" = some c := rfl
  refine ⟨hc, by decide +kernel, by decide +kernel, ?_⟩
  exact search_eq_new {} actions hc Timing.none Timing.none (fun _ => true) "text"
    ['b', 'c', 'd'] [] (some sized)

end SearchSession
end TrigramSearch
