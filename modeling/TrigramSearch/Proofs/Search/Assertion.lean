import TrigramSearch.Proofs.Search.CandidateSet
import TrigramSearch.Proofs.Search.Session

/-!
# No document with text is unknown

A document that has text but no entry in the index that is probed would mean
that index and collection disagree about identities.  The checked executions
here assert that there is none: they give a result only if the assertion holds
wherever it is met, and then give the result of the plain execution.

They always give a result.  The index that is served is the one that a build
with the same identity field would give for the same documents, and a built
index has an entry for every document with text.

## Main results

* `candidates?_eq_some_iff` — what the assertion says about an index and a
  collection.
* `Plan.make?_eq` — with a fresh cache, it holds while a query is planned.
* `checkedRun_eq_run` — it holds in every run, of a search engine and of a
  planner whose settings change from query to query.
-/

namespace TrigramSearch

/-! ## Checked execution -/

/-- Whether a document is a candidate; nothing if it has text but no entry in the index. -/
def isCandidate? (bloom : BloomIndex) (field idField : String) (grams : List Trigram)
    (document : Json.Value) (position : Nat) : Option Bool :=
  match bloom.probeAll? (DocumentId.resolve document position idField) grams with
  | some hit => some hit
  | none => if (Document.text? document field).isSome then none else some false

/-- The candidates; nothing if some document has text but no entry in the index. -/
def candidates? (bloom : BloomIndex) (c : Collection) (field idField : String)
    (grams : List Trigram) : Option (List Nat) :=
  (c.enumerate.filterM fun d => isCandidate? bloom field idField grams d.1 d.2).map
    (List.map Prod.snd)

/-- `Plan.make`, with checked candidates. -/
def Plan.make? (settings : SearchSettings) (cache : IndexCache) (isLive : CollectionId → Bool)
    (c : Collection) (field : String) (pattern : List Char) (options : MatchOptions) :
    Option Plan.Made :=
  if !settings.useFilters then some ⟨.disabled, false, cache⟩
  else
    let e := Eligibility.assess pattern options settings
    match e.obstacle with
    | some reason => some ⟨.ineligible reason, false, cache⟩
    | none =>
      let r := cache.ensure isLive c field settings.idField (sizing settings)
      (TrigramSearch.candidates? r.index.bloom c field settings.idField e.trigrams).map
        fun positions =>
          ⟨ofCandidates positions c.length settings.effectivenessThreshold, r.built, r.cache⟩

/-- `Engine.search`, with checked candidates. -/
def Engine.search? (g : Engine) (isLive : CollectionId → Bool) (timing : Timing) (c : Collection)
    (field : String) (pattern options : List Char) (overrides : Option Overrides) :
    Option (SearchResult × Engine) :=
  let query? : Option Engine.Query :=
    match Verifier.compile pattern (MatchOptions.ofChars options) field with
    | .error e => some (.invalid e)
    | .ok v =>
      (Plan.make? (g.settings.withOverrides overrides) g.cache isLive c field pattern
        (MatchOptions.ofChars options)).map (.planned v)
  query?.map fun query => g.finish timing c query (query.positions c)

/-! ## What the assertion says -/

/-- Every document that has text at the field has an entry in the index. -/
def BloomIndex.KnowsTexts (bloom : BloomIndex) (c : Collection) (field idField : String) : Prop :=
  ∀ position document, c.get? position = some document →
    (Document.text? document field).isSome = true →
    bloom.contains (DocumentId.resolve document position idField) = true

/-- A filter that fails at one element fails. -/
private theorem filterM_eq {α : Type} (p? : α → Option Bool) (l : List α) :
    l.filterM p? = if ∀ a ∈ l, (p? a).isSome = true then
      some (l.filter fun a => p? a == some true) else none := by
  have haux : ∀ acc, l.filterAuxM p? acc = if ∀ a ∈ l, (p? a).isSome = true then
      some ((l.filter fun a => p? a == some true).reverse ++ acc) else none := by
    induction l with
    | nil =>
        intro acc
        simp [List.filterAuxM]
    | cons a l ih =>
        intro acc
        rw [List.filterAuxM]
        cases hp : p? a with
        | none => simp [hp]
        | some b => cases b <;> simp [hp, ih]
  rw [List.filterM, haux]
  split <;> simp

section
variable {bloom : BloomIndex} {field idField : String} {grams : List Trigram}

/-- The assertion holds at a document iff it has no text or an entry. -/
private theorem isSome_isCandidate? {document : Json.Value} {position : Nat} :
    (isCandidate? bloom field idField grams document position).isSome = true ↔
      ((Document.text? document field).isSome = true →
        bloom.contains (DocumentId.resolve document position idField) = true) := by
  rw [isCandidate?, BloomIndex.probeAll?_eq]
  cases bloom.contains (DocumentId.resolve document position idField) <;>
    cases (Document.text? document field).isSome <;> simp

/-- Where the assertion holds, the answer is the plain one. -/
private theorem isCandidate?_eq {document : Json.Value} {position : Nat}
    (h : (isCandidate? bloom field idField grams document position).isSome = true) :
    isCandidate? bloom field idField grams document position =
      some (isCandidate bloom field idField grams document position) := by
  rw [isCandidate?] at h ⊢
  rw [isCandidate]
  cases hprobe : bloom.probeAll? (DocumentId.resolve document position idField) grams with
  | some hit => rfl
  | none =>
      rw [hprobe] at h
      cases htext : (Document.text? document field).isSome with
      | true => simp [htext] at h
      | false => rfl

/-- There are checked candidates iff every document with text has an entry, and they are the
candidates. -/
theorem candidates?_eq_some_iff {c : Collection} {found : List Nat} :
    candidates? bloom c field idField grams = some found ↔
      bloom.KnowsTexts c field idField ∧ candidates bloom c field idField grams = found := by
  have hentries : (∀ d ∈ c.enumerate,
      (isCandidate? bloom field idField grams d.1 d.2).isSome = true) ↔
      bloom.KnowsTexts c field idField := by
    constructor
    · intro h position document hd
      exact isSome_isCandidate?.mp (h (document, position) (Collection.mem_enumerate.mpr hd))
    · intro h d hd
      exact isSome_isCandidate?.mpr (h d.2 d.1 (Collection.mem_enumerate.mp hd))
  rw [candidates?, filterM_eq, ← hentries]
  by_cases hall : ∀ d ∈ c.enumerate,
      (isCandidate? bloom field idField grams d.1 d.2).isSome = true
  · have hfilter : (c.enumerate.filter fun d =>
        isCandidate? bloom field idField grams d.1 d.2 == some true) =
        c.enumerate.filter fun d => isCandidate bloom field idField grams d.1 d.2 := by
      apply List.filter_congr
      intro d hd
      rw [isCandidate?_eq (hall d hd)]
      simp
    rw [if_pos hall, hfilter, Option.map_some, Option.some.injEq, and_iff_right hall, candidates]
  · rw [if_neg hall, Option.map_none]
    simp only [hall, false_and, reduceCtorEq]

end

/-- The assertion holds for a built index and its collection. -/
theorem candidates?_build (c : Collection) (field idField : String) (sizing : Sizing)
    (grams : List Trigram) :
    candidates? (BuiltIndex.build c field idField sizing).bloom c field idField grams =
      some (candidates (BuiltIndex.build c field idField sizing).bloom c field idField grams) := by
  refine candidates?_eq_some_iff.mpr ⟨?_, rfl⟩
  intro position document hd htext
  obtain ⟨text, ht⟩ := Option.isSome_iff_exists.mp htext
  exact (contains_build_iff c field idField sizing _).mpr ⟨text, position, document, hd, ht, rfl⟩

/-- It fails for an index with another identity field. -/
example :
    let c : Collection := ⟨⟨1⟩, 0, [.object [("id", .string "a"), ("text", .string "abc")]]⟩
    candidates? (BuiltIndex.build c "text" "id" ⟨1, 1⟩).bloom c "text" "_id" [] = none := by
  decide

/-! ## The assertion holds -/

/-- With a fresh cache, the assertion holds while a query is planned. -/
theorem Plan.make?_eq {k : IndexCache} {s : Store} (h : k.Fresh s) {name : String}
    {c : Collection} (hc : s.Has name c) (settings : SearchSettings)
    (isLive : CollectionId → Bool) (field : String) (pattern : List Char)
    (options : MatchOptions) :
    make? settings k isLive c field pattern options =
      some (make settings k isLive c field pattern options) := by
  have hindex := IndexCache.ensure_index h hc isLive field settings.idField (sizing settings)
  rw [make?, make]
  split
  · rfl
  · dsimp only
    cases (Eligibility.assess pattern options settings).obstacle with
    | some reason => rfl
    | none => simp only [hindex, candidates?_build, Option.map_some]

theorem Engine.search?_eq {g : Engine} {s : Store} (h : g.cache.Fresh s) {name : String}
    {c : Collection} (hc : s.Has name c) (isLive : CollectionId → Bool) (timing : Timing)
    (field : String) (pattern options : List Char) (overrides : Option Overrides) :
    g.search? isLive timing c field pattern options overrides =
      some (g.search isLive timing c field pattern options overrides) := by
  rw [search?, search, plan]
  cases Verifier.compile pattern (MatchOptions.ofChars options) field with
  | error e => rfl
  | ok v => simp only [Plan.make?_eq h hc, Option.map_some]

/-- A checked run never fails if no checked step does from a sound state. -/
theorem foldlM_eq_some {σ α : Type} {sound : σ → Prop} {act : σ → α → σ}
    {act? : σ → α → Option σ} (hsound : ∀ {w}, sound w → ∀ a, sound (act w a))
    (hact : ∀ {w}, sound w → ∀ a, act? w a = some (act w a)) (actions : List α) :
    ∀ {w}, sound w → actions.foldlM act? w = some (actions.foldl act w) := by
  induction actions with
  | nil =>
      intro w _
      rfl
  | cons a as ih =>
      intro w h
      rw [List.foldlM_cons, hact h a]
      exact ih (hsound h a)

namespace SearchSession

/-- `SearchSession.act`, with checked searches. -/
def act? (w : SearchSession) : Action → Option SearchSession
  | .search timing name field pattern options overrides =>
    match w.store.get? name with
    | some c =>
      (w.engine.search? w.store.isLive timing c field pattern options overrides).map fun r =>
        { w with engine := r.2 }
    | none => some w
  | a => some (w.act a)

/-- The session after several checked actions. -/
def run? (settings : SearchSettings) (actions : List Action) : Option SearchSession :=
  actions.foldlM act? (start settings)

theorem act?_eq {w : SearchSession} (h : w.Sound) (a : Action) : w.act? a = some (w.act a) := by
  cases a with
  | search timing name field pattern options overrides =>
      rw [act?, act]
      cases hc : w.store.get? name with
      | none => rfl
      | some c =>
          simp only [Engine.search?_eq h.cache (Store.has_of_get? hc), Option.map_some]
          rfl
  | _ => rfl

end SearchSession

/-! ## A planner with changing settings -/

namespace IndexSession

/-- What can be done with collections, a cache of indexes, and a planner that uses it with any
settings. -/
inductive Step where
  | index (a : Action)
  | plan (settings : SearchSettings) (name field : String) (pattern : List Char)
      (options : MatchOptions)

/-- The session after a step. A plan for a name without a collection does nothing. -/
def step (w : IndexSession) : Step → IndexSession
  | .index a => w.act a
  | .plan settings name field pattern options =>
    match w.store.get? name with
    | some c =>
      { w with cache := (Plan.make settings w.cache w.store.isLive c field pattern options).cache }
    | none => w

/-- `IndexSession.step`, with checked plans. -/
def step? (w : IndexSession) : Step → Option IndexSession
  | .index a => some (w.act a)
  | .plan settings name field pattern options =>
    match w.store.get? name with
    | some c =>
      (Plan.make? settings w.cache w.store.isLive c field pattern options).map fun made =>
        { w with cache := made.cache }
    | none => some w

/-- The session after several steps. -/
def runSteps (steps : List Step) : IndexSession := steps.foldl step start

/-- The session after several checked steps. -/
def runSteps? (steps : List Step) : Option IndexSession := steps.foldlM step? start

theorem step_sound {w : IndexSession} (h : w.Sound) (a : Step) : (w.step a).Sound := by
  cases a with
  | index a => exact act_sound h a
  | plan settings name field pattern options =>
      rw [step]
      split
      · rename_i c hc
        exact ⟨h.store, Plan.make_fresh h.cache h.store (Store.has_of_get? hc) settings
          w.store.isLive field pattern options⟩
      · exact h

theorem step?_eq {w : IndexSession} (h : w.Sound) (a : Step) : w.step? a = some (w.step a) := by
  cases a with
  | index a => rfl
  | plan settings name field pattern options =>
      rw [step?, step]
      cases hc : w.store.get? name with
      | none => rfl
      | some c => simp only [Plan.make?_eq h.cache (Store.has_of_get? hc), Option.map_some]

end IndexSession

/-- **The assertion never fails.**  Checked candidates are a result only if every document with
text has an entry in the index that is probed; and every run of a search engine, and every run of
a planner under changing settings, gives with checked candidates what it gives without. -/
theorem checkedRun_eq_run :
    (∀ bloom c field idField grams found,
      candidates? bloom c field idField grams = some found ↔
        bloom.KnowsTexts c field idField ∧ candidates bloom c field idField grams = found) ∧
    (∀ settings actions,
      SearchSession.run? settings actions = some (SearchSession.run settings actions)) ∧
    (∀ steps, IndexSession.runSteps? steps = some (IndexSession.runSteps steps)) := by
  refine ⟨?_, ?_, ?_⟩
  · intro bloom c field idField grams found
    exact candidates?_eq_some_iff
  · intro settings actions
    exact foldlM_eq_some SearchSession.act_sound SearchSession.act?_eq actions
      (SearchSession.run_sound settings [])
  · intro steps
    exact foldlM_eq_some (fun h a => IndexSession.step_sound h a)
      (fun h a => IndexSession.step?_eq h a) steps (IndexSession.run_sound [])

end TrigramSearch
