import TrigramSearch.Proofs.Document.Paths
import TrigramSearch.Proofs.Pattern.Mandatory
import TrigramSearch.Proofs.Search.Candidates
import TrigramSearch.Proofs.Search.Session

/-!
# Searches with filters and full scans

A search with filters verifies fewer documents than a full scan, so it finds the
same iff every document that matches is a candidate.  Sizes, hashes, shared
identities, old indexes and the threshold are no danger: a document is always a
candidate if a filter for its text alone passes the probes
(`isCandidate_build`).  What is left is a condition on the pattern and the
settings, `AdmitsMatches`, which is exact: if it fails for some text, the
collection of this one text already shows a difference.

A legible pattern satisfies it under all settings, because its literals are
mandatory.  There are patterns that do not: in `abc+*` the pass keeps the letter
that `+` repeats, although the second repetition may leave it out.

## Main results

* `Engine.answer_sameFindings` — the condition is sufficient.
* `Engine.admitsMatches_of_sameFindings` — it is necessary.
* `Literals.admitsMatches_of_isLegible` — legible patterns satisfy it.
* `SearchSession.findsAll_iff_admitsMatches` — all of this for every run.
-/

namespace TrigramSearch

/-! ## Verifying only the candidates -/

/-- Verification of the candidates is complete if every document that matches is one. -/
theorem verifyOnly_candidates {v : Verifier} {bloom : BloomIndex} {c : Collection}
    {field idField : String} {grams : List Trigram}
    (h : ∀ position document, c.get? position = some document → v.isMatch document = true →
      isCandidate bloom field idField grams document position = true) :
    v.verifyOnly c (candidates bloom c field idField grams) = v.verifyAll c := by
  rw [Verifier.verifyOnly, candidates, Verifier.verifyAll, List.filter_map, List.filter_filter]
  congr 1
  apply List.filter_congr
  rintro ⟨document, position⟩ hd
  have hget : c.get? position = some document := Collection.mem_enumerate.mp hd
  simp only [Function.comp, hget, Option.any_some]
  cases hmatch : v.isMatch document with
  | false => rfl
  | true => rw [h position document hget hmatch, Bool.and_true]

namespace Verifier

/-- A compiled pattern and the field are all that a verifier knows. -/
theorem compile_ok {pattern : List Char} {options : MatchOptions} {field : String} {v : Verifier}
    (h : compile pattern options field = .ok v) :
    Regex.compile pattern options = .ok v.expr ∧ v.field = field := by
  rw [compile] at h
  split at h
  · rename_i expr hexpr
    obtain rfl := Except.ok.inj h
    exact ⟨hexpr, rfl⟩
  · cases h

theorem mem_verifyAll (v : Verifier) (c : Collection) (position : Nat) :
    position ∈ v.verifyAll c ↔
      ∃ document, c.get? position = some document ∧ v.isMatch document = true :=
  c.mem_positions_iff _ position

theorem isMatch_iff (v : Verifier) (document : Json.Value) :
    v.isMatch document = true ↔
      ∃ text, Document.text? document v.field = some text ∧ v.expr.isMatch text.toList = true := by
  rw [isMatch]
  cases Document.text? document v.field <;> simp

end Verifier

/-! ## The threshold -/

/-- A natural number is not below zero, rounded or not. -/
private theorem ofNat_scaled (n : Nat) :
    (Binary64.ofNat n).isNaN = false ∧ 0 ≤ (Binary64.ofNat n).scaled := by
  have hbound : Binary64.bodyOfQuotient (n <<< 1074) 1 ≤ Binary64.infinityBody :=
    Nat.min_le_right _ _
  rw [Binary64.ofNat, Binary64.ofQuotient, Binary64.ofBody, if_neg (by decide)]
  generalize Binary64.bodyOfQuotient (n <<< 1074) 1 = b at hbound
  have hlt : b < 1 <<< 63 := Nat.lt_of_le_of_lt hbound (by decide)
  have hword : (⟨UInt64.ofNat b⟩ : Binary64).word = b := by
    rw [Binary64.word, UInt64.toNat_ofNat']
    exact Nat.mod_eq_of_lt (Nat.lt_trans hlt (by decide))
  have hbody : (⟨UInt64.ofNat b⟩ : Binary64).body = b := by
    rw [Binary64.body, hword]
    exact Nat.mod_eq_of_lt hlt
  have hsign : (⟨UInt64.ofNat b⟩ : Binary64).signBit = false := by
    rw [Binary64.signBit, hword]
    exact Nat.testBit_lt_two_pow hlt
  constructor
  · rw [Binary64.isNaN, hbody]
    simpa using hbound
  · rw [Binary64.scaled, hsign, if_neg (by decide)]
    exact Int.natCast_nonneg _

/-- Where no candidates are too many, any number of candidates is. -/
theorem Plan.isTooMany_of_zero {total : Nat} {threshold : Binary64}
    (h : isTooMany 0 total threshold = true) (count : Nat) :
    isTooMany count total threshold = true := by
  have hzero : (Binary64.ofNat 0).scaled = 0 := by decide
  obtain ⟨hnumber, hnonneg⟩ := ofNat_scaled count
  rw [isTooMany, Binary64.lt] at h ⊢
  simp only [Bool.and_eq_true, Bool.not_eq_true', decide_eq_true_eq, hzero] at h ⊢
  exact ⟨⟨h.1.1, hnumber⟩, Int.lt_of_lt_of_le h.2 hnonneg⟩

/-! ## When filters lose nothing -/

/-- Settings under which some search for the pattern verifies the candidates only. -/
structure MayFilter (settings : SearchSettings) (pattern : List Char) (options : MatchOptions) :
    Prop where
  useFilters : settings.useFilters = true
  eligible : (Eligibility.assess pattern options settings).obstacle = none
  /-- There is a size of collections for which having no candidates is not having too many. -/
  threshold : ∃ n, Plan.isTooMany 0 (n + 1) settings.effectivenessThreshold = false

/-- A filter for any text that matches contains all trigrams the pattern is looked for with. -/
def AdmitsMatches (settings : SearchSettings) (pattern : List Char) (options : MatchOptions) :
    Prop :=
  ∀ e text, Regex.compile pattern options = .ok e → e.isMatch text = true →
    ∀ g ∈ (Eligibility.assess pattern options settings).trigrams,
      (DocumentFilter.ofText settings.filterSizeBytes settings.hashFunctions text).contains g = true

/-- Two results have the same documents, at the same positions. -/
def SearchResult.SameFindings (r r' : SearchResult) : Prop :=
  r.positions = r'.positions ∧ r.documents = r'.documents

/-- The settings, with filters turned off. -/
def SearchSettings.fullScan (s : SearchSettings) : SearchSettings := { s with useFilters := false }

/-- The overrides, with filters turned off. -/
def Overrides.fullScan (overrides : Option Overrides) : Option Overrides :=
  some { overrides.getD {} with useFilters := some false }

theorem withOverrides_fullScan (s : SearchSettings) (overrides : Option Overrides) :
    s.withOverrides (Overrides.fullScan overrides) = (s.withOverrides overrides).fullScan := by
  cases overrides <;> rfl

namespace Engine

variable {settings : SearchSettings} {c : Collection} {field : String}
  {pattern options : List Char}

/-- Answers to one query agree iff the matching positions under their plans do. -/
theorem answer_sameFindings_iff {v : Verifier}
    (hv : Verifier.compile pattern (MatchOptions.ofChars options) field = .ok v) :
    (answer settings c field pattern options).SameFindings
        (answer settings.fullScan c field pattern options) ↔
      positionsOf v c (Plan.ofBuild settings c field pattern (MatchOptions.ofChars options)) =
        v.verifyAll c := by
  rw [answer, answer, hv]
  constructor
  · exact fun h => h.1
  · intro h
    have hscan : positionsOf v c (Plan.ofBuild settings.fullScan c field pattern
        (MatchOptions.ofChars options)) = v.verifyAll c := rfl
    simp only [SearchResult.SameFindings, h, hscan, and_self]

/-- The condition is sufficient: where it holds, filters lose nothing. -/
theorem answer_sameFindings
    (h : MayFilter settings pattern (MatchOptions.ofChars options) →
      AdmitsMatches settings pattern (MatchOptions.ofChars options)) :
    (answer settings c field pattern options).SameFindings
      (answer settings.fullScan c field pattern options) := by
  cases hv : Verifier.compile pattern (MatchOptions.ofChars options) field with
  | error e =>
      rw [answer, answer, hv]
      exact ⟨rfl, rfl⟩
  | ok v =>
      rw [answer_sameFindings_iff hv]
      obtain ⟨hcompile, hfield⟩ := Verifier.compile_ok hv
      rw [Plan.ofBuild]
      split
      · rfl
      rename_i huse
      dsimp only
      split
      · rfl
      rename_i heligible
      rw [Plan.ofCandidates]
      split
      · rfl
      rename_i hcount
      refine verifyOnly_candidates ?_
      intro position document hget hmatch
      rw [Verifier.isMatch_iff, hfield] at hmatch
      obtain ⟨text, htext, hmatch⟩ := hmatch
      -- a collection with a document has a size for which none are not too many
      have hlength : ∃ n, c.length = n + 1 := by
        have hlt := (List.getElem?_eq_some_iff.mp hget).1
        exact ⟨c.length - 1, by rw [Collection.length]; omega⟩
      obtain ⟨n, hn⟩ := hlength
      have hthreshold : Plan.isTooMany 0 (n + 1) settings.effectivenessThreshold = false := by
        cases hzero : Plan.isTooMany 0 (n + 1) settings.effectivenessThreshold with
        | false => rfl
        | true =>
            rw [hn] at hcount
            exact absurd (Plan.isTooMany_of_zero hzero _) hcount
      have hadmits := h ⟨by simpa using huse, heligible, n, hthreshold⟩
      exact isCandidate_build hget htext settings.idField (Plan.sizing settings)
        (hadmits v.expr text.toList hcompile hmatch)

end Engine

/-! ## A collection with one text -/

/-- A document without members. -/
def blank : Json.Value := .object []

/-- Documents of which only the first has text. -/
def loneText (text : List Char) (others : Nat) : List Json.Value :=
  .object [("text", .string (String.ofList text))] :: List.replicate others blank

private theorem text?_first (text : List Char) :
    Document.text? (.object [("text", .string (String.ofList text))]) "text" =
      some (String.ofList text) := rfl

/-- A document without members has no fields. -/
private theorem field?_blank (path : String) : Document.field? blank path = none := by
  have hchild : ∀ segment, Document.child? blank segment = none := by
    intro segment
    unfold Document.child? blank
    split <;> rfl
  rw [Document.field?, Document.atPath?]
  cases hpath : Document.segments path.toList with
  | nil => exact absurd hpath (Document.segments_ne_nil _)
  | cons segment rest =>
      rw [List.foldlM_cons, hchild]
      rfl

private theorem text?_blank (path : String) : Document.text? blank path = none := by
  rw [Document.text?, field?_blank]

private theorem resolve_blank (position : Nat) (idField : String) :
    DocumentId.resolve blank position idField = .position position := by
  rw [DocumentId.resolve, field?_blank]

/-- The first document of a collection never has the position of another as its identity. -/
private theorem resolve_first_ne (document : Json.Value) (idField : String) (position : Nat) :
    DocumentId.resolve document 0 idField ≠ .position (position + 1) := by
  intro h
  cases DocumentId.eq_of_resolve_eq_position h

section
variable {c : Collection} {text : List Char} {others : Nat} (idField : String) (sizing : Sizing)

/-- The index of the collection has one filter, that of the text alone. -/
private theorem filter?_loneText (hc : c.documents = loneText text others) (id : DocumentId) :
    (BuiltIndex.build c "text" idField sizing).bloom.filter? id =
      if id = DocumentId.resolve (.object [("text", .string (String.ofList text))]) 0 idField then
        some (DocumentFilter.ofText sizing.sizeBytes sizing.hashFunctions text)
      else none := by
  have hblank : ∀ d ∈ (List.replicate others blank).zipIdx 1,
      Document.text? d.1 "text" = none := by
    intro d hd
    rw [List.eq_of_mem_replicate (List.fst_mem_of_mem_zipIdx hd)]
    exact text?_blank "text"
  rw [BuiltIndex.build, Collection.enumerate, hc, loneText, List.zipIdx_cons, List.foldl_cons,
    BuiltIndex.addDocument]
  simp only [text?_first]
  rw [BuiltIndex.addAll_of_no_text hblank, BloomIndex.filter?_insert, String.toList_ofList]
  have hnone : (BloomIndex.empty sizing.sizeBytes sizing.hashFunctions).filter? id = none := rfl
  rw [hnone]
  split
  · rename_i hid
    rw [← DocumentFilter.ofText_max]
    rfl
  · rfl

/-- The text is no candidate if its filter misses a trigram, and nothing else is one. -/
private theorem candidates_loneText (hc : c.documents = loneText text others)
    {grams : List Trigram} {g : Trigram} (hg : g ∈ grams)
    (hmissed : (DocumentFilter.ofText sizing.sizeBytes sizing.hashFunctions text).contains g =
      false) :
    candidates (BuiltIndex.build c "text" idField sizing).bloom c "text" idField grams = [] := by
  rw [List.eq_nil_iff_forall_not_mem]
  intro position hmem
  rw [mem_candidates_iff] at hmem
  obtain ⟨document, hget, hcandidate⟩ := hmem
  rw [Collection.get?, hc, loneText] at hget
  rw [isCandidate, BloomIndex.probeAll?, filter?_loneText idField sizing hc] at hcandidate
  cases position with
  | zero =>
      obtain rfl := Option.some.inj hget
      rw [if_pos rfl, Option.map_some] at hcandidate
      have hall := List.all_eq_true.mp hcandidate g hg
      rw [hmissed] at hall
      cases hall
  | succ position =>
      rw [List.getElem?_cons_succ] at hget
      obtain rfl := List.eq_of_mem_replicate (List.mem_of_getElem? hget)
      rw [resolve_blank, if_neg (Ne.symm (resolve_first_ne _ idField position)), Option.map_none,
        text?_blank] at hcandidate
      cases hcandidate

end

/-- The condition is necessary: where it fails for a text, a collection with this one text
shows a difference. -/
theorem Engine.admitsMatches_of_sameFindings {settings : SearchSettings}
    {pattern options : List Char} (id : CollectionId)
    (hfilter : MayFilter settings pattern (MatchOptions.ofChars options))
    (h : ∀ text others,
      (answer settings ⟨id, 0, loneText text others⟩ "text" pattern options).SameFindings
        (answer settings.fullScan ⟨id, 0, loneText text others⟩ "text" pattern options)) :
    AdmitsMatches settings pattern (MatchOptions.ofChars options) := by
  obtain ⟨huse, heligible, others, hthreshold⟩ := hfilter
  intro e text hcompile hmatch g hg
  cases hcontains : (DocumentFilter.ofText settings.filterSizeBytes settings.hashFunctions
      text).contains g with
  | true => rfl
  | false =>
      have hv : Verifier.compile pattern (MatchOptions.ofChars options) "text" =
          .ok ⟨e, "text"⟩ := by
        rw [Verifier.compile, hcompile]
      have hnone := candidates_loneText (c := ⟨id, 0, loneText text others⟩) settings.idField
        (Plan.sizing settings) rfl hg hcontains
      have hplan : Plan.ofBuild settings ⟨id, 0, loneText text others⟩ "text" pattern
          (MatchOptions.ofChars options) = .candidates [] := by
        have hlength : Collection.length ⟨id, 0, loneText text others⟩ = others + 1 := by
          simp [Collection.length, loneText]
        rw [Plan.ofBuild, huse]
        simp only [heligible, hnone, Plan.ofCandidates, hlength, List.length_nil, hthreshold]
        rfl
      have hfound := (answer_sameFindings_iff hv).mp (h text others)
      rw [hplan] at hfound
      have hfirst : 0 ∈ Verifier.verifyAll ⟨e, "text"⟩ ⟨id, 0, loneText text others⟩ := by
        rw [Verifier.mem_verifyAll]
        refine ⟨_, rfl, ?_⟩
        rw [Verifier.isMatch_iff]
        exact ⟨String.ofList text, text?_first text, by rwa [String.toList_ofList]⟩
      rw [← hfound] at hfirst
      cases hfirst

/-! ## Legible patterns -/

/-- Without literals there is nothing to pass. -/
theorem admitsMatches_of_no_literals {settings : SearchSettings} {pattern : List Char}
    {options : MatchOptions} (h : (Literals.ofPattern pattern options).literals = []) :
    AdmitsMatches settings pattern options := by
  intro e text _ _ g hg
  rw [Eligibility.assess, Literals.usable] at hg
  simp only [h, List.filter_nil] at hg
  cases hg

/-- The literals of a legible pattern are mandatory, so a filter for a text that matches
contains their trigrams. -/
theorem Literals.admitsMatches_of_isLegible {settings : SearchSettings} {pattern : List Char}
    {options : MatchOptions} (h : isLegible pattern options = true) :
    AdmitsMatches settings pattern options := by
  intro e text hcompile hmatch g hg
  obtain ⟨l, hl, hwindow⟩ := Trigram.mem_ofTexts_iff.mp hg
  have hliteral : l ∈ (ofPattern pattern options).literals := (List.mem_filter.mp hl).1
  have hfold := fold_infix_of_isMatch hcompile h hmatch l hliteral
  exact DocumentFilter.contains_ofText _ _ (Trigram.windowsOf_subset_of_infix hfold hwindow)

/-! ## Runs -/

namespace SearchSession

/-- In every session, every search that has these settings, overrides included, finds what it
finds without filters. -/
def FindsAll (settings : SearchSettings) (pattern options : List Char) : Prop :=
  ∀ (initial : SearchSettings) (actions : List Action) (name : String) (c : Collection),
    (run initial actions).store.get? name = some c →
    ∀ (timing timing' : Timing) (field : String) (overrides : Option Overrides),
      (run initial actions).engine.settings.withOverrides overrides = settings →
      ((run initial actions).search timing c field pattern options overrides).1.SameFindings
        ((run initial actions).search timing' c field pattern options
          (Overrides.fullScan overrides)).1

/-- In a session, the two searches are compared by comparing answers. -/
theorem search_sameFindings_iff {initial settings : SearchSettings} {actions : List Action}
    {name : String} {c : Collection} (hc : (run initial actions).store.get? name = some c)
    (timing timing' : Timing) (field : String) (pattern options : List Char)
    {overrides : Option Overrides}
    (hsettings : (run initial actions).engine.settings.withOverrides overrides = settings) :
    ((run initial actions).search timing c field pattern options overrides).1.SameFindings
        ((run initial actions).search timing' c field pattern options
          (Overrides.fullScan overrides)).1 ↔
      (Engine.answer settings c field pattern options).SameFindings
        (Engine.answer settings.fullScan c field pattern options) := by
  have hfresh := (run_sound initial actions).cache
  have hhas := Store.has_of_get? hc
  rw [search, search, Engine.search_answer hfresh hhas, Engine.search_answer hfresh hhas,
    withOverrides_fullScan, hsettings]

/-- The condition says exactly when filters lose nothing. -/
theorem findsAll_iff (settings : SearchSettings) (pattern options : List Char) :
    FindsAll settings pattern options ↔
      (MayFilter settings pattern (MatchOptions.ofChars options) →
        AdmitsMatches settings pattern (MatchOptions.ofChars options)) := by
  constructor
  · intro h hfilter
    refine Engine.admitsMatches_of_sameFindings ⟨1⟩ hfilter ?_
    intro text others
    have hc : (run settings [.collection (.create "c" (loneText text others))]).store.get? "c" =
        some ⟨⟨1⟩, 0, loneText text others⟩ := rfl
    have hsettings : (run settings [.collection (.create "c" (loneText text
        others))]).engine.settings.withOverrides none = settings := rfl
    rw [← search_sameFindings_iff hc Timing.none Timing.none "text" pattern options hsettings]
    exact h settings _ "c" _ hc Timing.none Timing.none "text" none hsettings
  · intro h initial actions name c hc timing timing' field overrides hsettings
    rw [search_sameFindings_iff hc timing timing' field pattern options hsettings]
    exact Engine.answer_sameFindings h

/-- **Filters and full scans.**  Filters lose no document of any search in any session iff every
text that the pattern matches passes the probes for the trigrams of the pattern, or no search
under the settings relies on them; and they lose none for a pattern that is legible or has no
literals, whatever the settings. -/
theorem findsAll_iff_admitsMatches (pattern options : List Char) :
    (∀ settings, FindsAll settings pattern options ↔
      (MayFilter settings pattern (MatchOptions.ofChars options) →
        AdmitsMatches settings pattern (MatchOptions.ofChars options))) ∧
    ((Literals.ofPattern pattern (MatchOptions.ofChars options)).literals = [] ∨
        Literals.isLegible pattern (MatchOptions.ofChars options) = true →
      ∀ settings, FindsAll settings pattern options) := by
  refine ⟨fun settings => findsAll_iff settings pattern options, ?_⟩
  intro h settings
  rw [findsAll_iff]
  intro _
  rcases h with hnone | hlegible
  · exact admitsMatches_of_no_literals hnone
  · exact Literals.admitsMatches_of_isLegible hlegible

/-- Classes, groups and repetitions that are read well; and `abc+*`, for which the text `ab` does
not pass the probe for `abc`. -/
theorem findsAll_iff_admitsMatches_repeated :
    let legible := "ab?(?:x|[^\\]])c+def".toList
    let repeated := "abc+*".toList
    Literals.isLegible legible (MatchOptions.ofChars []) = true ∧ FindsAll {} legible [] ∧
      ¬ FindsAll {} repeated [] := by
  intro legible repeated
  have hlegible : Literals.isLegible legible (MatchOptions.ofChars []) = true := by decide
  refine ⟨hlegible, (findsAll_iff_admitsMatches legible []).2 (Or.inr hlegible) {}, ?_⟩
  intro h
  have hfilter : MayFilter {} repeated (MatchOptions.ofChars []) :=
    ⟨rfl, by decide +kernel, 0, by decide +kernel⟩
  have hadmits := ((findsAll_iff_admitsMatches repeated []).1 {}).mp h hfilter
  have hmatch : (Regex.compile repeated (MatchOptions.ofChars [])).toOption.any
      (·.isMatch ['a', 'b']) = true := by decide +kernel
  have hgram : ⟨'a', 'b', 'c'⟩ ∈
      (Eligibility.assess repeated (MatchOptions.ofChars []) {}).trigrams := by decide +kernel
  have hmissed : (DocumentFilter.ofText 256 3 ['a', 'b']).contains ⟨'a', 'b', 'c'⟩ = false := by
    decide +kernel
  cases hcompile : Regex.compile repeated (MatchOptions.ofChars []) with
  | error e =>
      rw [hcompile] at hmatch
      cases hmatch
  | ok e =>
      rw [hcompile] at hmatch
      have hcontains := hadmits e ['a', 'b'] hcompile hmatch _ hgram
      rw [hmissed] at hcontains
      cases hcontains

/-- The letter that `+` repeats may be left out by a further repetition, but the pass has kept
it. -/
theorem search_loses_repeated_letter :
    let document := Json.Value.object [("text", .string "xx ab yy")]
    let c : Collection := ⟨⟨1⟩, 0, [document]⟩
    let w := run {} [.collection (.create "c" [document])]
    w.store.get? "c" = some c ∧
      (w.search Timing.none c "text" "abc+*".toList [] none).1.positions = [] ∧
      (w.search Timing.none c "text" "abc+*".toList [] (Overrides.fullScan none)).1.positions =
        [0] := by
  intro document c w
  refine ⟨rfl, ?_, ?_⟩ <;> decide +kernel

end SearchSession
end TrigramSearch
