import TrigramSearch.Search.Plan
import TrigramSearch.Proofs.Index.Freshness
import TrigramSearch.Proofs.Trigram.Windows

/-!
# No document that contains the literals is missed

A document is a candidate if the filter of its identity contains all trigrams
asked for.  In a freshly built index this filter has all bits of a filter for
the text of the document, which contains all its windows, and the trigrams of
literals that stand in the text are among these windows; so nothing that shares
the filter, and no coincidence of hashes, can remove such a document from the
candidates.

## Main results

* `isCandidate_build` — a document is a candidate if a filter for its text alone
  contains the trigrams.
* `IndexSession.mem_candidates_of_contains` — after any run, no document that
  contains the literals is missed.
-/

namespace TrigramSearch

/-- The positions of a selection of documents. -/
theorem Collection.mem_positions_iff (c : Collection) (p : Json.Value × Nat → Bool)
    (position : Nat) :
    position ∈ (c.enumerate.filter p).map Prod.snd ↔
      ∃ document, c.get? position = some document ∧ p (document, position) = true := by
  simp only [List.mem_map, List.mem_filter, mem_enumerate]
  constructor
  · rintro ⟨⟨document, position⟩, ⟨hget, hp⟩, rfl⟩
    exact ⟨document, hget, hp⟩
  · rintro ⟨document, hget, hp⟩
    exact ⟨(document, position), ⟨hget, hp⟩, rfl⟩

/-- The positions of a selection of documents are in increasing order. -/
theorem Collection.positions_increasing (c : Collection) (p : Json.Value × Nat → Bool) :
    ((c.enumerate.filter p).map Prod.snd).Pairwise (· < ·) := by
  have hall : (c.enumerate.map Prod.snd).Pairwise (· < ·) := by
    rw [enumerate, List.zipIdx_map_snd]
    exact List.pairwise_lt_range'
  exact hall.sublist (List.filter_sublist.map Prod.snd)

/-- A narrower selection leaves out positions and keeps the others in order. -/
theorem Collection.positions_sublist (c : Collection) {p q : Json.Value × Nat → Bool}
    (h : ∀ d ∈ c.enumerate, p d = true → q d = true) :
    ((c.enumerate.filter p).map Prod.snd).Sublist ((c.enumerate.filter q).map Prod.snd) := by
  have htwice : c.enumerate.filter p = (c.enumerate.filter q).filter p := by
    rw [List.filter_filter]
    apply List.filter_congr
    intro d hd
    cases hp : p d with
    | false => rfl
    | true => rw [h d hd hp, Bool.true_and]
  rw [htwice]
  exact List.filter_sublist.map Prod.snd

/-- A position is among the candidates iff a document stands there that may contain the
trigrams. -/
theorem mem_candidates_iff (bloom : BloomIndex) (c : Collection) (field idField : String)
    (grams : List Trigram) (position : Nat) :
    position ∈ candidates bloom c field idField grams ↔
      ∃ document, c.get? position = some document ∧
        isCandidate bloom field idField grams document position = true :=
  c.mem_positions_iff _ position

/-- Where every candidate of one index is one of another, candidates are left out in order. -/
theorem candidates_sublist {bloom bloom' : BloomIndex} {c : Collection} {field idField : String}
    {grams grams' : List Trigram}
    (h : ∀ position document, c.get? position = some document →
      isCandidate bloom field idField grams document position = true →
        isCandidate bloom' field idField grams' document position = true) :
    (candidates bloom c field idField grams).Sublist
      (candidates bloom' c field idField grams') := by
  apply c.positions_sublist
  intro d hd
  exact h d.2 d.1 (Collection.mem_enumerate.mp hd)

/-- In a built index, a document is a candidate if a filter for its text alone contains all the
trigrams. -/
theorem isCandidate_build {c : Collection} {position : Nat} {document : Json.Value}
    (hd : c.get? position = some document) {field : String} {text : String}
    (ht : Document.text? document field = some text) (idField : String) (sizing : Sizing)
    {grams : List Trigram}
    (hgrams : ∀ g ∈ grams,
      (DocumentFilter.ofText sizing.sizeBytes sizing.hashFunctions text.toList).contains g = true) :
    isCandidate (BuiltIndex.build c field idField sizing).bloom field idField grams document
      position = true := by
  have hcovers := BuiltIndex.build_covers field idField sizing hd ht
  have hbuilt := BuiltIndex.build_built c field idField sizing
  rw [isCandidate, BloomIndex.probeAll?_of_covers hcovers]
  rw [hbuilt.sizeBytes, hbuilt.hashCount, DocumentFilter.ofText_max]
  exact hgrams

/-- The trigrams of literals that a text contains are windows of the text. -/
theorem ofTexts_subset_windows {literals : List (List Char)} {text : List Char}
    (h : ∀ l ∈ literals, l <:+: text) : Trigram.ofTexts literals ⊆ Trigram.windows text := by
  intro g hg
  obtain ⟨l, hl, hwindow⟩ := Trigram.mem_ofTexts_iff.mp hg
  exact Trigram.windows_subset_of_infix (h l hl) hwindow

namespace IndexSession

/-- **No false negatives.**  After any run, with the index that is served for a collection,
every document whose text contains all of several literals is among the candidates for their
trigrams. -/
theorem mem_candidates_of_contains (actions : List Action) {name : String} {c : Collection}
    (hc : (run actions).store.get? name = some c) (field idField : String) (sizing : Sizing)
    (literals : List (List Char)) {position : Nat} {document : Json.Value} {text : String}
    (hd : c.get? position = some document) (ht : Document.text? document field = some text)
    (hliterals : ∀ l ∈ literals, l <:+: text.toList) :
    position ∈ candidates ((run actions).ensure c field idField sizing).index.bloom c field
      idField (Trigram.ofTexts literals) := by
  have hindex : ((run actions).ensure c field idField sizing).index =
      BuiltIndex.build c field idField sizing :=
    IndexCache.ensure_index (run_sound actions).cache (Store.has_of_get? hc) _ field idField
      sizing
  have hcandidate := isCandidate_build hd ht idField sizing fun g hg =>
    DocumentFilter.contains_ofText _ _ (ofTexts_subset_windows hliterals hg)
  rw [hindex, mem_candidates_iff]
  exact ⟨document, hd, hcandidate⟩

/-- Two documents of one identity, filters of size zero, and an index from the cache that was
built before the second document came in. -/
theorem mem_candidates_of_contains_shared :
    let first := Json.Value.object [("_id", .string "a"), ("text", .string "İstanbul")]
    let second := Json.Value.object [("_id", .string "a"), ("text", .string "a bcde")]
    let actions : List Action :=
      [.collection (.create "c" [first]), .ensure "c" "text" "_id" ⟨0, 0⟩,
        .collection (.push "c" second), .ensure "c" "text" "_id" ⟨0, 0⟩]
    let c : Collection := ⟨⟨1⟩, 1, [first, second]⟩
    (run actions).store.get? "c" = some c ∧ c.get? 0 = some first ∧
      Document.text? first "text" = some "İstanbul" ∧
      (∀ l ∈ [['İ', 's', 't'], ['b', 'u', 'l']], l <:+: "İstanbul".toList) ∧
      0 ∈ candidates ((run actions).ensure c "text" "_id" ⟨0, 0⟩).index.bloom c "text" "_id"
        (Trigram.ofTexts [['İ', 's', 't'], ['b', 'u', 'l']]) := by
  intro first second actions c
  have hc : (run actions).store.get? "c" = some c := rfl
  have hd : c.get? 0 = some first := rfl
  have ht : Document.text? first "text" = some "İstanbul" := rfl
  have hliterals : ∀ l ∈ [['İ', 's', 't'], ['b', 'u', 'l']], l <:+: "İstanbul".toList := by
    intro l hl
    rcases List.mem_cons.mp hl with rfl | hrest
    · exact ⟨[], "anbul".toList, rfl⟩
    · rw [List.mem_singleton.mp hrest]
      exact ⟨"İstan".toList, [], rfl⟩
  exact ⟨hc, hd, ht, hliterals,
    mem_candidates_of_contains actions hc "text" "_id" ⟨0, 0⟩ _ hd ht hliterals⟩

end IndexSession
end TrigramSearch
