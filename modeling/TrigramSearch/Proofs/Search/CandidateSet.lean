import TrigramSearch.Proofs.Search.Candidates

/-!
# Exactly the candidates

A document shares its filter with all documents of its identity, and with no
others.  So whether it is a candidate depends on the texts that documents of its
identity have at the field: there has to be one, and every bit of every trigram
has to be used by some three characters in a row of some of them, folded.
Neither the other documents nor the order in which the filters were filled plays
a part.

A document without text may be a candidate, if it shares its identity with one
that has text.

## Main results

* `isCandidate_build_iff` — when a document is a candidate under the index of its
  collection.
* `candidates_build` — the candidates of a collection, in increasing order.
-/

namespace TrigramSearch

open BuiltIndex (HasText)

/-- Some text of the documents of an identity uses a bit. -/
def SharedBit (c : Collection) (field idField : String) (sizing : Sizing) (id : DocumentId)
    (i : Nat) : Prop :=
  ∃ text, HasText c field idField id text ∧
    DocumentFilter.UsesBit sizing.sizeBytes sizing.hashFunctions text.toList i

/-- The bit of a trigram in filters of a size, under a seed. -/
def Sizing.bit (sizing : Sizing) (g : Trigram) (seed : Nat) : Nat :=
  (DocumentFilter.empty sizing.sizeBytes sizing.hashFunctions).position g seed

/-- The number of seeds: a hash count of zero counts as one. -/
def Sizing.seeds (sizing : Sizing) : Nat := max sizing.hashFunctions 1

section
variable (c : Collection) (field idField : String) (sizing : Sizing)

theorem contains_build_iff (id : DocumentId) :
    (BuiltIndex.build c field idField sizing).bloom.contains id = true ↔
      ∃ text, HasText c field idField id text := by
  rw [(BuiltIndex.build_holds c field idField sizing).contains_iff]
  simp only [BuiltIndex.mem_insertionsOf]
  constructor
  · rintro ⟨_, t, ht, rfl⟩
    exact ⟨t, ht⟩
  · rintro ⟨t, ht⟩
    exact ⟨t.toList, t, ht, rfl⟩

theorem probe_build_iff (id : DocumentId) (g : Trigram) :
    (BuiltIndex.build c field idField sizing).bloom.probe id g = true ↔
      ∀ seed < sizing.seeds, SharedBit c field idField sizing id (sizing.bit g seed) := by
  rw [(BuiltIndex.build_holds c field idField sizing).probe_iff]
  simp only [BuiltIndex.mem_insertionsOf, SharedBit]
  constructor
  · intro h seed hseed
    obtain ⟨_, ⟨t, ht, rfl⟩, hbit⟩ := h seed hseed
    exact ⟨t, ht, hbit⟩
  · intro h seed hseed
    obtain ⟨t, ht, hbit⟩ := h seed hseed
    exact ⟨t.toList, ⟨t, ht, rfl⟩, hbit⟩

/-- A document is a candidate iff a document of its identity has text, and texts of its identity
use all bits of all trigrams. -/
theorem isCandidate_build_iff {c : Collection} {position : Nat} {document : Json.Value}
    (hd : c.get? position = some document) (grams : List Trigram) :
    isCandidate (BuiltIndex.build c field idField sizing).bloom field idField grams document
        position = true ↔
      (∃ text, HasText c field idField (DocumentId.resolve document position idField) text) ∧
      ∀ g ∈ grams, ∀ seed < sizing.seeds,
        SharedBit c field idField sizing (DocumentId.resolve document position idField)
          (sizing.bit g seed) := by
  have hknown := contains_build_iff c field idField sizing
    (DocumentId.resolve document position idField)
  rw [isCandidate, BloomIndex.probeAll?_eq]
  by_cases htext : ∃ text, HasText c field idField
      (DocumentId.resolve document position idField) text
  · rw [if_pos (hknown.mpr htext)]
    simp only [htext, List.all_eq_true, probe_build_iff, true_and]
  · -- a document with text of its own would have text under its identity
    have hnone : Document.text? document field = none := by
      cases ht : Document.text? document field with
      | none => rfl
      | some t => exact absurd ⟨t, position, document, hd, ht, rfl⟩ htext
    rw [if_neg fun hcontains => htext (hknown.mp hcontains), hnone]
    simp [htext]

/-- No other document with text goes by the identity of the document at a position. -/
def IsAlone (position : Nat) (document : Json.Value) : Prop :=
  ∀ other d, c.get? other = some d → (Document.text? d field).isSome = true →
    DocumentId.resolve d other idField = DocumentId.resolve document position idField →
    other = position

/-- The texts of an identity that a single document has are that document's text. -/
theorem hasText_iff_of_isAlone {c : Collection} {field idField : String} {position : Nat}
    {document : Json.Value} {text : String} (hd : c.get? position = some document)
    (ht : Document.text? document field = some text)
    (h : IsAlone c field idField position document) (t : String) :
    HasText c field idField (DocumentId.resolve document position idField) t ↔ t = text := by
  constructor
  · rintro ⟨other, d, hget, htext, hid⟩
    obtain rfl := h other d hget (Option.isSome_of_mem htext) hid
    obtain rfl := Option.some.inj (hget.symm.trans hd)
    exact Option.some.inj (htext.symm.trans ht)
  · rintro rfl
    exact ⟨position, document, hd, ht, rfl⟩

/-- **The candidates.**  With the index of a collection, a position is a candidate iff a document
of the identity there has text, and texts of that identity use all bits of all trigrams; the
positions are increasing and in range.  A document with text that no other one shares its identity
with is judged by its own text.  The bits are those that are computed in words. -/
theorem candidates_build (hfits : DocumentFilter.Fits sizing.sizeBytes) (grams : List Trigram) :
    let found := candidates (BuiltIndex.build c field idField sizing).bloom c field idField grams
    (∀ g seed, sizing.bit g seed = (DocumentFilter.place sizing.sizeBytes g seed).toNat) ∧
    (∀ position, position ∈ found ↔
      ∃ document, c.get? position = some document ∧
        (∃ text, HasText c field idField (DocumentId.resolve document position idField) text) ∧
        ∀ g ∈ grams, ∀ seed < sizing.seeds,
          SharedBit c field idField sizing (DocumentId.resolve document position idField)
            (sizing.bit g seed)) ∧
    found.Pairwise (· < ·) ∧
    (∀ position ∈ found, position < c.length) ∧
    (∀ position document text, c.get? position = some document →
      Document.text? document field = some text → IsAlone c field idField position document →
      (position ∈ found ↔ ∀ g ∈ grams, ∀ seed < sizing.seeds,
        DocumentFilter.UsesBit sizing.sizeBytes sizing.hashFunctions text.toList
          (sizing.bit g seed))) := by
  intro found
  have hmem : ∀ position document, c.get? position = some document →
      (position ∈ found ↔
        (∃ text, HasText c field idField (DocumentId.resolve document position idField) text) ∧
        ∀ g ∈ grams, ∀ seed < sizing.seeds,
          SharedBit c field idField sizing (DocumentId.resolve document position idField)
            (sizing.bit g seed)) := by
    intro position document hd
    rw [← isCandidate_build_iff field idField sizing hd grams]
    refine (mem_candidates_iff _ c field idField grams position).trans ?_
    simp only [hd, Option.some.injEq, exists_eq_left']
  have hget : ∀ position ∈ found, ∃ document, c.get? position = some document := by
    intro position hfound
    obtain ⟨document, hd, _⟩ := (mem_candidates_iff _ c field idField grams position).mp hfound
    exact ⟨document, hd⟩
  refine ⟨?_, ?_, c.positions_increasing _, ?_, ?_⟩
  · exact fun g seed => (DocumentFilter.toNat_place hfits sizing.hashFunctions g seed).symm
  · intro position
    constructor
    · intro hfound
      obtain ⟨document, hd⟩ := hget position hfound
      exact ⟨document, hd, (hmem position document hd).mp hfound⟩
    · rintro ⟨document, hd, hshared⟩
      exact (hmem position document hd).mpr hshared
  · intro position hfound
    obtain ⟨document, hd⟩ := hget position hfound
    exact (List.getElem?_eq_some_iff.mp hd).1
  · intro position document text hd ht halone
    have htexts := hasText_iff_of_isAlone hd ht halone
    rw [hmem position document hd]
    simp only [SharedBit, htexts, exists_eq, true_and, exists_eq_left]

end

/-- Two identities that look the same share a filter, also with a document that has no text, and
the last document keeps to itself. -/
theorem candidates_build_shared :
    let first := Json.Value.object [("_id", .string "1"), ("text", .string "abc")]
    let second := Json.Value.object [("_id", .number (.integer 1)), ("text", .string "bcd")]
    let third := Json.Value.object [("_id", .string "1")]
    let last := Json.Value.object [("text", .string "Xabcd")]
    let c : Collection := ⟨⟨1⟩, 0, [first, second, third, last]⟩
    let grams := Trigram.windows ['a', 'b', 'c', 'd']
    let found := candidates (BuiltIndex.build c "text" "_id" ⟨8, 2⟩).bloom c "text" "_id" grams
    DocumentFilter.Fits 8 ∧
      (c.get? 2 = some third ∧ Document.text? third "text" = none ∧ 2 ∈ found) ∧
      c.get? 3 = some last ∧ Document.text? last "text" = some "Xabcd" ∧
      IsAlone c "text" "_id" 3 last ∧
      (3 ∈ found ↔ ∀ g ∈ grams, ∀ seed < Sizing.seeds ⟨8, 2⟩,
        DocumentFilter.UsesBit 8 2 "Xabcd".toList (Sizing.bit ⟨8, 2⟩ g seed)) := by
  intro first second third last c grams found
  have hd : c.get? 3 = some last := rfl
  have ht : Document.text? last "text" = some "Xabcd" := rfl
  have halone : IsAlone c "text" "_id" 3 last := by
    intro other d hget htext hid
    match other with
    | 0 => obtain rfl := Option.some.inj hget; exact absurd hid (by decide)
    | 1 => obtain rfl := Option.some.inj hget; exact absurd hid (by decide)
    | 2 => obtain rfl := Option.some.inj hget; exact absurd hid (by decide)
    | 3 => rfl
    | _ + 4 => cases hget
  have hfits : DocumentFilter.Fits 8 := by decide
  obtain ⟨_, hshared, _, _, howner⟩ := candidates_build c "text" "_id" ⟨8, 2⟩ hfits grams
  have hthird : 2 ∈ found := by
    have hfirst : HasText c "text" "_id" (DocumentId.resolve third 2 "_id") "abc" :=
      ⟨0, first, rfl, rfl, rfl⟩
    have hsecond : HasText c "text" "_id" (DocumentId.resolve third 2 "_id") "bcd" :=
      ⟨1, second, rfl, rfl, rfl⟩
    have hrows : ∀ g ∈ grams,
        g.toList <:+: Text.fold "abc".toList ∨ g.toList <:+: Text.fold "bcd".toList := by
      decide
    refine (hshared 2).mpr ⟨third, rfl, ⟨"abc", hfirst⟩, ?_⟩
    intro g hg seed hseed
    rcases hrows g hg with hrow | hrow
    · exact ⟨"abc", hfirst, g, hrow, seed, hseed, rfl⟩
    · exact ⟨"bcd", hsecond, g, hrow, seed, hseed, rfl⟩
  exact ⟨hfits, ⟨rfl, rfl, hthird⟩, hd, ht, halone, howner 3 last "Xabcd" hd ht halone⟩

end TrigramSearch
