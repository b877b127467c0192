import TrigramSearch.Proofs.Search.CandidateSet

/-!
# Candidates without text

A document without text is not indexed, and a document without an entry in the
index is no candidate unless it has text.  But entries are found by identity,
not by position: a document without text is looked up in the entry of another
one, if that has text and the same explicit identity.

So documents of one identity are candidates together
(`mem_candidates_build_congr`), and a document without text is a candidate
exactly if one with text and the same identity is.  The position of a document
is an identity that it shares with no other, hence without an explicit identity
a document without text is never a candidate.

## Main results

* `mem_candidates_build_congr` — documents of one identity are candidates
  together.
* `candidates_build_have_text_iff` — which collections have no candidates
  without text.
* `IndexSession.candidates_without_text` — both, for the index that is served
  after any run.
-/

namespace TrigramSearch

open BuiltIndex (HasText)

/-- No document without text at the field goes by the identity of one with text. -/
def TextIdentitiesApart (c : Collection) (field idField : String) : Prop :=
  ∀ position document, c.get? position = some document → Document.text? document field = none →
    ¬ ∃ text, HasText c field idField (DocumentId.resolve document position idField) text

section
variable {c : Collection} {field idField : String} {sizing : Sizing} {position : Nat}
  {document : Json.Value}

/-- A document that has no text and no identity but its position shares it with none. -/
theorem not_hasText_of_resolve_eq_position (hd : c.get? position = some document)
    (hnone : Document.text? document field = none)
    (hid : DocumentId.resolve document position idField = .position position) :
    ¬ ∃ text, HasText c field idField (DocumentId.resolve document position idField) text := by
  rintro ⟨text, other, d, hother, htext, hsame⟩
  rw [hid] at hsame
  obtain rfl := DocumentId.eq_of_resolve_eq_position hsame
  obtain rfl := Option.some.inj (hd.symm.trans hother)
  rw [hnone] at htext
  cases htext

/-- Documents of one identity are candidates together. -/
theorem mem_candidates_build_congr (field : String) (sizing : Sizing)
    (hd : c.get? position = some document) {other : Nat} {d : Json.Value}
    (hother : c.get? other = some d)
    (hid : DocumentId.resolve d other idField = DocumentId.resolve document position idField)
    (grams : List Trigram) :
    position ∈ candidates (BuiltIndex.build c field idField sizing).bloom c field idField grams ↔
      other ∈ candidates (BuiltIndex.build c field idField sizing).bloom c field idField
        grams := by
  have hcandidate := isCandidate_build_iff field idField sizing hd grams
  have hcandidate' := isCandidate_build_iff field idField sizing hother grams
  rw [hid] at hcandidate'
  simp only [mem_candidates_iff, hd, hother, Option.some.injEq, exists_eq_left', hcandidate,
    hcandidate']

/-- Every candidate goes by the identity of a document with text, which may be itself. -/
theorem exists_hasText_of_mem_candidates (hd : c.get? position = some document)
    {grams : List Trigram}
    (h : position ∈ candidates (BuiltIndex.build c field idField sizing).bloom c field idField
      grams) :
    ∃ text, HasText c field idField (DocumentId.resolve document position idField) text := by
  obtain ⟨e, he, hcandidate⟩ := (mem_candidates_iff _ c field idField grams position).mp h
  obtain rfl := Option.some.inj (hd.symm.trans he)
  exact ((isCandidate_build_iff field idField sizing hd grams).mp hcandidate).1

/-- When there is nothing to look for, every document is a candidate that goes by the identity of
one with text. -/
theorem mem_candidates_of_hasText (sizing : Sizing) (hd : c.get? position = some document)
    (h : ∃ text, HasText c field idField (DocumentId.resolve document position idField) text) :
    position ∈ candidates (BuiltIndex.build c field idField sizing).bloom c field idField [] := by
  refine (mem_candidates_iff _ c field idField [] position).mpr ⟨document, hd, ?_⟩
  exact (isCandidate_build_iff field idField sizing hd []).mpr ⟨h, nofun⟩

/-- Every candidate stands for a candidate with text and the same identity. -/
theorem mem_candidates_build_iff_shared (field : String) (sizing : Sizing)
    (hd : c.get? position = some document) (grams : List Trigram) :
    position ∈ candidates (BuiltIndex.build c field idField sizing).bloom c field idField grams ↔
      ∃ other ∈ candidates (BuiltIndex.build c field idField sizing).bloom c field idField grams,
        ∃ d text, c.get? other = some d ∧ Document.text? d field = some text ∧
          DocumentId.resolve d other idField =
            DocumentId.resolve document position idField := by
  constructor
  · intro h
    obtain ⟨text, other, d, hother, htext, hid⟩ := exists_hasText_of_mem_candidates hd h
    have hboth := mem_candidates_build_congr field sizing hd hother hid grams
    exact ⟨other, hboth.mp h, d, text, hother, htext, hid⟩
  · rintro ⟨other, h, d, _, hother, _, hid⟩
    exact (mem_candidates_build_congr field sizing hd hother hid grams).mpr h

end

/-- Only documents with text are candidates, whatever is looked for, iff no document without text
goes by the identity of one with text. -/
theorem candidates_build_have_text_iff (c : Collection) (field idField : String)
    (sizing : Sizing) :
    (∀ grams, ∀ position ∈ candidates (BuiltIndex.build c field idField sizing).bloom c field
        idField grams,
      ∃ document text, c.get? position = some document ∧
        Document.text? document field = some text) ↔
      TextIdentitiesApart c field idField := by
  constructor
  · -- looking for nothing already finds every document that shares an identity
    intro hall position document hd hnone hshared
    obtain ⟨e, text, he, htext⟩ := hall [] position (mem_candidates_of_hasText sizing hd hshared)
    obtain rfl := Option.some.inj (hd.symm.trans he)
    rw [hnone] at htext
    cases htext
  · intro hapart grams position hposition
    obtain ⟨document, hd, _⟩ := (mem_candidates_iff _ c field idField grams position).mp hposition
    cases htext : Document.text? document field with
    | some text => exact ⟨document, text, hd, htext⟩
    | none =>
        exact absurd (exists_hasText_of_mem_candidates hd hposition)
          (hapart position document hd htext)

namespace IndexSession

/-- **Candidates without text.**  With the index that is served for a collection, a document
without text at the field is a candidate iff one with text and the same identity is, and never if
its position is its identity.  Only documents with text are candidates, whatever is looked for,
iff no document without text goes by the identity of one with text. -/
theorem candidates_without_text (actions : List Action) {name : String} {c : Collection}
    (hc : (run actions).store.get? name = some c) (field idField : String) (sizing : Sizing) :
    let found := candidates ((run actions).ensure c field idField sizing).index.bloom c field
      idField
    (∀ grams position document, c.get? position = some document →
      Document.text? document field = none →
        (position ∈ found grams ↔ ∃ other ∈ found grams, ∃ d text, c.get? other = some d ∧
          Document.text? d field = some text ∧
          DocumentId.resolve d other idField = DocumentId.resolve document position idField) ∧
        (DocumentId.resolve document position idField = .position position →
          position ∉ found grams)) ∧
    ((∀ grams, ∀ position ∈ found grams, ∃ document text, c.get? position = some document ∧
        Document.text? document field = some text) ↔
      TextIdentitiesApart c field idField) := by
  intro found
  have hindex : ((run actions).ensure c field idField sizing).index =
      BuiltIndex.build c field idField sizing :=
    IndexCache.ensure_index (run_sound actions).cache (Store.has_of_get? hc) _ field idField
      sizing
  have hfound : found =
      candidates (BuiltIndex.build c field idField sizing).bloom c field idField := by
    rw [← hindex]
  rw [hfound]
  refine ⟨?_, candidates_build_have_text_iff c field idField sizing⟩
  intro grams position document hd hnone
  refine ⟨mem_candidates_build_iff_shared field sizing hd grams, ?_⟩
  intro hid hposition
  exact not_hasText_of_resolve_eq_position hd hnone hid
    (exists_hasText_of_mem_candidates hd hposition)

/-- Of three documents with one identity, or none, the second is a candidate without text, the
third is not. -/
theorem candidates_without_text_of_three :
    let first := Json.Value.object [("_id", .number (.integer 7)), ("text", .string "hello")]
    let second := Json.Value.object [("_id", .string "7")]
    let third := Json.Value.object [("text", .null)]
    let actions : List Action := [.collection (.create "c" [first]),
      .ensure "c" "text" "_id" ⟨256, 3⟩, .collection (.extend "c" [second, third])]
    let c : Collection := ⟨⟨1⟩, 1, [first, second, third]⟩
    let found := candidates ((run actions).ensure c "text" "_id" ⟨256, 3⟩).index.bloom c "text"
      "_id"
    (run actions).store.get? "c" = some c ∧
      (c.get? 1 = some second ∧ Document.text? second "text" = none ∧
        1 ∈ found (Trigram.ofText "hello".toList)) ∧
      (c.get? 2 = some third ∧ Document.text? third "text" = none ∧
        DocumentId.resolve third 2 "_id" = .position 2 ∧
        2 ∉ found (Trigram.ofText "hello".toList)) ∧
      ¬ TextIdentitiesApart c "text" "_id" := by
  intro first second third actions c found
  have hc : (run actions).store.get? "c" = some c := rfl
  have hsecond : c.get? 1 = some second := rfl
  have hthird : c.get? 2 = some third := rfl
  have hnone : Document.text? second "text" = none := rfl
  have hnone' : Document.text? third "text" = none := rfl
  have hposition : DocumentId.resolve third 2 "_id" = .position 2 := rfl
  obtain ⟨hshared, hapart⟩ := candidates_without_text actions hc "text" "_id" ⟨256, 3⟩
  have hfirst : 0 ∈ found (Trigram.ofText "hello".toList) := by decide +kernel
  have hfound : 1 ∈ found (Trigram.ofText "hello".toList) :=
    (hshared _ 1 second hsecond hnone).1.mpr ⟨0, hfirst, first, "hello", rfl, rfl, rfl⟩
  refine ⟨hc, ⟨hsecond, hnone, hfound⟩,
    ⟨hthird, hnone', hposition, (hshared _ 2 third hthird hnone').2 hposition⟩, ?_⟩
  intro h
  obtain ⟨document, text, hd, htext⟩ := hapart.mpr h _ 1 hfound
  obtain rfl := Option.some.inj (hsecond.symm.trans hd)
  cases htext

/-- A number and a string that look the same are one identity: the second document has no text,
but is looked up in the entry of the first. -/
theorem textless_document_is_candidate :
    let first := Json.Value.object [("_id", .number (.integer 7)), ("text", .string "hello")]
    let second := Json.Value.object [("_id", .string "7")]
    let actions : List Action := [.collection (.create "c" [first, second])]
    let c : Collection := ⟨⟨1⟩, 0, [first, second]⟩
    (run actions).store.get? "c" = some c ∧ c.get? 1 = some second ∧
      Document.text? second "text" = none ∧
      candidates ((run actions).ensure c "text" "_id" ⟨256, 3⟩).index.bloom c "text" "_id"
        (Trigram.ofTexts ["hello".toList]) = [0, 1] := by
  intro first second actions c
  refine ⟨rfl, rfl, rfl, ?_⟩
  decide +kernel

end IndexSession
end TrigramSearch
