import TrigramSearch.Proofs.Search.CandidateSet

/-!
# Filters of several sizes

A trigram uses the bit whose number is its hash modulo the number of bits.  In a
filter whose number of bits is a multiple, that number is determined by the one
in the larger filter: it is the remainder (`Sizing.bit_mod`).  So a text that
uses a bit of the larger filter uses the remainder of the bit in the smaller
one, and whatever passes a probe of the larger filter passes it in the smaller
one, coincidences included.

Nothing of the kind holds for sizes that do not divide each other, as the last
example shows: the larger filter may have coincidences of its own.

## Main results

* `isCandidate_build_of_dvd` — candidates of the larger filters are candidates
  of the smaller ones.
* `candidates_enlarge` — filters that are enlarged by a factor.
-/

namespace TrigramSearch

namespace Sizing

/-- The number of bits of a filter: a size of zero counts as one byte. -/
def bits (sizing : Sizing) : Nat := max sizing.sizeBytes 1 * 8

/-- Enlarging by a factor multiplies the number of bits, but for filters of no size, which it
leaves as they are. -/
theorem bits_dvd_bits_mul (sizeBytes hashFunctions : Nat) {factor : Nat} (h : 0 < factor) :
    bits ⟨sizeBytes, hashFunctions⟩ ∣ bits ⟨sizeBytes * factor, hashFunctions⟩ := by
  apply Nat.mul_dvd_mul_right
  cases sizeBytes with
  | zero =>
      have hempty : max (0 * factor) 1 = max 0 1 := congrArg (max · 1) (Nat.zero_mul factor)
      exact hempty.symm ▸ Nat.dvd_refl (max 0 1)
  | succ n =>
      have hsmall : max (n + 1) 1 = n + 1 := Nat.max_eq_left (Nat.succ_pos n)
      have hlarge : max ((n + 1) * factor) 1 = (n + 1) * factor :=
        Nat.max_eq_left (Nat.mul_pos (Nat.succ_pos n) h)
      rw [hsmall, hlarge]
      exact Nat.dvd_mul_right (n + 1) factor

/-- The bit of a trigram in a smaller filter is determined by that in a larger one. -/
theorem bit_mod {sizing sizing' : Sizing} (h : sizing.bits ∣ sizing'.bits) (g : Trigram)
    (seed : Nat) : sizing'.bit g seed % sizing.bits = sizing.bit g seed :=
  Nat.mod_mod_of_dvd _ h

end Sizing

section
variable {sizing sizing' : Sizing} (hbits : sizing.bits ∣ sizing'.bits)
  (hhashes : sizing.hashFunctions = sizing'.hashFunctions) {c : Collection}
  {field idField : String}

include hbits hhashes

/-- The bits that a text uses in larger filters, taken to smaller ones. -/
theorem DocumentFilter.UsesBit.mod {text : List Char} {i : Nat}
    (h : UsesBit sizing'.sizeBytes sizing'.hashFunctions text i) :
    UsesBit sizing.sizeBytes sizing.hashFunctions text (i % sizing.bits) := by
  obtain ⟨w, hw, seed, hseed, rfl⟩ := h
  rw [← hhashes] at hseed
  exact ⟨w, hw, seed, hseed, (Sizing.bit_mod hbits w seed).symm⟩

theorem SharedBit.mod {id : DocumentId} {i : Nat} (h : SharedBit c field idField sizing' id i) :
    SharedBit c field idField sizing id (i % sizing.bits) := by
  obtain ⟨text, htext, huses⟩ := h
  exact ⟨text, htext, huses.mod hbits hhashes⟩

/-- Candidates of larger filters are candidates of smaller ones. -/
theorem isCandidate_build_of_dvd {position : Nat} {document : Json.Value}
    (hd : c.get? position = some document) {grams : List Trigram}
    (h : isCandidate (BuiltIndex.build c field idField sizing').bloom field idField grams document
      position = true) :
    isCandidate (BuiltIndex.build c field idField sizing).bloom field idField grams document
      position = true := by
  rw [isCandidate_build_iff field idField _ hd] at h ⊢
  obtain ⟨htext, hshared⟩ := h
  refine ⟨htext, ?_⟩
  intro g hg seed hseed
  have hseed' : seed < sizing'.seeds := by
    rw [Sizing.seeds, ← hhashes]
    exact hseed
  have hbit := (hshared g hg seed hseed').mod hbits hhashes
  rw [Sizing.bit_mod hbits] at hbit
  exact hbit

end

/-- **Larger filters.**  When the filters of an index are enlarged by a factor, documents may drop
out of the candidates and none comes in; and no document drops out whose text has all the trigrams
among its windows. -/
theorem candidates_enlarge (c : Collection) (field idField : String)
    (sizeBytes hashFunctions : Nat) {factor : Nat} (hfactor : 0 < factor)
    (grams : List Trigram) :
    let found size := candidates (BuiltIndex.build c field idField ⟨size, hashFunctions⟩).bloom c
      field idField grams
    (found (sizeBytes * factor)).Sublist (found sizeBytes) ∧
    ∀ position document text, c.get? position = some document →
      Document.text? document field = some text →
      (∀ g ∈ grams, g ∈ Trigram.windows text.toList) → position ∈ found (sizeBytes * factor) := by
  intro found
  refine ⟨?_, ?_⟩
  · have hbits := Sizing.bits_dvd_bits_mul sizeBytes hashFunctions hfactor
    exact candidates_sublist fun position document hd => isCandidate_build_of_dvd hbits rfl hd
  · intro position document text hd htext hgrams
    have hcandidate := isCandidate_build hd htext idField ⟨sizeBytes * factor, hashFunctions⟩
      fun g hg => DocumentFilter.contains_ofText _ _ (hgrams g hg)
    exact (mem_candidates_iff _ c field idField grams position).mpr ⟨document, hd, hcandidate⟩

/-- With filters of three bytes, two documents are taken for the third; one of them is told apart
with six. -/
theorem candidates_enlarge_doubled :
    let c : Collection := ⟨⟨1⟩, 0, [.object [("text", .string "abc")],
      .object [("text", .string "world")], .object [("text", .string "pig")]]⟩
    let found size := candidates (BuiltIndex.build c "text" "_id" ⟨size, 2⟩).bloom c "text" "_id"
      (Trigram.ofText "pig".toList)
    0 < 2 ∧ found 3 = [0, 1, 2] ∧ found (3 * 2) = [1, 2] ∧
      (found (3 * 2)).Sublist (found 3) ∧ 2 ∈ found (3 * 2) := by
  intro c found
  have htwo : 0 < 2 := by decide
  obtain ⟨hfewer, hkept⟩ := candidates_enlarge c "text" "_id" 3 2 htwo (Trigram.ofText "pig".toList)
  have hgrams : ∀ g ∈ Trigram.ofText "pig".toList, g ∈ Trigram.windows "pig".toList := by
    decide +kernel
  refine ⟨htwo, by decide +kernel, by decide +kernel, hfewer, hkept 2 _ "pig" rfl rfl hgrams⟩

/-- Six bytes are worse than five here: the factor has to be a whole one. -/
example :
    let c : Collection := ⟨⟨1⟩, 0, [.object [("text", .string "abc")],
      .object [("text", .string "world")], .object [("text", .string "pig")]]⟩
    let found size := candidates (BuiltIndex.build c "text" "_id" ⟨size, 2⟩).bloom c "text" "_id"
      (Trigram.ofText "pig".toList)
    found 5 = [2] ∧ found 6 = [1, 2] := by
  decide +kernel

end TrigramSearch
