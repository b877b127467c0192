import Mathlib.Data.List.Basic
import TrigramSearch.Proofs.Pattern.Verdict
import TrigramSearch.Proofs.Search.Candidates

/-!
# More trigrams, fewer candidates

A document is a candidate for two lists of trigrams together iff it is one for
each of them: either it has an entry, and all trigrams are probed there, or it
has none, and then its trigrams play no part.  So the candidates for both lists
are those of the one that are also candidates for the other, and only the set of
trigrams matters.  This holds of every index, whatever it was built from.

A smaller minimum length lets more literals in.  So it makes more patterns
eligible, there are more trigrams to look for, and fewer candidates.

## Main results

* `candidates_append` — the candidates for two lists of trigrams.
* `candidates_of_subset` — more trigrams leave out candidates.
* `Literals.usable_sublist` — a greater length leaves out literals.
* `candidates_narrow` — both, and what follows for the minimum length.
-/

namespace TrigramSearch

/-! ## Candidates for several trigrams -/

/-- The positions of two selections together are those of the first that are also positions of
the second. -/
theorem Collection.positions_and (c : Collection) (p q : Json.Value × Nat → Bool) :
    (c.enumerate.filter fun d => p d && q d).map Prod.snd =
      ((c.enumerate.filter p).map Prod.snd).filter
        fun position => position ∈ (c.enumerate.filter q).map Prod.snd := by
  rw [List.filter_map, List.filter_filter]
  congr 1
  apply List.filter_congr
  intro d hd
  have hposition : d.2 ∈ (c.enumerate.filter q).map Prod.snd ↔ q d = true := by
    rw [c.mem_positions_iff, mem_enumerate.mp hd]
    simp
  rw [Function.comp_apply, Bool.and_comm]
  congr 1
  rw [Bool.eq_iff_iff, decide_eq_true_eq, hposition]

section
variable (bloom : BloomIndex) (c : Collection) (field idField : String)

/-- A document is a candidate for two lists of trigrams iff it is one for each of them. -/
theorem isCandidate_append (grams grams' : List Trigram) (document : Json.Value)
    (position : Nat) :
    isCandidate bloom field idField (grams ++ grams') document position =
      (isCandidate bloom field idField grams document position &&
        isCandidate bloom field idField grams' document position) := by
  simp only [isCandidate, BloomIndex.probeAll?]
  cases bloom.filter? (DocumentId.resolve document position idField) with
  | none => exact (Bool.and_self _).symm
  | some f => exact List.all_append

theorem candidates_append (grams grams' : List Trigram) :
    candidates bloom c field idField (grams ++ grams') =
      (candidates bloom c field idField grams).filter
        fun position => position ∈ candidates bloom c field idField grams' := by
  simp only [candidates, isCandidate_append]
  exact c.positions_and _ _

/-- More trigrams leave out candidates, and the others keep their order. -/
theorem candidates_of_subset {grams grams' : List Trigram} (h : grams ⊆ grams') :
    (candidates bloom c field idField grams').Sublist
      (candidates bloom c field idField grams) := by
  apply candidates_sublist
  intro position document _ hcandidate
  rw [isCandidate, BloomIndex.probeAll?] at hcandidate ⊢
  cases hfilter : bloom.filter? (DocumentId.resolve document position idField) with
  | none =>
      rw [hfilter] at hcandidate
      exact hcandidate
  | some f =>
      rw [hfilter] at hcandidate
      have hall := List.all_eq_true.mp hcandidate
      exact List.all_eq_true.mpr fun g hg => hall g (h hg)

/-- Only the set of trigrams matters. -/
theorem candidates_congr {grams grams' : List Trigram} (h : ∀ g, g ∈ grams ↔ g ∈ grams') :
    candidates bloom c field idField grams = candidates bloom c field idField grams' := by
  have hleft : grams ⊆ grams' := fun g => (h g).mp
  have hright : grams' ⊆ grams := fun g => (h g).mpr
  exact (candidates_of_subset bloom c field idField hright).antisymm
    (candidates_of_subset bloom c field idField hleft)

end

/-! ## The minimum length -/

/-- A greater length leaves out literals. -/
theorem Literals.usable_sublist (l : Literals) {floor floor' : Nat} (h : floor ≤ floor') :
    (l.usable floor').Sublist (l.usable floor) := by
  apply List.monotone_filter_right
  intro s hs
  rw [decide_eq_true_eq] at hs ⊢
  exact Nat.le_trans h hs

/-- **Narrowing.**  The candidates for two lists of trigrams are those of the one that are also
candidates for the other, and only the set of trigrams matters.  If two settings differ in the
minimum length only, the smaller one lets in every pattern, literal and trigram that the greater
one does, and leaves no candidate that the greater one does not. -/
theorem candidates_narrow (bloom : BloomIndex) (c : Collection) (field idField : String) :
    let found := candidates bloom c field idField
    (∀ grams grams', found (grams ++ grams') =
      (found grams).filter fun position => position ∈ found grams') ∧
    (∀ grams grams', (∀ g, g ∈ grams ↔ g ∈ grams') → found grams = found grams') ∧
    ∀ (pattern : List Char) (options : MatchOptions) (settings : SearchSettings)
      (shorter longer : Nat), shorter ≤ longer →
      let assessed length :=
        Eligibility.assess pattern options { settings with minLiteralLength := length }
      ((assessed longer).isEligible = true → (assessed shorter).isEligible = true) ∧
        (assessed longer).usable.Sublist (assessed shorter).usable ∧
        (assessed longer).trigrams ⊆ (assessed shorter).trigrams ∧
        (found (assessed shorter).trigrams).Sublist (found (assessed longer).trigrams) := by
  intro found
  refine ⟨candidates_append bloom c field idField, ?_, ?_⟩
  · intro grams grams' h
    exact candidates_congr bloom c field idField h
  · intro pattern options settings shorter longer hle assessed
    have hfloor : max shorter trigramLength ≤ max longer trigramLength := by omega
    have husable : (assessed longer).usable.Sublist (assessed shorter).usable :=
      (Literals.ofPattern pattern options).usable_sublist hfloor
    have htrigrams : (assessed longer).trigrams ⊆ (assessed shorter).trigrams :=
      Trigram.ofTexts_subset husable.subset
    refine ⟨?_, husable, htrigrams, candidates_of_subset bloom c field idField htrigrams⟩
    intro heligible
    rw [Eligibility.isEligible_iff] at heligible ⊢
    obtain ⟨hcomplexity, hsome⟩ := heligible
    refine ⟨hcomplexity, ?_⟩
    intro hnone
    rw [hnone] at husable
    exact hsome (List.sublist_nil.mp husable)

/-- A literal of four characters and one of five, in an index that does not know the last
document, which stays a candidate. -/
theorem candidates_narrow_shorter :
    let first := Json.Value.object [("text", .string "abcd xyzuv")]
    let second := Json.Value.object [("text", .string "xyzuv")]
    let last := Json.Value.object [("text", .string "new")]
    let bloom := (BuiltIndex.build ⟨⟨1⟩, 0, [first, second]⟩ "text" "_id" ⟨256, 3⟩).bloom
    let found := candidates bloom ⟨⟨1⟩, 1, [first, second, last]⟩ "text" "_id"
    let assessed length :=
      Eligibility.assess "abcd.xyzuv".toList (MatchOptions.ofChars [])
        { ({} : SearchSettings) with minLiteralLength := length }
    (3 ≤ 5 ∧ (assessed 5).isEligible = true ∧ (assessed 3).isEligible = true ∧
      found (assessed 3).trigrams = [0, 2] ∧ found (assessed 5).trigrams = [0, 1, 2] ∧
      (found (assessed 3).trigrams).Sublist (found (assessed 5).trigrams)) ∧
    (∀ g, g ∈ (assessed 3).trigrams ++ (assessed 5).trigrams ↔ g ∈ (assessed 3).trigrams) ∧
      found ((assessed 3).trigrams ++ (assessed 5).trigrams) = found (assessed 3).trigrams := by
  intro first second last bloom found assessed
  obtain ⟨_, hsame, hlengths⟩ :=
    candidates_narrow bloom ⟨⟨1⟩, 1, [first, second, last]⟩ "text" "_id"
  have hle : 3 ≤ 5 := by decide
  obtain ⟨heligible, _, htrigrams, hfewer⟩ :=
    hlengths "abcd.xyzuv".toList (MatchOptions.ofChars []) {} 3 5 hle
  have hfive : (assessed 5).isEligible = true := by decide +kernel
  have hrepeated : ∀ g, g ∈ (assessed 3).trigrams ++ (assessed 5).trigrams ↔
      g ∈ (assessed 3).trigrams := by
    intro g
    rw [List.mem_append]
    exact ⟨fun h => h.elim id fun hlonger => htrigrams hlonger, Or.inl⟩
  refine ⟨⟨hle, hfive, heligible hfive, ?_, ?_, hfewer⟩, hrepeated, hsame _ _ hrepeated⟩
  · decide +kernel
  · decide +kernel

end TrigramSearch
