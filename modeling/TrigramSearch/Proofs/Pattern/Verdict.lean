import TrigramSearch.Pattern.Eligibility
import TrigramSearch.Proofs.Trigram.Windows

/-!
# The verdict on a pattern

A pattern is judged by its complexity, by the literals that are long enough, and
by its length, in this order.  Literals are measured by their fold, in which one
character may become two; the pattern itself is measured as it is written.  So a
pattern may be eligible although it has fewer characters than a literal needs.

The least length is never below that of a trigram.  Therefore a literal that is
long enough has a trigram, and a search that goes by trigrams has something to go
by.

## Main results

* `obstacle_cases` — the obstacle in each of the four cases.
* `isEligible_iff` — which patterns are eligible.
* `mem_trigrams_iff`, `trigrams_nodup`, `trigrams_ne_nil_of_usable` — what is
  looked for.
* `assess_verdict` — all of this for one judgement.
-/

namespace TrigramSearch.Eligibility

section
variable (pattern : List Char) (options : MatchOptions) (settings : SearchSettings)

/-- A literal of the pattern whose fold is long enough to be looked for. -/
def IsUsable (l : List Char) : Prop :=
  l ∈ (Literals.ofPattern pattern options).literals ∧
    max settings.minLiteralLength 3 ≤ (Text.fold l).length

/-- The pattern is long enough, but it has no literal at all. -/
def LacksLiterals : Prop :=
  (Literals.ofPattern pattern options).literals = [] ∧
    max settings.minLiteralLength 3 ≤ pattern.length

instance : Decidable (LacksLiterals pattern options settings) :=
  inferInstanceAs (Decidable (_ ∧ _))

/-! ## The four cases -/

/-- The obstacle in each case, where every case comes after the ones before it. -/
theorem obstacle_cases :
    let e := assess pattern options settings
    let isComplex := settings.maxPatternComplexity < patternComplexity pattern
    (isComplex → e.obstacle = some .tooComplex) ∧
      (¬ isComplex → e.usable ≠ [] → e.obstacle = none) ∧
      (¬ isComplex → e.usable = [] → LacksLiterals pattern options settings →
        e.obstacle = some .noLiterals) ∧
      (¬ isComplex → e.usable = [] → ¬ LacksLiterals pattern options settings →
        e.obstacle = some .tooShort) := by
  intro e isComplex
  have hobstacle : e.obstacle =
      if isComplex then some .tooComplex
      else if !e.usable.isEmpty then none
      else if (Literals.ofPattern pattern options).literals.isEmpty &&
          settings.literalFloor ≤ pattern.length then some .noLiterals
      else some .tooShort := rfl
  have hlacks : ((Literals.ofPattern pattern options).literals.isEmpty &&
      settings.literalFloor ≤ pattern.length) = true ↔
        LacksLiterals pattern options settings := by
    rw [Bool.and_eq_true, List.isEmpty_iff, decide_eq_true_eq]
    rfl
  refine ⟨?_, ?_, ?_, ?_⟩
  · intro hcomplex
    rw [hobstacle, if_pos hcomplex]
  · intro hsimple husable
    rw [hobstacle, if_neg hsimple, if_pos (by simpa using husable)]
  · intro hsimple husable hnone
    rw [hobstacle, if_neg hsimple, if_neg (by simpa using husable), if_pos (hlacks.mpr hnone)]
  · intro hsimple husable hsome
    rw [hobstacle, if_neg hsimple, if_neg (by simpa using husable),
      if_neg (fun h => hsome (hlacks.mp h))]

/-- A pattern is eligible iff it is simple enough and some literal is long enough. -/
theorem isEligible_iff :
    (assess pattern options settings).isEligible = true ↔
      patternComplexity pattern ≤ settings.maxPatternComplexity ∧
        (assess pattern options settings).usable ≠ [] := by
  obtain ⟨hcomplex, hnone, hlacks, hshort⟩ := obstacle_cases pattern options settings
  rw [isEligible, Option.isNone_iff_eq_none, ← Nat.not_lt]
  constructor
  · intro h
    by_cases hc : settings.maxPatternComplexity < patternComplexity pattern
    · rw [hcomplex hc] at h
      cases h
    · refine ⟨hc, ?_⟩
      intro husable
      by_cases hl : LacksLiterals pattern options settings
      · rw [hlacks hc husable hl] at h
        cases h
      · rw [hshort hc husable hl] at h
        cases h
  · rintro ⟨hsimple, husable⟩
    exact hnone hsimple husable

end

/-! ## Literals and trigrams -/

section
variable {pattern : List Char} {options : MatchOptions} {settings : SearchSettings}

theorem mem_usable_iff {l : List Char} :
    l ∈ (assess pattern options settings).usable ↔ IsUsable pattern options settings l := by
  rw [assess, Literals.usable, List.mem_filter, decide_eq_true_eq]
  rfl

theorem usable_ne_nil_iff :
    (assess pattern options settings).usable ≠ [] ↔ ∃ l, IsUsable pattern options settings l := by
  constructor
  · intro h
    obtain ⟨l, hl⟩ := List.exists_mem_of_ne_nil _ h
    exact ⟨l, mem_usable_iff.mp hl⟩
  · rintro ⟨l, hl⟩
    exact List.ne_nil_of_mem (mem_usable_iff.mpr hl)

/-- The trigrams are three characters in a row in the fold of one usable literal. -/
theorem mem_trigrams_iff {g : Trigram} :
    g ∈ (assess pattern options settings).trigrams ↔
      ∃ l, IsUsable pattern options settings l ∧ g.toList <:+: Text.fold l := by
  have htrigrams : (assess pattern options settings).trigrams =
      Trigram.ofTexts (assess pattern options settings).usable := rfl
  rw [htrigrams, Trigram.mem_ofTexts_iff]
  simp only [mem_usable_iff, Trigram.windows, Trigram.mem_windowsOf_iff]

theorem trigrams_nodup : (assess pattern options settings).trigrams.Nodup :=
  Trigram.distinct_nodup _

theorem trigrams_ne_nil_of_usable {l : List Char} (h : IsUsable pattern options settings l) :
    (assess pattern options settings).trigrams ≠ [] :=
  Trigram.ofTexts_ne_nil (mem_usable_iff.mpr h) (Nat.le_trans (Nat.le_max_right _ 3) h.2)

/-- An eligible pattern has trigrams to be looked for: it has a literal that is long enough. -/
theorem trigrams_ne_nil (h : (assess pattern options settings).obstacle = none) :
    (assess pattern options settings).trigrams ≠ [] := by
  have heligible : (assess pattern options settings).isEligible = true := by
    rw [isEligible, h]
    rfl
  obtain ⟨_, husable⟩ := (isEligible_iff pattern options settings).mp heligible
  obtain ⟨l, hl⟩ := usable_ne_nil_iff.mp husable
  exact trigrams_ne_nil_of_usable hl

end

/-- **The verdict.**  A pattern is too complex iff its complexity is above the limit; else it is
eligible iff it has a usable literal; else it lacks literals iff it is long enough and has none;
else it is too short.  If there is a usable literal, there are trigrams, and in any case they are
distinct, and they are the windows of the folded usable literals, each of one literal. -/
theorem assess_verdict (pattern : List Char) (options : MatchOptions)
    (settings : SearchSettings) :
    let e := assess pattern options settings
    let isComplex := settings.maxPatternComplexity < patternComplexity pattern
    let hasUsable := ∃ l, IsUsable pattern options settings l
    let lacksLiterals := LacksLiterals pattern options settings
    (e.obstacle = some .tooComplex ↔ isComplex) ∧
      (e.obstacle = none ↔ ¬ isComplex ∧ hasUsable) ∧
      (e.obstacle = some .noLiterals ↔ ¬ isComplex ∧ ¬ hasUsable ∧ lacksLiterals) ∧
      (e.obstacle = some .tooShort ↔ ¬ isComplex ∧ ¬ hasUsable ∧ ¬ lacksLiterals) ∧
      (hasUsable → e.trigrams ≠ []) ∧ e.trigrams.Nodup ∧
      ∀ g, g ∈ e.trigrams ↔
        ∃ l, IsUsable pattern options settings l ∧ g.toList <:+: Text.fold l := by
  intro e isComplex hasUsable lacksLiterals
  have husable : e.usable ≠ [] ↔ hasUsable := usable_ne_nil_iff
  have htrigrams : hasUsable → e.trigrams ≠ [] := fun ⟨_, hl⟩ => trigrams_ne_nil_of_usable hl
  obtain ⟨hcomplex, hnone, hlacks, hshort⟩ := obstacle_cases pattern options settings
  rw [← and_assoc, ← and_assoc, ← and_assoc]
  refine ⟨?_, htrigrams, trigrams_nodup, fun g => mem_trigrams_iff⟩
  by_cases hc : isComplex
  · have hobstacle : e.obstacle = some .tooComplex := hcomplex hc
    simp [hobstacle, hc]
  by_cases hu : hasUsable
  · have hobstacle : e.obstacle = none := hnone hc (husable.mpr hu)
    simp [hobstacle, hc, hu]
  have hempty : e.usable = [] := Classical.not_not.mp fun h => hu (husable.mp h)
  by_cases hl : lacksLiterals
  · have hobstacle : e.obstacle = some .noLiterals := hlacks hc hempty hl
    simp [hobstacle, hc, hu, hl]
  · have hobstacle : e.obstacle = some .tooShort := hshort hc hempty hl
    simp [hobstacle, hc, hu, hl]

/-- The capital I with a dot becomes two characters, so three characters are in the fold of a
literal of two; the other literal is too short, and no trigram goes from the one to the other. -/
theorem assess_verdict_expanding :
    let e := assess "İb.cd".toList {} {}
    IsUsable "İb.cd".toList {} {} "İb".toList ∧ e.obstacle = none ∧ e.trigrams ≠ [] ∧
      e.extracted.literals = ["İb".toList, "cd".toList] ∧
      e.trigrams = [⟨'i', '\u0307', 'b'⟩] := by
  intro e
  obtain ⟨_, heligible, _, _, htrigrams, _⟩ := assess_verdict "İb.cd".toList {} {}
  have husable : IsUsable "İb.cd".toList {} {} "İb".toList := by
    constructor <;> decide +kernel
  have hsimple : ¬ ({} : SearchSettings).maxPatternComplexity <
      patternComplexity "İb.cd".toList := by
    decide +kernel
  refine ⟨husable, heligible.mpr ⟨hsimple, _, husable⟩, htrigrams ⟨_, husable⟩, ?_, ?_⟩
  · decide +kernel
  · decide +kernel

end TrigramSearch.Eligibility
