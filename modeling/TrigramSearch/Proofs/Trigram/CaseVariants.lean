import Mathlib.Data.List.Forall2
import TrigramSearch.Proofs.Text.Occurrence
import TrigramSearch.Proofs.Trigram.Windows

/-!
# Trigrams up to letter case

Where case is ignored, a text that matches a literal need not contain it, but
some text of the same length whose characters are case variants of those of the
literal.  What such an ASCII character stands for can be listed
(`IsAsciiVariant`): the letter in its other case and, outside of ASCII, the
Kelvin sign and the long s.

These are the case variants that patterns go by (`Regex.variant_iff`), and they
are the characters that have the fold of the literal's character
(`foldChar_eq_iff`), although the fold comes from another table, of full lower
case.  So the fold keeps all trigrams of a literal, and it takes no other
character for an ASCII one.

## Main results

* `Regex.variant_iff`, `foldChar_eq_iff` — the two tables agree about ASCII
  characters.
* `windows_of_variants` — the trigrams of a literal are windows of each text that
  contains it up to letter case, and of each text that contains it as it is.
-/

namespace TrigramSearch

/-- What an ASCII character stands for where case is ignored: itself, the letter in lower and in
upper case, the Kelvin sign for a `k`, and the long s for an `s`. -/
def IsAsciiVariant (c d : Char) : Prop :=
  d = c ∨ d = c.toLower ∨ d = c.toUpper ∨ (c.toLower = 'k' ∧ d = '\u212a') ∨
    (c.toLower = 's' ∧ d = '\u017f')

instance (c d : Char) : Decidable (IsAsciiVariant c d) :=
  inferInstanceAs (Decidable (d = c ∨ d = c.toLower ∨ d = c.toUpper ∨
    (c.toLower = 'k' ∧ d = '\u212a') ∨ (c.toLower = 's' ∧ d = '\u017f')))

namespace LetterCase

/-! ## The case variants of ASCII characters -/

private theorem isAsciiVariant_of_mem : ∀ n < 128, ∀ m ∈ asciiVariants n,
    IsAsciiVariant (Char.ofNat n) (Char.ofNat m) := by
  decide +kernel

private theorem mem_asciiVariants_letters : ∀ n < 128,
    n ∈ asciiVariants n ∧ (Char.ofNat n).toLower.toNat ∈ asciiVariants n ∧
      (Char.ofNat n).toUpper.toNat ∈ asciiVariants n ∧
      ((Char.ofNat n).toLower = 'k' → 0x212a ∈ asciiVariants n) ∧
      ((Char.ofNat n).toLower = 's' → 0x17f ∈ asciiVariants n) := by
  decide +kernel

private theorem containsCode_asciiVariants : ∀ n < 128, ∀ m ∈ asciiVariants n,
    (Regex.CharSet.ofRanges ((asciiVariants n).map fun n => (n, n))).containsCode m = true := by
  decide +kernel

/-- The case variants of an ASCII character are those that can be listed. -/
theorem isAsciiVariant_iff {c d : Char} (hc : c.toNat < 128) :
    IsAsciiVariant c d ↔ d.toNat ∈ variants c.toNat := by
  rw [variants_ascii hc]
  constructor
  · obtain ⟨hself, hlower, hupper, hkelvin, hlong⟩ := mem_asciiVariants_letters c.toNat hc
    rw [Char.ofNat_toNat] at hlower hupper hkelvin hlong
    rintro (rfl | rfl | rfl | ⟨hk, rfl⟩ | ⟨hs, rfl⟩)
    · exact hself
    · exact hlower
    · exact hupper
    · exact hkelvin hk
    · exact hlong hs
  · intro hmem
    have hvariant := isAsciiVariant_of_mem c.toNat hc d.toNat hmem
    rwa [Char.ofNat_toNat, Char.ofNat_toNat] at hvariant

/-! ## The lower-case table -/

/-- A code point stays, or some entry moves it. -/
theorem apply_cases (t : List CaseRange) (c : Nat) :
    apply t c = c ∨ ∃ r ∈ t, r.covers c = true ∧ apply t c = r.move c := by
  induction t with
  | nil => exact Or.inl rfl
  | cons r rs ih =>
      rw [apply]
      split
      · exact Or.inl rfl
      · split
        · rename_i hcovers
          exact Or.inr ⟨r, List.mem_cons_self, hcovers, rfl⟩
        · rcases ih with hstays | ⟨r', hr', hmoved⟩
          · exact Or.inl hstays
          · exact Or.inr ⟨r', List.mem_cons_of_mem r hr', hmoved⟩

/-- The entries of the lower-case table that lead to ASCII characters: capitals, the dotted capital
I, and the Kelvin sign. -/
private theorem filter_lowerTable :
    lowerTable.filter (fun r => decide ((r.first : Int) + r.offset < 128)) =
      [⟨0x41, 0x5a, 1, 32⟩, ⟨0x130, 0x130, 1, -199⟩, ⟨0x212a, 0x212a, 1, -8383⟩] := by
  rfl

/-- No entry of the lower-case table leads out of the characters. -/
private theorem lowerTable_valid : ∀ r ∈ lowerTable,
    (r.last : Int) + r.offset < 0xd800 ∨
      (0xdfff < (r.first : Int) + r.offset ∧ (r.last : Int) + r.offset < 0x110000) := by
  decide +kernel

/-- The lower case of a character is a character. -/
theorem isValidChar_lower (d : Char) : (apply lowerTable d.toNat).isValidChar := by
  rcases apply_cases lowerTable d.toNat with hstays | ⟨r, hr, hcovers, hmoved⟩
  · rw [hstays]
    exact d.valid
  · have hvalid := lowerTable_valid r hr
    simp only [CaseRange.covers, Bool.and_eq_true, decide_eq_true_eq] at hcovers
    rw [hmoved, CaseRange.move, Nat.isValidChar]
    omega

/-- What an entry moves is found again. -/
theorem CaseRange.source?_of_covers {r : CaseRange} {c f : Nat} (hcovers : r.covers c = true)
    (hmoved : (c : Int) + r.offset = f) : r.source? f = some c := by
  have hsource : ((f : Int) - r.offset).toNat = c := by omega
  rw [source?, hsource, if_pos hcovers]

/-- What has an ASCII character as its lower case, the dotted capital I apart, is a case variant
of it. -/
private theorem mem_asciiVariants_of_lower {n m : Nat} (hn : n < 128) (hm : m ≠ 0x130)
    (h : apply lowerTable m = foldCode n) : m ∈ asciiVariants n := by
  have hf := foldCode_lt hn
  rw [asciiVariants, List.mem_cons]
  rcases apply_cases lowerTable m with hstays | ⟨r, hr, hcovers, hmoved⟩
  · exact Or.inl (hstays.symm.trans h)
  · rw [hmoved, CaseRange.move] at h
    have hrange := hcovers
    simp only [CaseRange.covers, Bool.and_eq_true, decide_eq_true_eq] at hrange
    have hentry : r ∈ lowerTable.filter (fun r => decide ((r.first : Int) + r.offset < 128)) := by
      rw [List.mem_filter, decide_eq_true_eq]
      exact ⟨hr, by omega⟩
    rw [filter_lowerTable] at hentry
    simp only [List.mem_cons, List.not_mem_nil, or_false] at hentry
    -- two of the entries also stand in the table of simple case folding
    have hcase : r ∈ asciiEntries ∧ (m : Int) + r.offset = foldCode n := by
      rcases hentry with rfl | rfl | rfl
      all_goals
        dsimp only at h hrange ⊢
      · exact ⟨by simp [asciiEntries], by omega⟩
      · omega
      · exact ⟨by simp [asciiEntries], by omega⟩
    obtain ⟨hmem, hcode⟩ := hcase
    exact Or.inr (List.mem_filterMap.mpr ⟨r, hmem, CaseRange.source?_of_covers hcovers hcode⟩)

end LetterCase

open LetterCase

/-- Code points tell characters apart. -/
private theorem ofNat_injective {n m : Nat} (hn : n.isValidChar) (hm : m.isValidChar)
    (h : Char.ofNat n = Char.ofNat m) : n = m := by
  rw [Char.ofNat, Char.ofNat, dif_pos hn, dif_pos hm] at h
  exact congrArg Char.toNat h

/-- No other character has the fold of an ASCII character than its case variants. -/
private theorem mem_asciiVariants_of_foldChar {n : Nat} {d : Char} (hn : n < 128)
    (h : Text.foldChar d = [Char.ofNat (foldCode n)]) : d.toNat ∈ asciiVariants n := by
  have hvalid : (foldCode n).isValidChar := Or.inl (Nat.lt_trans (foldCode_lt hn) (by decide))
  rw [Text.foldChar] at h
  split at h
  · rename_i hlong
    have hs : 0x73 = foldCode n :=
      ofNat_injective (by decide) hvalid (List.cons.inj h).1
    rw [hlong, asciiVariants, ← hs]
    decide
  · rw [lowerCase] at h
    split at h
    · cases (List.cons.inj h).2
    · rename_i hdotted
      have hlower : apply lowerTable d.toNat = foldCode n :=
        ofNat_injective (isValidChar_lower d) hvalid (List.cons.inj h).1
      exact mem_asciiVariants_of_lower hn hdotted hlower

/-- The characters with the fold of an ASCII character are its case variants. -/
theorem foldChar_eq_iff {c d : Char} (hc : c.toNat < 128) :
    Text.foldChar d = Text.foldChar c ↔ IsAsciiVariant c d := by
  rw [isAsciiVariant_iff hc]
  constructor
  · intro h
    have hfold := foldChar_ascii c.toNat hc
    rw [Char.ofNat_toNat] at hfold
    rw [variants_ascii hc]
    exact mem_asciiVariants_of_foldChar hc (h.trans hfold)
  · intro hmem
    have hfold := foldChar_of_mem_variants hc hmem
    rwa [Char.ofNat_toNat, Char.ofNat_toNat] at hfold

/-- Where case is ignored, an ASCII character of a pattern stands for its case variants. -/
theorem Regex.variant_iff {c d : Char} (hc : c.toNat < 128) :
    Regex.Variant true c d ↔ IsAsciiVariant c d := by
  rw [isAsciiVariant_iff hc]
  constructor
  · exact fun h => Regex.CharSet.mem_variants_of_contains h
  · intro hmem
    rw [variants_ascii hc] at hmem
    have hcontains := containsCode_asciiVariants c.toNat hc d.toNat hmem
    rw [← variants_ascii hc] at hcontains
    exact hcontains

/-! ## Trigrams -/

/-- Texts that differ in case only have the same fold. -/
theorem fold_eq_of_variants {l u : List Char} (hl : ∀ c ∈ l, c.toNat < 128)
    (h : List.Forall₂ IsAsciiVariant l u) : Text.fold u = Text.fold l := by
  induction h with
  | nil => rfl
  | cons hvariant _ ih =>
      have hchar := (foldChar_eq_iff (hl _ List.mem_cons_self)).mpr hvariant
      rw [Text.fold_cons, Text.fold_cons, hchar, ih fun c hc => hl c (List.mem_cons_of_mem _ hc)]

/-- The trigrams of a text that has the fold of a part of another are windows of that one. -/
theorem mem_windows_of_fold_eq {l u text : List Char} (hfold : Text.fold u = Text.fold l)
    (hu : u <:+: text) {g : Trigram} (hg : g ∈ Trigram.ofText l) : g ∈ Trigram.windows text := by
  rw [Trigram.mem_ofText_iff, Trigram.windows, ← hfold] at hg
  exact Trigram.windows_subset_of_infix hu hg

/-- **Trigrams up to letter case.**  An ASCII character of a pattern stands, where case is ignored,
for exactly the characters that are listed, and these are exactly the characters that have its
fold.  So a text that contains an ASCII literal up to case has all trigrams of the literal among
its windows; and a text that contains any literal as it is has too. -/
theorem windows_of_variants :
    (∀ c d : Char, c.toNat < 128 →
      (Regex.Variant true c d ↔ IsAsciiVariant c d) ∧
        (Text.foldChar d = Text.foldChar c ↔ IsAsciiVariant c d)) ∧
    (∀ l u text : List Char, (∀ c ∈ l, c.toNat < 128) → List.Forall₂ IsAsciiVariant l u →
      u <:+: text → ∀ g ∈ Trigram.ofText l, g ∈ Trigram.windows text) ∧
    ∀ l text : List Char, l <:+: text → ∀ g ∈ Trigram.ofText l, g ∈ Trigram.windows text := by
  refine ⟨fun c d hc => ⟨Regex.variant_iff hc, foldChar_eq_iff hc⟩, ?_, ?_⟩
  · intro l u text hl hvariants hu g hg
    exact mem_windows_of_fold_eq (fold_eq_of_variants hl hvariants) hu hg
  · intro l text hl g hg
    exact mem_windows_of_fold_eq rfl hl hg

/-- The Kelvin sign and the long s for two letters of a literal, behind a character whose fold has
two; and the same text as a literal. -/
theorem windows_of_variants_kelvin :
    let l := "Kiss".toList
    let u := ['\u212a', 'I', '\u017f', 's']
    let text := ['\u0130'] ++ u ++ ['!']
    (∀ c ∈ l, c.toNat < 128) ∧ List.Forall₂ IsAsciiVariant l u ∧ u <:+: text ∧
      (∀ g ∈ Trigram.ofText l, g ∈ Trigram.windows text) ∧
      (∀ g ∈ Trigram.ofText u, g ∈ Trigram.windows text) ∧
      (Regex.Variant true 'K' '\u212a' ↔ IsAsciiVariant 'K' '\u212a') ∧
      (Trigram.ofText l).length = 2 := by
  intro l u text
  obtain ⟨hcharacters, hcase, hverbatim⟩ := windows_of_variants
  have hall : l.all (fun c => c.toNat < 128) = true := by decide
  have hascii : ∀ c ∈ l, c.toNat < 128 := fun c hc => by
    simpa only [decide_eq_true_eq] using List.all_eq_true.mp hall c hc
  have hvariants : List.Forall₂ IsAsciiVariant l u := by decide +kernel
  have hu : u <:+: text := ⟨['\u0130'], ['!'], rfl⟩
  exact ⟨hascii, hvariants, hu, hcase l u text hascii hvariants hu, hverbatim u text hu,
    (hcharacters 'K' '\u212a' (by decide)).1, by decide +kernel⟩

end TrigramSearch
