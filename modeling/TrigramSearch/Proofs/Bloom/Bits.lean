import Mathlib.Algebra.Group.Nat.Defs
import TrigramSearch.Bloom.Filter
import TrigramSearch.Proofs.Trigram.Windows

/-!
# The bits of a document filter

Bit `i` of a filter is bit `i % 64` of word `i / 64`.  Through this view every
operation is a statement about sets of positions: setting a bit sets this one
and no other (`bit_setBit`), so an insertion adds the positions of the trigram
and nothing else (`bit_insertText`).

The view needs every position to lie in some word.  `DocumentFilter.Sized` says
so; it holds of the empty filter, whatever its size, and no operation changes
the number of words.

A position is a remainder modulo the number of bits.  If that number fits into a
word, both can be computed in words (`place`); if not, they cannot, because the
product that gives the number of bits wraps around.

## Main results

* `toNat_bitsWord_iff`: the number of bits, computed in words.
* `toNat_place`: the positions, computed in words.
* `bit_insertAll`, `bit_insertText`: which bits are set after trigrams or a text have
  been inserted.
* `Grows.contains`: a filter with more bits set loses no trigram.
* `contains_iff`: a trigram is contained iff all its positions are set.
* `contains_ofText`: the filter of a text contains its windows.
* `ext_bits`: a filter is determined by its shape and its bits.
* `bit_ofTexts`, `contains_ofTexts_iff`: the bits of the filter of several texts,
  and the trigrams that it contains.
* `ofTexts_grows_of_subset`, `ofTexts_congr`: that filter grows with the set of
  the texts, and depends on nothing else.
-/

namespace TrigramSearch.DocumentFilter

/-- There are words for all bits, and at least one bit. -/
structure Sized (f : DocumentFilter) : Prop where
  positive : 0 < f.bitCount
  covered : f.bitCount ≤ 64 * f.words.size

theorem empty_sized (sizeBytes hashCount : Nat) : (empty sizeBytes hashCount).Sized where
  positive := by
    simp only [empty]
    omega
  covered := by
    simp only [empty, Array.size_replicate]
    omega

theorem position_lt {f : DocumentFilter} (h : f.Sized) (g : Trigram) (seed : Nat) :
    f.position g seed < f.bitCount :=
  Nat.mod_lt _ h.positive

/-! ## Words for sizes and positions -/

/-- The number of bits of a filter of a size, computed in words. -/
def bitsWord (sizeBytes : Nat) : UInt64 := UInt64.ofNat (max sizeBytes 1) * 8

/-- The position of a trigram in filters of a size under a seed, computed in words. -/
def place (sizeBytes : Nat) (g : Trigram) (seed : Nat) : UInt64 :=
  g.hash64 seed % bitsWord sizeBytes

/-- In words, the number of bits is right for the sizes that fit, and for no others. -/
theorem toNat_bitsWord_iff (sizeBytes hashCount : Nat) :
    (bitsWord sizeBytes).toNat = (empty sizeBytes hashCount).bitCount ↔ Fits sizeBytes := by
  have hword : (bitsWord sizeBytes).toNat = max sizeBytes 1 * 8 % 2 ^ 64 := by
    rw [bitsWord, UInt64.toNat_mul, UInt64.toNat_ofNat', Nat.mod_mul_mod]
    rfl
  show _ = max sizeBytes 1 * 8 ↔ sizeBytes * 8 < 2 ^ 64
  rw [hword]
  omega

/-- The positions in filters of a size that fits are those computed in words. -/
theorem toNat_place {sizeBytes : Nat} (h : Fits sizeBytes) (hashCount : Nat) (g : Trigram)
    (seed : Nat) :
    (place sizeBytes g seed).toNat = (empty sizeBytes hashCount).position g seed := by
  rw [place, UInt64.toNat_mod, (toNat_bitsWord_iff sizeBytes hashCount).mpr h, position]

/-- The first sizes that do not fit have no bits, or those of one byte. -/
example : bitsWord (1 <<< 61) = 0 ∧ bitsWord (1 <<< 61 + 1) = 8 := by
  decide

/-! ## Setting one bit -/

theorem setBit_sized {f : DocumentFilter} (h : f.Sized) (i : Nat) : (f.setBit i).Sized where
  positive := h.positive
  covered := by
    have hcovered := h.covered
    simpa [setBit] using hcovered

/-- The mask of bit `i` of a word has this bit and no other. -/
theorem toNat_mask {i : Nat} (hi : i < 64) : (1 <<< UInt64.ofNat i : UInt64).toNat = 2 ^ i := by
  have hshift : (UInt64.ofNat i).toNat % 64 = i := by
    rw [UInt64.toNat_ofNat']
    omega
  have hlt : 2 ^ i < 2 ^ 64 := Nat.pow_lt_pow_right (by decide) hi
  rw [UInt64.toNat_shiftLeft, hshift, show UInt64.toNat 1 = 1 from rfl, Nat.one_shiftLeft,
    Nat.mod_eq_of_lt hlt]

/-- Setting a bit sets this bit and no other. -/
theorem bit_setBit {f : DocumentFilter} (h : f.Sized) {i : Nat} (hi : i < f.bitCount)
    (j : Nat) : (f.setBit i).bit j = (f.bit j || decide (i = j)) := by
  have hword : i / 64 < f.words.size := by
    have hcovered := h.covered
    omega
  simp only [bit, setBit, Array.getElem?_modify]
  by_cases hsame : i / 64 = j / 64
  · have hget : f.words[j / 64]? = some f.words[i / 64] := by
      rw [← hsame]
      exact Array.getElem?_eq_getElem hword
    have hmask := toNat_mask (Nat.mod_lt i (by decide : 0 < 64))
    have hiff : i % 64 = j % 64 ↔ i = j := by omega
    rw [if_pos hsame, hget]
    simp only [Option.map_some, Option.getD_some, UInt64.toNat_or, Nat.testBit_or, hmask,
      Nat.testBit_two_pow, hiff]
  · have hne : i ≠ j := by
      intro heq
      exact hsame (by rw [heq])
    rw [if_neg hsame]
    simp [hne]

/-! ## Inserting trigrams -/

/-- The positions of a trigram depend on the size of the filter only. -/
theorem positions_congr {f f' : DocumentFilter} (hbits : f.bitCount = f'.bitCount)
    (hhashes : f.hashCount = f'.hashCount) (g : Trigram) : f.positions g = f'.positions g := by
  simp only [positions, hhashes]
  apply List.map_congr_left
  intro seed _
  simp only [position, hbits]

theorem positions_lt {f : DocumentFilter} (h : f.Sized) (g : Trigram) :
    ∀ i ∈ f.positions g, i < f.bitCount := by
  intro i hi
  obtain ⟨seed, _, rfl⟩ := List.mem_map.mp hi
  exact position_lt h g seed

/-- What an operation that only sets bits keeps: the shape of the filter, and the bits that are
set. -/
structure Grows (f f' : DocumentFilter) : Prop where
  bitCount : f'.bitCount = f.bitCount
  hashCount : f'.hashCount = f.hashCount
  sized : f'.Sized
  bits : ∀ j, f.bit j = true → f'.bit j = true

namespace Grows

theorem refl {f : DocumentFilter} (h : f.Sized) : Grows f f := ⟨rfl, rfl, h, fun _ => id⟩

theorem trans {f f' f'' : DocumentFilter} (h : Grows f f') (h' : Grows f' f'') : Grows f f'' where
  bitCount := h'.bitCount.trans h.bitCount
  hashCount := h'.hashCount.trans h.hashCount
  sized := h'.sized
  bits := fun j hj => h'.bits j (h.bits j hj)

theorem positions {f f' : DocumentFilter} (h : Grows f f') (g : Trigram) :
    f'.positions g = f.positions g :=
  positions_congr h.bitCount h.hashCount g

end Grows

theorem setBit_grows {f : DocumentFilter} (h : f.Sized) {i : Nat} (hi : i < f.bitCount) :
    Grows f (f.setBit i) where
  bitCount := rfl
  hashCount := rfl
  sized := setBit_sized h i
  bits := by
    intro j hj
    rw [bit_setBit h hi, hj, Bool.true_or]

private theorem setAll_grows (is : List Nat) :
    ∀ {f : DocumentFilter}, f.Sized → (∀ i ∈ is, i < f.bitCount) →
      Grows f (is.foldl setBit f) := by
  induction is with
  | nil =>
      intro f h _
      exact Grows.refl h
  | cons i is ih =>
      intro f h hlt
      have hhead := setBit_grows h (hlt i List.mem_cons_self)
      exact hhead.trans (ih hhead.sized fun k hk => hlt k (List.mem_cons_of_mem i hk))

private theorem bit_setAll (is : List Nat) :
    ∀ {f : DocumentFilter}, f.Sized → (∀ i ∈ is, i < f.bitCount) →
      ∀ j, (is.foldl setBit f).bit j = true ↔ f.bit j = true ∨ j ∈ is := by
  induction is with
  | nil =>
      intro f h hlt j
      simp
  | cons i is ih =>
      intro f h hlt j
      have hi : i < f.bitCount := hlt i List.mem_cons_self
      have htail : ∀ k ∈ is, k < (f.setBit i).bitCount := by
        intro k hk
        exact hlt k (List.mem_cons_of_mem i hk)
      rw [List.foldl_cons, ih (setBit_sized h i) htail j, bit_setBit h hi j]
      simp only [Bool.or_eq_true, decide_eq_true_eq, List.mem_cons]
      rw [or_assoc, eq_comm (a := i)]

theorem insert_grows {f : DocumentFilter} (h : f.Sized) (g : Trigram) : Grows f (f.insert g) :=
  setAll_grows (f.positions g) h (positions_lt h g)

theorem bit_insert {f : DocumentFilter} (h : f.Sized) (g : Trigram) (j : Nat) :
    (f.insert g).bit j = true ↔ f.bit j = true ∨ j ∈ f.positions g :=
  bit_setAll (f.positions g) h (positions_lt h g) j

/-! ## One insertion after the other -/

section
variable {A : Type} {op : DocumentFilter → A → DocumentFilter}

/-- Operations that keep what is set do so one after the other. -/
private theorem foldl_grows (hop : ∀ {f : DocumentFilter}, f.Sized → ∀ a, Grows f (op f a))
    (as : List A) : ∀ {f : DocumentFilter}, f.Sized → Grows f (as.foldl op f) := by
  induction as with
  | nil =>
      intro f h
      exact Grows.refl h
  | cons a as ih =>
      intro f h
      have hhead := hop h a
      exact hhead.trans (ih hhead.sized)

/-- The bits that operations set one after the other, if those that each of them sets depend on
the shape of the filter only. -/
private theorem bit_foldl {sets : DocumentFilter → A → Nat → Prop}
    (hop : ∀ {f : DocumentFilter}, f.Sized → ∀ a, Grows f (op f a))
    (hbit : ∀ {f : DocumentFilter}, f.Sized → ∀ a j,
      (op f a).bit j = true ↔ f.bit j = true ∨ sets f a j)
    (hshape : ∀ {f f' : DocumentFilter}, Grows f f' → ∀ a j, sets f' a j ↔ sets f a j)
    (as : List A) :
    ∀ {f : DocumentFilter}, f.Sized → ∀ j,
      (as.foldl op f).bit j = true ↔ f.bit j = true ∨ ∃ a ∈ as, sets f a j := by
  induction as with
  | nil =>
      intro f h j
      simp
  | cons a as ih =>
      intro f h j
      have hhead := hop h a
      rw [List.foldl_cons, ih hhead.sized j, hbit h a j]
      simp only [hshape hhead, List.mem_cons, exists_eq_or_imp, or_assoc]

end

theorem insertAll_grows {f : DocumentFilter} (h : f.Sized) (gs : List Trigram) :
    Grows f (gs.foldl insert f) :=
  foldl_grows insert_grows gs h

/-- After trigrams have been inserted, the set bits are those from before and their positions. -/
theorem bit_insertAll {f : DocumentFilter} (h : f.Sized) (gs : List Trigram) (j : Nat) :
    (gs.foldl insert f).bit j = true ↔ f.bit j = true ∨ ∃ g ∈ gs, j ∈ f.positions g := by
  have hshape : ∀ {f f' : DocumentFilter}, Grows f f' → ∀ g j,
      j ∈ f'.positions g ↔ j ∈ f.positions g := by
    intro f f' hgrows g j
    rw [hgrows.positions]
  exact bit_foldl insert_grows bit_insert hshape gs h j

theorem insertText_grows {f : DocumentFilter} (h : f.Sized) (text : List Char) :
    Grows f (f.insertText text) :=
  insertAll_grows h (Trigram.windows text)

/-- After a text has been inserted, the set bits are those from before and the positions of
its windows. -/
theorem bit_insertText {f : DocumentFilter} (h : f.Sized) (text : List Char) (j : Nat) :
    (f.insertText text).bit j = true ↔
      f.bit j = true ∨ ∃ g ∈ Trigram.windows text, j ∈ f.positions g :=
  bit_insertAll h (Trigram.windows text) j

/-! ## Looking for trigrams -/

private theorem containsFrom_iff (f : DocumentFilter) (g : Trigram) :
    ∀ count seed, f.containsFrom g count seed = true ↔
      ∀ k < count, f.bit (f.position g (seed + k)) = true := by
  intro count
  induction count with
  | zero =>
      intro seed
      simp [containsFrom]
  | succ count ih =>
      intro seed
      rw [containsFrom, Bool.and_eq_true, ih]
      constructor
      · rintro ⟨hfirst, hrest⟩ k hk
        cases k with
        | zero => exact hfirst
        | succ k =>
            have hlater := hrest k (by omega)
            rwa [show seed + 1 + k = seed + (k + 1) by omega] at hlater
      · intro hall
        refine ⟨hall 0 (by omega), ?_⟩
        intro k hk
        rw [show seed + 1 + k = seed + (k + 1) by omega]
        exact hall (k + 1) (by omega)

/-- A trigram is contained iff all its positions are set. -/
theorem contains_iff (f : DocumentFilter) (g : Trigram) :
    f.contains g = true ↔ ∀ i ∈ f.positions g, f.bit i = true := by
  rw [contains, containsFrom_iff]
  simp [positions]

/-- Setting bits loses no trigram. -/
theorem Grows.contains {f f' : DocumentFilter} (h : Grows f f') {g : Trigram}
    (hg : f.contains g = true) : f'.contains g = true := by
  rw [contains_iff] at hg ⊢
  rw [h.positions]
  intro i hi
  exact h.bits i (hg i hi)

/-- Every window of an inserted text is contained. -/
theorem contains_insertText {f : DocumentFilter} (h : f.Sized) {text : List Char} {g : Trigram}
    (hg : g ∈ Trigram.windows text) : (f.insertText text).contains g = true := by
  rw [contains_iff, (insertText_grows h text).positions]
  intro i hi
  exact (bit_insertText h text i).mpr (Or.inr ⟨g, hg, hi⟩)

/-! ## The filter of one text -/

/-- The filter of a text alone. -/
def ofText (sizeBytes hashCount : Nat) (text : List Char) : DocumentFilter :=
  (empty sizeBytes hashCount).insertText text

theorem ofText_max (sizeBytes hashCount : Nat) (text : List Char) :
    ofText (max sizeBytes 1) (max hashCount 1) text = ofText sizeBytes hashCount text := by
  simp [ofText, empty]

/-- The filter of a text contains its windows. -/
theorem contains_ofText (sizeBytes hashCount : Nat) {text : List Char} {g : Trigram}
    (hg : g ∈ Trigram.windows text) : (ofText sizeBytes hashCount text).contains g = true :=
  contains_insertText (empty_sized sizeBytes hashCount) hg

/-! ## The filter of several texts -/

/-- The filter into which several texts have been inserted. -/
def ofTexts (sizeBytes hashCount : Nat) (texts : List (List Char)) : DocumentFilter :=
  texts.foldl insertText (empty sizeBytes hashCount)

theorem ofTexts_concat (sizeBytes hashCount : Nat) (texts : List (List Char))
    (text : List Char) :
    ofTexts sizeBytes hashCount (texts ++ [text]) =
      (ofTexts sizeBytes hashCount texts).insertText text := by
  simp [ofTexts]

/-- No bit of an empty filter is set. -/
theorem bit_empty (sizeBytes hashCount i : Nat) : (empty sizeBytes hashCount).bit i = false := by
  simp only [bit, empty, Array.getElem?_replicate]
  split <;> exact Nat.zero_testBit _

theorem ofTexts_grows (sizeBytes hashCount : Nat) (texts : List (List Char)) :
    Grows (empty sizeBytes hashCount) (ofTexts sizeBytes hashCount texts) :=
  foldl_grows insertText_grows texts (empty_sized sizeBytes hashCount)

/-- Three characters in a row of the folded text use bit `i` of the filters of a size, under one
of the seeds. -/
def UsesBit (sizeBytes hashCount : Nat) (text : List Char) (i : Nat) : Prop :=
  ∃ w : Trigram, w.toList <:+: Text.fold text ∧ ∃ seed < max hashCount 1,
    (empty sizeBytes hashCount).position w seed = i

theorem mem_positions_empty {sizeBytes hashCount : Nat} {g : Trigram} {i : Nat} :
    i ∈ (empty sizeBytes hashCount).positions g ↔
      ∃ seed < max hashCount 1, (empty sizeBytes hashCount).position g seed = i := by
  simp only [positions, List.mem_map, List.mem_range]
  rfl

/-- What stands in a row in the folded text is a window of the text. -/
theorem usesBit_iff {sizeBytes hashCount : Nat} {text : List Char} {i : Nat} :
    UsesBit sizeBytes hashCount text i ↔
      ∃ w ∈ Trigram.windows text, i ∈ (empty sizeBytes hashCount).positions w := by
  simp only [UsesBit, mem_positions_empty, Trigram.windows, Trigram.mem_windowsOf_iff]

/-- The set bits are those that the texts use. -/
theorem bit_ofTexts (sizeBytes hashCount : Nat) (texts : List (List Char)) (j : Nat) :
    (ofTexts sizeBytes hashCount texts).bit j = true ↔
      ∃ text ∈ texts, UsesBit sizeBytes hashCount text j := by
  have hshape : ∀ {f f' : DocumentFilter}, Grows f f' → ∀ text j,
      (∃ g ∈ Trigram.windows text, j ∈ f'.positions g) ↔
        ∃ g ∈ Trigram.windows text, j ∈ f.positions g := by
    intro f f' hgrows text j
    simp only [hgrows.positions]
  have hempty := empty_sized sizeBytes hashCount
  rw [ofTexts, bit_foldl insertText_grows bit_insertText hshape texts hempty j, bit_empty]
  simp only [usesBit_iff, Bool.false_eq_true, false_or]

/-- More texts set more bits. -/
theorem ofTexts_grows_of_subset (sizeBytes hashCount : Nat) {texts texts' : List (List Char)}
    (h : texts ⊆ texts') :
    Grows (ofTexts sizeBytes hashCount texts) (ofTexts sizeBytes hashCount texts') := by
  have hfew := ofTexts_grows sizeBytes hashCount texts
  have hmany := ofTexts_grows sizeBytes hashCount texts'
  refine ⟨?_, ?_, hmany.sized, ?_⟩
  · rw [hmany.bitCount, hfew.bitCount]
  · rw [hmany.hashCount, hfew.hashCount]
  · intro j hj
    obtain ⟨text, htext, hbit⟩ := (bit_ofTexts sizeBytes hashCount texts j).mp hj
    exact (bit_ofTexts sizeBytes hashCount texts' j).mpr ⟨text, h htext, hbit⟩

/-- A trigram is contained iff each of its bits is used by some text. -/
theorem contains_ofTexts_iff (sizeBytes hashCount : Nat) (texts : List (List Char)) (g : Trigram) :
    (ofTexts sizeBytes hashCount texts).contains g = true ↔
      ∀ seed < max hashCount 1, ∃ text ∈ texts,
        UsesBit sizeBytes hashCount text ((empty sizeBytes hashCount).position g seed) := by
  rw [contains_iff, (ofTexts_grows sizeBytes hashCount texts).positions]
  simp only [bit_ofTexts, mem_positions_empty]
  constructor
  · intro h seed hseed
    exact h _ ⟨seed, hseed, rfl⟩
  · rintro h i ⟨seed, hseed, rfl⟩
    exact h seed hseed

/-! ## Equality of filters -/

private theorem setAll_size (is : List Nat) (f : DocumentFilter) :
    (is.foldl setBit f).words.size = f.words.size := by
  induction is generalizing f with
  | nil => rfl
  | cons i is ih =>
      rw [List.foldl_cons, ih]
      exact Array.size_modify

theorem insertAll_size (gs : List Trigram) (f : DocumentFilter) :
    (gs.foldl insert f).words.size = f.words.size := by
  induction gs generalizing f with
  | nil => rfl
  | cons g gs ih =>
      rw [List.foldl_cons, ih]
      exact setAll_size (f.positions g) f

theorem insertText_size (f : DocumentFilter) (text : List Char) :
    (f.insertText text).words.size = f.words.size :=
  insertAll_size (Trigram.windows text) f

theorem ofTexts_size (sizeBytes hashCount : Nat) (texts : List (List Char)) :
    (ofTexts sizeBytes hashCount texts).words.size = (empty sizeBytes hashCount).words.size := by
  rw [ofTexts]
  generalize empty sizeBytes hashCount = f
  induction texts generalizing f with
  | nil => rfl
  | cons text texts ih => rw [List.foldl_cons, ih, insertText_size]

/-- A filter is determined by its shape and its bits: they make up its words. -/
theorem ext_bits {f f' : DocumentFilter} (hbits : f.bitCount = f'.bitCount)
    (hhashes : f.hashCount = f'.hashCount) (hsize : f.words.size = f'.words.size)
    (h : ∀ j, f.bit j = f'.bit j) : f = f' := by
  have hwords : f.words = f'.words := by
    refine Array.ext hsize fun i hi hi' => ?_
    apply UInt64.toNat_inj.mp
    apply Nat.eq_of_testBit_eq
    intro k
    by_cases hk : k < 64
    · have hbit := h (64 * i + k)
      have hword : (64 * i + k) / 64 = i := by omega
      have hplace : (64 * i + k) % 64 = k := by omega
      simpa [bit, hword, hplace, hi, hi'] using hbit
    · -- a word has no bits from 64 on
      have hhigh : ∀ w : UInt64, w.toNat.testBit k = false := by
        intro w
        have hpow : 2 ^ 64 ≤ 2 ^ k := Nat.pow_le_pow_right (by decide) (by omega)
        exact Nat.testBit_lt_two_pow (Nat.lt_of_lt_of_le w.toNat_lt hpow)
      rw [hhigh, hhigh]
  obtain ⟨words, bitCount, hashCount⟩ := f
  obtain ⟨words', bitCount', hashCount'⟩ := f'
  obtain rfl : words = words' := hwords
  obtain rfl : bitCount = bitCount' := hbits
  obtain rfl : hashCount = hashCount' := hhashes
  rfl

/-- The filter of several texts depends on the set of the texts only. -/
theorem ofTexts_congr (sizeBytes hashCount : Nat) {texts texts' : List (List Char)}
    (h : ∀ text, text ∈ texts ↔ text ∈ texts') :
    ofTexts sizeBytes hashCount texts = ofTexts sizeBytes hashCount texts' := by
  have hgrows := ofTexts_grows sizeBytes hashCount texts
  have hgrows' := ofTexts_grows sizeBytes hashCount texts'
  apply ext_bits
  · rw [hgrows.bitCount, hgrows'.bitCount]
  · rw [hgrows.hashCount, hgrows'.hashCount]
  · rw [ofTexts_size, ofTexts_size]
  · intro j
    rw [Bool.eq_iff_iff, bit_ofTexts, bit_ofTexts]
    simp only [h]

end TrigramSearch.DocumentFilter
