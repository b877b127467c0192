import Mathlib.Data.List.Induction
import Mathlib.Data.Nat.Bitwise
import TrigramSearch.Proofs.Bloom.Bits

/-!
# Words and masks of a document filter

A filter does not touch a bit by its number.  It takes a word of the array and a
mask (`address`), sets the bits of the mask there (`orAt`) or looks at them
(`testAt`).  The number of bits is a multiple of eight, so the last word may be
used in part only, and two things could go wrong: a word that does not exist, and
a bit of the last word behind the last bit of the filter.  Neither happens, for
any size and whatever the hash is, because a position is a remainder modulo the
number of bits.

A set bit behind the last one would also be counted (`ones_eq_countP_words`), so
that a filter could be more than full.  As there is none, the count is one over
the bits of the filter (`ones_eq_countP`).

## Main results

* `insert_eq_orAt`, `contains_eq_testAt`: words and masks are all that an
  insertion and a test use.
* `ones_eq_countP`: what the number of set bits counts.
* `Grows.ones_le`: it does not decrease when bits are set.
* `run_inRange`: all of this after any insertions, for every size.
-/

namespace TrigramSearch.DocumentFilter

/-! ## Words and masks -/

/-- The word and the mask through which a trigram is set and tested under a seed. -/
def address (f : DocumentFilter) (g : Trigram) (seed : Nat) : Nat × UInt64 :=
  (f.position g seed / 64, 1 <<< UInt64.ofNat (f.position g seed % 64))

/-- Sets the bits of a mask in a word. -/
def orAt (f : DocumentFilter) (a : Nat × UInt64) : DocumentFilter :=
  { f with words := f.words.modify a.1 (· ||| a.2) }

/-- Whether a word has a bit of a mask. -/
def testAt (f : DocumentFilter) (a : Nat × UInt64) : Bool :=
  (f.words[a.1]?).getD 0 &&& a.2 != 0

/-- An insertion sets one mask for each seed, in their order. -/
theorem insert_eq_orAt (f : DocumentFilter) (g : Trigram) :
    f.insert g = ((List.range f.hashCount).map (f.address g)).foldl orAt f := by
  unfold insert positions
  rw [List.foldl_map, List.foldl_map]
  rfl

theorem toNat_address (f : DocumentFilter) (g : Trigram) (seed : Nat) :
    (f.address g seed).2.toNat = 2 ^ (f.position g seed % 64) :=
  toNat_mask (Nat.mod_lt _ (by decide))

/-- The mask of a trigram meets its word iff the word has the bit of the trigram. -/
theorem testAt_address (f : DocumentFilter) (g : Trigram) (seed : Nat) :
    f.testAt (f.address g seed) = f.bit (f.position g seed) := by
  have hpow := Nat.two_pow_pos (f.position g seed % 64)
  have hzero : ∀ w : UInt64, w = 0 ↔ w.toNat = 0 := fun w => UInt64.toNat_inj.symm
  rw [Bool.eq_iff_iff, testAt, bne_iff_ne, ne_eq, hzero, UInt64.toNat_and, toNat_address,
    Nat.and_two_pow, bit]
  show ¬ ((((f.words[f.position g seed / 64]?).getD 0).toNat.testBit
    (f.position g seed % 64)).toNat * 2 ^ (f.position g seed % 64) = 0) ↔ _
  cases ((f.words[f.position g seed / 64]?).getD 0).toNat.testBit (f.position g seed % 64) with
  | false => simp
  | true => simp

/-- A trigram is contained iff each of its masks meets its word. -/
theorem contains_eq_testAt (f : DocumentFilter) (g : Trigram) :
    f.contains g = (List.range f.hashCount).all fun seed => f.testAt (f.address g seed) := by
  rw [Bool.eq_iff_iff, contains_iff]
  simp [positions, testAt_address]

/-- The mask of a trigram has one bit, and with its word it is the position of the trigram. -/
theorem testBit_address (f : DocumentFilter) (g : Trigram) (seed k : Nat) :
    (f.address g seed).2.toNat.testBit k = true ↔
      64 * (f.address g seed).1 + k = f.position g seed := by
  rw [toNat_address, Nat.testBit_two_pow, decide_eq_true_eq]
  show f.position g seed % 64 = k ↔ 64 * (f.position g seed / 64) + k = f.position g seed
  omega

theorem address_lt {f : DocumentFilter} (h : f.Sized) (g : Trigram) (seed : Nat) :
    (f.address g seed).1 < f.words.size := by
  have hpos := position_lt h g seed
  have hcovered := h.covered
  show f.position g seed / 64 < f.words.size
  omega

/-! ## Counting set bits -/

private theorem onesOfWord_eq (w : UInt64) :
    onesOfWord w = (List.range 64).countP fun k => w.toNat.testBit k := by
  unfold onesOfWord
  split
  · rename_i hzero
    subst hzero
    simp
  · rfl

/-- Bit `i` of a list of words. -/
private def bitIn (words : List UInt64) (i : Nat) : Bool :=
  ((words[i / 64]?).getD 0).toNat.testBit (i % 64)

/-- Another word at the end adds its own bits. -/
private theorem countP_bitIn_concat (words : List UInt64) (w : UInt64) :
    (List.range (64 * (words.length + 1))).countP (bitIn (words ++ [w])) =
      (List.range (64 * words.length)).countP (bitIn words) + onesOfWord w := by
  have hbefore : (List.range (64 * words.length)).countP (bitIn (words ++ [w])) =
      (List.range (64 * words.length)).countP (bitIn words) := by
    apply List.countP_congr
    intro i hi
    rw [List.mem_range] at hi
    rw [bitIn, bitIn, List.getElem?_append_left (by omega)]
  have hlast : (List.range 64).countP (bitIn (words ++ [w]) ∘ (64 * words.length + ·)) =
      onesOfWord w := by
    rw [onesOfWord_eq]
    apply List.countP_congr
    intro k hk
    rw [List.mem_range] at hk
    have hword : (64 * words.length + k) / 64 = words.length := by omega
    have hplace : (64 * words.length + k) % 64 = k := by omega
    simp [bitIn, hword, hplace]
  rw [Nat.mul_succ, List.range_add, List.countP_append, List.countP_map, hbefore, hlast]

private theorem foldl_onesOfWord (words : List UInt64) :
    words.foldl (fun n w => n + onesOfWord w) 0 =
      (List.range (64 * words.length)).countP (bitIn words) := by
  induction words using List.reverseRecOn with
  | nil => rfl
  | append_singleton words w ih =>
      rw [List.foldl_append, ih, List.length_append, List.length_singleton, countP_bitIn_concat]
      rfl

/-- The set bits are counted word by word, from the first bit of the first word to the last bit
of the last. -/
theorem ones_eq_countP_words (f : DocumentFilter) :
    f.ones = (List.range (64 * f.words.size)).countP f.bit := by
  have hbit : bitIn f.words.toList = f.bit := by
    funext i
    simp [bitIn, bit]
  rw [ones, ← Array.foldl_toList, foldl_onesOfWord, hbit, Array.length_toList]

/-- Where no bit behind the last one is set, only the bits of the filter are counted. -/
theorem ones_eq_countP {f : DocumentFilter} (h : f.Sized)
    (hclear : ∀ j, f.bit j = true → j < f.bitCount) :
    f.ones = (List.range f.bitCount).countP f.bit := by
  have hbehind : (List.range (64 * f.words.size - f.bitCount)).countP
      (f.bit ∘ (f.bitCount + ·)) = 0 := by
    rw [List.countP_eq_zero]
    intro k _ hset
    exact absurd (hclear _ hset) (Nat.not_lt.mpr (Nat.le_add_right f.bitCount k))
  have hsplit : 64 * f.words.size = f.bitCount + (64 * f.words.size - f.bitCount) := by
    have hcovered := h.covered
    omega
  rw [ones_eq_countP_words, hsplit, List.range_add, List.countP_append, List.countP_map, hbehind,
    Nat.add_zero]

theorem Grows.ones_le {f f' : DocumentFilter} (h : Grows f f')
    (hsize : f'.words.size = f.words.size) : f.ones ≤ f'.ones := by
  rw [ones_eq_countP_words, ones_eq_countP_words, hsize]
  exact List.countP_mono_left fun j _ hj => h.bits j hj

/-! ## Any insertions -/

/-- What can be inserted into a filter. -/
inductive Insertion where
  | trigram (g : Trigram)
  | text (t : List Char)

/-- The trigrams of an insertion. -/
def Insertion.trigrams : Insertion → List Trigram
  | .trigram g => [g]
  | .text t => Trigram.windows t

/-- The filter after an insertion. -/
def apply (f : DocumentFilter) : Insertion → DocumentFilter
  | .trigram g => f.insert g
  | .text t => f.insertText t

/-- A filter of a size after several insertions. -/
def run (sizeBytes hashCount : Nat) (insertions : List Insertion) : DocumentFilter :=
  insertions.foldl apply (empty sizeBytes hashCount)

theorem foldl_apply (f : DocumentFilter) (insertions : List Insertion) :
    insertions.foldl apply f = (insertions.flatMap Insertion.trigrams).foldl insert f := by
  induction insertions generalizing f with
  | nil => rfl
  | cons i rest ih =>
      have hfirst : f.apply i = i.trigrams.foldl insert f := by
        cases i <;> rfl
      rw [List.foldl_cons, ih, hfirst, List.flatMap_cons, List.foldl_append]

theorem foldl_apply_grows {f : DocumentFilter} (h : f.Sized) (insertions : List Insertion) :
    Grows f (insertions.foldl apply f) := by
  rw [foldl_apply]
  exact insertAll_grows h _

theorem foldl_apply_size (f : DocumentFilter) (insertions : List Insertion) :
    (insertions.foldl apply f).words.size = f.words.size := by
  rw [foldl_apply]
  exact insertAll_size _ f

/-- A word has the bits of the filter from 64 times its number on. -/
theorem bit_word {f : DocumentFilter} {w : Nat} {word : UInt64} (hword : f.words[w]? = some word)
    {k : Nat} (hk : k < 64) : f.bit (64 * w + k) = word.toNat.testBit k := by
  have hdiv : (64 * w + k) / 64 = w := by omega
  have hmod : (64 * w + k) % 64 = k := by omega
  rw [bit, hdiv, hmod, hword, Option.getD_some]

/-- Nothing in a filter is outside of its bits, and trigrams account for all that is set. -/
structure InRange (f : DocumentFilter) (inserted : List Trigram) : Prop where
  /-- There are words for all bits, and none without a bit of the filter. -/
  size : f.words.size = (f.bitCount + 63) / 64
  /-- An insertion sets the masks at its addresses, and a test looks at the same. -/
  sets : ∀ g, f.insert g = ((List.range f.hashCount).map (f.address g)).foldl orAt f
  tests : ∀ g, f.contains g = (List.range f.hashCount).all fun seed => f.testAt (f.address g seed)
  word_lt : ∀ g seed, (f.address g seed).1 < f.words.size
  /-- A mask has one bit; together with the word it is the position of the trigram. -/
  mask : ∀ g seed k, (f.address g seed).2.toNat.testBit k = true ↔
    64 * (f.address g seed).1 + k = f.position g seed
  position_lt : ∀ g seed, f.position g seed < f.bitCount
  /-- In no word, the last one included, a bit behind the last bit of the filter is set. -/
  set_lt : ∀ w word, f.words[w]? = some word → ∀ k, word.toNat.testBit k = true →
    64 * w + k < f.bitCount
  set_iff : ∀ j, f.bit j = true ↔ ∃ g ∈ inserted, ∃ seed < f.hashCount, f.position g seed = j
  ones_le : f.ones ≤ f.bitCount

/-- A filter in which the bits of the inserted trigrams are set and no others. -/
theorem inRange_of_bits {f : DocumentFilter} {inserted : List Trigram} (h : f.Sized)
    (hsize : f.words.size = (f.bitCount + 63) / 64)
    (hbits : ∀ j, f.bit j = true ↔ ∃ g ∈ inserted, j ∈ f.positions g) : f.InRange inserted := by
  have hlt : ∀ j, f.bit j = true → j < f.bitCount := by
    intro j hj
    obtain ⟨g, _, hpos⟩ := (hbits j).mp hj
    exact positions_lt h g j hpos
  constructor
  case size => exact hsize
  case sets => exact f.insert_eq_orAt
  case tests => exact f.contains_eq_testAt
  case word_lt => exact fun g seed => address_lt h g seed
  case mask => exact f.testBit_address
  case position_lt => exact fun g seed => DocumentFilter.position_lt h g seed
  case set_lt =>
    intro w word hword k hk
    have hbit : k < 64 := by
      by_contra hge
      have hpow : 2 ^ 64 ≤ 2 ^ k := Nat.pow_le_pow_right (by decide) (by omega)
      rw [Nat.testBit_lt_two_pow (Nat.lt_of_lt_of_le word.toNat_lt hpow)] at hk
      cases hk
    exact hlt _ ((bit_word hword hbit).trans hk)
  case set_iff =>
    intro j
    simp only [hbits, positions, List.mem_map, List.mem_range]
  case ones_le =>
    rw [ones_eq_countP h hlt]
    exact List.countP_le_length.trans (Nat.le_of_eq List.length_range)

/-- **Bits in range.**  For every size and every number of hash functions, after any insertions,
every word and every bit that a trigram uses exists, no bit behind the last one is set, and the
set bits are those of the inserted trigrams.  There are at most as many as the filter has bits,
and later insertions do not lower their number. -/
theorem run_inRange (sizeBytes hashCount : Nat) (insertions : List Insertion) :
    let f := run sizeBytes hashCount insertions
    f.bitCount = max sizeBytes 1 * 8 ∧ f.hashCount = max hashCount 1 ∧
      f.InRange (insertions.flatMap Insertion.trigrams) ∧
      ∀ later, f.ones ≤ (run sizeBytes hashCount (insertions ++ later)).ones := by
  intro f
  have hempty := empty_sized sizeBytes hashCount
  have hgrows : Grows (empty sizeBytes hashCount) f := foldl_apply_grows hempty insertions
  refine ⟨hgrows.bitCount, hgrows.hashCount, ?_, ?_⟩
  · apply inRange_of_bits hgrows.sized
    · rw [hgrows.bitCount, show f.words.size = _ from foldl_apply_size _ insertions]
      simp [empty]
    · intro j
      simp only [hgrows.positions]
      rw [show f = _ from foldl_apply _ insertions, bit_insertAll hempty, bit_empty]
      simp
  · intro later
    rw [run, List.foldl_append]
    exact (foldl_apply_grows hgrows.sized later).ones_le (foldl_apply_size f later)

/-- Three bytes leave most of the only word unused, and many trigrams share their bits. -/
example :
    let f := run 3 0 [.text "abcdefghijklmnopqrstuvwxyz".toList, .trigram ⟨'x', 'y', 'z'⟩]
    f.bitCount = 24 ∧ f.words.size = 1 ∧ f.ones = 18 := by
  decide +kernel

end TrigramSearch.DocumentFilter
