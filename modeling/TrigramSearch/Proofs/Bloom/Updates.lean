import TrigramSearch.Proofs.Bloom.Contents

/-!
# Filter indexes, one change at a time

An insertion is made of small changes: an empty filter is put under an identity
that has none, and then the bits of the text are set one by one.  Each of the
changes is described here by what it does to the identities and to the bits; it
does nothing else, and it takes nothing back.

## Main results

* `contains_register`, `hasBit_register`: an identity is added, and no bit.
* `contains_setBit`, `hasBit_setBit`: a bit is added, and no identity.
* `Uniform.register`, `Uniform.setBit`: the filters stay of one size, one for each
  identity.
* `Uniform.filter?_eq`: such a filter is that of the texts which use its bits.
-/

namespace TrigramSearch

/-- The bits of a text in the filters of a size, in the order in which they are set. -/
def DocumentFilter.bitsOf (sizeBytes hashCount : Nat) (text : List Char) : List Nat :=
  (Trigram.windows text).flatMap (empty sizeBytes hashCount).positions

theorem DocumentFilter.mem_bitsOf_iff {sizeBytes hashCount : Nat} {text : List Char} {i : Nat} :
    i ∈ bitsOf sizeBytes hashCount text ↔ UsesBit sizeBytes hashCount text i := by
  simp only [bitsOf, List.mem_flatMap, usesBit_iff]

theorem DocumentFilter.bitsOf_max (sizeBytes hashCount : Nat) (text : List Char) :
    bitsOf (max sizeBytes 1) (max hashCount 1) text = bitsOf sizeBytes hashCount text := by
  simp [bitsOf, empty]

namespace BloomIndex

/-- Puts an empty filter under an identity that has none. -/
def register (x : BloomIndex) (id : DocumentId) : BloomIndex :=
  if x.contains id then x
  else { x with filters := x.filters ++ [(id, DocumentFilter.empty x.sizeBytes x.hashCount)] }

/-- Sets one bit in the filter of an identity. -/
def setBit (x : BloomIndex) (id : DocumentId) (i : Nat) : BloomIndex :=
  { x with filters := x.filters.map fun e => if e.1 = id then (e.1, e.2.setBit i) else e }

/-- A bit is set in the filter of an identity. -/
def HasBit (x : BloomIndex) (id : DocumentId) (i : Nat) : Prop :=
  ∃ f, x.filter? id = some f ∧ f.bit i = true

/-- The filters are all of the size that was asked for, one for each identity. -/
structure Uniform (x : BloomIndex) (sizeBytes hashCount : Nat) : Prop where
  bytes : x.sizeBytes = max sizeBytes 1
  hashes : x.hashCount = max hashCount 1
  distinct : (x.filters.map Prod.fst).Nodup
  grown : ∀ id f, x.filter? id = some f → (DocumentFilter.empty sizeBytes hashCount).Grows f
  words : ∀ id f, x.filter? id = some f →
    f.words.size = (DocumentFilter.empty sizeBytes hashCount).words.size

/-! ## One turn on the index -/

theorem filter?_register (x : BloomIndex) (id k : DocumentId) :
    (x.register id).filter? k = if k = id then some (x.filterOrEmpty id) else x.filter? k := by
  rw [register, filterOrEmpty]
  by_cases hid : x.contains id = true
  · rw [if_pos hid]
    obtain ⟨f, hf⟩ := Option.isSome_iff_exists.mp hid
    split
    · rename_i hk
      rw [hk, hf, Option.getD_some]
    · rfl
  · have hnone : x.filters.lookup id = none := Option.not_isSome_iff_eq_none.mp hid
    rw [if_neg hid, filter?, filter?, filter?, hnone, Option.getD_none, List.lookup_append]
    by_cases hk : k = id
    · subst hk
      rw [if_pos rfl, hnone, List.lookup_cons_self, Option.none_or]
    · have hne : (k == id) = false := beq_eq_false_iff_ne.mpr hk
      rw [if_neg hk, List.lookup_cons, hne, List.lookup_nil, Option.or_none]

theorem filter?_setBit (x : BloomIndex) (id k : DocumentId) (i : Nat) :
    (x.setBit id i).filter? k =
      (x.filter? k).map fun f => if k = id then f.setBit i else f := by
  rw [filter?, filter?, setBit]
  induction x.filters with
  | nil => rfl
  | cons e rest ih =>
      obtain ⟨key, f⟩ := e
      have hfirst : (if key = id then (key, f.setBit i) else (key, f)) =
          (key, if key = id then f.setBit i else f) := by
        split <;> rfl
      rw [List.map_cons, hfirst, List.lookup_cons, List.lookup_cons]
      by_cases hkey : k = key
      · subst hkey
        rw [beq_self_eq_true, Option.map_some]
      · rw [beq_eq_false_iff_ne.mpr hkey]
        exact ih

theorem contains_register (x : BloomIndex) (id k : DocumentId) :
    (x.register id).contains k = true ↔ x.contains k = true ∨ k = id := by
  rw [contains, filter?_register, contains]
  by_cases hk : k = id <;> simp [hk]

theorem contains_setBit (x : BloomIndex) (id k : DocumentId) (i : Nat) :
    (x.setBit id i).contains k = x.contains k := by
  rw [contains, filter?_setBit, Option.isSome_map, contains]

theorem hasBit_register (x : BloomIndex) (id k : DocumentId) (j : Nat) :
    (x.register id).HasBit k j ↔ x.HasBit k j := by
  rw [HasBit, filter?_register, HasBit]
  by_cases hk : k = id
  · subst hk
    rw [if_pos rfl, filterOrEmpty]
    cases x.filter? k with
    | none => simp [DocumentFilter.bit_empty]
    | some f => rfl
  · rw [if_neg hk]

section
variable {x : BloomIndex} {sizeBytes hashCount : Nat}

theorem hasBit_setBit (h : x.Uniform sizeBytes hashCount) (id k : DocumentId) {i : Nat}
    (hi : i < (DocumentFilter.empty sizeBytes hashCount).bitCount) (j : Nat) :
    (x.setBit id i).HasBit k j ↔
      x.HasBit k j ∨ (x.contains id = true ∧ k = id ∧ j = i) := by
  rw [HasBit, filter?_setBit, HasBit]
  by_cases hk : k = id
  · subst hk
    cases hf : x.filter? k with
    | none => simp [contains, hf]
    | some f =>
        have hgrown := h.grown k f hf
        have hbit := DocumentFilter.bit_setBit hgrown.sized (hgrown.bitCount ▸ hi) j
        simp [contains, hf, hbit, eq_comm (a := i)]
  · simp [hk]

theorem Uniform.register (h : x.Uniform sizeBytes hashCount) (id : DocumentId) :
    (x.register id).Uniform sizeBytes hashCount := by
  have hnew : x.filterOrEmpty id = DocumentFilter.empty sizeBytes hashCount ∨
      x.filter? id = some (x.filterOrEmpty id) := by
    rw [filterOrEmpty, h.bytes, h.hashes]
    cases x.filter? id with
    | none => simp [DocumentFilter.empty]
    | some f => simp
  constructor
  · rw [BloomIndex.register]
    split <;> exact h.bytes
  · rw [BloomIndex.register]
    split <;> exact h.hashes
  · rw [BloomIndex.register]
    split
    · exact h.distinct
    · rename_i hid
      rw [List.map_append, List.nodup_append]
      refine ⟨h.distinct, List.pairwise_singleton _ id, ?_⟩
      intro k hk k' hk' heq
      rw [List.mem_singleton.mp hk'] at heq
      subst heq
      obtain ⟨e, he, rfl⟩ := List.mem_map.mp hk
      exact hid (List.lookup_isSome_iff.mpr ⟨e, he, beq_self_eq_true e.1⟩)
  · intro k f hf
    rw [filter?_register] at hf
    split at hf
    · obtain rfl := Option.some.inj hf
      rcases hnew with hempty | hold
      · rw [hempty]
        exact .refl (DocumentFilter.empty_sized sizeBytes hashCount)
      · exact h.grown id _ hold
    · exact h.grown k f hf
  · intro k f hf
    rw [filter?_register] at hf
    split at hf
    · obtain rfl := Option.some.inj hf
      rcases hnew with hempty | hold
      · rw [hempty]
      · exact h.words id _ hold
    · exact h.words k f hf

theorem Uniform.setBit (h : x.Uniform sizeBytes hashCount) (id : DocumentId) {i : Nat}
    (hi : i < (DocumentFilter.empty sizeBytes hashCount).bitCount) :
    (x.setBit id i).Uniform sizeBytes hashCount := by
  have hset : ∀ k f, (x.setBit id i).filter? k = some f →
      ∃ old, x.filter? k = some old ∧ (f = old.setBit i ∨ f = old) := by
    intro k f hf
    rw [filter?_setBit, Option.map_eq_some_iff] at hf
    obtain ⟨old, hold, rfl⟩ := hf
    refine ⟨old, hold, ?_⟩
    split
    · exact .inl rfl
    · exact .inr rfl
  constructor
  · exact h.bytes
  · exact h.hashes
  · have hkeys : (x.setBit id i).filters.map Prod.fst = x.filters.map Prod.fst := by
      rw [BloomIndex.setBit, List.map_map]
      apply List.map_congr_left
      intro e _
      rw [Function.comp_apply]
      split <;> rfl
    rw [hkeys]
    exact h.distinct
  · intro k f hf
    obtain ⟨old, hold, rfl | rfl⟩ := hset k f hf
    · have hgrown := h.grown k old hold
      exact hgrown.trans (DocumentFilter.setBit_grows hgrown.sized (hgrown.bitCount ▸ hi))
    · exact h.grown k f hold
  · intro k f hf
    obtain ⟨old, hold, rfl | rfl⟩ := hset k f hf
    · rw [← h.words k old hold]
      exact Array.size_modify
    · exact h.words k f hold

/-- A filter is that of some texts if these use its bits and no others. -/
theorem Uniform.filter?_eq (h : x.Uniform sizeBytes hashCount) {id : DocumentId}
    {f : DocumentFilter} (hf : x.filter? id = some f) {texts : List (List Char)}
    (hbits : ∀ j, x.HasBit id j ↔
      ∃ text ∈ texts, DocumentFilter.UsesBit sizeBytes hashCount text j) :
    x.filter? id = some (DocumentFilter.ofTexts sizeBytes hashCount texts) := by
  have hgrown := h.grown id f hf
  have htexts := DocumentFilter.ofTexts_grows sizeBytes hashCount texts
  rw [hf, Option.some.injEq]
  apply DocumentFilter.ext_bits
  · rw [hgrown.bitCount, htexts.bitCount]
  · rw [hgrown.hashCount, htexts.hashCount]
  · rw [h.words id f hf, DocumentFilter.ofTexts_size]
  · intro j
    have hj := hbits j
    simp only [HasBit, hf, Option.some.injEq, exists_eq_left'] at hj
    rw [Bool.eq_iff_iff, hj, DocumentFilter.bit_ofTexts]

theorem empty_uniform (sizeBytes hashCount : Nat) :
    (empty sizeBytes hashCount).Uniform sizeBytes hashCount where
  bytes := rfl
  hashes := rfl
  distinct := List.nodup_nil
  grown := nofun
  words := nofun

end

end BloomIndex

end TrigramSearch
