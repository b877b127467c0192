import TrigramSearch.Bloom.Index
import TrigramSearch.Proofs.Bloom.Bits

/-!
# The contents of a filter index

An insertion changes the filter of one identity and leaves all others alone
(`filter?_insert`).  From this one equation follows what an index is after any
insertions: `Holds` says that each identity has the filter of the texts inserted
under it, in whatever order they came, and that no identity without a text has
one.  In particular an identity covers each of its texts: it passes every probe
that a filter for the text alone passes.

## Main results

* `filter?_insert`: the filters after an insertion.
* `Holds.insert`: the contents of an index, insertion by insertion.
* `Holds.covers`, `probeAll?_of_covers`: an index covers what it holds, and what
  is covered is found.
* `Holds.contains_iff`, `Holds.probe_iff`: the answers of an index from its
  contents.
-/

namespace TrigramSearch.BloomIndex

/-- All filters have the shape that the index gives to a new one. -/
def Sized (x : BloomIndex) : Prop :=
  ∀ id f, x.filter? id = some f → (DocumentFilter.empty x.sizeBytes x.hashCount).Grows f

/-- There is a filter for an identity, and it has the bits of a filter for the text alone. -/
def Covers (x : BloomIndex) (id : DocumentId) (text : List Char) : Prop :=
  ∃ f, x.filter? id = some f ∧ (DocumentFilter.ofText x.sizeBytes x.hashCount text).Grows f

/-- The filter that an insertion under an identity starts from. -/
def filterOrEmpty (x : BloomIndex) (id : DocumentId) : DocumentFilter :=
  (x.filter? id).getD (DocumentFilter.empty x.sizeBytes x.hashCount)

private theorem lookup_insertInto (new : DocumentFilter) (id k : DocumentId) (text : List Char)
    (fs : List (DocumentId × DocumentFilter)) :
    (insertInto new id text fs).lookup k =
      if k = id then some (((fs.lookup id).getD new).insertText text) else fs.lookup k := by
  induction fs with
  | nil =>
      by_cases hk : k = id
      · simp [insertInto, hk]
      · simp [insertInto, List.lookup_cons, hk, beq_eq_false_iff_ne.mpr hk]
  | cons e rest ih =>
      obtain ⟨i, f⟩ := e
      rw [insertInto]
      by_cases hi : i = id
      · subst hi
        rw [if_pos rfl]
        by_cases hk : k = i
        · simp [hk]
        · simp [List.lookup_cons, hk, beq_eq_false_iff_ne.mpr hk]
      · rw [if_neg hi, List.lookup_cons, ih, List.lookup_cons, List.lookup_cons]
        have hid : (id == i) = false := beq_eq_false_iff_ne.mpr (Ne.symm hi)
        by_cases hk : k = i
        · subst hk
          simp [hi]
        · simp [beq_eq_false_iff_ne.mpr hk, hid]

/-- An insertion changes the filter of one identity. -/
theorem filter?_insert (x : BloomIndex) (id k : DocumentId) (text : List Char) :
    (x.insert id text).filter? k =
      if k = id then some ((x.filterOrEmpty id).insertText text) else x.filter? k :=
  lookup_insertInto _ id k text x.filters

theorem filterOrEmpty_grows {x : BloomIndex} (h : x.Sized) (id : DocumentId) :
    (DocumentFilter.empty x.sizeBytes x.hashCount).Grows (x.filterOrEmpty id) := by
  rw [filterOrEmpty]
  cases hid : x.filter? id with
  | none => exact .refl (DocumentFilter.empty_sized x.sizeBytes x.hashCount)
  | some f => exact h id f hid

theorem empty_sized (sizeBytes hashCount : Nat) : (empty sizeBytes hashCount).Sized := by
  intro id f h
  simp [filter?, empty] at h

theorem insert_sized {x : BloomIndex} (h : x.Sized) (id : DocumentId) (text : List Char) :
    (x.insert id text).Sized := by
  intro k f hk
  rw [filter?_insert] at hk
  split at hk
  · obtain rfl := Option.some.inj hk
    have hold := filterOrEmpty_grows h id
    exact hold.trans (DocumentFilter.insertText_grows hold.sized text)
  · exact h k f hk

/-- An identity that covers a text passes every probe that a filter for the text passes. -/
theorem probeAll?_of_covers {x : BloomIndex} {id : DocumentId} {text : List Char}
    (h : x.Covers id text) {grams : List Trigram}
    (hgrams : ∀ g ∈ grams,
      (DocumentFilter.ofText x.sizeBytes x.hashCount text).contains g = true) :
    x.probeAll? id grams = some true := by
  obtain ⟨f, hf, hgrows⟩ := h
  rw [probeAll?, hf, Option.map_some, Option.some.injEq, List.all_eq_true]
  intro g hg
  exact hgrows.contains (hgrams g hg)

/-! ## Exact contents -/

/-- The texts that a list of insertions has for an identity, in order. -/
def textsOf (entries : List (DocumentId × List Char)) (id : DocumentId) : List (List Char) :=
  (entries.filter fun e => e.1 = id).map Prod.snd

theorem mem_textsOf {entries : List (DocumentId × List Char)} {id : DocumentId}
    {text : List Char} : text ∈ textsOf entries id ↔ (id, text) ∈ entries := by
  simp [textsOf]

theorem textsOf_concat (entries : List (DocumentId × List Char)) (id k : DocumentId)
    (text : List Char) :
    textsOf (entries ++ [(id, text)]) k =
      if k = id then textsOf entries id ++ [text] else textsOf entries k := by
  by_cases hk : k = id
  · simp [textsOf, hk]
  · simp [textsOf, hk, Ne.symm hk]

/-- An index holds the texts of some insertions, each under its identity, and nothing else. -/
structure Holds (x : BloomIndex) (sizeBytes hashCount : Nat)
    (entries : List (DocumentId × List Char)) : Prop where
  bytes : x.sizeBytes = max sizeBytes 1
  hashes : x.hashCount = max hashCount 1
  filter : ∀ id, x.filter? id =
    if textsOf entries id = [] then none
    else some (DocumentFilter.ofTexts sizeBytes hashCount (textsOf entries id))
  /-- No identity has two filters. -/
  distinct : (x.filters.map Prod.fst).Nodup

theorem empty_holds (sizeBytes hashCount : Nat) :
    (empty sizeBytes hashCount).Holds sizeBytes hashCount [] where
  bytes := rfl
  hashes := rfl
  filter _ := rfl
  distinct := List.nodup_nil

theorem Holds.clear {x : BloomIndex} {sizeBytes hashCount : Nat}
    {entries : List (DocumentId × List Char)} (h : x.Holds sizeBytes hashCount entries) :
    x.clear.Holds sizeBytes hashCount [] where
  bytes := h.bytes
  hashes := h.hashes
  filter _ := rfl
  distinct := List.nodup_nil

/-- An insertion adds the identity, unless it is there. -/
private theorem keys_insertInto (new : DocumentFilter) (id : DocumentId) (text : List Char)
    (fs : List (DocumentId × DocumentFilter)) :
    (insertInto new id text fs).map Prod.fst =
      if id ∈ fs.map Prod.fst then fs.map Prod.fst else fs.map Prod.fst ++ [id] := by
  induction fs with
  | nil => rfl
  | cons e rest ih =>
      obtain ⟨k, f⟩ := e
      rw [insertInto]
      by_cases hk : k = id
      · simp [hk]
      · rw [if_neg hk, List.map_cons, ih]
        by_cases hid : id ∈ rest.map Prod.fst
        · rw [if_pos hid, List.map_cons, if_pos (List.mem_cons_of_mem k hid)]
        · have hnew : id ∉ ((k, f) :: rest).map Prod.fst := by
            rw [List.map_cons, List.mem_cons, not_or]
            exact ⟨Ne.symm hk, hid⟩
          rw [if_neg hid, if_neg hnew, List.map_cons, List.cons_append]

/-- The filter that an insertion starts from is that of the texts inserted before. -/
theorem Holds.filterOrEmpty {x : BloomIndex} {sizeBytes hashCount : Nat}
    {entries : List (DocumentId × List Char)} (h : x.Holds sizeBytes hashCount entries)
    (id : DocumentId) :
    x.filterOrEmpty id = DocumentFilter.ofTexts sizeBytes hashCount (textsOf entries id) := by
  rw [BloomIndex.filterOrEmpty, h.filter]
  split
  · rename_i hnone
    rw [hnone, Option.getD_none, h.bytes, h.hashes]
    simp [DocumentFilter.ofTexts, DocumentFilter.empty]
  · rw [Option.getD_some]

/-- An insertion adds its text to what the index holds. -/
theorem Holds.insert {x : BloomIndex} {sizeBytes hashCount : Nat}
    {entries : List (DocumentId × List Char)} (h : x.Holds sizeBytes hashCount entries)
    (id : DocumentId) (text : List Char) :
    (x.insert id text).Holds sizeBytes hashCount (entries ++ [(id, text)]) where
  bytes := h.bytes
  hashes := h.hashes
  filter := by
    intro k
    rw [filter?_insert, textsOf_concat]
    by_cases hk : k = id
    · have hsome : textsOf entries id ++ [text] ≠ [] := List.concat_ne_nil text _
      rw [if_pos hk, if_pos hk, if_neg hsome, h.filterOrEmpty, DocumentFilter.ofTexts_concat]
    · rw [if_neg hk, if_neg hk, h.filter]
  distinct := by
    rw [BloomIndex.insert, keys_insertInto]
    split
    · exact h.distinct
    · rename_i hnew
      rw [List.nodup_append]
      refine ⟨h.distinct, by simp, ?_⟩
      intro k hk k' hk' heq
      rw [heq, List.mem_singleton.mp hk'] at hk
      exact hnew hk

section
variable {x : BloomIndex} {sizeBytes hashCount : Nat} {entries : List (DocumentId × List Char)}

/-- An identity covers every text that has been inserted under it. -/
theorem Holds.covers (h : x.Holds sizeBytes hashCount entries) {id : DocumentId}
    {text : List Char} (hmem : (id, text) ∈ entries) : x.Covers id text := by
  have htext : text ∈ textsOf entries id := mem_textsOf.mpr hmem
  refine ⟨DocumentFilter.ofTexts sizeBytes hashCount (textsOf entries id), ?_, ?_⟩
  · rw [h.filter, if_neg (List.ne_nil_of_mem htext)]
  · rw [h.bytes, h.hashes, DocumentFilter.ofText_max]
    exact DocumentFilter.ofTexts_grows_of_subset sizeBytes hashCount
      (List.cons_subset.mpr ⟨htext, List.nil_subset _⟩)

theorem Holds.contains_iff (h : x.Holds sizeBytes hashCount entries) (id : DocumentId) :
    x.contains id = true ↔ ∃ text, (id, text) ∈ entries := by
  simp only [← mem_textsOf]
  rw [contains, h.filter]
  split
  · rename_i hnone
    simp [hnone]
  · rename_i hsome
    simpa using List.exists_mem_of_ne_nil _ hsome

/-- The filters of an index have the positions of an empty filter of their size. -/
theorem Holds.position_eq (h : x.Holds sizeBytes hashCount entries) {id : DocumentId}
    {f : DocumentFilter} (hf : x.filter? id = some f) (g : Trigram) (seed : Nat) :
    f.position g seed = (DocumentFilter.empty sizeBytes hashCount).position g seed := by
  rw [h.filter] at hf
  split at hf
  · cases hf
  · obtain rfl := Option.some.inj hf
    have hgrows := DocumentFilter.ofTexts_grows sizeBytes hashCount (textsOf entries id)
    rw [DocumentFilter.position, hgrows.bitCount, DocumentFilter.position]

/-- A probe succeeds iff each bit of the trigram is used by some text of the identity. -/
theorem Holds.probe_iff (h : x.Holds sizeBytes hashCount entries) (id : DocumentId)
    (g : Trigram) :
    x.probe id g = true ↔
      ∀ seed < max hashCount 1, ∃ text, (id, text) ∈ entries ∧
        DocumentFilter.UsesBit sizeBytes hashCount text
          ((DocumentFilter.empty sizeBytes hashCount).position g seed) := by
  have hfirst : 0 < max hashCount 1 := Nat.le_max_right hashCount 1
  simp only [← mem_textsOf]
  rw [probe, h.filter]
  split
  · -- there is a first seed, and without texts no text uses its bit
    rename_i hnone
    simp only [hnone, Option.any_none, Bool.false_eq_true, List.not_mem_nil, false_and,
      exists_false, false_iff]
    exact fun hall => hall 0 hfirst
  · rw [Option.any_some, DocumentFilter.contains_ofTexts_iff]

/-- Several probes at once: nothing for an unknown identity, else all of the probes. -/
theorem probeAll?_eq (x : BloomIndex) (id : DocumentId) (grams : List Trigram) :
    x.probeAll? id grams = if x.contains id then some (grams.all (x.probe id)) else none := by
  rw [probeAll?, contains]
  cases hf : x.filter? id with
  | none => rfl
  | some f =>
      have hprobe : x.probe id = f.contains := by
        funext g
        rw [probe, hf, Option.any_some]
      rw [hprobe]
      rfl

end

end TrigramSearch.BloomIndex
