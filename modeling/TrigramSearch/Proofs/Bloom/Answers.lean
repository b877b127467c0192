import Mathlib.Data.List.Dedup
import TrigramSearch.Proofs.Bloom.Contents

/-!
# The answers of a filter index

An index is filled by insertions and emptied by `clear`.  All that a run leaves
behind is the insertions since the last `clear` (`inserted`): which identities
are known, how many there are, and for each of them the set of its texts.  So
the order and the repetition of insertions do not matter, and what has been
inserted under other identities does not either.

## Main results

* `run_holds`: after any run, the index holds the insertions since the last
  `clear`.
* `filter?_congr`, `size_congr`: filters depend on the sets of texts only, and
  the number of documents on the set of identities.
* `run_answers`: all answers after any run, and when they stay the same.
-/

namespace TrigramSearch.BloomIndex

/-- What can be done with an index, in any order. -/
inductive Action where
  | insert (id : DocumentId) (text : List Char)
  | clear

/-- The index after an action. -/
def act (x : BloomIndex) : Action → BloomIndex
  | .insert id text => x.insert id text
  | .clear => x.clear

/-- The index after several actions. -/
def run (sizeBytes hashCount : Nat) (actions : List Action) : BloomIndex :=
  actions.foldl act (empty sizeBytes hashCount)

/-- The insertions that count after an action. -/
def keepInserted (entries : List (DocumentId × List Char)) :
    Action → List (DocumentId × List Char)
  | .insert id text => entries ++ [(id, text)]
  | .clear => []

/-- The insertions since the last `clear`, in order. -/
def inserted (actions : List Action) : List (DocumentId × List Char) :=
  actions.foldl keepInserted []

theorem act_holds {x : BloomIndex} {sizeBytes hashCount : Nat}
    {entries : List (DocumentId × List Char)} (h : x.Holds sizeBytes hashCount entries)
    (a : Action) : (x.act a).Holds sizeBytes hashCount (keepInserted entries a) := by
  cases a with
  | insert id text => exact h.insert id text
  | clear => exact h.clear

/-- After any run, the index holds the insertions since the last `clear`. -/
theorem run_holds (sizeBytes hashCount : Nat) (actions : List Action) :
    (run sizeBytes hashCount actions).Holds sizeBytes hashCount (inserted actions) := by
  have hall : ∀ {x : BloomIndex} {entries : List (DocumentId × List Char)},
      x.Holds sizeBytes hashCount entries →
        (actions.foldl act x).Holds sizeBytes hashCount (actions.foldl keepInserted entries) := by
    induction actions with
    | nil =>
        intro x entries h
        exact h
    | cons a as ih =>
        intro x entries h
        exact ih (act_holds h a)
  exact hall (empty_holds sizeBytes hashCount)

/-! ## What the answers depend on -/

section
variable {x x' : BloomIndex} {sizeBytes hashCount : Nat}
  {entries entries' : List (DocumentId × List Char)}

/-- The filter of an identity depends on the set of its texts only. -/
theorem filter?_congr (h : x.Holds sizeBytes hashCount entries)
    (h' : x'.Holds sizeBytes hashCount entries') {id : DocumentId}
    (hsame : ∀ text, (id, text) ∈ entries' ↔ (id, text) ∈ entries) :
    x'.filter? id = x.filter? id := by
  have htexts : ∀ text, text ∈ textsOf entries' id ↔ text ∈ textsOf entries id := by
    simp only [mem_textsOf]
    exact hsame
  have hempty : textsOf entries' id = [] ↔ textsOf entries id = [] := by
    simp only [List.eq_nil_iff_forall_not_mem, htexts]
  rw [h.filter, h'.filter, DocumentFilter.ofTexts_congr sizeBytes hashCount htexts]
  simp only [hempty]

/-- The identities of an index are those of its entries. -/
theorem Holds.mem_keys_iff (h : x.Holds sizeBytes hashCount entries) (id : DocumentId) :
    id ∈ x.filters.map Prod.fst ↔ id ∈ entries.map Prod.fst := by
  have hkeys : id ∈ x.filters.map Prod.fst ↔ x.contains id = true := by
    rw [contains, filter?, List.lookup_isSome_iff, List.mem_map]
    constructor
    · rintro ⟨e, he, rfl⟩
      exact ⟨e, he, beq_self_eq_true e.1⟩
    · rintro ⟨e, he, heq⟩
      exact ⟨e, he, (beq_iff_eq.mp heq).symm⟩
  rw [hkeys, h.contains_iff]
  simp

/-- The size is the number of distinct identities. -/
theorem Holds.size_eq (h : x.Holds sizeBytes hashCount entries) :
    x.size = (entries.map Prod.fst).dedup.length := by
  have hperm : (x.filters.map Prod.fst).Perm (entries.map Prod.fst).dedup := by
    rw [List.perm_ext_iff_of_nodup h.distinct (List.nodup_dedup _)]
    intro id
    rw [List.mem_dedup, h.mem_keys_iff]
  rw [size, ← hperm.length_eq, List.length_map]

/-- The size depends on the set of identities only. -/
theorem size_congr (h : x.Holds sizeBytes hashCount entries)
    (h' : x'.Holds sizeBytes hashCount entries')
    (hsame : ∀ id, id ∈ entries'.map Prod.fst ↔ id ∈ entries.map Prod.fst) :
    x'.size = x.size := by
  have hperm : (entries'.map Prod.fst).dedup.Perm (entries.map Prod.fst).dedup := by
    rw [List.perm_ext_iff_of_nodup (List.nodup_dedup _) (List.nodup_dedup _)]
    intro id
    rw [List.mem_dedup, List.mem_dedup, hsame]
  rw [h.size_eq, h'.size_eq, hperm.length_eq]

end

/-! ## All answers -/

/-- The answers of an index that holds some entries and nothing else. -/
structure Answers (x : BloomIndex) (sizeBytes hashCount : Nat)
    (entries : List (DocumentId × List Char)) : Prop where
  contains : ∀ id, x.contains id = true ↔ ∃ text, (id, text) ∈ entries
  /-- The number of documents is the number of distinct identities. -/
  size : x.size = (entries.map Prod.fst).dedup.length
  /-- A trigram is found iff each of its bits is a bit of three characters in a row of some folded
  text of the identity, be it under another seed. -/
  probe : ∀ id g, x.probe id g = true ↔
    ∀ seed < max hashCount 1, ∃ text, (id, text) ∈ entries ∧
      DocumentFilter.UsesBit sizeBytes hashCount text
        ((DocumentFilter.empty sizeBytes hashCount).position g seed)
  unknown : ∀ id grams, x.probeAll? id grams = none ↔ ¬ ∃ text, (id, text) ∈ entries
  known : ∀ id grams, (∃ text, (id, text) ∈ entries) →
    x.probeAll? id grams = some (grams.all (x.probe id))

/-- Two indexes say the same about an identity, and have the same filter for it, word by word. -/
structure AgreeOn (x x' : BloomIndex) (id : DocumentId) : Prop where
  filter : x'.filter? id = x.filter? id
  contains : x'.contains id = x.contains id
  probe : ∀ g, x'.probe id g = x.probe id g
  probeAll : ∀ grams, x'.probeAll? id grams = x.probeAll? id grams

theorem Holds.answers {x : BloomIndex} {sizeBytes hashCount : Nat}
    {entries : List (DocumentId × List Char)} (h : x.Holds sizeBytes hashCount entries) :
    x.Answers sizeBytes hashCount entries where
  contains := h.contains_iff
  size := h.size_eq
  probe := h.probe_iff
  unknown := by
    intro id grams
    rw [probeAll?_eq, ← h.contains_iff]
    simp
  known := by
    intro id grams hid
    rw [probeAll?_eq, if_pos ((h.contains_iff id).mpr hid)]

theorem agreeOn_of_filter?_eq {x x' : BloomIndex} {id : DocumentId}
    (h : x'.filter? id = x.filter? id) : x.AgreeOn x' id where
  filter := h
  contains := by rw [BloomIndex.contains, BloomIndex.contains, h]
  probe g := by rw [BloomIndex.probe, BloomIndex.probe, h]
  probeAll grams := by rw [probeAll?, probeAll?, h]

/-- **Exact contents.**  After any run, the answers are those of the insertions since the last
`clear`, where the positions are those that are computed in words.  Another run leads to the same
answers about an identity, and to the same words of its filter, if the same texts have been
inserted under it, in whatever order, however often and whatever else has been inserted; and to the
same size if the same identities have been. -/
theorem run_answers {sizeBytes : Nat} (hfits : DocumentFilter.Fits sizeBytes) (hashCount : Nat)
    (actions : List Action) :
    (run sizeBytes hashCount actions).Answers sizeBytes hashCount (inserted actions) ∧
      (∀ g seed, (DocumentFilter.empty sizeBytes hashCount).position g seed =
        (DocumentFilter.place sizeBytes g seed).toNat) ∧
      ∀ actions' : List Action,
        (∀ id, (∀ text, (id, text) ∈ inserted actions' ↔ (id, text) ∈ inserted actions) →
          (run sizeBytes hashCount actions).AgreeOn (run sizeBytes hashCount actions') id) ∧
        ((∀ id, id ∈ (inserted actions').map Prod.fst ↔ id ∈ (inserted actions).map Prod.fst) →
          (run sizeBytes hashCount actions').size = (run sizeBytes hashCount actions).size) := by
  have hholds := run_holds sizeBytes hashCount actions
  refine ⟨hholds.answers, fun g seed => (DocumentFilter.toNat_place hfits hashCount g seed).symm,
    fun actions' => ⟨?_, ?_⟩⟩
  · intro id hsame
    exact agreeOn_of_filter?_eq (filter?_congr hholds (run_holds _ _ actions') hsame)
  · exact size_congr hholds (run_holds _ _ actions')

/-- Two texts of one identity, the other way round and one of them twice, with another text under
another identity; what stood before `clear` is gone.  A trigram of the first text is found. -/
theorem run_answers_reordered :
    let a := DocumentId.explicit "a"
    let b := DocumentId.position 0
    let actions : List Action := [.insert b "gone".toList, .insert a "gone".toList, .clear,
      .insert a "abcd".toList, .insert b "xyz".toList, .insert a "İstanbul".toList]
    let actions' : List Action := [.insert a "İstanbul".toList, .insert b "other".toList,
      .insert a "abcd".toList, .insert a "İstanbul".toList]
    DocumentFilter.Fits 3 ∧ (run 3 0 actions).probe a ⟨'b', 'c', 'd'⟩ = true ∧
      (∀ text, (a, text) ∈ inserted actions' ↔ (a, text) ∈ inserted actions) ∧
      (run 3 0 actions).AgreeOn (run 3 0 actions') a ∧
      (∀ id, id ∈ (inserted actions').map Prod.fst ↔ id ∈ (inserted actions).map Prod.fst) ∧
      (run 3 0 actions').size = (run 3 0 actions).size := by
  intro a b actions actions'
  have htexts : ∀ text, (a, text) ∈ inserted actions' ↔ (a, text) ∈ inserted actions := by
    intro text
    simp +contextual [actions, actions', a, b, inserted, keepInserted, or_comm]
  have hids : ∀ id, id ∈ (inserted actions').map Prod.fst ↔
      id ∈ (inserted actions).map Prod.fst := by
    intro id
    simp [actions, actions', inserted, keepInserted]
  have hfits : DocumentFilter.Fits 3 := by decide
  obtain ⟨hanswers, _, hagree⟩ := run_answers hfits 0 actions
  have hfound : (run 3 0 actions).probe a ⟨'b', 'c', 'd'⟩ = true := by
    rw [hanswers.probe]
    intro seed hseed
    have htext : (a, "abcd".toList) ∈ inserted actions := by decide
    exact ⟨"abcd".toList, htext, ⟨'b', 'c', 'd'⟩, by decide, seed, hseed, rfl⟩
  exact ⟨hfits, hfound, htexts, (hagree actions').1 a htexts, hids, (hagree actions').2 hids⟩

end TrigramSearch.BloomIndex
