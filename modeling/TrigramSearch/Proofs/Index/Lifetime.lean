import TrigramSearch.Proofs.Index.Freshness

/-!
# The life of a cached index

An entry enters the cache when its index is built, and is taken out when a build
under the same key replaces it, when it is invalidated or cleared, or when a
build or a pruning finds that its collection no longer exists.  Pruning looks at
the collection an index was built from, invalidation at the collection in the
key; they agree because every entry stands under a key of its own collection
(`IndexCache.Keyed`).

`IndexCache.ensure_cases` says when `ensure` builds: it serves a current entry and
changes nothing, or there is none.

## Main results

* `IndexCache.ensure_built_iff` — an index is built iff no entry is current.
* `IndexCache.mem_ensure_of_mem` — an entry of a collection that exists outlives
  every build but one under its own key.
* `IndexSession.run_keyed` — the entries of every run are keyed.
* `IndexSession.lifetime` — nothing of a dropped collection outlives a build, and
  nothing of another is lost.
-/

namespace TrigramSearch

namespace IndexCache

/-- The entries stand under different keys, each under a key of the collection that its index was
built from. -/
structure Keyed (k : IndexCache) : Prop where
  distinct : (k.entries.map Prod.fst).Nodup
  owner : ∀ e ∈ k.entries, e.2.owner = e.1.collection

theorem empty_keyed : empty.Keyed where
  distinct := List.nodup_nil
  owner := by
    intro e he
    cases he

theorem keep_keyed {k : IndexCache} (h : k.Keyed) (p : IndexKey → BuiltIndex → Bool) :
    (k.keep p).Keyed where
  distinct := (List.filter_sublist.map Prod.fst).nodup h.distinct
  owner := by
    intro e he
    exact h.owner e (List.mem_filter.mp he).1

theorem prune_keyed {k : IndexCache} (h : k.Keyed) (isLive : CollectionId → Bool) :
    (k.prune isLive).Keyed :=
  keep_keyed h _

theorem invalidate_keyed {k : IndexCache} (h : k.Keyed) (id : CollectionId) :
    (k.invalidate id).Keyed :=
  keep_keyed h _

theorem clear_keyed (k : IndexCache) : k.clear.Keyed := ⟨empty_keyed.distinct, empty_keyed.owner⟩

theorem build_keyed {k : IndexCache} (h : k.Keyed) (c : Collection) (field idField : String)
    (sizing : Sizing) : (k.build c field idField sizing).2.Keyed :=
  ⟨h.distinct, h.owner⟩

theorem insert_keyed {k : IndexCache} (h : k.Keyed) (key : IndexKey) {x : BuiltIndex}
    (hx : x.owner = key.collection) : (k.insert key x).Keyed where
  distinct := by
    have hother : key ∉ (k.entries.filter fun e => e.1 != key).map Prod.fst := by
      intro hmem
      obtain ⟨e, he, heq⟩ := List.mem_map.mp hmem
      have hne := (List.mem_filter.mp he).2
      rw [heq] at hne
      simp at hne
    exact List.nodup_cons.mpr ⟨hother, (List.filter_sublist.map Prod.fst).nodup h.distinct⟩
  owner := by
    intro e he
    rcases List.mem_cons.mp he with rfl | hold
    · exact hx
    · exact h.owner e (List.mem_filter.mp hold).1

/-- Under its key, an entry is the one that is found. -/
theorem get?_eq_some_iff {k : IndexCache} (h : k.Keyed) {key : IndexKey} {x : BuiltIndex} :
    k.get? key = some x ↔ (key, x) ∈ k.entries := by
  constructor
  · exact mem_of_get?
  · intro hx
    obtain ⟨before, after, heq⟩ := List.append_of_mem hx
    refine List.lookup_eq_some_iff.mpr ⟨before, after, heq, ?_⟩
    intro e he
    have hdistinct := h.distinct
    rw [heq, List.map_append, List.map_cons] at hdistinct
    have hne := (List.nodup_append.mp hdistinct).2.2 e.1 (List.mem_map_of_mem he) key
      List.mem_cons_self
    exact bne_iff_ne.mpr (Ne.symm hne)

/-! ## What `ensure` does -/

/-- An entry that can be served for a collection as it is now. -/
def HasCurrent (k : IndexCache) (c : Collection) (field idField : String) (sizing : Sizing) :
    Prop :=
  ∃ x, (⟨c.id, field, sizing⟩, x) ∈ k.entries ∧ x.generation = c.generation ∧
    x.idField = idField

/-- The number of builds counts what `ensure` builds. -/
theorem ensure_builds (k : IndexCache) (isLive : CollectionId → Bool) (c : Collection)
    (field idField : String) (sizing : Sizing) :
    (k.ensure isLive c field idField sizing).cache.builds =
      k.builds + (k.ensure isLive c field idField sizing).built.toNat := by
  rcases ensure_eq k isLive c field idField sizing with ⟨x, _, _, heq⟩ | ⟨_, heq⟩
  · rw [heq]
    rfl
  · rw [heq]
    rfl

section
variable {k : IndexCache} (h : k.Keyed) (isLive : CollectionId → Bool) (c : Collection)
  (field idField : String) (sizing : Sizing)
include h

/-- Either there is a current entry, and the cache stays as it is, or there is none, and an index
is built. -/
theorem ensure_cases :
    (k.HasCurrent c field idField sizing ∧
      ∃ x, k.ensure isLive c field idField sizing = ⟨x, false, k⟩) ∨
    (¬ k.HasCurrent c field idField sizing ∧
      k.ensure isLive c field idField sizing = k.rebuilt isLive c field idField sizing) := by
  rcases ensure_eq k isLive c field idField sizing with ⟨x, hx, hcurrent, heq⟩ | ⟨hnone, heq⟩
  · rw [BuiltIndex.isCurrent, Bool.and_eq_true, beq_iff_eq, beq_iff_eq] at hcurrent
    exact Or.inl ⟨⟨x, mem_of_get? hx, hcurrent⟩, x, heq⟩
  · refine Or.inr ⟨?_, heq⟩
    rintro ⟨x, hmem, hgen, hid⟩
    have hstale := hnone x ((get?_eq_some_iff h).mpr hmem)
    simp [BuiltIndex.isCurrent, hgen, hid] at hstale

/-- An index is built iff no entry is current. -/
theorem ensure_built_iff :
    (k.ensure isLive c field idField sizing).built = true ↔
      ¬ k.HasCurrent c field idField sizing := by
  rcases ensure_cases h isLive c field idField sizing with ⟨hcurrent, x, heq⟩ | ⟨hnone, heq⟩
  · rw [heq]
    simp [hcurrent]
  · rw [heq]
    simp [IndexCache.rebuilt, hnone]

theorem ensure_keyed : (k.ensure isLive c field idField sizing).cache.Keyed := by
  rcases ensure_cases h isLive c field idField sizing with ⟨_, x, heq⟩ | ⟨_, heq⟩
  · rw [heq]
    exact h
  · rw [heq]
    exact insert_keyed (prune_keyed (build_keyed h c field idField sizing) isLive) _
      (BuiltIndex.build_built c field idField sizing).owner

/-- Whether it was built or served, the index is current afterwards. -/
theorem ensure_hasCurrent :
    (k.ensure isLive c field idField sizing).cache.HasCurrent c field idField sizing := by
  rcases ensure_cases h isLive c field idField sizing with ⟨hcurrent, x, heq⟩ | ⟨_, heq⟩
  · rw [heq]
    exact hcurrent
  · have hbuilt := BuiltIndex.build_built c field idField sizing
    rw [heq]
    exact ⟨_, List.mem_cons_self, hbuilt.generation, hbuilt.idField⟩

/-- What is cached after a build belongs to collections that exist. -/
theorem isLive_of_mem_ensure (hc : isLive c.id = true)
    (hbuilt : (k.ensure isLive c field idField sizing).built = true)
    {e : IndexKey × BuiltIndex}
    (he : e ∈ (k.ensure isLive c field idField sizing).cache.entries) :
    isLive e.1.collection = true := by
  rcases ensure_cases h isLive c field idField sizing with ⟨_, x, heq⟩ | ⟨_, heq⟩
  · rw [heq] at hbuilt
    cases hbuilt
  · rw [heq] at he
    rcases List.mem_cons.mp he with rfl | hold
    · exact hc
    · have hpruned := List.mem_filter.mp (List.mem_filter.mp hold).1
      rw [← h.owner e hpruned.1]
      exact hpruned.2

/-- An entry of a collection that exists outlives every build but one under its own key. -/
theorem mem_ensure_of_mem {e : IndexKey × BuiltIndex} (he : e ∈ k.entries)
    (hlive : isLive e.1.collection = true) :
    e ∈ (k.ensure isLive c field idField sizing).cache.entries ∨
      (e.1 = ⟨c.id, field, sizing⟩ ∧
        (k.ensure isLive c field idField sizing).built = true ∧
        (e.1, BuiltIndex.build c field idField sizing) ∈
          (k.ensure isLive c field idField sizing).cache.entries) := by
  rcases ensure_cases h isLive c field idField sizing with ⟨_, x, heq⟩ | ⟨_, heq⟩
  · rw [heq]
    exact Or.inl he
  · rw [heq]
    by_cases hkey : e.1 = ⟨c.id, field, sizing⟩
    · rw [hkey]
      exact Or.inr ⟨rfl, rfl, List.mem_cons_self⟩
    · have hpruned : e ∈ (k.prune isLive).entries := by
        refine List.mem_filter.mpr ⟨he, ?_⟩
        dsimp only
        rw [h.owner e he]
        exact hlive
      exact Or.inl (List.mem_cons_of_mem _ (List.mem_filter.mpr ⟨hpruned, bne_iff_ne.mpr hkey⟩))

end

/-! ## Pruning -/

/-- Pruning takes out the entries whose collection does not exist. -/
theorem prune_entries {k : IndexCache} (h : k.Keyed) (isLive : CollectionId → Bool) :
    (k.prune isLive).entries = k.entries.filter fun e => isLive e.1.collection := by
  apply List.filter_congr
  intro e he
  dsimp only
  rw [h.owner e he]

theorem pruneCounted_count {k : IndexCache} (h : k.Keyed) (isLive : CollectionId → Bool) :
    (k.pruneCounted isLive).1 = k.entries.countP fun e => !isLive e.1.collection := by
  have hsplit : k.entries.length = _ :=
    List.length_eq_countP_add_countP fun e => isLive e.1.collection
  have hkept : (k.prune isLive).size = k.entries.countP fun e => isLive e.1.collection := by
    rw [size, prune_entries h, List.countP_eq_length_filter]
  have hdropped : (k.pruneCounted isLive).1 = k.size - (k.prune isLive).size := rfl
  rw [hdropped, hkept, size]
  simp only [Bool.not_eq_true, Bool.decide_eq_false] at hsplit
  omega

end IndexCache

/-! ## Runs -/

namespace IndexSession

theorem act_keyed {w : IndexSession} (h : w.cache.Keyed) (a : Action) :
    (w.act a).cache.Keyed := by
  cases a with
  | collection a => exact h
  | ensure name field idField sizing =>
      rw [act]
      split
      · exact IndexCache.ensure_keyed h w.store.isLive _ field idField sizing
      · exact h
  | build name field idField sizing =>
      rw [act]
      split
      · rename_i c _
        exact IndexCache.build_keyed h c field idField sizing
      · exact h
  | prune => exact IndexCache.prune_keyed h w.store.isLive
  | invalidate id => exact IndexCache.invalidate_keyed h id
  | clear => exact IndexCache.clear_keyed w.cache

theorem run_keyed (actions : List Action) : (run actions).cache.Keyed :=
  List.foldlRecOn (motive := fun w => w.cache.Keyed) actions act IndexCache.empty_keyed
    fun _ hw a _ => act_keyed hw a

/-- How an entry of a collection that exists can be lost. -/
private theorem lost_cases {w : IndexSession} (h : w.cache.Keyed) {a : Action}
    {e : IndexKey × BuiltIndex} (he : e ∈ w.cache.entries)
    (hlive : w.store.isLive e.1.collection = true) (hlost : e ∉ (w.act a).cache.entries) :
    a = .clear ∨ a = .invalidate e.1.collection ∨
      ∃ name field idField sizing c, a = .ensure name field idField sizing ∧
        w.store.get? name = some c ∧ e.1 = ⟨c.id, field, sizing⟩ ∧
        (w.ensure c field idField sizing).built = true ∧
        (e.1, BuiltIndex.build c field idField sizing) ∈ (w.act a).cache.entries := by
  cases a with
  | collection a => exact absurd he hlost
  | ensure name field idField sizing =>
      rw [act] at hlost ⊢
      cases hc : w.store.get? name with
      | none =>
          rw [hc] at hlost
          exact absurd he hlost
      | some c =>
          rw [hc] at hlost
          rcases IndexCache.mem_ensure_of_mem h w.store.isLive c field idField sizing he hlive with
            hkept | hreplaced
          · exact absurd hkept hlost
          · exact Or.inr (Or.inr ⟨name, field, idField, sizing, c, rfl, hc, hreplaced⟩)
  | build name field idField sizing =>
      rw [act] at hlost
      split at hlost
      · exact absurd he hlost
      · exact absurd he hlost
  | prune =>
      rw [act, IndexCache.prune_entries h, List.mem_filter] at hlost
      exact absurd ⟨he, hlive⟩ hlost
  | invalidate id =>
      by_cases hid : e.1.collection = id
      · rw [hid]
        exact Or.inr (Or.inl rfl)
      · have hkept : e ∈ (w.cache.invalidate id).entries :=
          List.mem_filter.mpr ⟨he, bne_iff_ne.mpr hid⟩
        exact absurd hkept hlost
  | clear => exact Or.inl rfl

/-- **Lifetime.**  In every run, each entry was built from the collection in its key.  After an
index has been built, all entries are of collections that exist; pruning takes out the entries of
those that do not, no others, and says how many; invalidation takes out the entries of one
identity, whether a collection has it or not.  An entry of a collection that exists is lost to
nothing but a clearing, an invalidation of this collection, and a build that puts the new index
under its key. -/
theorem lifetime (actions : List Action) :
    let w := run actions
    (∀ e ∈ w.cache.entries, e.2.owner = e.1.collection) ∧
    (∀ name c field idField sizing, w.store.get? name = some c →
      (w.ensure c field idField sizing).built = true →
      ∀ e ∈ (w.act (.ensure name field idField sizing)).cache.entries,
        w.store.isLive e.1.collection = true) ∧
    (w.act .prune).cache.entries =
      w.cache.entries.filter (fun e => w.store.isLive e.1.collection) ∧
    w.cache.pruneCounted w.store.isLive =
      (w.cache.entries.countP fun e => !w.store.isLive e.1.collection, (w.act .prune).cache) ∧
    (∀ id, (w.act (.invalidate id)).cache.entries =
      w.cache.entries.filter fun e => e.1.collection != id) ∧
    (∀ a, ∀ e ∈ w.cache.entries, w.store.isLive e.1.collection = true →
      e ∉ (w.act a).cache.entries →
      a = .clear ∨ a = .invalidate e.1.collection ∨
      ∃ name field idField sizing c, a = .ensure name field idField sizing ∧
        w.store.get? name = some c ∧ e.1 = ⟨c.id, field, sizing⟩ ∧
        (w.ensure c field idField sizing).built = true ∧
        (e.1, BuiltIndex.build c field idField sizing) ∈ (w.act a).cache.entries) := by
  intro w
  have hkeyed : w.cache.Keyed := run_keyed actions
  refine ⟨hkeyed.owner, ?_, ?_, ?_, ?_, ?_⟩
  · intro name c field idField sizing hc hbuilt e he
    have hlive : w.store.isLive c.id = true :=
      Store.isLive_iff.mpr ⟨name, c, Store.has_of_get? hc, rfl⟩
    simp only [act, hc] at he
    exact IndexCache.isLive_of_mem_ensure hkeyed w.store.isLive c field idField sizing hlive hbuilt
      he
  · exact IndexCache.prune_entries hkeyed w.store.isLive
  · exact Prod.ext (IndexCache.pruneCounted_count hkeyed w.store.isLive) rfl
  · intro id
    rfl
  · intro a e he hlive hlost
    exact lost_cases hkeyed he hlive hlost

/-- The index of a dropped collection, which stays until it is pruned or another index is built. -/
theorem lifetime_after_drop :
    let document := Json.Value.object [("text", .string "abc")]
    let actions : List Action :=
      [.collection (.create "a" [document]), .ensure "a" "text" "_id" ⟨1, 1⟩,
        .collection (.create "b" [document]), .ensure "b" "text" "_id" ⟨1, 1⟩,
        .collection (.drop "a")]
    let c : Collection := ⟨⟨2⟩, 0, [document]⟩
    let w := run actions
    w.cache.size = 2 ∧ (w.cache.pruneCounted w.store.isLive).1 = 1 ∧
      w.store.get? "b" = some c ∧ (w.ensure c "text" "id" ⟨1, 1⟩).built = true ∧
      ∀ e ∈ (w.act (.ensure "b" "text" "id" ⟨1, 1⟩)).cache.entries,
        w.store.isLive e.1.collection = true := by
  intro document actions c w
  have hc : w.store.get? "b" = some c := rfl
  have hbuilt : (w.ensure c "text" "id" ⟨1, 1⟩).built = true := by decide +kernel
  obtain ⟨_, hbuild, _, hpruned, _⟩ := lifetime actions
  refine ⟨by decide +kernel, ?_, hc, hbuilt, hbuild "b" c "text" "id" ⟨1, 1⟩ hc hbuilt⟩
  rw [hpruned]
  decide +kernel

end IndexSession
end TrigramSearch
