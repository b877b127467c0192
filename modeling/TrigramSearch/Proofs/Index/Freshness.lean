import TrigramSearch.Proofs.Collection.Actions
import TrigramSearch.Proofs.Index.Build

/-!
# Cached indexes are current

The key of a cached index names neither the generation nor the identity field,
and the documents are never looked at again.  What makes a cached index safe to
serve is an invariant that ties every entry to the past of its collection
(`IndexCache.Fresh`): no entry is ahead of its collection, and an entry that
carries the generation of its collection is the index that a build would give
now.  The entries of collections that no longer exist need no condition, since
their identities are not given out again.

Every operation on collections and on the cache keeps the invariant, so it
holds in every run, and the index that `ensure` gives is always the one that a
build would give (`ensure_eq_build`).
-/

namespace TrigramSearch

namespace IndexCache

/-- An entry is the index of its collection, as far as its generation is that of the
collection. -/
structure EntryFresh (s : Store) (key : IndexKey) (x : BuiltIndex) : Prop where
  known : key.collection.number < s.nextId
  notAhead : ∀ {name c}, s.Has name c → c.id = key.collection → x.generation ≤ c.generation
  current : ∀ {name c}, s.Has name c → c.id = key.collection → x.generation = c.generation →
    x = BuiltIndex.build c key.field x.idField key.sizing

/-- Every entry of the cache is fresh. -/
def Fresh (k : IndexCache) (s : Store) : Prop := ∀ e ∈ k.entries, EntryFresh s e.1 e.2

theorem empty_fresh (s : Store) : empty.Fresh s := by
  intro e he
  cases he

theorem keep_fresh {k : IndexCache} {s : Store} (h : k.Fresh s)
    (p : IndexKey → BuiltIndex → Bool) : (k.keep p).Fresh s := by
  intro e he
  exact h e (List.mem_filter.mp he).1

theorem prune_fresh {k : IndexCache} {s : Store} (h : k.Fresh s) (isLive : CollectionId → Bool) :
    (k.prune isLive).Fresh s :=
  keep_fresh h _

theorem invalidate_fresh {k : IndexCache} {s : Store} (h : k.Fresh s) (id : CollectionId) :
    (k.invalidate id).Fresh s :=
  keep_fresh h _

theorem clear_fresh (k : IndexCache) (s : Store) : k.clear.Fresh s := by
  intro e he
  cases he

/-! ## Changes of collections -/

/-- An action keeps every entry fresh: a created collection has an identity that no entry knows,
and a changed one has left the generations of all its entries behind. -/
theorem fresh_act {k : IndexCache} {s : Store} (h : k.Fresh s) (a : Store.Action) :
    k.Fresh (s.act a) := by
  intro e he
  have hentry := h e he
  constructor
  · exact Nat.lt_of_lt_of_le hentry.known (s.nextId_le_act a)
  · intro name c hhas hid
    cases Store.act_cases hhas with
    | kept hold => exact hentry.notAhead hold hid
    | created hnew _ =>
        have hlt := hentry.known
        rw [← hid, hnew] at hlt
        exact absurd hlt (Nat.lt_irrefl _)
    | changed old hold hsame hgeneration =>
        have hle := hentry.notAhead hold (hsame.symm.trans hid)
        omega
  · intro name c hhas hid hgen
    cases Store.act_cases hhas with
    | kept hold => exact hentry.current hold hid hgen
    | created hnew _ =>
        have hlt := hentry.known
        rw [← hid, hnew] at hlt
        exact absurd hlt (Nat.lt_irrefl _)
    | changed old hold hsame hgeneration =>
        have hle := hentry.notAhead hold (hsame.symm.trans hid)
        omega

/-! ## Serving an index -/

/-- The entry that a build leaves behind is fresh. -/
theorem build_entryFresh {s : Store} (hs : s.WellFormed) {name : String} {c : Collection}
    (hc : s.Has name c) (field idField : String) (sizing : Sizing) :
    EntryFresh s ⟨c.id, field, sizing⟩ (BuiltIndex.build c field idField sizing) := by
  have hbuild := BuiltIndex.build_built c field idField sizing
  constructor
  · exact hs.known hc
  · intro other d hd hid
    obtain ⟨_, rfl⟩ := hs.distinct hd hc hid
    exact Nat.le_of_eq hbuild.generation
  · intro other d hd hid _
    obtain ⟨_, rfl⟩ := hs.distinct hd hc hid
    rw [hbuild.idField]

/-- What is found under a key is cached under it. -/
theorem mem_of_get? {k : IndexCache} {key : IndexKey} {x : BuiltIndex} (h : k.get? key = some x) :
    (key, x) ∈ k.entries := by
  obtain ⟨before, after, heq, _⟩ := List.lookup_eq_some_iff.mp h
  rw [heq]
  exact List.mem_append_right before List.mem_cons_self

/-- What `ensure` gives when it builds. -/
def rebuilt (k : IndexCache) (isLive : CollectionId → Bool) (c : Collection)
    (field idField : String) (sizing : Sizing) : Ensured :=
  ⟨BuiltIndex.build c field idField sizing, true,
    ((k.build c field idField sizing).2.prune isLive).insert ⟨c.id, field, sizing⟩
      (BuiltIndex.build c field idField sizing)⟩

/-- Either an entry is found and current, then it is served and the cache stays as it is; or none
is, then an index is built. -/
theorem ensure_eq (k : IndexCache) (isLive : CollectionId → Bool) (c : Collection)
    (field idField : String) (sizing : Sizing) :
    (∃ x, k.get? ⟨c.id, field, sizing⟩ = some x ∧ x.isCurrent c idField = true ∧
      k.ensure isLive c field idField sizing = ⟨x, false, k⟩) ∨
    ((∀ x, k.get? ⟨c.id, field, sizing⟩ = some x → x.isCurrent c idField = false) ∧
      k.ensure isLive c field idField sizing = k.rebuilt isLive c field idField sizing) := by
  rw [ensure]
  cases hx : k.get? ⟨c.id, field, sizing⟩ with
  | none => exact Or.inr ⟨nofun, rfl⟩
  | some x =>
      cases hcurrent : x.isCurrent c idField with
      | true => exact Or.inl ⟨x, rfl, hcurrent, if_pos hcurrent⟩
      | false =>
          refine Or.inr ⟨?_, if_neg (Bool.eq_false_iff.mp hcurrent)⟩
          intro y hy
          obtain rfl := Option.some.inj hy
          exact hcurrent

theorem ensure_fresh {k : IndexCache} {s : Store} (h : k.Fresh s) (hs : s.WellFormed)
    {name : String} {c : Collection} (hc : s.Has name c) (isLive : CollectionId → Bool)
    (field idField : String) (sizing : Sizing) :
    (k.ensure isLive c field idField sizing).cache.Fresh s := by
  rcases ensure_eq k isLive c field idField sizing with ⟨x, _, _, heq⟩ | ⟨_, heq⟩
  · rw [heq]
    exact h
  · rw [heq]
    intro e he
    rcases List.mem_cons.mp he with rfl | hold
    · exact build_entryFresh hs hc field idField sizing
    · exact prune_fresh h isLive e (List.mem_filter.mp hold).1

/-- With a fresh cache, `ensure` gives what a build would give. -/
theorem ensure_index {k : IndexCache} {s : Store} (h : k.Fresh s) {name : String}
    {c : Collection} (hc : s.Has name c) (isLive : CollectionId → Bool) (field idField : String)
    (sizing : Sizing) :
    (k.ensure isLive c field idField sizing).index = BuiltIndex.build c field idField sizing := by
  rcases ensure_eq k isLive c field idField sizing with ⟨x, hx, hcurrent, heq⟩ | ⟨_, heq⟩
  · simp only [BuiltIndex.isCurrent, Bool.and_eq_true, beq_iff_eq] at hcurrent
    obtain ⟨hgen, hfield⟩ := hcurrent
    have hbuilt : x = BuiltIndex.build c field x.idField sizing :=
      (h _ (mem_of_get? hx)).current hc rfl hgen
    rw [hfield] at hbuilt
    rw [heq]
    exact hbuilt
  · rw [heq]
    rfl

end IndexCache

/-! ## Runs -/

/-- Collections, and a cache of indexes for them. -/
structure IndexSession where
  store : Store
  cache : IndexCache

namespace IndexSession

/-- What can be done with collections and a cache, in any order. -/
inductive Action where
  | collection (a : Store.Action)
  | ensure (name field idField : String) (sizing : Sizing)
  /-- Builds an index that is not kept. -/
  | build (name field idField : String) (sizing : Sizing)
  | prune
  | invalidate (id : CollectionId)
  | clear

/-- No collections and no indexes. -/
def start : IndexSession := ⟨Store.empty, IndexCache.empty⟩

/-- An index for a collection of the session, with the cache after it. -/
def ensure (w : IndexSession) (c : Collection) (field idField : String) (sizing : Sizing) :
    IndexCache.Ensured :=
  w.cache.ensure w.store.isLive c field idField sizing

/-- The session after an action. An action on a name without a collection does nothing. -/
def act (w : IndexSession) : Action → IndexSession
  | .collection a => { w with store := w.store.act a }
  | .ensure name field idField sizing =>
    match w.store.get? name with
    | some c => { w with cache := (w.ensure c field idField sizing).cache }
    | none => w
  | .build name field idField sizing =>
    match w.store.get? name with
    | some c => { w with cache := (w.cache.build c field idField sizing).2 }
    | none => w
  | .prune => { w with cache := w.cache.prune w.store.isLive }
  | .invalidate id => { w with cache := w.cache.invalidate id }
  | .clear => { w with cache := w.cache.clear }

/-- The session after several actions. -/
def run (actions : List Action) : IndexSession := actions.foldl act start

/-- What holds in every session of a run. -/
structure Sound (w : IndexSession) : Prop where
  store : w.store.WellFormed
  cache : w.cache.Fresh w.store

theorem act_sound {w : IndexSession} (h : w.Sound) (a : Action) : (w.act a).Sound := by
  cases a with
  | collection a =>
      exact ⟨Store.act_wellFormed h.store a, IndexCache.fresh_act h.cache a⟩
  | ensure name field idField sizing =>
      rw [act]
      split
      · rename_i c hc
        exact ⟨h.store, IndexCache.ensure_fresh h.cache h.store (Store.has_of_get? hc)
          w.store.isLive field idField sizing⟩
      · exact h
  | build name field idField sizing =>
      rw [act]
      split
      · exact ⟨h.store, h.cache⟩
      · exact h
  | prune => exact ⟨h.store, IndexCache.prune_fresh h.cache w.store.isLive⟩
  | invalidate id => exact ⟨h.store, IndexCache.invalidate_fresh h.cache id⟩
  | clear => exact ⟨h.store, IndexCache.clear_fresh w.cache w.store⟩

theorem run_sound (actions : List Action) : (run actions).Sound :=
  List.foldlRecOn actions act ⟨Store.empty_wellFormed, IndexCache.empty_fresh Store.empty⟩
    fun _ h a _ => act_sound h a

/-- **Freshness.**  After any run, the index that is served for a collection is the one that a
build of its current documents would give, down to every filter. -/
theorem ensure_eq_build (actions : List Action) {name : String} {c : Collection}
    (hc : (run actions).store.get? name = some c) (field idField : String) (sizing : Sizing) :
    ((run actions).ensure c field idField sizing).index =
      BuiltIndex.build c field idField sizing :=
  IndexCache.ensure_index (run_sound actions).cache (Store.has_of_get? hc) _ field idField sizing

/-- A cached index that has become stale: the collection has been changed, and the identity
field is another one. -/
theorem ensure_eq_build_after_push :
    let document := Json.Value.object [("id", .string "a"), ("text", .string "abcd")]
    let actions : List Action :=
      [.collection (.create "c" [document]), .ensure "c" "text" "_id" ⟨1, 2⟩,
        .collection (.push "c" document)]
    let c : Collection := ⟨⟨1⟩, 1, [document, document]⟩
    (run actions).store.get? "c" = some c ∧
      ((run actions).ensure c "text" "id" ⟨1, 2⟩).index =
        BuiltIndex.build c "text" "id" ⟨1, 2⟩ := by
  intro document actions c
  have hc : (run actions).store.get? "c" = some c := rfl
  exact ⟨hc, ensure_eq_build actions hc "text" "id" ⟨1, 2⟩⟩

end IndexSession
end TrigramSearch
