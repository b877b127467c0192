import TrigramSearch.Proofs.Collection.Versions
import TrigramSearch.Proofs.Index.Lifetime
import TrigramSearch.Proofs.Search.Session

/-!
# Indexes are built once

A search builds an index only if no current one is cached, and leaves a current
one behind.  What has been built for a collection stays current until the
collection or the settings change or its indexes are dropped
(`SearchSession.disturbs`): builds for other collections prune entries, but only
those whose collection no longer exists, and overrides of a call lead to entries
under other keys.

`SearchSession.Settled` says that a collection, if it exists, has a current entry
under a key.  It holds after a build under this key, is kept by everything that
does not disturb the collection, and excludes another build.

## Main results

* `SearchSession.settled_of_built`, `SearchSession.settled_act`,
  `SearchSession.builtKey?_ne_of_settled` — the three steps of the argument.
* `SearchSession.builds_foldl` — the keys account for every build of a run.
* `SearchSession.built_at_most_once` — as long as a collection is not disturbed,
  no index of it is built twice.
-/

namespace TrigramSearch

/-- Overrides of a call change neither the identity field nor the number of hash functions. -/
theorem SearchSettings.withOverrides_kept (s : SearchSettings) (overrides : Option Overrides) :
    (s.withOverrides overrides).idField = s.idField ∧
      (s.withOverrides overrides).hashFunctions = s.hashFunctions := by
  rw [s.withOverrides_eq]
  exact ⟨rfl, rfl⟩

namespace IndexCache

/-- A current entry of a collection that exists outlives a build under another key; under its own
key there is none to build. -/
theorem hasCurrent_ensure {k : IndexCache} (h : k.Keyed) {isLive : CollectionId → Bool}
    {c d : Collection} {field field' idField : String} {sizing sizing' : Sizing}
    (hd : k.HasCurrent d field idField sizing) (hlive : isLive d.id = true)
    (hsame : d.id = c.id → d = c) :
    (k.ensure isLive c field' idField sizing').cache.HasCurrent d field idField sizing := by
  obtain ⟨x, hx, hcurrent⟩ := hd
  rcases mem_ensure_of_mem h isLive c field' idField sizing' hx hlive with
    hkept | ⟨hkey, hbuilt, _⟩
  · exact ⟨x, hkept, hcurrent⟩
  · obtain ⟨hid, rfl, rfl⟩ := IndexKey.mk.inj hkey
    obtain rfl := hsame hid
    exact absurd ⟨x, hx, hcurrent⟩ ((ensure_built_iff h isLive d field idField sizing).mp hbuilt)

end IndexCache

namespace Engine

/-- A search leaves the cache alone or asks it for an index. -/
theorem search_cache (g : Engine) (isLive : CollectionId → Bool) (timing : Timing)
    (c : Collection) (field : String) (pattern options : List Char)
    (overrides : Option Overrides) :
    let settings := g.settings.withOverrides overrides
    let cache := (g.search isLive timing c field pattern options overrides).2.cache
    cache = g.cache ∨
      cache = (g.cache.ensure isLive c field settings.idField (Plan.sizing settings)).cache := by
  dsimp only
  rw [search, plan]
  cases Verifier.compile pattern (MatchOptions.ofChars options) field with
  | error e => exact Or.inl rfl
  | ok v =>
      rcases Plan.make_cases (g.settings.withOverrides overrides) g.cache isLive c field pattern
        (MatchOptions.ofChars options) with ⟨_, hcache, _⟩ | ⟨_, hcache, _⟩
      · exact Or.inl hcache
      · exact Or.inr hcache

end Engine

namespace SearchSession

/-! ## Builds of a run -/

/-- The key of the index that an action builds, if it builds one: then the cache counts one build
more. -/
def builtKey? (w : SearchSession) : Action → Option IndexKey
  | .search timing name field pattern options overrides =>
    (w.store.get? name).bind fun c =>
      let after := (w.search timing c field pattern options overrides).2
      if after.cache.builds = w.engine.cache.builds then none
      else some ⟨c.id, field, Plan.sizing (w.engine.settings.withOverrides overrides)⟩
  | _ => none

/-- The keys of the indexes that are built by several actions, in their order. -/
def builtKeys (w : SearchSession) : List Action → List IndexKey
  | [] => []
  | a :: as => (w.builtKey? a).toList ++ (w.act a).builtKeys as

/-- Whether an action may make indexes of a collection useless: it changes the collection or the
settings, or drops indexes of the collection. -/
def disturbs (w : SearchSession) (id : CollectionId) : Action → Bool
  | .collection a => w.store.mutates id a
  | .search _ _ _ _ _ _ => false
  | .configure _ => true
  | .clear => true
  | .invalidate other => other == id
  | .reset => false
  | .analyze _ _ => false

/-- Whether none of several actions disturbs a collection. -/
def leavesAlone (w : SearchSession) (id : CollectionId) : List Action → Bool
  | [] => true
  | a :: as => !w.disturbs id a && (w.act a).leavesAlone id as

theorem act_keyed {w : SearchSession} (h : w.engine.cache.Keyed) (a : Action) :
    (w.act a).engine.cache.Keyed := by
  cases a with
  | collection a => exact h
  | search timing name field pattern options overrides =>
      rw [act]
      split
      · rename_i c _
        rcases w.engine.search_cache w.store.isLive timing c field pattern options overrides with
          hsame | hensured
        · rw [search, hsame]
          exact h
        · rw [search, hensured]
          exact IndexCache.ensure_keyed h w.store.isLive c field _ _
      · exact h
  | configure settings =>
      rw [act, Engine.configure]
      cases settings.check with
      | error e => exact h
      | ok _ =>
          dsimp only
          split
          · exact IndexCache.clear_keyed w.engine.cache
          · exact h
  | clear => exact IndexCache.clear_keyed w.engine.cache
  | invalidate id => exact IndexCache.invalidate_keyed h id
  | reset => exact h
  | analyze pattern options => exact h

theorem run_keyed (settings : SearchSettings) (actions : List Action) :
    (run settings actions).engine.cache.Keyed :=
  List.foldlRecOn (motive := fun w => w.engine.cache.Keyed) actions act IndexCache.empty_keyed
    fun _ hw a _ => act_keyed hw a

/-- What is known of an action that has built an index of a collection under a key. -/
structure Builds (w : SearchSession) (a : Action) (c : Collection) (key : IndexKey) : Prop where
  has : ∃ name, w.store.Has name c
  collection : key.collection = c.id
  hashFunctions : key.sizing.hashFunctions = w.engine.settings.hashFunctions
  built : (w.engine.cache.ensure w.store.isLive c key.field w.engine.settings.idField
    key.sizing).built = true
  cache : (w.act a).engine.cache = (w.engine.cache.ensure w.store.isLive c key.field
    w.engine.settings.idField key.sizing).cache
  store : (w.act a).store = w.store
  settings : (w.act a).engine.settings = w.engine.settings

theorem builds_of_builtKey? {w : SearchSession} {a : Action} {key : IndexKey}
    (hkey : w.builtKey? a = some key) : ∃ c, Builds w a c key := by
  cases a with
  | search timing name field pattern options overrides =>
      obtain ⟨c, hc, hsome⟩ := Option.bind_eq_some_iff.mp hkey
      dsimp only at hsome
      split at hsome
      · cases hsome
      · rename_i hgrown
        obtain rfl := Option.some.inj hsome
        have hkept := w.engine.settings.withOverrides_kept overrides
        have hact : w.act (.search timing name field pattern options overrides) =
            { w with engine := (w.search timing c field pattern options overrides).2 } := by
          simp only [act, hc]
        rcases w.engine.search_cache w.store.isLive timing c field pattern options overrides with
          hsame | hensured
        · exact absurd (congrArg IndexCache.builds hsame) hgrown
        · rw [hkept.1] at hensured
          have hbuilds := IndexCache.ensure_builds w.engine.cache w.store.isLive c field
            w.engine.settings.idField (Plan.sizing (w.engine.settings.withOverrides overrides))
          refine ⟨c, ⟨name, Store.has_of_get? hc⟩, rfl, hkept.2, ?_, ?_, ?_, ?_⟩
          · rw [search, hensured, hbuilds] at hgrown
            rw [← Bool.not_eq_false]
            intro hserved
            rw [hserved] at hgrown
            exact hgrown rfl
          · rw [hact]
            exact hensured
          · rw [hact]
          · rw [hact]
            exact w.engine.search_settings w.store.isLive timing c field pattern options overrides
  | _ => cases hkey

/-! ## Settled keys -/

/-- If a collection has the identity in a key, an entry under this key is current. -/
structure Settled (w : SearchSession) (key : IndexKey) : Prop where
  known : key.collection.number < w.store.nextId
  current : ∀ {n c}, w.store.Has n c → c.id = key.collection →
    w.engine.cache.HasCurrent c key.field w.engine.settings.idField key.sizing

/-- A build settles its key. -/
theorem settled_of_built {w : SearchSession} (hs : w.Sound) (h : w.engine.cache.Keyed)
    {a : Action} {key : IndexKey} (hkey : w.builtKey? a = some key) : Settled (w.act a) key := by
  obtain ⟨c, hbuilt⟩ := builds_of_builtKey? hkey
  obtain ⟨name, hhas⟩ := hbuilt.has
  constructor
  · rw [hbuilt.store, hbuilt.collection]
    exact hs.store.known hhas
  · intro n d hd hid
    rw [hbuilt.store] at hd
    obtain ⟨_, rfl⟩ := hs.store.distinct hd hhas (hid.trans hbuilt.collection)
    rw [hbuilt.cache, hbuilt.settings]
    exact IndexCache.ensure_hasCurrent h w.store.isLive d key.field _ key.sizing

/-- Under a settled key nothing is built. -/
theorem builtKey?_ne_of_settled {w : SearchSession} (h : w.engine.cache.Keyed) {key : IndexKey}
    (hsettled : Settled w key) (a : Action) : w.builtKey? a ≠ some key := by
  intro hkey
  obtain ⟨c, hbuilt⟩ := builds_of_builtKey? hkey
  obtain ⟨name, hhas⟩ := hbuilt.has
  exact (IndexCache.ensure_built_iff h w.store.isLive c key.field _ key.sizing).mp hbuilt.built
    (hsettled.current hhas hbuilt.collection.symm)

/-- What does not disturb a collection keeps its keys settled. -/
theorem settled_act {w : SearchSession} (hs : w.Sound) (h : w.engine.cache.Keyed)
    {key : IndexKey} (hsettled : Settled w key) {a : Action}
    (hquiet : w.disturbs key.collection a = false) : Settled (w.act a) key := by
  cases a with
  | collection a =>
      constructor
      · exact Nat.lt_of_lt_of_le hsettled.known (w.store.nextId_le_act a)
      · intro n c hc hid
        have hknown := hsettled.known
        rw [← hid] at hknown
        rw [disturbs, ← hid] at hquiet
        exact hsettled.current (Store.has_of_not_mutates hs.store hc hknown hquiet) hid
  | search timing name field pattern options overrides =>
      cases hc : w.store.get? name with
      | none =>
          simp only [act, hc]
          exact hsettled
      | some c =>
          have hsettings := w.engine.search_settings w.store.isLive timing c field pattern options
            overrides
          have hidField := (w.engine.settings.withOverrides_kept overrides).1
          simp only [act, hc]
          refine ⟨hsettled.known, ?_⟩
          intro n d hd hid
          have hcurrent := hsettled.current hd hid
          have hlive : w.store.isLive d.id = true := Store.isLive_iff.mpr ⟨n, d, hd, rfl⟩
          have hsame : d.id = c.id → d = c := fun heq =>
            (hs.store.distinct hd (Store.has_of_get? hc) heq).2
          rw [search, hsettings]
          rcases w.engine.search_cache w.store.isLive timing c field pattern options overrides with
            hkept | hensured
          · rw [hkept]
            exact hcurrent
          · rw [hensured, hidField]
            exact IndexCache.hasCurrent_ensure h hcurrent hlive hsame
  | configure settings => cases hquiet
  | clear => cases hquiet
  | invalidate other =>
      refine ⟨hsettled.known, ?_⟩
      intro n c hc hid
      obtain ⟨x, hx, hcurrent⟩ := hsettled.current hc hid
      have hother : c.id ≠ other := by
        rw [hid]
        exact (beq_eq_false_iff_ne.mp hquiet).symm
      exact ⟨x, List.mem_filter.mpr ⟨hx, bne_iff_ne.mpr hother⟩, hcurrent⟩
  | reset => exact ⟨hsettled.known, hsettled.current⟩
  | analyze pattern options => exact hsettled

/-! ## Runs -/

/-- What does not disturb a collection leaves the settings alone. -/
theorem settings_of_quiet {w : SearchSession} {id : CollectionId} {a : Action}
    (hquiet : w.disturbs id a = false) : (w.act a).engine.settings = w.engine.settings := by
  rw [act_settings]
  cases a with
  | configure settings => cases hquiet
  | _ => rfl

theorem leavesAlone_cons {w : SearchSession} {id : CollectionId} {a : Action} {as : List Action} :
    w.leavesAlone id (a :: as) = true ↔
      w.disturbs id a = false ∧ (w.act a).leavesAlone id as = true := by
  simp [leavesAlone]

theorem mem_builtKeys_cons {w : SearchSession} {a : Action} {as : List Action} {key : IndexKey} :
    key ∈ w.builtKeys (a :: as) ↔ w.builtKey? a = some key ∨ key ∈ (w.act a).builtKeys as := by
  simp [builtKeys, eq_comm]

/-- As long as its collection is not disturbed, nothing is built under a settled key. -/
theorem not_mem_builtKeys {key : IndexKey} (actions : List Action) :
    ∀ {w : SearchSession}, w.Sound → w.engine.cache.Keyed → Settled w key →
      w.leavesAlone key.collection actions = true → key ∉ w.builtKeys actions := by
  induction actions with
  | nil =>
      intro w _ _ _ _ hmem
      cases hmem
  | cons a as ih =>
      intro w hs h hsettled hquiet hmem
      obtain ⟨ha, has⟩ := leavesAlone_cons.mp hquiet
      rcases mem_builtKeys_cons.mp hmem with hbuilt | hlater
      · exact builtKey?_ne_of_settled h hsettled a hbuilt
      · exact ih (act_sound hs a) (act_keyed h a) (settled_act hs h hsettled ha) has hlater

/-- In a stretch that leaves the settings alone, all filters have the same number of hash
functions. -/
theorem hashFunctions_of_mem {id : CollectionId} {key : IndexKey} (actions : List Action) :
    ∀ {w : SearchSession}, w.leavesAlone id actions = true → key ∈ w.builtKeys actions →
      key.sizing.hashFunctions = w.engine.settings.hashFunctions := by
  induction actions with
  | nil =>
      intro w _ hmem
      cases hmem
  | cons a as ih =>
      intro w hquiet hmem
      obtain ⟨ha, has⟩ := leavesAlone_cons.mp hquiet
      rcases mem_builtKeys_cons.mp hmem with hbuilt | hlater
      · obtain ⟨c, hbuilds⟩ := builds_of_builtKey? hbuilt
        exact hbuilds.hashFunctions
      · rw [← settings_of_quiet ha]
        exact ih has hlater

/-- The indexes that are built for a collection that is not disturbed differ in field or size. -/
theorem built_nodup (id : CollectionId) (actions : List Action) :
    ∀ {w : SearchSession}, w.Sound → w.engine.cache.Keyed → w.leavesAlone id actions = true →
      (((w.builtKeys actions).filter fun key => key.collection == id).map fun key =>
        (key.field, key.sizing.sizeBytes)).Nodup := by
  induction actions with
  | nil =>
      intro w _ _ _
      exact List.nodup_nil
  | cons a as ih =>
      intro w hs h hquiet
      obtain ⟨ha, has⟩ := leavesAlone_cons.mp hquiet
      have hrest := ih (act_sound hs a) (act_keyed h a) has
      rw [builtKeys]
      cases hkey : w.builtKey? a with
      | none => exact hrest
      | some key =>
          by_cases hid : key.collection = id
          · subst hid
            have hnew := not_mem_builtKeys as (act_sound hs a) (act_keyed h a)
              (settled_of_built hs h hkey) has
            simp only [Option.toList_some, List.singleton_append, List.filter_cons,
              beq_self_eq_true, if_true, List.map_cons, List.nodup_cons]
            refine ⟨?_, hrest⟩
            intro hmem
            -- a second key of this field and size would have the same hash functions too
            obtain ⟨other, hother, heq⟩ := List.mem_map.mp hmem
            obtain ⟨hlater, hcollection⟩ := List.mem_filter.mp hother
            obtain ⟨c, hbuilds⟩ := builds_of_builtKey? hkey
            have hhashes := hashFunctions_of_mem as has hlater
            rw [settings_of_quiet ha, ← hbuilds.hashFunctions] at hhashes
            obtain ⟨hfield, hbytes⟩ := Prod.mk.inj heq
            have hsame : other = key := by
              obtain ⟨collection, field, bytes, hashes⟩ := other
              obtain ⟨collection', field', bytes', hashes'⟩ := key
              simp_all
            rw [hsame] at hlater
            exact hnew hlater
          · simpa [hid] using hrest

/-- The keys of the built indexes account for every build. -/
theorem builds_act (w : SearchSession) (a : Action) :
    (w.act a).engine.cache.builds =
      w.engine.cache.builds + (w.builtKey? a).toList.length := by
  cases a with
  | search timing name field pattern options overrides =>
      cases hc : w.store.get? name with
      | none => simp [act, builtKey?, hc]
      | some c =>
          simp only [act, builtKey?, hc, Option.bind_some]
          split
          · rename_i hsame
            exact hsame
          · rename_i hgrown
            rcases w.engine.search_cache w.store.isLive timing c field pattern options
              overrides with hsame | hensured
            · exact absurd (congrArg IndexCache.builds hsame) hgrown
            · rw [search, hensured, IndexCache.ensure_builds] at hgrown ⊢
              have hone := Bool.toNat_le (w.engine.cache.ensure w.store.isLive c field
                (w.engine.settings.withOverrides overrides).idField
                (Plan.sizing (w.engine.settings.withOverrides overrides))).built
              simp only [Option.toList_some, List.length_singleton]
              omega
  | configure settings =>
      rw [act, Engine.configure]
      cases settings.check with
      | error e => rfl
      | ok _ =>
          dsimp only
          split <;> rfl
  | _ => rfl

theorem builds_foldl (actions : List Action) :
    ∀ w : SearchSession, (actions.foldl act w).engine.cache.builds =
      w.engine.cache.builds + (w.builtKeys actions).length := by
  induction actions with
  | nil =>
      intro w
      rfl
  | cons a as ih =>
      intro w
      rw [List.foldl_cons, ih, builds_act, builtKeys, List.length_append]
      omega

/-- **Builds.**  In every run, `ensure` builds iff no entry for this collection, field and sizing
carries the generation of the collection and the identity field.  In every stretch of a run in
which a collection is not changed, nothing is configured, and no indexes of it are dropped, the
indexes that searches build for it differ in field or filter size; and no build goes uncounted. -/
theorem built_at_most_once :
    (∀ (actions : List IndexSession.Action) (c : Collection) (field idField : String)
      (sizing : Sizing),
      let w := IndexSession.run actions
      (w.ensure c field idField sizing).built = true ↔
        ¬ ∃ x, (⟨c.id, field, sizing⟩, x) ∈ w.cache.entries ∧ x.generation = c.generation ∧
          x.idField = idField) ∧
    (∀ (settings : SearchSettings) (before stretch : List Action) (id : CollectionId),
      let w := run settings before
      w.leavesAlone id stretch = true →
      (((w.builtKeys stretch).filter fun key => key.collection == id).map fun key =>
        (key.field, key.sizing.sizeBytes)).Nodup) ∧
    (∀ (settings : SearchSettings) (before stretch : List Action),
      (run settings (before ++ stretch)).engine.cache.builds =
        (run settings before).engine.cache.builds +
          ((run settings before).builtKeys stretch).length) := by
  refine ⟨?_, ?_, ?_⟩
  · intro actions c field idField sizing w
    exact IndexCache.ensure_built_iff (IndexSession.run_keyed actions) w.store.isLive c field
      idField sizing
  · intro settings before stretch id w hquiet
    exact built_nodup id stretch (run_sound settings before) (run_keyed settings before) hquiet
  · intro settings before stretch
    rw [run, List.foldl_append]
    exact builds_foldl stretch (run settings before)

/-- Searches in a collection with another filter size and with other collections in between, which
are created, dropped and invalidated; a document is to be replaced where there is none. -/
theorem built_at_most_once_among_others :
    let document := Json.Value.object [("text", .string "abcd")]
    let search (name : String) (overrides : Option Overrides) : Action :=
      .search Timing.none name "text" ['a', 'b', 'c'] [] overrides
    let before : List Action := [.collection (.create "a" [document])]
    let stretch : List Action :=
      [search "a" none, .collection (.create "b" [document]), search "b" none,
        search "a" (some { filterSizeBytes := some 8 }), .collection (.drop "b"),
        .invalidate ⟨2⟩, .collection (.replace "a" 1 document), search "a" none]
    let w := run {} before
    w.leavesAlone ⟨1⟩ stretch = true ∧ (w.builtKeys stretch).length = 3 ∧
      (((w.builtKeys stretch).filter fun key => key.collection == ⟨1⟩).map fun key =>
        (key.field, key.sizing.sizeBytes)).Nodup := by
  intro document search before stretch w
  have hquiet : w.leavesAlone ⟨1⟩ stretch = true := by decide +kernel
  refine ⟨hquiet, by decide +kernel, ?_⟩
  exact built_at_most_once.2.1 {} before stretch ⟨1⟩ hquiet

end SearchSession
end TrigramSearch
