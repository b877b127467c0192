import TrigramSearch.Proofs.Collection.Actions

/-!
# Versions of collections

The generation of a collection is meant to stand for its documents.  A run is
followed here change by change: `Store.mutates` says whether an action changes
the collection of an identity, and `Store.mutations` counts such actions.

Two invariants carry the results.  Seen from one moment on, a collection is
never behind what it was, and equal to it while its generation is the same
(`Store.Ahead`).  Seen from the start, its generation is the number of changes
(`Store.Counted`); an identity that has not been given out has no changes.

## Main results

* `Store.generation_act` — an action advances the collections that it changes by
  one generation, and no others.
* `Store.eq_of_version` — one version of a collection is one collection, at
  whatever moments of a run it is seen.
* `Store.run_generation` — the generation is the number of changes.
* `Store.get?_frame` — what is done under other names does not show.
* `Store.versions` — all of this for every run, with positions and copies.
-/

namespace TrigramSearch

namespace Collection

variable {c : Collection} {position : Nat} {document : Json.Value}

theorem get?_of_length_le (h : c.length ≤ position) : c.get? position = none :=
  List.getElem?_eq_none h

theorem get?_of_lt (h : position < c.documents.length) :
    c.get? position = some c.documents[position] :=
  List.getElem?_eq_getElem h

/-- Outside of the collection there is nothing to replace. -/
theorem replace_of_length_le (h : c.length ≤ position) :
    c.replace position document = (none, c) := by
  rw [replace, get?_of_length_le h]

theorem replace_of_lt (h : position < c.documents.length) :
    c.replace position document =
      (some c.documents[position], c.update (c.documents.set position document)) := by
  rw [replace, get?_of_lt h]

/-- Outside of the collection there is nothing to remove. -/
theorem remove_of_length_le (h : c.length ≤ position) : c.remove position = (none, c) := by
  rw [remove, get?_of_length_le h]

theorem remove_of_lt (h : position < c.documents.length) :
    c.remove position =
      (some c.documents[position], c.update (c.documents.eraseIdx position)) := by
  rw [remove, get?_of_lt h]

end Collection

namespace Store

/-- The store after several actions. -/
def run (actions : List Action) : Store := actions.foldl act empty

/-! ## Changes -/

/-- Whether the collection of a name has this identity and satisfies a condition. -/
def holdsOf (s : Store) (name : String) (id : CollectionId) (p : Collection → Bool) : Bool :=
  (s.get? name).any fun c => c.id == id && p c

/-- Whether an action changes the collection of an identity. At a position outside of the
collection nothing can be changed; to add no documents, or to remove all when there are none,
counts as a change. -/
def mutates (s : Store) (id : CollectionId) : Action → Bool
  | .push name _ => s.holdsOf name id fun _ => true
  | .extend name _ => s.holdsOf name id fun _ => true
  | .replace name position _ => s.holdsOf name id fun c => decide (position < c.length)
  | .remove name position => s.holdsOf name id fun c => decide (position < c.length)
  | .clear name => s.holdsOf name id fun _ => true
  | .create _ _ => false
  | .clone _ _ => false
  | .drop _ => false

/-- The number of changes of the collection of an identity, from a store on. -/
def mutations (id : CollectionId) (s : Store) : List Action → Nat
  | [] => 0
  | a :: as => (s.mutates id a).toNat + mutations id (s.act a) as

/-- What is changed is there. -/
theorem has_of_holdsOf {s : Store} {name : String} {id : CollectionId} {p : Collection → Bool}
    (h : s.holdsOf name id p = true) : ∃ c, s.Has name c ∧ c.id = id := by
  rw [holdsOf] at h
  cases hc : s.get? name with
  | none =>
      rw [hc] at h
      cases h
  | some c =>
      rw [hc, Option.any_some, Bool.and_eq_true, beq_iff_eq] at h
      exact ⟨c, has_of_get? hc, h.1⟩

theorem has_of_mutates {s : Store} {id : CollectionId} {a : Action}
    (h : s.mutates id a = true) : ∃ name c, s.Has name c ∧ c.id = id := by
  cases a with
  | create name documents => cases h
  | clone source target => cases h
  | drop name => cases h
  | _ => exact ⟨_, has_of_holdsOf h⟩

/-- A change that brings the collections of a condition into their next generation, and leaves
the others as they are. -/
def AdvancesAt (f : Collection → Collection) (p : Collection → Bool) : Prop :=
  ∀ c, (f c).id = c.id ∧ (f c).generation = c.generation + (p c).toNat

theorem update_advancesAt (documents : Collection → List Json.Value) :
    AdvancesAt (fun c => c.update (documents c)) fun _ => true :=
  fun _ => ⟨rfl, rfl⟩

theorem replace_advancesAt (position : Nat) (document : Json.Value) :
    AdvancesAt (fun c => (c.replace position document).2) fun c =>
      decide (position < c.length) := by
  intro c
  by_cases h : position < c.length
  · simp [Collection.replace_of_lt h, Collection.update, h]
  · simp [Collection.replace_of_length_le (Nat.le_of_not_lt h), h]

theorem remove_advancesAt (position : Nat) :
    AdvancesAt (fun c => (c.remove position).2) fun c => decide (position < c.length) := by
  intro c
  by_cases h : position < c.length
  · simp [Collection.remove_of_lt h, Collection.update, h]
  · simp [Collection.remove_of_length_le (Nat.le_of_not_lt h), h]

/-- What a change under one name does to the generation of a collection. -/
private theorem generation_change {s : Store} (hs : s.WellFormed) {target : String}
    {f : Collection → Collection} {p : Collection → Bool} (hf : AdvancesAt f p)
    {m n : String} {c d : Collection} (hc : s.Has m c) (hd : (s.change target f).Has n d)
    (hid : d.id = c.id) :
    d.generation = c.generation + (s.holdsOf target c.id p).toNat := by
  rw [change] at hd
  rw [holdsOf]
  cases hold : s.get? target with
  | none =>
      rw [hold] at hd
      obtain ⟨_, rfl⟩ := hs.distinct hd hc hid
      rfl
  | some old =>
      rw [hold] at hd
      have hhas := has_of_get? hold
      rcases set_cases hd with ⟨rfl, rfl⟩ | ⟨hne, hother⟩
      · have hsame : old.id = c.id := (hf old).1.symm.trans hid
        obtain ⟨_, rfl⟩ := hs.distinct hhas hc hsame
        simp [(hf old).2]
      · obtain ⟨_, rfl⟩ := hs.distinct hother hc hid
        have hdiffers : old.id ≠ d.id := by
          intro hsame
          exact hne (hs.distinct hhas hother hsame).1.symm
        simp [hdiffers]

/-- What is there after a creation, under an identity that was there before, was there before. -/
private theorem eq_of_create {s : Store} (hs : s.WellFormed) {target : String}
    {documents : List Json.Value} {m n : String} {c d : Collection} (hc : s.Has m c)
    (hd : (s.create target documents).Has n d) (hid : d.id = c.id) : d = c := by
  rcases List.mem_cons.mp hd with heq | hrest
  · obtain ⟨rfl, rfl⟩ := Prod.mk.inj heq
    have hlt := hs.known hc
    rw [← hid] at hlt
    exact absurd hlt (Nat.lt_irrefl _)
  · exact (hs.distinct (List.mem_filter.mp hrest).1 hc hid).2

/-- An action brings the collections that it changes into their next generation, and leaves the
generations of all others as they are. -/
theorem generation_act {s : Store} (hs : s.WellFormed) (a : Action) {m n : String}
    {c d : Collection} (hc : s.Has m c) (hd : (s.act a).Has n d) (hid : d.id = c.id) :
    d.generation = c.generation + (s.mutates c.id a).toNat := by
  have hsame : d = c → d.generation = c.generation := fun h => congrArg Collection.generation h
  cases a with
  | create target documents => exact hsame (eq_of_create hs hc hd hid)
  | clone source target =>
      rw [act] at hd
      split at hd
      · exact hsame (eq_of_create hs hc hd hid)
      · exact hsame (hs.distinct hd hc hid).2
  | drop target => exact hsame (hs.distinct (List.mem_filter.mp hd).1 hc hid).2
  | push target document => exact generation_change hs (update_advancesAt _) hc hd hid
  | extend target documents => exact generation_change hs (update_advancesAt _) hc hd hid
  | replace target position document =>
      exact generation_change hs (replace_advancesAt position document) hc hd hid
  | remove target position => exact generation_change hs (remove_advancesAt position) hc hd hid
  | clear target => exact generation_change hs (update_advancesAt _) hc hd hid

/-- A collection that is not changed, and was not created, was there before. -/
theorem has_of_not_mutates {s : Store} (hs : s.WellFormed) {a : Action} {n : String}
    {c : Collection} (hc : (s.act a).Has n c) (hknown : c.id.number < s.nextId)
    (hquiet : s.mutates c.id a = false) : s.Has n c := by
  cases act_cases hc with
  | kept hold => exact hold
  | created hnew _ => omega
  | changed old hold hsame hgeneration =>
      have hstep := generation_act hs a hold hc hsame
      rw [← hsame, hquiet, hgeneration] at hstep
      exact absurd hstep (Nat.succ_ne_self _)

/-! ## Versions -/

/-- Seen from a moment at which a collection was there: it is not behind, and it is the same as
long as its generation is. -/
structure Ahead (c : Collection) (s : Store) : Prop where
  known : c.id.number < s.nextId
  generation : ∀ {n d}, s.Has n d → d.id = c.id → c.generation ≤ d.generation
  eq : ∀ {n d}, s.Has n d → d.id = c.id → d.generation = c.generation → d = c

theorem ahead_self {s : Store} (hs : s.WellFormed) {n : String} {c : Collection}
    (hc : s.Has n c) : Ahead c s where
  known := hs.known hc
  generation hd hid := Nat.le_of_eq (congrArg Collection.generation (hs.distinct hd hc hid).2.symm)
  eq hd hid _ := (hs.distinct hd hc hid).2

/-- A collection created later has another identity, and a changed one is in a later generation. -/
theorem ahead_act {c : Collection} {s : Store} (h : Ahead c s) (a : Action) :
    Ahead c (s.act a) := by
  constructor
  · exact Nat.lt_of_lt_of_le h.known (s.nextId_le_act a)
  · intro n d hd hid
    cases act_cases hd with
    | kept hold => exact h.generation hold hid
    | created hnew _ =>
        have hlt := h.known
        rw [← hid, hnew] at hlt
        exact absurd hlt (Nat.lt_irrefl _)
    | changed old hold hsame hgeneration =>
        have hle := h.generation hold (hsame.symm.trans hid)
        omega
  · intro n d hd hid hgen
    cases act_cases hd with
    | kept hold => exact h.eq hold hid hgen
    | created hnew _ =>
        have hlt := h.known
        rw [← hid, hnew] at hlt
        exact absurd hlt (Nat.lt_irrefl _)
    | changed old hold hsame hgeneration =>
        have hle := h.generation hold (hsame.symm.trans hid)
        omega

theorem ahead_foldl {c : Collection} {s : Store} (h : Ahead c s) (actions : List Action) :
    Ahead c (actions.foldl act s) :=
  List.foldlRecOn actions act h fun _ hs a _ => ahead_act hs a

theorem run_wellFormed (actions : List Action) : (run actions).WellFormed :=
  List.foldlRecOn actions act empty_wellFormed fun _ hs a _ => act_wellFormed hs a

theorem nextId_le_foldl (s : Store) (actions : List Action) :
    s.nextId ≤ (actions.foldl act s).nextId :=
  List.foldlRecOn actions act (Nat.le_refl s.nextId) fun later h a _ =>
    Nat.le_trans h (later.nextId_le_act a)

/-- The store after a run, from one of its moments. -/
theorem run_eq_foldl_drop (actions : List Action) (i : Nat) :
    run actions = (actions.drop i).foldl act (run (actions.take i)) := by
  rw [run, run, ← List.foldl_append, List.take_append_drop]

/-- At two moments of a run, a collection that has kept its generation is the same. -/
theorem eq_of_version (actions : List Action) {i j : Nat} {m n : String} {c d : Collection}
    (hc : (run (actions.take i)).Has m c) (hd : (run (actions.take j)).Has n d)
    (hid : c.id = d.id) (hgen : c.generation = d.generation) : c = d := by
  rcases Nat.le_total i j with hij | hji
  · have hahead := ahead_foldl (ahead_self (run_wellFormed _) hc) ((actions.take j).drop i)
    have hmoment := run_eq_foldl_drop (actions.take j) i
    rw [List.take_take, Nat.min_eq_left hij] at hmoment
    rw [← hmoment] at hahead
    exact (hahead.eq hd hid.symm hgen.symm).symm
  · have hahead := ahead_foldl (ahead_self (run_wellFormed _) hd) ((actions.take i).drop j)
    have hmoment := run_eq_foldl_drop (actions.take i) j
    rw [List.take_take, Nat.min_eq_left hji] at hmoment
    rw [← hmoment] at hahead
    exact hahead.eq hc hid hgen

/-! ## The number of changes -/

/-- Every collection is in the generation of its number of changes. -/
structure Counted (changes : CollectionId → Nat) (s : Store) : Prop where
  generation : ∀ {n c}, s.Has n c → c.generation = changes c.id
  unknown : ∀ {id}, s.nextId ≤ id.number → changes id = 0

theorem counted_act {changes : CollectionId → Nat} {s : Store} (h : Counted changes s)
    (hs : s.WellFormed) (a : Action) :
    Counted (fun id => changes id + (s.mutates id a).toNat) (s.act a) := by
  have hunknown : ∀ {id : CollectionId}, s.nextId ≤ id.number →
      changes id + (s.mutates id a).toNat = 0 := by
    intro id hid
    have hquiet : s.mutates id a = false := by
      rw [Bool.eq_false_iff]
      intro hmutates
      obtain ⟨_, c, hc, rfl⟩ := has_of_mutates hmutates
      exact absurd (hs.known hc) (Nat.not_lt.mpr hid)
    rw [h.unknown hid, hquiet]
    rfl
  constructor
  · intro n c hc
    cases act_cases hc with
    | kept hold =>
        have hstep := generation_act hs a hold hc rfl
        rw [← h.generation hold]
        exact hstep
    | created hnew hzero =>
        rw [hzero, hunknown (Nat.le_of_eq hnew.symm)]
    | changed old hold hsame _ =>
        have hstep := generation_act hs a hold hc hsame
        rw [hstep, hsame, h.generation hold]
  · intro id hid
    exact hunknown (Nat.le_trans (s.nextId_le_act a) hid)

theorem counted_foldl (actions : List Action) :
    ∀ {changes : CollectionId → Nat} {s : Store}, Counted changes s → s.WellFormed →
      Counted (fun id => changes id + mutations id s actions) (actions.foldl act s) := by
  induction actions with
  | nil =>
      intro changes s h _
      exact h
  | cons a as ih =>
      intro changes s h hs
      have hlater := ih (counted_act h hs a) (act_wellFormed hs a)
      simpa only [mutations, Nat.add_assoc, List.foldl_cons] using hlater

/-- The generation of a collection is the number of its changes. -/
theorem run_generation (actions : List Action) {n : String} {c : Collection}
    (hc : (run actions).Has n c) : c.generation = mutations c.id empty actions := by
  have hempty : Counted (fun _ => 0) empty := by
    constructor
    · intro n c h
      cases h
    · intro id _
      rfl
  have hcounted := counted_foldl actions hempty empty_wellFormed
  rw [hcounted.generation hc, Nat.zero_add]

/-! ## Names -/

namespace Action

/-- The name under which an action creates, drops or changes a collection. -/
def target : Action → String
  | create name _ => name
  | clone _ target => target
  | drop name => name
  | push name _ => name
  | extend name _ => name
  | replace name _ _ => name
  | remove name _ => name
  | clear name => name

end Action

theorem get?_drop_of_ne (s : Store) {name other : String} (h : other ≠ name) :
    (s.drop name).get? other = s.get? other := by
  simp only [drop, get?]
  induction s.collections with
  | nil => rfl
  | cons entry rest ih =>
      obtain ⟨key, c⟩ := entry
      by_cases hkey : key = name
      · simp [hkey, List.lookup_cons, beq_false_of_ne h, ih]
      · simp [hkey, List.lookup_cons, ih]

theorem get?_create_self (s : Store) (name : String) (documents : List Json.Value) :
    (s.create name documents).get? name = some ⟨⟨s.nextId⟩, 0, documents⟩ :=
  List.lookup_cons_self

theorem get?_create_of_ne (s : Store) {name other : String} (documents : List Json.Value)
    (h : other ≠ name) : (s.create name documents).get? other = s.get? other := by
  have hdrop := get?_drop_of_ne s h
  simp only [get?] at hdrop ⊢
  simp only [create, List.lookup_cons, beq_false_of_ne h, hdrop]

theorem get?_set_self (s : Store) (name : String) (d : Collection) :
    (s.set name d).get? name = (s.get? name).map fun _ => d := by
  simp only [set, get?, beq_iff_eq]
  induction s.collections with
  | nil => rfl
  | cons entry rest ih =>
      obtain ⟨key, c⟩ := entry
      by_cases hkey : key = name
      · simp [hkey]
      · simp [hkey, List.lookup_cons, beq_false_of_ne (Ne.symm hkey), ih]

theorem get?_set_of_ne (s : Store) {name other : String} (d : Collection) (h : other ≠ name) :
    (s.set name d).get? other = s.get? other := by
  simp only [set, get?, beq_iff_eq]
  induction s.collections with
  | nil => rfl
  | cons entry rest ih =>
      obtain ⟨key, c⟩ := entry
      by_cases hkey : key = name
      · simp [hkey, List.lookup_cons, beq_false_of_ne h, ih]
      · simp [hkey, List.lookup_cons, ih]

theorem get?_change_self (s : Store) (name : String) (f : Collection → Collection) :
    (s.change name f).get? name = (s.get? name).map f := by
  rw [change]
  cases hc : s.get? name with
  | none => simp [hc]
  | some c => simp [get?_set_self, hc]

theorem get?_change_of_ne (s : Store) {name other : String} (f : Collection → Collection)
    (h : other ≠ name) : (s.change name f).get? other = s.get? other := by
  rw [change]
  split
  · exact get?_set_of_ne s _ h
  · rfl

/-- An action does not show under another name than its own. -/
theorem get?_act_of_ne (s : Store) {a : Action} {name : String} (h : a.target ≠ name) :
    (s.act a).get? name = s.get? name := by
  have hne : name ≠ a.target := Ne.symm h
  cases a with
  | create target documents => exact get?_create_of_ne s documents hne
  | clone source target =>
      rw [act]
      split
      · exact get?_create_of_ne s _ hne
      · rfl
  | drop target => exact get?_drop_of_ne s hne
  | push target document => exact get?_change_of_ne s _ hne
  | extend target documents => exact get?_change_of_ne s _ hne
  | replace target position document => exact get?_change_of_ne s _ hne
  | remove target position => exact get?_change_of_ne s _ hne
  | clear target => exact get?_change_of_ne s _ hne

/-- What is done under other names does not show. -/
theorem get?_frame (s : Store) {name : String} {actions : List Action}
    (h : ∀ a ∈ actions, a.target ≠ name) :
    (actions.foldl act s).get? name = s.get? name := by
  refine List.foldlRecOn (motive := fun later => later.get? name = s.get? name) actions act rfl ?_
  intro later hlater a ha
  rw [get?_act_of_ne later (h a ha), hlater]

/-! ## Copies -/

/-- A copy is in its first generation, under the next identity. -/
theorem get?_clone {s : Store} {source : String} {c : Collection} (hc : s.get? source = some c)
    (target : String) :
    (s.act (.clone source target)).get? target = some ⟨⟨s.nextId⟩, 0, c.documents⟩ := by
  simp only [act, hc]
  exact get?_create_self s target c.documents

/-- The next identity has not been given out at any moment of the run. -/
theorem id_ne_nextId (actions : List Action) {i : Nat} {n : String} {c : Collection}
    (hc : (run (actions.take i)).Has n c) : c.id ≠ ⟨(run actions).nextId⟩ := by
  intro hid
  have hknown := (run_wellFormed (actions.take i)).known hc
  have hlater := nextId_le_foldl (run (actions.take i)) (actions.drop i)
  rw [← run_eq_foldl_drop actions i] at hlater
  rw [hid] at hknown
  exact absurd (Nat.lt_of_lt_of_le hknown hlater) (Nat.lt_irrefl _)

/-- **Versions.**  In every run, identity and generation determine the documents, whenever they are
seen, and the generation is the number of changes.  At a position outside of a collection nothing
is replaced or removed; inside, the old document is given back and the list is the one with that
document exchanged or deleted.  A copy has the documents of its source and an identity that no
collection has had, and leaves the source as it is; at any time after, what is done to one of the
two does not show in the other. -/
theorem versions (actions : List Action) :
    (∀ i j m n c d, (run (actions.take i)).Has m c → (run (actions.take j)).Has n d →
      c.id = d.id → c.generation = d.generation → c.documents = d.documents) ∧
    (∀ n c, (run actions).Has n c → c.generation = mutations c.id empty actions) ∧
    (∀ name c position document, (run actions).get? name = some c →
      let replaced := (run actions).act (.replace name position document)
      let removed := (run actions).act (.remove name position)
      (c.length ≤ position →
        (c.replace position document).1 = none ∧ replaced.get? name = some c ∧
        (c.remove position).1 = none ∧ removed.get? name = some c) ∧
      (∀ h : position < c.documents.length,
        (c.replace position document).1 = some c.documents[position] ∧
        replaced.get? name =
          some ⟨c.id, c.generation + 1, c.documents.set position document⟩ ∧
        (c.remove position).1 = some c.documents[position] ∧
        removed.get? name = some ⟨c.id, c.generation + 1, c.documents.eraseIdx position⟩)) ∧
    (∀ source target c, (run actions).get? source = some c →
      let copied := (run actions).act (.clone source target)
      ∃ d, copied.get? target = some d ∧ d.documents = c.documents ∧
        (∀ i n e, (run (actions.take i)).Has n e → e.id ≠ d.id) ∧
        (source ≠ target → copied.get? source = some c) ∧
        (∀ name ∈ [source, target], ∀ earlier later : List Action,
          (∀ a ∈ later, a.target ≠ name) →
          ((earlier ++ later).foldl act copied).get? name =
            (earlier.foldl act copied).get? name)) := by
  refine ⟨?_, ?_, ?_, ?_⟩
  · intro i j m n c d hc hd hid hgen
    rw [eq_of_version actions hc hd hid hgen]
  · intro n c hc
    exact run_generation actions hc
  · intro name c position document hc replaced removed
    have hreplaced : replaced.get? name = some (c.replace position document).2 := by
      simp only [replaced, act, get?_change_self, hc, Option.map_some]
    have hremoved : removed.get? name = some (c.remove position).2 := by
      simp only [removed, act, get?_change_self, hc, Option.map_some]
    constructor
    · intro h
      rw [hreplaced, hremoved, Collection.replace_of_length_le h,
        Collection.remove_of_length_le h]
      exact ⟨rfl, rfl, rfl, rfl⟩
    · intro h
      rw [hreplaced, hremoved, Collection.replace_of_lt h, Collection.remove_of_lt h]
      exact ⟨rfl, rfl, rfl, rfl⟩
  · intro source target c hc copied
    refine ⟨_, get?_clone hc target, rfl, ?_, ?_, ?_⟩
    · intro i n e he
      exact id_ne_nextId actions he
    · intro hne
      rw [get?_act_of_ne (run actions) (a := .clone source target) (Ne.symm hne), hc]
    · intro name _ earlier later hlater
      rw [List.foldl_append, get?_frame _ hlater]

/-- A copy whose source is replaced at a position that it does not have, and that loses a document
itself. -/
theorem versions_after_copy :
    let actions : List Action :=
      [.create "a" [.null], .push "a" (.bool true), .clone "a" "b", .replace "a" 2 .null,
        .remove "b" 0]
    let c : Collection := ⟨⟨1⟩, 1, [.null, .bool true]⟩
    let d : Collection := ⟨⟨2⟩, 1, [.bool true]⟩
    (run (actions.take 2)).Has "a" c ∧ (run actions).get? "a" = some c ∧
      (run actions).get? "b" = some d ∧
      c.generation = mutations c.id empty actions ∧ d.generation = mutations d.id empty actions ∧
      (c.replace 2 .null).1 = none ∧ (d.remove 0).1 = some (.bool true) ∧
      ((run actions).act (.remove "b" 0)).get? "b" = some ⟨⟨2⟩, 2, []⟩ := by
  intro actions c d
  have hthen : (run (actions.take 2)).Has "a" c := has_of_get? rfl
  have hc : (run actions).get? "a" = some c := rfl
  have hd : (run actions).get? "b" = some d := rfl
  obtain ⟨_, hgeneration, hpositions, _⟩ := versions actions
  have hreplaced := (hpositions "a" c 2 .null hc).1 (Nat.le_refl 2)
  have hremoved := (hpositions "b" d 0 .null hd).2 Nat.one_pos
  exact ⟨hthen, hc, hd, hgeneration "a" c (has_of_get? hc), hgeneration "b" d (has_of_get? hd),
    hreplaced.1, hremoved.2.2.1, hremoved.2.2.2⟩

end Store
end TrigramSearch
