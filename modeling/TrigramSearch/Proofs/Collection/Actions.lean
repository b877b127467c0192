import TrigramSearch.Collection

/-!
# Runs of collections

A run creates, copies, drops and changes collections in any order.  Everything
that later modules need about such a run is said once, by `act_cases`: after
one action, every collection either was there before, or is in its first
generation under an identity that was not given out before, or is a collection
that was there in its next generation.

`Store.WellFormed` says that identities tell collections apart and that the next
identity is new; every store that a run reaches satisfies it.
-/

namespace TrigramSearch.Store

/-- What can be done with the collections of a store. -/
inductive Action where
  | create (name : String) (documents : List Json.Value)
  /-- Creates a collection with the documents of another. -/
  | clone (source target : String)
  | drop (name : String)
  | push (name : String) (document : Json.Value)
  | extend (name : String) (documents : List Json.Value)
  | replace (name : String) (position : Nat) (document : Json.Value)
  | remove (name : String) (position : Nat)
  | clear (name : String)

/-- Changes the collection of a name, if there is one. -/
def change (s : Store) (name : String) (f : Collection → Collection) : Store :=
  match s.get? name with
  | some c => s.set name (f c)
  | none => s

/-- The store after an action. -/
def act (s : Store) : Action → Store
  | .create name documents => s.create name documents
  | .clone source target =>
    match s.get? source with
    | some c => s.create target c.documents
    | none => s
  | .drop name => s.drop name
  | .push name document => s.change name (·.push document)
  | .extend name documents => s.change name (·.extend documents)
  | .replace name position document => s.change name fun c => (c.replace position document).2
  | .remove name position => s.change name fun c => (c.remove position).2
  | .clear name => s.change name Collection.clear

/-- The collections of a store. -/
def Has (s : Store) (name : String) (c : Collection) : Prop := (name, c) ∈ s.collections

theorem has_of_get? {s : Store} {name : String} {c : Collection} (h : s.get? name = some c) :
    s.Has name c := by
  obtain ⟨before, after, heq, _⟩ := List.lookup_eq_some_iff.mp h
  rw [Has, heq]
  exact List.mem_append_right before List.mem_cons_self

/-- An identity is live iff a collection has it. -/
theorem isLive_iff {s : Store} {id : CollectionId} :
    s.isLive id = true ↔ ∃ name c, s.Has name c ∧ c.id = id := by
  simp [isLive, Has]

/-- What one action can do to a collection that is there after it. -/
inductive Origin (s : Store) (name : String) (c : Collection) : Prop where
  | kept (h : s.Has name c)
  | created (hid : c.id.number = s.nextId) (hgeneration : c.generation = 0)
  | changed (old : Collection) (h : s.Has name old) (hid : c.id = old.id)
      (hgeneration : c.generation = old.generation + 1)

private theorem drop_origin {s : Store} {target name : String} {c : Collection}
    (h : (s.drop target).Has name c) : s.Has name c :=
  (List.mem_filter.mp h).1

private theorem create_origin {s : Store} {target name : String} {ds : List Json.Value}
    {c : Collection} (h : (s.create target ds).Has name c) : Origin s name c := by
  rcases List.mem_cons.mp h with heq | hrest
  · obtain ⟨rfl, rfl⟩ := Prod.mk.inj heq
    exact .created rfl rfl
  · exact .kept (drop_origin hrest)

/-- What stands in a store after the collection of a name has been exchanged. -/
theorem set_cases {s : Store} {target name : String} {new c : Collection}
    (h : (s.set target new).Has name c) :
    (name = target ∧ c = new) ∨ (name ≠ target ∧ s.Has name c) := by
  obtain ⟨e, he, heq⟩ := List.mem_map.mp h
  by_cases hname : e.1 = target
  · rw [if_pos (beq_iff_eq.mpr hname)] at heq
    obtain ⟨rfl, rfl⟩ := Prod.mk.inj heq
    exact Or.inl ⟨rfl, rfl⟩
  · rw [if_neg (by simpa using hname)] at heq
    subst heq
    exact Or.inr ⟨hname, he⟩

/-- A change of a collection that leaves it alone or brings it into its next generation. -/
def Advances (f : Collection → Collection) : Prop :=
  ∀ c, f c = c ∨ ((f c).id = c.id ∧ (f c).generation = c.generation + 1)

private theorem change_origin {s : Store} {target name : String} {f : Collection → Collection}
    (hf : Advances f) {c : Collection} (h : (s.change target f).Has name c) :
    Origin s name c := by
  rw [change] at h
  split at h
  · rename_i old hold
    have hhas := has_of_get? hold
    rcases set_cases h with ⟨rfl, rfl⟩ | ⟨_, hother⟩
    · rcases hf old with hsame | ⟨hid, hgeneration⟩
      · rw [hsame]
        exact .kept hhas
      · exact .changed old hhas hid hgeneration
    · exact .kept hother
  · exact .kept h

theorem push_advances (d : Json.Value) : Advances (·.push d) :=
  fun _ => Or.inr ⟨rfl, rfl⟩

theorem extend_advances (ds : List Json.Value) : Advances (·.extend ds) :=
  fun _ => Or.inr ⟨rfl, rfl⟩

theorem clear_advances : Advances Collection.clear :=
  fun _ => Or.inr ⟨rfl, rfl⟩

theorem replace_advances (position : Nat) (d : Json.Value) :
    Advances fun c => (c.replace position d).2 := by
  intro c
  simp only [Collection.replace]
  split
  · exact Or.inr ⟨rfl, rfl⟩
  · exact Or.inl rfl

theorem remove_advances (position : Nat) : Advances fun c => (c.remove position).2 := by
  intro c
  simp only [Collection.remove]
  split
  · exact Or.inr ⟨rfl, rfl⟩
  · exact Or.inl rfl

/-- Every collection after an action was kept, created or changed by it. -/
theorem act_cases {s : Store} {a : Action} {name : String} {c : Collection}
    (h : (s.act a).Has name c) : Origin s name c := by
  cases a with
  | create target ds => exact create_origin h
  | clone source target =>
      rw [act] at h
      split at h
      · exact create_origin h
      · exact .kept h
  | drop target => exact .kept (drop_origin h)
  | push target d => exact change_origin (push_advances d) h
  | extend target ds => exact change_origin (extend_advances ds) h
  | replace target position d => exact change_origin (replace_advances position d) h
  | remove target position => exact change_origin (remove_advances position) h
  | clear target => exact change_origin clear_advances h

/-! ## Identities -/

/-- Identities tell collections apart, and the next one has not been given out. -/
structure WellFormed (s : Store) : Prop where
  distinct : ∀ {n n' c c'}, s.Has n c → s.Has n' c' → c.id = c'.id → n = n' ∧ c = c'
  known : ∀ {n c}, s.Has n c → c.id.number < s.nextId

theorem empty_wellFormed : empty.WellFormed where
  distinct := by
    intro n n' c c' h
    cases h
  known := by
    intro n c h
    cases h

private theorem drop_wellFormed {s : Store} (h : s.WellFormed) (target : String) :
    (s.drop target).WellFormed where
  distinct h₁ h₂ hid := h.distinct (drop_origin h₁) (drop_origin h₂) hid
  known h₁ := h.known (drop_origin h₁)

private theorem create_wellFormed {s : Store} (h : s.WellFormed) (target : String)
    (ds : List Json.Value) : (s.create target ds).WellFormed where
  distinct := by
    intro n n' c c' h₁ h₂ hid
    rcases List.mem_cons.mp h₁ with heq₁ | hold₁ <;> rcases List.mem_cons.mp h₂ with heq₂ | hold₂
    · exact Prod.mk.inj (heq₁.trans heq₂.symm)
    · obtain ⟨rfl, rfl⟩ := Prod.mk.inj heq₁
      have hlt := h.known (drop_origin hold₂)
      rw [← hid] at hlt
      exact absurd hlt (Nat.lt_irrefl _)
    · obtain ⟨rfl, rfl⟩ := Prod.mk.inj heq₂
      have hlt := h.known (drop_origin hold₁)
      rw [hid] at hlt
      exact absurd hlt (Nat.lt_irrefl _)
    · exact h.distinct (drop_origin hold₁) (drop_origin hold₂) hid
  known := by
    intro n c h₁
    rcases List.mem_cons.mp h₁ with heq | hold
    · obtain ⟨rfl, rfl⟩ := Prod.mk.inj heq
      exact Nat.lt_succ_self s.nextId
    · exact Nat.lt_succ_of_lt (h.known (drop_origin hold))

private theorem id_of_advances {f : Collection → Collection} (hf : Advances f) (c : Collection) :
    (f c).id = c.id := by
  rcases hf c with hsame | ⟨hid, _⟩
  · rw [hsame]
  · exact hid

private theorem change_wellFormed {s : Store} (h : s.WellFormed) {f : Collection → Collection}
    (hf : Advances f) (target : String) : (s.change target f).WellFormed := by
  rw [change]
  split
  · rename_i old hold
    have hhas := has_of_get? hold
    have hid := id_of_advances hf old
    constructor
    · intro n n' c c' h₁ h₂ heq
      rcases set_cases h₁ with ⟨rfl, rfl⟩ | ⟨hne₁, hold₁⟩ <;>
        rcases set_cases h₂ with ⟨rfl, rfl⟩ | ⟨hne₂, hold₂⟩
      · exact ⟨rfl, rfl⟩
      · exact absurd (h.distinct hhas hold₂ (hid.symm.trans heq)).1.symm hne₂
      · exact absurd (h.distinct hold₁ hhas (heq.trans hid)).1 hne₁
      · exact h.distinct hold₁ hold₂ heq
    · intro n c h₁
      rcases set_cases h₁ with ⟨rfl, rfl⟩ | ⟨_, hold₁⟩
      · rw [hid]
        exact h.known hhas
      · exact h.known hold₁
  · exact h

/-- Every action keeps identities apart. -/
theorem act_wellFormed {s : Store} (h : s.WellFormed) (a : Action) : (s.act a).WellFormed := by
  cases a with
  | create target ds => exact create_wellFormed h target ds
  | clone source target =>
      rw [act]
      split
      · exact create_wellFormed h target _
      · exact h
  | drop target => exact drop_wellFormed h target
  | push target d => exact change_wellFormed h (push_advances d) target
  | extend target ds => exact change_wellFormed h (extend_advances ds) target
  | replace target position d => exact change_wellFormed h (replace_advances position d) target
  | remove target position => exact change_wellFormed h (remove_advances position) target
  | clear target => exact change_wellFormed h clear_advances target

/-- No action gives an identity out again. -/
theorem nextId_le_act (s : Store) (a : Action) : s.nextId ≤ (s.act a).nextId := by
  have hchange : ∀ name f, (s.change name f).nextId = s.nextId := by
    intro name f
    rw [change]
    split <;> rfl
  cases a with
  | create target ds => exact Nat.le_succ s.nextId
  | clone source target =>
      rw [act]
      split
      · exact Nat.le_succ s.nextId
      · exact Nat.le_refl s.nextId
  | drop target => exact Nat.le_refl s.nextId
  | _ => exact Nat.le_of_eq (hchange _ _).symm

end TrigramSearch.Store
