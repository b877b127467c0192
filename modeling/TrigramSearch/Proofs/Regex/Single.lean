import TrigramSearch.Proofs.Regex.Bounds
import TrigramSearch.Proofs.Regex.ClassSteps
import TrigramSearch.Proofs.Regex.Steps

/-!
# Patterns that are a single part

The tree of a pattern tells how the pattern was read: if it is a class or a
group, the pattern is that class or group and nothing else.  For once a part has
been read outside of all groups, whatever comes next makes the tree a compound
one: a sequence, a repetition, or an alternation (`isCompound_of_begun`).

## Main results

* `rest_of_single` — a run that ends with a single part has nothing left to read.
* `bracketedClass_of_parse` — a pattern whose tree is a class is one bracketed
  class.
* `openGroup_of_parse` — a pattern whose tree is a group opens it with its first
  character.
-/

namespace TrigramSearch.Regex.Parser

/-- Whether a tree is put together from others, other than by a group. -/
def isCompound : Ast → Bool
  | .repetition _ _ => true
  | .concat _ => true
  | .alternation _ => true
  | _ => false

/-- Something has been read outside of all groups, before the outermost open one if there is
one. -/
def Begun (st : State) : Prop :=
  match st.groups.getLast? with
  | none => st.branches ≠ [] ∨ st.parts ≠ []
  | some g => g.branches ≠ [] ∨ g.parts ≠ []

/-- The tree will be a compound one, whatever is left of the pattern. -/
def Compound (st : State) : Prop :=
  match st.groups.getLast? with
  | none => st.branches ≠ [] ∨
      ∃ a before, st.parts = a :: before ∧ (isCompound a = true ∨ before ≠ [])
  | some g => g.branches ≠ [] ∨ g.parts ≠ []

section
variable {st st' : State} {c : Char} {s rest rest' : List Char} {a b : Ast} {fuel : Nat}

theorem Compound.begun (h : Compound st) : Begun st := by
  unfold Compound at h
  unfold Begun
  split
  · rename_i hnone
    rw [hnone] at h
    rcases h with hbranches | ⟨a, before, hparts, _⟩
    · exact Or.inl hbranches
    · exact Or.inr (by rw [hparts]; exact List.cons_ne_nil a before)
  · rename_i g hsome
    rw [hsome] at h
    exact h

/-- Outside of all groups, a state with something before its last part is compound. -/
private theorem compound_of_parts {before : List Ast} (hbegun : Begun st)
    (hgroups : st'.groups = st.groups) (houter : st.groups = [] → st'.branches = st.branches ∧
      st'.parts = a :: before ∧ (isCompound a = true ∨ (st.parts ≠ [] → before ≠ []))) :
    Compound st' := by
  unfold Begun at hbegun
  unfold Compound
  rw [hgroups]
  split
  · rename_i hnone
    rw [hnone] at hbegun
    obtain ⟨hbranches, hparts, hcompound⟩ := houter (List.getLast?_eq_none_iff.mp hnone)
    rcases hbegun with hbegun | hbegun
    · exact Or.inl (by rwa [hbranches])
    · rcases hcompound with hcompound | hmore
      · exact Or.inr ⟨a, before, hparts, Or.inl hcompound⟩
      · exact Or.inr ⟨a, before, hparts, Or.inr (hmore hbegun)⟩
  · rename_i g hsome
    rw [hsome] at hbegun
    exact hbegun

/-- Once something has been read, every further step leads to a compound tree. -/
theorem Stepped.compound (hstep : Stepped st rest c st' rest') (h : Begun st) : Compound st' := by
  cases hstep with
  | enter capturing flags names =>
      unfold Begun at h
      unfold Compound
      rw [State.enter]
      dsimp only
      cases hgroups : st.groups.getLast? with
      | none =>
          rw [hgroups] at h
          rw [List.getLast?_eq_none_iff.mp hgroups]
          exact h
      | some g =>
          rw [hgroups] at h
          rw [List.getLast?_cons, hgroups]
          exact h
  | setFlags => exact compound_of_parts h rfl fun _ => ⟨rfl, rfl, Or.inr id⟩
  | @close g groups hgroups =>
      unfold Begun at h
      unfold Compound
      rw [State.leave]
      dsimp only
      rw [hgroups, List.getLast?_cons] at h
      cases hlast : groups.getLast? with
      | none =>
          rw [hlast] at h
          rcases h with hbranches | hparts
          · exact Or.inl hbranches
          · exact Or.inr ⟨_, _, rfl, Or.inr hparts⟩
      | some outer =>
          rw [hlast] at h
          exact h
  | branch =>
      unfold Begun at h
      unfold Compound
      dsimp only
      cases hlast : st.groups.getLast? with
      | none => exact Or.inl (List.cons_ne_nil _ _)
      | some g =>
          rw [hlast] at h
          exact h
  | charClass => exact compound_of_parts h rfl fun _ => ⟨rfl, rfl, Or.inr id⟩
  | sign => exact compound_of_parts h rfl fun _ => ⟨rfl, rfl, Or.inl rfl⟩
  | counts => exact compound_of_parts h rfl fun _ => ⟨rfl, rfl, Or.inl rfl⟩
  | primitive => exact compound_of_parts h rfl fun _ => ⟨rfl, rfl, Or.inr id⟩

/-- At the end of the pattern, the tree of a compound state is compound. -/
private theorem isCompound_tree (h : Compound st) (hgroups : st.groups = []) :
    isCompound st.tree = true := by
  unfold Compound at h
  rw [hgroups] at h
  rw [State.tree, alternatives]
  split
  · rename_i hempty
    rcases h with hbranches | ⟨a, before, hparts, hcompound⟩
    · exact absurd (List.isEmpty_iff.mp hempty) hbranches
    rw [hparts]
    cases before with
    | nil =>
        rcases hcompound with hcompound | hmore
        · exact hcompound
        · exact absurd rfl hmore
    | cons b before => rfl
  · rfl

theorem isCompound_of_compound (h : loop fuel st s = .ok a) (hst : Compound st) :
    isCompound a = true := by
  induction fuel generalizing st s with
  | zero =>
      rcases loop_step h with ⟨_, hgroups, rfl⟩ | ⟨_, _, _, _, _, hfuel, _⟩
      · exact isCompound_tree hst hgroups
      · cases hfuel
  | succ fuel ih =>
      rcases loop_step h with
        ⟨_, hgroups, rfl⟩ | ⟨fuel', c, rest, st', rest', hfuel, _, hstep, hrun⟩
      · exact isCompound_tree hst hgroups
      · obtain rfl := Nat.succ.inj hfuel
        exact ih hrun ((stepped hstep).compound hst.begun)

/-- A run that ends with a single part, and has read it, has nothing left to read. -/
theorem rest_of_single (h : loop fuel st s = .ok a) (ha : isCompound a = false)
    (hgroups : st.groups = []) (hbranches : st.branches = []) (hparts : st.parts = [b]) :
    skipBlanks st.extended s = [] ∧ a = b := by
  rcases loop_step h with ⟨hs, _, rfl⟩ | ⟨fuel', c, rest, st', rest', _, _, hstep, hrun⟩
  · refine ⟨hs, ?_⟩
    rw [State.tree, hbranches, hparts]
    rfl
  · have hbegun : Begun st := by
      unfold Begun
      rw [hgroups]
      exact Or.inr (by rw [hparts]; exact List.cons_ne_nil b [])
    have hcompound := isCompound_of_compound hrun ((stepped hstep).compound hbegun)
    rw [ha] at hcompound
    cases hcompound

/-- If nothing has been read before the outermost open group, a tree that is not compound is that
group. -/
theorem isGroup_of_open (inner : List OpenGroup) {g : OpenGroup} (h : loop fuel st s = .ok a)
    (ha : isCompound a = false) (hgroups : st.groups = inner ++ [g]) (hbranches : g.branches = [])
    (hparts : g.parts = []) : ∃ body, a = .group g.capturing g.flags body := by
  induction fuel generalizing st s inner with
  | zero =>
      rcases loop_step h with ⟨_, hnone, _⟩ | ⟨_, _, _, _, _, hfuel, _⟩
      · rw [hgroups] at hnone
        exact absurd hnone (List.append_ne_nil_of_right_ne_nil inner (List.cons_ne_nil g []))
      · cases hfuel
  | succ fuel ih =>
      rcases loop_step h with ⟨_, hnone, _⟩ | ⟨fuel', c, rest, st', rest', hfuel, _, hstep, hrun⟩
      · rw [hgroups] at hnone
        exact absurd hnone (List.append_ne_nil_of_right_ne_nil inner (List.cons_ne_nil g []))
      obtain rfl := Nat.succ.inj hfuel
      cases stepped hstep with
      | enter capturing flags names =>
          exact ih (_ :: inner) hrun (by rw [State.enter, hgroups, List.cons_append])
      | @close g' groups hclosing =>
          rw [hclosing] at hgroups
          cases inner with
          | nil =>
              obtain ⟨rfl, rfl⟩ := List.cons.inj hgroups
              have hlast : (st.leave g' []).parts = [.group g'.capturing g'.flags st.tree] := by
                rw [State.leave, hparts]
              exact ⟨st.tree, (rest_of_single hrun ha rfl hbranches hlast).2⟩
          | cons g'' inner => exact ih inner hrun (List.cons.inj hgroups).2
      | _ => exact ih inner hrun hgroups

end

/-! ## Trees that are one part -/

/-- The state before anything has been read. -/
def State.start (extended : Bool) : State := ⟨extended, [], [], [], []⟩

/-- A tree that is one part is that of a class, of a group that the first character opens, of flags,
or of a primitive. -/
theorem single_cases {s : List Char} {a : Ast} (h : Ast.parse false s = .ok a)
    (ha : isCompound a = false) (hempty : a ≠ .empty) :
    (∃ rest, s = '[' :: rest ∧ bracketedClass false s = .ok (a, [])) ∨
    (∃ rest start capturing flags names body rest', s = '(' :: rest ∧
      a = .group capturing flags body ∧ groupStart false rest = .ok (start, rest') ∧
      (∀ items, start ≠ .setFlags items) ∧
      (State.start false).step '(' rest =
        .ok ((State.start false).enter capturing flags names, rest') ∧
      loop rest.length ((State.start false).enter capturing flags names) rest' = .ok a) ∨
    (∃ items, a = .flags items) ∨ ∃ p : Primitive, a = p.ast := by
  rcases loop_step (parse_ok h) with
    ⟨_, _, rfl⟩ | ⟨fuel, c, rest, st', rest', hfuel, hs, hstep, hrun⟩
  · exact absurd rfl hempty
  have hcons : s = c :: rest := hs
  subst hcons
  obtain rfl := Nat.succ.inj hfuel
  cases stepped hstep with
  | enter capturing flags names hstart hgroup =>
      obtain ⟨body, hbody⟩ := isGroup_of_open [] hrun ha rfl rfl rfl
      right
      left
      exact ⟨rest, _, capturing, flags, names, body, rest', rfl, hbody, hstart, hgroup, hstep, hrun⟩
  | setFlags => exact Or.inr (Or.inr (Or.inl ⟨_, (rest_of_single hrun ha rfl rfl rfl).2⟩))
  | close hgroups => cases hgroups
  | branch =>
      have hbranches : Compound { State.start false with branches := [.empty], parts := [] } :=
        Or.inl (List.cons_ne_nil _ _)
      rw [isCompound_of_compound hrun hbranches] at ha
      cases ha
  | charClass hclass =>
      obtain ⟨hend, rfl⟩ := rest_of_single hrun ha rfl rfl rfl
      have hnil : rest' = [] := hend
      subst hnil
      exact Or.inl ⟨rest, rfl, hclass⟩
  | sign _ hparts => cases hparts
  | counts _ hparts => cases hparts
  | primitive => exact Or.inr (Or.inr (Or.inr ⟨_, (rest_of_single hrun ha rfl rfl rfl).2⟩))

/-- A pattern whose tree is a class is one bracketed class. -/
theorem bracketedClass_of_parse {s : List Char} {negated : Bool} {set : ClassSet}
    (h : Ast.parse false s = .ok (.charClass negated set)) :
    ∃ rest, s = '[' :: rest ∧ bracketedClass false s = .ok (.charClass negated set, []) := by
  rcases single_cases h rfl nofun with
    hclass | ⟨_, _, _, _, _, _, _, _, hgroup, _⟩ | ⟨_, hflags⟩ | ⟨p, hprimitive⟩
  · exact hclass
  · cases hgroup
  · cases hflags
  · cases p <;> cases hprimitive

/-- A group without a name has the flags it was opened with. -/
private theorem flags_of_enter {st : State} {capturing : Bool} {flags items : List FlagItem}
    {names : List (List Char)} {rest rest' : List Char}
    (hstep : st.step '(' rest = .ok (st.enter capturing flags names, rest'))
    (hstart : groupStart st.extended rest = .ok (.plain items, rest')) : items = flags := by
  rw [State.step, if_pos rfl, State.openGroup, hstart] at hstep
  have hstate := congrArg State.groups (Prod.mk.inj (Except.ok.inj hstep)).1
  exact congrArg OpenGroup.flags (List.cons.inj hstate).1

/-- A pattern whose tree is a group opens it with its first character. -/
theorem openGroup_of_parse {s : List Char} {capturing : Bool} {flags : List FlagItem} {body : Ast}
    (h : Ast.parse false s = .ok (.group capturing flags body)) :
    ∃ rest start names rest', s = '(' :: rest ∧ groupStart false rest = .ok (start, rest') ∧
      (∀ items, start ≠ .setFlags items) ∧ (∀ items, start = .plain items → items = flags) ∧
      (State.start false).step '(' rest =
        .ok ((State.start false).enter capturing flags names, rest') ∧
      loop rest.length ((State.start false).enter capturing flags names) rest' =
        .ok (.group capturing flags body) := by
  rcases single_cases h rfl nofun with ⟨_, _, hclass⟩ |
    ⟨rest, start, _, _, names, _, rest', rfl, hgroup, hstart, hplain, hstep, hrun⟩ |
    ⟨_, hflags⟩ | ⟨p, hprimitive⟩
  · obtain ⟨_, _, hclass⟩ := bracketedClass_ast hclass
    cases hclass
  · obtain ⟨rfl, rfl, rfl⟩ := Ast.group.inj hgroup
    refine ⟨rest, start, names, rest', rfl, hstart, hplain, ?_, hstep, hrun⟩
    rintro items rfl
    exact flags_of_enter hstep hstart
  · cases hflags
  · cases p <;> cases hprimitive

end TrigramSearch.Regex.Parser
