import TrigramSearch.Regex.Parser

/-!
# What one step of the parser can do

A step of the parser reads one part of a pattern.  `Parser.Stepped` lists what
it can do to the state, with everything that the step has checked; later modules
take a step apart with `Parser.stepped` and never open the parser itself.

## Main results

* `Parser.stepped` — every step that succeeds is one of the cases of `Stepped`.
* `Parser.loop_step` — a run that succeeds is at the end of the pattern, with
  no open groups, or makes a step and succeeds after it.
-/

namespace TrigramSearch.Regex.Parser

/-- Whether a part may be repeated. -/
def isRepeatable : Ast → Bool
  | .empty => false
  | .flags _ => false
  | _ => true

/-- The state inside of a new group. -/
def State.enter (st : State) (capturing : Bool) (flags : List FlagItem)
    (names : List (List Char)) : State where
  extended := (FlagItem.state? .extended flags true).getD st.extended
  branches := []
  parts := []
  groups := ⟨capturing, flags, st.extended, st.branches, st.parts⟩ :: st.groups
  names

/-- The state after flags have been set. -/
def State.setFlags (st : State) (flags : List FlagItem) : State :=
  { st with
    parts := .flags flags :: st.parts
    extended := (FlagItem.state? .extended flags true).getD st.extended }

/-- The state after a group has been closed. -/
def State.leave (st : State) (g : OpenGroup) (groups : List OpenGroup) : State :=
  { st with
    extended := g.extendedBefore
    branches := g.branches
    parts := .group g.capturing g.flags st.tree :: g.parts
    groups }

/-- What a step that reads the part at a character can do. -/
inductive Stepped (st : State) (rest : List Char) : Char → State → List Char → Prop where
  | enter {start : GroupStart} {rest' : List Char} (capturing : Bool) (flags : List FlagItem)
      (names : List (List Char)) (hstart : groupStart st.extended rest = .ok (start, rest'))
      (hgroup : ∀ items, start ≠ .setFlags items) :
      Stepped st rest '(' (st.enter capturing flags names) rest'
  | setFlags {flags : List FlagItem} {rest' : List Char}
      (hstart : groupStart st.extended rest = .ok (.setFlags flags, rest')) :
      Stepped st rest '(' (st.setFlags flags) rest'
  | close {g : OpenGroup} {groups : List OpenGroup} (hgroups : st.groups = g :: groups) :
      Stepped st rest ')' (st.leave g groups) rest
  | branch : Stepped st rest '|'
      { st with branches := sequence st.parts :: st.branches, parts := [] } rest
  | charClass {a : Ast} {rest' : List Char}
      (hclass : bracketedClass st.extended ('[' :: rest) = .ok (a, rest')) :
      Stepped st rest '[' (st.push a) rest'
  | sign {c : Char} {a : Ast} {parts : List Ast} (hc : c = '?' ∨ c = '*' ∨ c = '+')
      (hparts : st.parts = a :: parts) (ha : isRepeatable a = true) :
      Stepped st rest c
        { st with parts := .repetition (signCounts c (greediness rest).1) a :: parts }
        (greediness rest).2
  | counts {r : Repetition} {rest' : List Char} {a : Ast} {parts : List Ast}
      (hcounts : repetitionCounts st.extended rest = .ok (r, rest'))
      (hparts : st.parts = a :: parts) (ha : isRepeatable a = true) :
      Stepped st rest '\x7b' { st with parts := .repetition r a :: parts } rest'
  | primitive {c : Char} {p : Primitive} {rest' : List Char}
      (hc : c ∉ ['(', ')', '|', '[', '?', '*', '+', '\x7b'])
      (hprimitive : primitive st.extended c rest = .ok (p, rest')) :
      Stepped st rest c (st.push p.ast) rest'

/-- What is mapped to a success is one. -/
private theorem exists_of_map_ok {E A B : Type} {x : Except E A} {f : A → B} {y : B}
    (h : x.map f = .ok y) : ∃ a, x = .ok a ∧ f a = y := by
  cases x with
  | error e => cases h
  | ok a => exact ⟨a, rfl, Except.ok.inj h⟩

private theorem openGroup_stepped {st st' : State} {rest rest' : List Char}
    (h : st.openGroup rest = .ok (st', rest')) : Stepped st rest '(' st' rest' := by
  rw [State.openGroup] at h
  cases hstart : groupStart st.extended rest with
  | error e =>
      rw [hstart] at h
      cases h
  | ok result =>
      obtain ⟨start, after⟩ := result
      rw [hstart] at h
      cases start with
      | capture =>
          obtain ⟨rfl, rfl⟩ := Prod.mk.inj (Except.ok.inj h)
          exact .enter true [] st.names hstart nofun
      | named n =>
          dsimp only at h
          split at h
          · cases h
          · obtain ⟨rfl, rfl⟩ := Prod.mk.inj (Except.ok.inj h)
            exact .enter true [] (n :: st.names) hstart nofun
      | plain flags =>
          obtain ⟨rfl, rfl⟩ := Prod.mk.inj (Except.ok.inj h)
          exact .enter false flags st.names hstart nofun
      | setFlags flags =>
          obtain ⟨rfl, rfl⟩ := Prod.mk.inj (Except.ok.inj h)
          exact .setFlags hstart

/-- A repetition needs a part that may be repeated. -/
theorem repeatLast_ok {st st' : State} {r : Repetition} (h : st.repeatLast r = .ok st') :
    ∃ a parts, st.parts = a :: parts ∧ isRepeatable a = true ∧
      st' = { st with parts := .repetition r a :: parts } := by
  rw [State.repeatLast] at h
  split at h
  · cases h
  · cases h
  · cases h
  · rename_i a parts hempty hflags hparts
    refine ⟨a, parts, hparts, ?_, (Except.ok.inj h).symm⟩
    cases a with
    | empty => exact absurd rfl hempty
    | flags items => exact absurd rfl (hflags items)
    | _ => rfl

private theorem closeGroup_stepped {st st' : State} {rest : List Char}
    (h : st.closeGroup = .ok st') : Stepped st rest ')' st' rest := by
  rw [State.closeGroup] at h
  cases hgroups : st.groups with
  | nil =>
      rw [hgroups] at h
      cases h
  | cons g groups =>
      rw [hgroups] at h
      obtain rfl := Except.ok.inj h
      exact .close hgroups

/-- Every step that succeeds is one of the cases. -/
theorem stepped {st st' : State} {c : Char} {rest rest' : List Char}
    (h : st.step c rest = .ok (st', rest')) : Stepped st rest c st' rest' := by
  rw [State.step] at h
  by_cases hopen : c = '('
  · rw [if_pos hopen] at h
    exact hopen ▸ openGroup_stepped h
  rw [if_neg hopen] at h
  by_cases hclose : c = ')'
  · rw [if_pos hclose] at h
    obtain ⟨next, hnext, heq⟩ := exists_of_map_ok h
    obtain ⟨rfl, rfl⟩ := Prod.mk.inj heq
    exact hclose ▸ closeGroup_stepped hnext
  rw [if_neg hclose] at h
  by_cases hbranch : c = '|'
  · rw [if_pos hbranch] at h
    obtain ⟨rfl, rfl⟩ := Prod.mk.inj (Except.ok.inj h)
    exact hbranch ▸ .branch
  rw [if_neg hbranch] at h
  by_cases hclass : c = '['
  · subst hclass
    rw [if_pos rfl] at h
    obtain ⟨⟨a, after⟩, hparsed, heq⟩ := exists_of_map_ok h
    obtain ⟨rfl, rfl⟩ := Prod.mk.inj heq
    exact .charClass hparsed
  rw [if_neg hclass] at h
  by_cases hsign : (c = '?' || c = '*' || c = '+') = true
  · rw [if_pos hsign] at h
    obtain ⟨next, hrepeat, heq⟩ := exists_of_map_ok h
    obtain ⟨rfl, rfl⟩ := Prod.mk.inj heq
    obtain ⟨a, parts, hparts, ha, rfl⟩ := repeatLast_ok hrepeat
    have hc : c = '?' ∨ c = '*' ∨ c = '+' := by
      simpa [Bool.or_eq_true, or_assoc] using hsign
    exact .sign hc hparts ha
  rw [if_neg hsign] at h
  by_cases hbrace : c = '\x7b'
  · subst hbrace
    rw [if_pos rfl] at h
    -- the last part is looked at twice: before the counts are read, and when it is repeated
    split at h
    · cases h
    split at h
    · cases h
    rename_i hcounts
    obtain ⟨next, hrepeat, heq⟩ := exists_of_map_ok h
    obtain ⟨rfl, rfl⟩ := Prod.mk.inj heq
    obtain ⟨a, parts, hparts, ha, rfl⟩ := repeatLast_ok hrepeat
    exact .counts hcounts hparts ha
  rw [if_neg hbrace] at h
  obtain ⟨⟨p, after⟩, hprimitive, heq⟩ := exists_of_map_ok h
  obtain ⟨rfl, rfl⟩ := Prod.mk.inj heq
  have hc : c ∉ ['(', ')', '|', '[', '?', '*', '+', '\x7b'] := by
    simp only [Bool.or_eq_true, decide_eq_true_eq, not_or] at hsign
    simp [hopen, hclose, hbranch, hclass, hbrace, hsign]
  exact .primitive hc hprimitive

/-- A run that succeeds is at the end of the pattern, or makes a step and succeeds after it. -/
theorem loop_step {fuel : Nat} {st : State} {s : List Char} {a : Ast}
    (h : loop fuel st s = .ok a) :
    (skipBlanks st.extended s = [] ∧ st.groups = [] ∧ a = st.tree) ∨
      ∃ fuel' c rest st' rest', fuel = fuel' + 1 ∧ skipBlanks st.extended s = c :: rest ∧
        st.step c rest = .ok (st', rest') ∧ loop fuel' st' rest' = .ok a := by
  rw [loop.eq_def] at h
  cases hs : skipBlanks st.extended s with
  | nil =>
      simp only [hs] at h
      split at h
      · rename_i hgroups
        exact Or.inl ⟨rfl, List.isEmpty_iff.mp hgroups, (Except.ok.inj h).symm⟩
      · cases h
  | cons c rest =>
      simp only [hs] at h
      cases fuel with
      | zero => cases h
      | succ fuel =>
          dsimp only at h
          cases hstep : st.step c rest with
          | error e =>
              rw [hstep] at h
              cases h
          | ok result =>
              obtain ⟨st', rest'⟩ := result
              rw [hstep] at h
              exact Or.inr ⟨fuel, c, rest, st', rest', rfl, rfl, hstep, h⟩

end TrigramSearch.Regex.Parser
