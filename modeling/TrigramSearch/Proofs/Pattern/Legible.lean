import TrigramSearch.Proofs.Pattern.Skipping
import TrigramSearch.Proofs.Regex.ClassSteps
import TrigramSearch.Proofs.Regex.Steps

/-!
# Patterns that the pass can read

The pass for literals knows brackets, parentheses and backslashes, but not the
parts of a pattern that the parser reads around them.  Three things mislead it:

* a part that hides a bracket or a parenthesis: the end of a range, as in
  `[!-[]`, the name of a group, or a comment of the extended syntax, which may be
  turned on inside of a group;
* a class inside of a class that begins with `[:` but has no name and does not
  end at the next bracket;
* a literal that is kept because `+` repeats it, under a further repetition that
  may leave it out, as in `abc+*`.

A pattern without them is legible.  `isLegibleFrom` follows the parser and looks
at one part after the other; it is the parser that decides what a part is.

## Main results

* `classStep_crossed`, `skipsClass_of_classLoop` — one step in a legible class, and
  the whole: where it ends for the parser, it ends for the pass.
* `skipClass_of_bracketedClass` — the same for a class from its first bracket on.
* `group_skipped` — where a legible group ends for the parser, it ends for the
  pass, and the parser goes on with the group as one part.
-/

namespace TrigramSearch.Literals

open Regex Regex.Parser

/-! ## Classes -/

/-- Whether the pass gets over what stands at the beginning of a class. -/
def headIsLegible (extended : Bool) (rest : List Char) : Bool :=
  match openClass extended rest with
  | .ok (_, rest') => crosses classMove rest' (skipClassHead rest)
  | .error _ => true

/-- Whether the pass gets over one part of a class, the one at a character. -/
def classPartIsLegible (extended : Bool) (st : ClassState) (c : Char) (rest : List Char) : Bool :=
  if c = '[' then
    if st.stack.isEmpty then headIsLegible extended rest
    else
      match posix? rest with
      | some _ => true
      | none =>
        if rest.head? = some ':' then crosses classMove (']' :: skipPast ']' rest) rest
        else headIsLegible extended rest
  else if c = ']' then true
  else
    match classStep? extended st c rest with
    | some (_, rest') => crosses classMove rest' (c :: rest)
    | none => true

/-- Whether the pass gets over all parts of a class. -/
def classIsLegible (extended : Bool) : Nat → ClassState → List Char → Bool
  | 0, _, _ => true
  | fuel + 1, st, s =>
    match skipBlanks extended s with
    | [] => true
    | c :: rest =>
      crosses classMove (c :: rest) s && classPartIsLegible extended st c rest &&
        match classStep? extended st c rest with
        | some (st', rest') => classIsLegible extended fuel st' rest'
        | none => true

private theorem skipPast_append {stop : Char} {w s : List Char} (hw : stop ∉ w) :
    skipPast stop (w ++ stop :: s) = s := by
  induction w with
  | nil => simp [skipPast]
  | cons c w ih =>
      simp only [List.mem_cons, not_or] at hw
      rw [List.cons_append, skipPast, if_neg (Ne.symm hw.1), ih hw.2]

/-- A class with a name is skipped whole. -/
private theorem skipPast_posix {s rest : List Char} {item : ClassSet}
    (h : posix? s = some (item, rest)) : ∃ tail, s = ':' :: tail ∧ skipPast ']' s = rest := by
  obtain ⟨name, rfl, hname⟩ := posix?_eq_some h
  have hplain : ']' ∉ ':' :: (name ++ [':']) := by simp [hname]
  have hskip := skipPast_append (s := rest) hplain
  exact ⟨_, rfl, by simpa using hskip⟩

private theorem operator_frames {depth : Nat} {st : ClassState} (h : Frames depth st.stack)
    (op : SetOperator) : Frames depth (st.operator op).stack :=
  .operator op _ (h.applyOperator _)

/-- A class that begins with a colon has nothing special at its start. -/
private theorem openClass_colon {extended negated : Bool} {items : List ClassSet}
    {tail rest : List Char} (h : openClass extended (':' :: tail) = .ok ((negated, items), rest)) :
    rest = ':' :: tail := by
  have hblank : skipBlanks extended (':' :: tail) = ':' :: tail := by
    cases extended
    · rfl
    · rw [skipBlanks, if_pos rfl, skipBlanksFrom]
      rfl
  rw [openClass, hblank] at h
  exact (Prod.mk.inj (Except.ok.inj h)).2.symm

/-- What a step of the class machine reads, the pass gets over, if it is legible; the number of
open brackets is the same for both. -/
theorem classStep_crossed {extended : Bool} {st st' : ClassState} {c : Char}
    {rest rest' : List Char} {depth : Nat}
    (hstep : classStep? extended st c rest = some (st', rest')) (hframes : Frames depth st.stack)
    (hpart : classPartIsLegible extended st c rest = true) :
    ∃ depth', Frames depth' st'.stack ∧
      ∀ t, SkipsClass depth' rest' t → SkipsClass depth (c :: rest) t := by
  -- a character that is no bracket
  have hplain : c ≠ '[' → c ≠ ']' → Crosses classMove 0 (c :: rest) rest' := by
    intro hopen hclose
    rw [classPartIsLegible, if_neg hopen, if_neg hclose, hstep] at hpart
    exact crosses_sound hpart
  cases classStepped hstep with
  | posix _ hposix =>
      obtain ⟨tail, rfl, hskip⟩ := skipPast_posix hposix
      have hmove : classMove ('[' :: ':' :: tail) = some (.pass, rest') := by
        rw [← hskip]
        rfl
      exact ⟨depth, hframes, fun t hskips => .pass hmove hskips⟩
  | enter hposix hhead =>
      have hnotEmpty : st.stack.isEmpty = false := by
        simpa using hframes.ne_nil
      have hnone := hposix hframes.ne_nil
      rw [classPartIsLegible, if_pos rfl, hnotEmpty, if_neg (by decide), hnone] at hpart
      dsimp only at hpart
      refine ⟨depth + 1, .bracket _ _ hframes, ?_⟩
      intro t hskips
      by_cases hcolon : rest.head? = some ':'
      · -- the pass takes the class for a name, which ends where the parser leaves the class
        rw [if_pos hcolon] at hpart
        obtain ⟨tail, rfl⟩ := List.head?_eq_some_iff.mp hcolon
        rw [openClass_colon hhead] at hskips
        exact .pass rfl ((crosses_sound hpart).split rfl hskips)
      · rw [if_neg hcolon, headIsLegible, hhead] at hpart
        exact .enter (classMove_open hcolon) ((crosses_sound hpart).trans hskips)
  | leave hstack =>
      have hleft := hframes.applyOperator (unionOf st.items)
      rw [hstack] at hleft
      cases hleft with
      | bracket _ _ houter => exact ⟨_, houter, fun t hskips => .leave rfl hskips⟩
  | operator op hc =>
      have hcrosses : Crosses classMove 0 (c :: rest) rest' := by
        refine hplain ?_ ?_
        all_goals
          rintro rfl
          exact absurd hc (by decide)
      exact ⟨depth, operator_frames hframes op, fun t hskips => hcrosses.trans hskips⟩
  | item hopen hclose => exact ⟨depth, hframes, fun t hskips => (hplain hopen hclose).trans hskips⟩

/-- Where a legible class ends for the parser, it ends for the pass. -/
theorem skipsClass_of_classLoop {extended : Bool} {fuel depth : Nat} {st : ClassState}
    {s t : List Char} {a : Ast} (h : classLoop extended fuel st s = .ok (a, t))
    (hframes : Frames depth st.stack) (hlegible : classIsLegible extended fuel st s = true) :
    SkipsClass depth s t := by
  induction fuel generalizing depth st s with
  | zero => cases h
  | succ fuel ih =>
      obtain ⟨fuel', c, rest, hfuel, hs, hcases⟩ := classLoop_step h
      obtain rfl := Nat.succ.inj hfuel
      rw [classIsLegible, hs] at hlegible
      dsimp only at hlegible
      rw [Bool.and_eq_true, Bool.and_eq_true] at hlegible
      obtain ⟨⟨hblanks, hpart⟩, hlater⟩ := hlegible
      refine (crosses_sound hblanks).trans ?_
      rcases hcases with ⟨rfl, rfl, parent, negated, hlast⟩ | ⟨st', rest', hstep, hloop⟩
      · have hlastFrames := hframes.applyOperator (unionOf st.items)
        rw [hlast] at hlastFrames
        cases hlastFrames with
        | outermost => exact .done _
        | bracket _ _ hnone => exact absurd rfl hnone.ne_nil
      · rw [hstep] at hlater
        obtain ⟨depth', hframes', hcrossed⟩ := classStep_crossed hstep hframes hpart
        exact hcrossed t (ih hloop hframes' hlater)

/-- Whether the pass gets over a class, after its bracket. -/
def bracketedClassIsLegible (extended : Bool) (rest : List Char) : Bool :=
  classIsLegible extended (rest.length + 2) ⟨[], []⟩ ('[' :: rest)

/-- Where a legible class ends for the parser, the pass goes on. -/
theorem skipClass_of_bracketedClass {extended : Bool} {rest t : List Char} {a : Ast}
    (h : bracketedClass extended ('[' :: rest) = .ok (a, t))
    (hlegible : bracketedClassIsLegible extended rest = true) : skipClass rest = some t := by
  have hblank : skipBlanks extended ('[' :: rest) = '[' :: rest := by
    cases extended
    · rfl
    · rw [skipBlanks, if_pos rfl, skipBlanksFrom]
      rfl
  obtain ⟨fuel, c, after, hfuel, hs, hcases⟩ := classLoop_step h
  rw [hblank] at hs
  obtain ⟨rfl, rfl⟩ := List.cons.inj hs
  rcases hcases with ⟨hclose, _⟩ | ⟨st', rest', hstep, hloop⟩
  · exact absurd hclose (by decide)
  · have hfuel' : fuel = rest.length + 1 := by
      simpa using hfuel.symm
    subst hfuel'
    rw [bracketedClassIsLegible, classIsLegible, hblank] at hlegible
    dsimp only at hlegible
    rw [Bool.and_eq_true, Bool.and_eq_true, hstep] at hlegible
    obtain ⟨⟨_, hpart⟩, hlater⟩ := hlegible
    rw [classPartIsLegible, if_pos rfl] at hpart
    cases classStepped hstep with
    | posix hstack => exact absurd rfl hstack
    | enter _ hhead =>
        have hskips := skipsClass_of_classLoop hloop (.outermost _ _) hlater
        rw [headIsLegible, hhead] at hpart
        exact skipClass_of_crosses ((crosses_sound hpart).trans hskips)
    | operator _ hc => exact absurd hc (by decide)
    | item hopen => exact absurd rfl hopen

/-! ## Patterns -/

/-- What is known about the last part of a pattern, outside of groups. -/
inductive LastPart where
  /-- A character that the pass has taken as text. -/
  | text
  /-- Text that is repeated, and that the pass has kept. -/
  | kept
  | other
deriving DecidableEq

/-- Whether the last part of a state is a repetition that may leave out what it repeats. -/
def isOptional (st : State) : Bool :=
  match st.parts with
  | .repetition r _ :: _ => r.least == 0
  | _ => false

/-- What is known about the last part, after the part at a character has been read. -/
def LastPart.next (last : LastPart) (asciiOnly : Bool) (st : State) (c : Char)
    (rest : List Char) : LastPart :=
  if !st.groups.isEmpty then other
  else if c = '?' || c = '*' || c = '+' || c = '\x7b' then
    match last with
    | text => if c = '+' then kept else other
    | kept => kept
    | other => other
  else if c = '\\' then
    match rest with
    | e :: _ => if escapeIsText e then text else other
    | [] => other
  else if c ∈ ['(', ')', '|', '[', '.', '^', '$'] then other
  else if asciiOnly && 128 ≤ c.toNat then other
  else text

/-- Whether the pass gets over one part of a pattern, the one at a character. Outside of groups it
reads parts as the parser does, so only classes and the start of a group matter there. -/
def partIsLegible (st : State) (c : Char) (rest : List Char) (st' : State)
    (rest' : List Char) : Bool :=
  if c = '[' then bracketedClassIsLegible st.extended rest
  else if st.groups.length < st'.groups.length then crosses groupMove rest' rest
  else if c = ')' || c = '|' then true
  else st.groups.isEmpty || crosses groupMove rest' (c :: rest)

/-- Whether the pass can read what is left of a pattern. -/
def isLegibleFrom (asciiOnly : Bool) : Nat → LastPart → State → List Char → Bool
  | 0, _, _, _ => true
  | fuel + 1, last, st, s =>
    match skipBlanks st.extended s with
    | [] => true
    | c :: rest =>
      crosses groupMove (c :: rest) s &&
        match st.step c rest with
        | .ok (st', rest') =>
          partIsLegible st c rest st' rest' && !(last == .kept && isOptional st') &&
            isLegibleFrom asciiOnly fuel (last.next asciiOnly st c rest) st' rest'
        | .error _ => true

/-- Whether the pass can read a pattern. In the extended syntax it does not try to. -/
def isLegible (pattern : List Char) (options : MatchOptions) : Bool :=
  options.extended ||
    isLegibleFrom options.caseInsensitive pattern.length .other ⟨false, [], [], [], []⟩ pattern

/-- What one step of a legible run says. -/
theorem isLegibleFrom_step {asciiOnly : Bool} {fuel : Nat} {last : LastPart} {st st' : State}
    {s rest rest' : List Char} {c : Char}
    (h : isLegibleFrom asciiOnly (fuel + 1) last st s = true)
    (hs : skipBlanks st.extended s = c :: rest) (hstep : st.step c rest = .ok (st', rest')) :
    Crosses groupMove 0 s (c :: rest) ∧ partIsLegible st c rest st' rest' = true ∧
      (last = .kept → isOptional st' = false) ∧
      isLegibleFrom asciiOnly fuel (last.next asciiOnly st c rest) st' rest' = true := by
  rw [isLegibleFrom, hs] at h
  dsimp only at h
  rw [hstep] at h
  dsimp only at h
  rw [Bool.and_eq_true, Bool.and_eq_true, Bool.and_eq_true] at h
  obtain ⟨hblanks, ⟨hpart, hkept⟩, hlater⟩ := h
  refine ⟨crosses_sound hblanks, hpart, ?_, hlater⟩
  intro hlast
  simpa [hlast] using hkept

/-! ### The last part -/

section
variable {last : LastPart} {asciiOnly : Bool} {st : State} {rest : List Char}

/-- Text and what is kept of it stay under `+`. -/
theorem LastPart.next_plus (hgroups : st.groups = []) (hlast : last ≠ .other) :
    last.next asciiOnly st '+' rest = .kept := by
  unfold LastPart.next
  rw [hgroups]
  cases last with
  | other => exact absurd rfl hlast
  | _ => rfl

/-- What is kept stays so under any repetition. -/
theorem LastPart.next_kept {c : Char} (hgroups : st.groups = [])
    (hc : c = '?' ∨ c = '*' ∨ c = '+' ∨ c = '\x7b') :
    LastPart.next .kept asciiOnly st c rest = .kept := by
  unfold LastPart.next
  rw [hgroups]
  rcases hc with rfl | rfl | rfl | rfl <;> rfl

theorem LastPart.next_escape {e : Char} {tail : List Char} (hgroups : st.groups = [])
    (he : escapeIsText e = true) : last.next asciiOnly st '\\' (e :: tail) = .text := by
  unfold LastPart.next
  rw [hgroups]
  exact if_pos he

theorem LastPart.next_literal {c : Char} (hgroups : st.groups = [])
    (hc : c ∉ ['|', ')', '(', '[', '\\', '*', '?', '\x7b', '+', '.', '^', '$']) :
    last.next asciiOnly st c rest = if asciiOnly && 128 ≤ c.toNat then .other else .text := by
  simp only [List.mem_cons, List.not_mem_nil, or_false, not_or] at hc
  unfold LastPart.next
  simp [hgroups, hc]

end

/-! ## Groups -/

/-- What a step inside of a group is to the pass. -/
inductive InsideStep (st : State) (rest : List Char) : Char → State → List Char → Prop where
  /-- A part that opens no group and closes none. -/
  | part {c : Char} {st' : State} {rest' : List Char} (hgroups : st'.groups = st.groups)
      (hcrosses : Crosses groupMove 0 (c :: rest) rest') : InsideStep st rest c st' rest'
  | enter {st' : State} {rest' : List Char} (g : OpenGroup) (hgroups : st'.groups = g :: st.groups)
      (hcrosses : Crosses groupMove 0 rest rest') : InsideStep st rest '(' st' rest'
  | close {g : OpenGroup} {groups : List OpenGroup} (hgroups : st.groups = g :: groups) :
      InsideStep st rest ')' (st.leave g groups) rest

/-- A part that is neither a class nor a group is crossed if it is legible. -/
private theorem crosses_of_partIsLegible {st st' : State} {c : Char} {rest rest' : List Char}
    (hinside : st.groups.isEmpty = false) (hpart : partIsLegible st c rest st' rest' = true)
    (hgroups : st'.groups = st.groups) (hc : c ∉ ['[', ')', '|']) :
    Crosses groupMove 0 (c :: rest) rest' := by
  simp only [List.mem_cons, List.not_mem_nil, or_false, not_or] at hc
  obtain ⟨hclass, hclose, hbar⟩ := hc
  rw [partIsLegible, if_neg hclass, hgroups, if_neg (Nat.lt_irrefl _),
    if_neg (by simp [hclose, hbar]), hinside, Bool.false_or] at hpart
  exact crosses_sound hpart

/-- Inside of a group, the pass gets over every legible part. -/
theorem insideStep {st st' : State} {c : Char} {rest rest' : List Char}
    (hstep : Stepped st rest c st' rest') (hinside : st.groups.isEmpty = false)
    (hpart : partIsLegible st c rest st' rest' = true) : InsideStep st rest c st' rest' := by
  cases hstep with
  | enter capturing flags names =>
      have hdeeper : st.groups.length < (st.enter capturing flags names).groups.length :=
        Nat.lt_succ_self _
      rw [partIsLegible, if_neg (by decide), if_pos hdeeper] at hpart
      exact .enter _ rfl (crosses_sound hpart)
  | close hgroups => exact .close hgroups
  | branch => exact .part rfl (.pass rfl (.done rest))
  | charClass hclass =>
      rw [partIsLegible, if_pos rfl] at hpart
      have hskip := skipClass_of_bracketedClass hclass hpart
      exact .part rfl (.pass (groupMove_class hskip) (.done rest'))
  | setFlags => exact .part rfl (crosses_of_partIsLegible hinside hpart rfl (by decide))
  | sign hc =>
      refine .part rfl (crosses_of_partIsLegible hinside hpart rfl ?_)
      rcases hc with rfl | rfl | rfl <;> decide
  | counts => exact .part rfl (crosses_of_partIsLegible hinside hpart rfl (by decide))
  | primitive hc =>
      refine .part rfl (crosses_of_partIsLegible hinside hpart rfl ?_)
      intro hmem
      refine hc ?_
      simp only [List.mem_cons, List.not_mem_nil, or_false] at hmem ⊢
      rcases hmem with h | h | h <;> simp [h]

/-- A state of a run that succeeds, with what is left of a legible pattern. -/
structure Succeeds (asciiOnly : Bool) (a : Ast) (fuel : Nat) (last : LastPart) (st : State)
    (s : List Char) : Prop where
  run : loop fuel st s = .ok a
  legible : isLegibleFrom asciiOnly fuel last st s = true

/-- A state after a group: the group is a part like any other. -/
structure AfterGroup (g : OpenGroup) (groups : List OpenGroup) (st : State) : Prop where
  groups : st.groups = groups
  extended : st.extended = g.extendedBefore
  branches : st.branches = g.branches
  parts : ∃ body, st.parts = .group g.capturing g.flags body :: g.parts

theorem leave_afterGroup (st : State) (g : OpenGroup) (groups : List OpenGroup) :
    AfterGroup g groups (st.leave g groups) :=
  ⟨rfl, rfl, rfl, st.tree, rfl⟩

/-- Where a legible group ends for the parser, it ends for the pass. -/
theorem group_skipped {asciiOnly : Bool} {a : Ast} {fuel : Nat} {last : LastPart} {st : State}
    {s : List Char} {inner groups : List OpenGroup} {g : OpenGroup}
    (h : Succeeds asciiOnly a fuel last st s) (hgroups : st.groups = inner ++ g :: groups) :
    ∃ fuel' st' t, fuel' < fuel ∧ Succeeds asciiOnly a fuel' .other st' t ∧
      SkipsGroup inner.length s t ∧ AfterGroup g groups st' := by
  have hopen : st.groups ≠ [] := by
    rw [hgroups]
    exact List.append_ne_nil_of_right_ne_nil _ (List.cons_ne_nil _ _)
  induction fuel generalizing last st s inner with
  | zero =>
      rcases loop_step h.run with ⟨_, hnone, _⟩ | ⟨_, _, _, _, _, hfuel, _⟩
      · exact absurd hnone hopen
      · cases hfuel
  | succ fuel ih =>
      rcases loop_step h.run with
        ⟨_, hnone, _⟩ | ⟨fuel', c, rest, st', rest', hfuel, hs, hstep, hrun⟩
      · exact absurd hnone hopen
      obtain rfl := Nat.succ.inj hfuel
      obtain ⟨hblanks, hpart, _, hlater⟩ := isLegibleFrom_step h.legible hs hstep
      have hinside : st.groups.isEmpty = false := by simpa using hopen
      have hnext : last.next asciiOnly st c rest = .other := by
        unfold LastPart.next
        rw [hinside]
        rfl
      rw [hnext] at hlater
      have hafter : Succeeds asciiOnly a fuel .other st' rest' := ⟨hrun, hlater⟩
      -- what comes after the step has been dealt with; the step has to be put in front
      have hrest : ∀ {inner' : List OpenGroup}, st'.groups = inner' ++ g :: groups →
          (∀ t, SkipsGroup inner'.length rest' t → SkipsGroup inner.length (c :: rest) t) →
          ∃ fuel' st' t, fuel' < fuel + 1 ∧ Succeeds asciiOnly a fuel' .other st' t ∧
            SkipsGroup inner.length s t ∧ AfterGroup g groups st' := by
        intro inner' hgroups' hfront
        have hopen' : st'.groups ≠ [] := by
          rw [hgroups']
          exact List.append_ne_nil_of_right_ne_nil _ (List.cons_ne_nil _ _)
        obtain ⟨fuel', st'', t, hlt, hsucceeds, hskips, hclosed⟩ := ih hafter hgroups' hopen'
        exact ⟨fuel', st'', t, Nat.lt_succ_of_lt hlt, hsucceeds, hblanks.trans (hfront t hskips),
          hclosed⟩
      cases insideStep (stepped hstep) hinside hpart with
      | part hkept hcrosses =>
          exact hrest (hkept.trans hgroups) fun t hskips => hcrosses.trans hskips
      | enter g' hdeeper hcrosses =>
          have hinner : st'.groups = (g' :: inner) ++ g :: groups := by
            rw [hdeeper, hgroups, List.cons_append]
          exact hrest hinner fun t hskips => .enter rfl (hcrosses.trans hskips)
      | @close g' groups' hclosing =>
          rw [hclosing] at hgroups
          cases inner with
          | nil =>
              obtain ⟨rfl, rfl⟩ := List.cons.inj hgroups
              exact ⟨fuel, st.leave g' groups', rest, Nat.lt_succ_self fuel, hafter,
                hblanks.trans (.done _), leave_afterGroup st g' groups'⟩
          | cons g'' inner =>
              obtain ⟨_, rfl⟩ := List.cons.inj hgroups
              exact hrest rfl fun t hskips => .leave rfl hskips

end TrigramSearch.Literals
