import TrigramSearch.Regex.Parser

/-!
# What one step of the class machine can do

The reader of bracketed classes is a loop.  Here its body is a function of its
own, `classStep?`, and `classLoop_step` says that the loop does nothing but
iterate it; `ClassStepped` lists what a step can do, as `Stepped` does for the
parser.

## Main results

* `Parser.classLoop_step` — a run that succeeds ends with the bracket of the
  outermost class, or makes a step and succeeds after it.
* `Parser.classStepped` — every step that succeeds is one of the cases of
  `ClassStepped`.
* `Parser.Frames` — how many brackets are open, which every step maintains.
-/

namespace TrigramSearch.Regex.Parser

/-- One step of the class machine, at a character; `none` if the outermost class ends with it or
something is wrong. -/
def classStep? (extended : Bool) (st : ClassState) (c : Char) (rest : List Char) :
    Option (ClassState × List Char) :=
  let item (result : Step ClassSet) : Option (ClassState × List Char) :=
    match result with
    | .ok (item, rest) => some ({ st with items := item :: st.items }, rest)
    | .error _ => none
  if c = '[' then
    match (if st.stack.isEmpty then none else posix? rest) with
    | some (posix, rest) => some ({ st with items := posix :: st.items }, rest)
    | none =>
      match openClass extended rest with
      | .ok ((negated, items), rest) => some (⟨items, .bracket st.items negated :: st.stack⟩, rest)
      | .error _ => none
  else if c = ']' then
    match applyOperator (unionOf st.items) st.stack with
    | (_, [.bracket _ _]) => none
    | (set, .bracket parent negated :: stack) =>
      some (⟨.bracketed negated set :: parent, stack⟩, rest)
    | _ => none
  else
    match c, rest with
    | '&', '&' :: rest => some (st.operator .intersection, rest)
    | '-', '-' :: rest => some (st.operator .difference, rest)
    | '~', '~' :: rest => some (st.operator .symmetricDifference, rest)
    | _, _ => item (classRange extended (c :: rest))

/-- The brackets and operators that wait in a class, with the number of open brackets inside of
the outermost one. -/
inductive Frames : Nat → List ClassFrame → Prop where
  | outermost (parent : List ClassSet) (negated : Bool) : Frames 0 [.bracket parent negated]
  | bracket {depth : Nat} {frames : List ClassFrame} (parent : List ClassSet) (negated : Bool)
      (h : Frames depth frames) : Frames (depth + 1) (.bracket parent negated :: frames)
  | operator {depth : Nat} {frames : List ClassFrame} (op : SetOperator) (left : ClassSet)
      (h : Frames depth frames) : Frames depth (.operator op left :: frames)

theorem Frames.ne_nil {depth : Nat} {frames : List ClassFrame} (h : Frames depth frames) :
    frames ≠ [] := by
  cases h <;> exact List.cons_ne_nil _ _

theorem Frames.applyOperator {depth : Nat} {frames : List ClassFrame} (h : Frames depth frames)
    (right : ClassSet) : Frames depth (applyOperator right frames).2 := by
  cases h with
  | outermost parent negated => exact .outermost parent negated
  | bracket parent negated h => exact .bracket parent negated h
  | operator op left h => exact h

/-! ## The loop iterates the step -/

section
variable {extended : Bool} {fuel : Nat} {st : ClassState} {s rest t : List Char} {a : Ast}

/-- At a bracket that opens, the loop makes a step. -/
private theorem classLoop_open (hs : skipBlanks extended s = '[' :: rest)
    (h : classLoop extended (fuel + 1) st s = .ok (a, t)) :
    ∃ st' rest', classStep? extended st '[' rest = some (st', rest') ∧
      classLoop extended fuel st' rest' = .ok (a, t) := by
  rw [classLoop.eq_def] at h
  dsimp only at h
  rw [hs] at h
  dsimp only at h
  rw [classStep?.eq_def]
  dsimp only
  rw [if_pos rfl] at h ⊢
  cases hposix : (if st.stack.isEmpty then none else posix? rest) with
  | some found =>
      rw [hposix] at h
      exact ⟨_, _, rfl, h⟩
  | none =>
      rw [hposix] at h
      dsimp only at h ⊢
      cases hhead : openClass extended rest with
      | error e =>
          rw [hhead] at h
          cases h
      | ok result =>
          rw [hhead] at h
          exact ⟨_, _, rfl, h⟩

/-- At a bracket that closes, the loop ends with the outermost class, or makes a step. -/
private theorem classLoop_close (hs : skipBlanks extended s = ']' :: rest)
    (h : classLoop extended (fuel + 1) st s = .ok (a, t)) :
    (t = rest ∧ ∃ parent negated, (applyOperator (unionOf st.items) st.stack).2 =
        [.bracket parent negated]) ∨
      ∃ st' rest', classStep? extended st ']' rest = some (st', rest') ∧
        classLoop extended fuel st' rest' = .ok (a, t) := by
  rw [classLoop.eq_def] at h
  dsimp only at h
  rw [hs] at h
  dsimp only at h
  rw [if_neg (by decide), if_pos rfl] at h
  rw [classStep?.eq_def]
  dsimp only
  rw [if_neg (by decide), if_pos rfl]
  cases happly : applyOperator (unionOf st.items) st.stack with
  | mk set stack =>
      rw [happly] at h
      cases stack with
      | nil => cases h
      | cons frame stack =>
          cases frame with
          | operator op left => cases h
          | bracket parent negated =>
              cases stack with
              | nil =>
                  obtain ⟨_, rfl⟩ := Prod.mk.inj (Except.ok.inj h)
                  exact Or.inl ⟨rfl, parent, negated, rfl⟩
              | cons outer stack => exact Or.inr ⟨_, _, rfl, h⟩

/-- At any other character, the loop makes a step. -/
private theorem classLoop_item {c : Char} (hs : skipBlanks extended s = c :: rest)
    (hopen : c ≠ '[') (hclose : c ≠ ']')
    (h : classLoop extended (fuel + 1) st s = .ok (a, t)) :
    ∃ st' rest', classStep? extended st c rest = some (st', rest') ∧
      classLoop extended fuel st' rest' = .ok (a, t) := by
  rw [classLoop.eq_def] at h
  dsimp only at h
  rw [hs] at h
  dsimp only at h
  rw [if_neg hopen, if_neg hclose] at h
  rw [classStep?.eq_def]
  dsimp only
  rw [if_neg hopen, if_neg hclose]
  by_cases hand : ∃ tail, c = '&' ∧ rest = '&' :: tail
  · obtain ⟨tail, rfl, rfl⟩ := hand
    exact ⟨_, _, rfl, h⟩
  by_cases hminus : ∃ tail, c = '-' ∧ rest = '-' :: tail
  · obtain ⟨tail, rfl, rfl⟩ := hminus
    exact ⟨_, _, rfl, h⟩
  by_cases htilde : ∃ tail, c = '~' ∧ rest = '~' :: tail
  · obtain ⟨tail, rfl, rfl⟩ := htilde
    exact ⟨_, _, rfl, h⟩
  -- without an operator, there is an item; the two matches are taken apart one after the other
  have hitem : ∃ item rest', classRange extended (c :: rest) = .ok (item, rest') ∧
      classLoop extended fuel { st with items := item :: st.items } rest' = .ok (a, t) := by
    split at h
    · exact (hand ⟨_, rfl, rfl⟩).elim
    · exact (hminus ⟨_, rfl, rfl⟩).elim
    · exact (htilde ⟨_, rfl, rfl⟩).elim
    · cases hrange : classRange extended (c :: rest) with
      | error e =>
          rw [hrange] at h
          cases h
      | ok result =>
          rw [hrange] at h
          exact ⟨_, _, rfl, h⟩
  obtain ⟨item, rest', hrange, hloop⟩ := hitem
  refine ⟨_, _, ?_, hloop⟩
  split
  · exact (hand ⟨_, rfl, rfl⟩).elim
  · exact (hminus ⟨_, rfl, rfl⟩).elim
  · exact (htilde ⟨_, rfl, rfl⟩).elim
  · rw [hrange]

/-- A run of the class machine that succeeds ends with the bracket of the outermost class, or
makes a step and succeeds after it. -/
theorem classLoop_step (h : classLoop extended fuel st s = .ok (a, t)) :
    ∃ fuel' c rest, fuel = fuel' + 1 ∧ skipBlanks extended s = c :: rest ∧
      ((c = ']' ∧ t = rest ∧
          ∃ parent negated, (applyOperator (unionOf st.items) st.stack).2 =
            [.bracket parent negated]) ∨
        ∃ st' rest', classStep? extended st c rest = some (st', rest') ∧
          classLoop extended fuel' st' rest' = .ok (a, t)) := by
  cases fuel with
  | zero => cases h
  | succ fuel =>
      cases hs : skipBlanks extended s with
      | nil =>
          rw [classLoop.eq_def] at h
          dsimp only at h
          rw [hs] at h
          cases h
      | cons c rest =>
          refine ⟨fuel, c, rest, rfl, rfl, ?_⟩
          by_cases hopen : c = '['
          · subst hopen
            exact Or.inr (classLoop_open hs h)
          by_cases hclose : c = ']'
          · subst hclose
            rcases classLoop_close hs h with ⟨ht, hlast⟩ | hstep
            · exact Or.inl ⟨rfl, ht, hlast⟩
            · exact Or.inr hstep
          · exact Or.inr (classLoop_item hs hopen hclose h)

end

/-- What is read as a class is one. -/
theorem bracketedClass_ast {extended : Bool} {s t : List Char} {a : Ast}
    (h : bracketedClass extended s = .ok (a, t)) : ∃ negated set, a = .charClass negated set := by
  have hloop : ∀ fuel st s, classLoop extended fuel st s = .ok (a, t) →
      ∃ negated set, a = .charClass negated set := by
    intro fuel
    induction fuel with
    | zero =>
        intro st s hrun
        cases hrun
    | succ fuel ih =>
        intro st s hrun
        rw [classLoop] at hrun
        repeat' split at hrun
        all_goals first
          | exact ih _ _ hrun
          | (obtain ⟨rfl, _⟩ := Prod.mk.inj (Except.ok.inj hrun)
             exact ⟨_, _, rfl⟩)
          | cases hrun
  exact hloop _ _ _ h

/-- What a step of the class machine at a character can do. -/
inductive ClassStepped (extended : Bool) (st : ClassState) (rest : List Char) :
    Char → ClassState → List Char → Prop where
  | posix {item : ClassSet} {rest' : List Char} (hstack : st.stack ≠ [])
      (hposix : posix? rest = some (item, rest')) :
      ClassStepped extended st rest '[' { st with items := item :: st.items } rest'
  | enter {negated : Bool} {items : List ClassSet} {rest' : List Char}
      (hposix : st.stack ≠ [] → posix? rest = none)
      (hhead : openClass extended rest = .ok ((negated, items), rest')) :
      ClassStepped extended st rest '[' ⟨items, .bracket st.items negated :: st.stack⟩ rest'
  | leave {set : ClassSet} {parent : List ClassSet} {negated : Bool} {frame : ClassFrame}
      {stack : List ClassFrame}
      (hstack : (applyOperator (unionOf st.items) st.stack).2 =
        .bracket parent negated :: frame :: stack) :
      ClassStepped extended st rest ']' ⟨.bracketed negated set :: parent, frame :: stack⟩ rest
  | operator {c : Char} {rest' : List Char} (op : SetOperator) (hc : c ∈ ['&', '-', '~'])
      (hrest : rest = c :: rest') : ClassStepped extended st rest c (st.operator op) rest'
  | item {c : Char} {item : ClassSet} {rest' : List Char} (hopen : c ≠ '[') (hclose : c ≠ ']')
      (hitem : classRange extended (c :: rest) = .ok (item, rest')) :
      ClassStepped extended st rest c { st with items := item :: st.items } rest'

/-- Every step that succeeds is one of the cases. -/
theorem classStepped {extended : Bool} {st st' : ClassState} {c : Char} {rest rest' : List Char}
    (h : classStep? extended st c rest = some (st', rest')) :
    ClassStepped extended st rest c st' rest' := by
  rw [classStep?.eq_def] at h
  dsimp only at h
  by_cases hopen : c = '['
  · rw [if_pos hopen] at h
    subst hopen
    split at h
    · rename_i found posix after hposix
      obtain ⟨rfl, rfl⟩ := Prod.mk.inj (Option.some.inj h)
      split at hposix
      · cases hposix
      · rename_i hstack
        exact .posix (by simpa using hstack) hposix
    · rename_i hposix
      split at h
      · rename_i negated items after hhead
        obtain ⟨rfl, rfl⟩ := Prod.mk.inj (Option.some.inj h)
        refine .enter ?_ hhead
        intro hstack
        rwa [if_neg (by simpa using hstack)] at hposix
      · cases h
  rw [if_neg hopen] at h
  by_cases hclose : c = ']'
  · rw [if_pos hclose] at h
    subst hclose
    split at h
    · cases h
    · rename_i set parent negated stack hstack happly
      obtain ⟨rfl, rfl⟩ := Prod.mk.inj (Option.some.inj h)
      cases stack with
      | nil => exact (hstack rfl).elim
      | cons frame stack => exact .leave (by rw [happly])
    · cases h
  rw [if_neg hclose] at h
  split at h
  · obtain ⟨rfl, rfl⟩ := Prod.mk.inj (Option.some.inj h)
    exact .operator .intersection (by decide) rfl
  · obtain ⟨rfl, rfl⟩ := Prod.mk.inj (Option.some.inj h)
    exact .operator .difference (by decide) rfl
  · obtain ⟨rfl, rfl⟩ := Prod.mk.inj (Option.some.inj h)
    exact .operator .symmetricDifference (by decide) rfl
  · split at h
    · rename_i item after hitem
      obtain ⟨rfl, rfl⟩ := Prod.mk.inj (Option.some.inj h)
      exact .item hopen hclose hitem
    · cases h

/-! ## Classes with a name -/

/-- No name of a class contains a bracket. -/
private theorem posixClass?_name {name : List Char} {kind : PosixClass}
    (h : posixClass? (String.ofList name) = some kind) : ']' ∉ name := by
  have hname : ∀ literal : String, String.ofList name = literal → ']' ∉ literal.toList →
      ']' ∉ name := by
    intro literal heq hliteral
    rw [← heq, String.toList_ofList] at hliteral
    exact hliteral
  unfold posixClass? at h
  split at h
  all_goals first
    | exact hname _ ‹_› (by decide)
    | cases h

/-- A class with a name ends with the first closing bracket. -/
theorem posix?_eq_some {s rest : List Char} {item : ClassSet} (h : posix? s = some (item, rest)) :
    ∃ name, s = ':' :: (name ++ ':' :: ']' :: rest) ∧ ']' ∉ name := by
  unfold posix? at h
  split at h
  · split at h
    rename_i negated t hcaret
    have hname : ∃ name, t = name ++ ':' :: ']' :: rest ∧ ']' ∉ name := by
      split at h
      · rename_i tail hdrop
        obtain ⟨kind, hkind, heq⟩ := Option.map_eq_some_iff.mp h
        obtain ⟨_, rfl⟩ := Prod.mk.inj heq
        have hsplit := List.takeWhile_append_dropWhile (p := (· != ':')) (l := t)
        rw [hdrop] at hsplit
        exact ⟨_, hsplit.symm, posixClass?_name hkind⟩
      · cases h
    obtain ⟨name, rfl, hname⟩ := hname
    split at hcaret
    · obtain ⟨_, rfl⟩ := Prod.mk.inj hcaret
      exact ⟨'^' :: name, rfl, by simp [hname]⟩
    · obtain ⟨_, rfl⟩ := Prod.mk.inj hcaret
      exact ⟨name, rfl, hname⟩
  · cases h

end TrigramSearch.Regex.Parser
