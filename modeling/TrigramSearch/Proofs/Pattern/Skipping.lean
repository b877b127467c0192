import TrigramSearch.Pattern.Literals

/-!
# How the pass skips

Classes and groups are skipped by counting brackets, one part at a time: a part
is passed over, or it is a bracket that opens or closes.  `classMove` and
`groupMove` say which, and the two functions do nothing but follow them
(`skipClassBody_succ`, `skipGroupBody_succ`).

`Crosses move depth s t` says that the moves lead from `s` to `t` and close
`depth` brackets more than they open.  It needs no bound on the number of steps,
and it follows the order in which a parser reads, while `skipClassBody` calls
itself for what is inside.

## Main results

* `Crosses.trans`, `Crosses.split` — a way can be put together from pieces, and
  cut at a bracket that closes.
* `crosses_sound` — whether there is a way can be computed.
* `skipClassBody_of_crosses`, `skipGroupBody_of_crosses` — the functions find the
  end that the moves lead to, with as many steps as there are characters.
-/

namespace TrigramSearch.Literals

/-! ## Suffixes -/

theorem skipPast_suffix (stop : Char) (s : List Char) : skipPast stop s <:+ s := by
  induction s with
  | nil => exact List.suffix_refl []
  | cons c rest ih =>
      rw [skipPast]
      split
      · exact List.suffix_cons c rest
      · exact ih.trans (List.suffix_cons c rest)

theorem skipPast_length (stop : Char) (s : List Char) :
    (skipPast stop s).length ≤ s.length :=
  (skipPast_suffix stop s).length_le

theorem skipPayload_suffix (kind : Char) (s : List Char) : skipPayload kind s <:+ s := by
  rw [skipPayload.eq_def]
  split
  · exact List.suffix_refl s
  · split
    · exact (skipPast_suffix _ _).trans (List.suffix_cons _ _)
    · exact List.drop_suffix _ _

theorem skipClassHead_suffix (s : List Char) : skipClassHead s <:+ s := by
  unfold skipClassHead
  dsimp only
  split
  · rename_i rest heq
    split at heq
    · rw [heq]
      exact (List.suffix_cons ']' rest).trans (List.suffix_cons '^' _)
    · rw [heq]
      exact List.suffix_cons ']' rest
  · split
    · exact List.suffix_cons _ _
    · exact List.suffix_refl _

theorem skipClassHead_length (s : List Char) : (skipClassHead s).length ≤ s.length :=
  (skipClassHead_suffix s).length_le

/-! ## Moves -/

/-- What a skip does with a part: it passes over it, or it counts a bracket. -/
inductive Move where
  | pass
  | enter
  | leave
deriving DecidableEq

/-- The first part of what is left of a class, and what comes after it. -/
def classMove : List Char → Option (Move × List Char)
  | [] => none
  | c :: s =>
    if c = '\\' then
      match s with
      | [] => none
      | _ :: s => some (.pass, s)
    else if c = '[' then
      if s.head? = some ':' then some (.pass, skipPast ']' s) else some (.enter, skipClassHead s)
    else if c = ']' then some (.leave, s)
    else some (.pass, s)

/-- The first part of what is left of a group, and what comes after it. -/
def groupMove : List Char → Option (Move × List Char)
  | [] => none
  | c :: s =>
    if c = '\\' then
      match s with
      | [] => none
      | _ :: s => some (.pass, s)
    else if c = '[' then (skipClass s).map fun s => (.pass, s)
    else if c = '(' then some (.enter, s)
    else if c = ')' then some (.leave, s)
    else some (.pass, s)

theorem classMove_open {s : List Char} (hcolon : s.head? ≠ some ':') :
    classMove ('[' :: s) = some (.enter, skipClassHead s) :=
  if_neg hcolon

theorem groupMove_class {s r : List Char} (h : skipClass s = some r) :
    groupMove ('[' :: s) = some (.pass, r) :=
  congrArg (Option.map fun s => (Move.pass, s)) h

/-- A move in a class goes on by one character at least. -/
theorem classMove_length {s r : List Char} {m : Move} (h : classMove s = some (m, r)) :
    r.length < s.length := by
  cases s with
  | nil => cases h
  | cons c s =>
      have hpast := skipPast_length ']' s
      have hhead := skipClassHead_length s
      rw [classMove.eq_def] at h
      dsimp only at h
      repeat' split at h
      all_goals cases h
      all_goals
        simp only [List.length_cons]
        omega

/-- The skip of a class follows the moves; inside of a bracket it calls itself. -/
theorem skipClassBody_succ (fuel : Nat) (s : List Char) :
    skipClassBody (fuel + 1) s =
      match classMove s with
      | none => none
      | some (.pass, r) => skipClassBody fuel r
      | some (.enter, r) => (skipClassBody fuel r).bind (skipClassBody fuel)
      | some (.leave, r) => some r := by
  cases s with
  | nil => rfl
  | cons c s =>
      rw [skipClassBody.eq_def, classMove.eq_def]
      dsimp only
      by_cases hslash : c = '\\'
      · rw [if_pos hslash, if_pos hslash]
        cases s <;> rfl
      rw [if_neg hslash, if_neg hslash]
      by_cases hopen : c = '['
      · rw [if_pos hopen, if_pos hopen]
        split
        · rfl
        · rename_i hcolon
          have hhead : s.head? ≠ some ':' := by
            intro h
            obtain ⟨tail, rfl⟩ := List.head?_eq_some_iff.mp h
            exact hcolon tail rfl
          rw [if_neg hhead]
          dsimp only
          cases skipClassBody fuel (skipClassHead s) <;> rfl
      rw [if_neg hopen, if_neg hopen]
      by_cases hclose : c = ']'
      · rw [if_pos hclose, if_pos hclose]
      · rw [if_neg hclose, if_neg hclose]

/-- A skip of a class goes on by one character at least. -/
theorem skipClassBody_length {fuel : Nat} {s t : List Char} (h : skipClassBody fuel s = some t) :
    t.length < s.length := by
  induction fuel generalizing s t with
  | zero => cases h
  | succ fuel ih =>
      rw [skipClassBody_succ] at h
      cases hmove : classMove s with
      | none =>
          rw [hmove] at h
          cases h
      | some next =>
          obtain ⟨m, r⟩ := next
          have hlt := classMove_length hmove
          rw [hmove] at h
          cases m with
          | pass => exact Nat.lt_trans (ih h) hlt
          | enter =>
              obtain ⟨inner, hinner, houter⟩ := Option.bind_eq_some_iff.mp h
              exact Nat.lt_trans (ih houter) (Nat.lt_trans (ih hinner) hlt)
          | leave =>
              obtain rfl := Option.some.inj h
              exact hlt

theorem skipClass_length {s t : List Char} (h : skipClass s = some t) : t.length < s.length := by
  have hlt := skipClassBody_length h
  have hle := skipClassHead_length s
  omega

/-- A move in a group goes on by one character at least. -/
theorem groupMove_length {s r : List Char} {m : Move} (h : groupMove s = some (m, r)) :
    r.length < s.length := by
  cases s with
  | nil => cases h
  | cons c s =>
      rw [groupMove.eq_def] at h
      dsimp only at h
      by_cases hclass : c = '['
      · subst hclass
        obtain ⟨t, hskip, ht⟩ := Option.map_eq_some_iff.mp h
        obtain ⟨_, rfl⟩ := Prod.mk.inj ht
        exact Nat.lt_succ_of_lt (skipClass_length hskip)
      rw [if_neg hclass] at h
      repeat' split at h
      all_goals cases h
      all_goals
        simp only [List.length_cons]
        omega

/-- The skip of a group follows the moves and counts the brackets. -/
theorem skipGroupBody_succ (fuel depth : Nat) (s : List Char) :
    skipGroupBody (fuel + 1) depth s =
      match groupMove s, depth with
      | none, _ => none
      | some (.pass, r), depth => skipGroupBody fuel depth r
      | some (.enter, r), depth => skipGroupBody fuel (depth + 1) r
      | some (.leave, r), 0 => some r
      | some (.leave, r), depth + 1 => skipGroupBody fuel depth r := by
  cases s with
  | nil => rfl
  | cons c s =>
      rw [skipGroupBody.eq_def, groupMove.eq_def]
      dsimp only
      by_cases hslash : c = '\\'
      · rw [if_pos hslash, if_pos hslash]
        cases s <;> rfl
      rw [if_neg hslash, if_neg hslash]
      by_cases hclass : c = '['
      · rw [if_pos hclass, if_pos hclass]
        cases skipClass s <;> rfl
      rw [if_neg hclass, if_neg hclass]
      by_cases hopen : c = '('
      · rw [if_pos hopen, if_pos hopen]
      rw [if_neg hopen, if_neg hopen]
      by_cases hclose : c = ')'
      · rw [if_pos hclose, if_pos hclose]
        cases depth <;> rfl
      · rw [if_neg hclose, if_neg hclose]

/-- A skip of a group goes on by one character at least. -/
theorem skipGroupBody_length {fuel depth : Nat} {s t : List Char}
    (h : skipGroupBody fuel depth s = some t) : t.length < s.length := by
  induction fuel generalizing depth s with
  | zero => cases h
  | succ fuel ih =>
      rw [skipGroupBody_succ] at h
      cases hmove : groupMove s with
      | none =>
          rw [hmove] at h
          cases h
      | some next =>
          obtain ⟨m, r⟩ := next
          have hlt := groupMove_length hmove
          rw [hmove] at h
          cases m with
          | pass => exact Nat.lt_trans (ih h) hlt
          | enter => exact Nat.lt_trans (ih h) hlt
          | leave =>
              cases depth with
              | zero =>
                  obtain rfl := Option.some.inj h
                  exact hlt
              | succ depth => exact Nat.lt_trans (ih h) hlt

theorem skipGroup_length {s t : List Char} (h : skipGroup s = some t) : t.length < s.length := by
  unfold skipGroup at h
  split at h
  · cases h
  · exact skipGroupBody_length h

/-! ## Ways -/

/-- The moves lead from `s` to `t` and close `depth` brackets more than they open. -/
inductive Crosses (move : List Char → Option (Move × List Char)) :
    Nat → List Char → List Char → Prop where
  | done (s : List Char) : Crosses move 0 s s
  | pass {depth : Nat} {s r t : List Char} (hmove : move s = some (.pass, r))
      (h : Crosses move depth r t) : Crosses move depth s t
  | enter {depth : Nat} {s r t : List Char} (hmove : move s = some (.enter, r))
      (h : Crosses move (depth + 1) r t) : Crosses move depth s t
  | leave {depth : Nat} {s r t : List Char} (hmove : move s = some (.leave, r))
      (h : Crosses move depth r t) : Crosses move (depth + 1) s t

/-- The skip of a class ends before `t`, where `depth` further classes are open. -/
def SkipsClass (depth : Nat) (s t : List Char) : Prop := Crosses classMove depth s (']' :: t)

/-- The skip of a group ends before `t`, where `depth` further groups are open. -/
def SkipsGroup (depth : Nat) (s t : List Char) : Prop := Crosses groupMove depth s (')' :: t)

section
variable {move : List Char → Option (Move × List Char)}

theorem Crosses.trans {depth depth' : Nat} {s r t : List Char} (h : Crosses move depth s r)
    (hlater : Crosses move depth' r t) : Crosses move (depth' + depth) s t := by
  induction h with
  | done s => exact hlater
  | pass hmove _ ih => exact .pass hmove (ih hlater)
  | enter hmove _ ih => exact .enter hmove (ih hlater)
  | leave hmove _ ih => exact .leave hmove (ih hlater)

/-- A skip has no choice: one that goes on behind a bracket that closes is there one level
further up. -/
theorem Crosses.split {depth depth' : Nat} {s r u t : List Char} (h : Crosses move depth s r)
    (hleave : move r = some (.leave, u)) (hall : Crosses move (depth' + 1 + depth) s t) :
    Crosses move depth' u t := by
  generalize hsum : depth' + 1 + depth = all at hall
  induction h generalizing all with
  | done s =>
      cases hall with
      | done => cases hsum
      | pass hmove => cases hleave.symm.trans hmove
      | enter hmove => cases hleave.symm.trans hmove
      | leave hmove hrest =>
          obtain rfl : depth' = _ := Nat.succ.inj hsum
          cases hleave.symm.trans hmove
          exact hrest
  | pass hpass _ ih =>
      cases hall with
      | done => omega
      | pass hmove hrest =>
          cases hpass.symm.trans hmove
          exact ih hleave _ hsum hrest
      | enter hmove => cases hpass.symm.trans hmove
      | leave hmove => cases hpass.symm.trans hmove
  | enter henter _ ih =>
      cases hall with
      | done => omega
      | pass hmove => cases henter.symm.trans hmove
      | enter hmove hrest =>
          cases henter.symm.trans hmove
          exact ih hleave _ (congrArg (· + 1) hsum) hrest
      | leave hmove => cases henter.symm.trans hmove
  | leave hleft _ ih =>
      cases hall with
      | done => omega
      | pass hmove => cases hleft.symm.trans hmove
      | enter hmove => cases hleft.symm.trans hmove
      | leave hmove hrest =>
          cases hleft.symm.trans hmove
          exact ih hleave _ (Nat.succ.inj hsum) hrest

/-- Whether the moves lead to `t` when they have closed `depth` brackets more than opened, in at
most `fuel` steps. -/
def crossesFrom (move : List Char → Option (Move × List Char)) (t : List Char) :
    Nat → Nat → List Char → Bool
  | 0, depth, s => depth == 0 && s == t
  | fuel + 1, depth, s =>
    depth == 0 && s == t ||
      match move s, depth with
      | some (.pass, r), depth => crossesFrom move t fuel depth r
      | some (.enter, r), depth => crossesFrom move t fuel (depth + 1) r
      | some (.leave, r), depth + 1 => crossesFrom move t fuel depth r
      | _, _ => false

/-- Whether the moves lead from `s` to `t` on one level. -/
def crosses (move : List Char → Option (Move × List Char)) (t s : List Char) : Bool :=
  crossesFrom move t s.length 0 s

private theorem crossesFrom_sound {t : List Char} {fuel depth : Nat} {s : List Char}
    (h : crossesFrom move t fuel depth s = true) : Crosses move depth s t := by
  have hdone : ∀ {depth : Nat} {s : List Char}, (depth == 0 && s == t) = true →
      Crosses move depth s t := by
    intro depth s hend
    rw [Bool.and_eq_true] at hend
    rw [eq_of_beq hend.1, eq_of_beq hend.2]
    exact .done t
  induction fuel generalizing depth s with
  | zero => exact hdone h
  | succ fuel ih =>
      rw [crossesFrom.eq_def] at h
      dsimp only at h
      rw [Bool.or_eq_true] at h
      rcases h with hend | h
      · exact hdone hend
      split at h
      · rename_i hmove
        exact .pass hmove (ih h)
      · rename_i hmove
        exact .enter hmove (ih h)
      · rename_i hmove
        exact .leave hmove (ih h)
      · cases h

theorem crosses_sound {s t : List Char} (h : crosses move t s = true) : Crosses move 0 s t :=
  crossesFrom_sound h

private theorem crossesFrom_complete
    (hlength : ∀ {s r : List Char} {m : Move}, move s = some (m, r) → r.length < s.length)
    {fuel depth : Nat} {s t : List Char} (hlen : s.length ≤ fuel)
    (h : Crosses move depth s t) : crossesFrom move t fuel depth s = true := by
  induction fuel generalizing depth s with
  | zero =>
      have hnone : ∀ {m r}, move s ≠ some (m, r) := by
        intro m r hmove
        have hlt := hlength hmove
        omega
      cases h with
      | done => simp [crossesFrom]
      | pass hmove => exact absurd hmove hnone
      | enter hmove => exact absurd hmove hnone
      | leave hmove => exact absurd hmove hnone
  | succ fuel ih =>
      rw [crossesFrom.eq_def]
      dsimp only
      cases h with
      | done => simp
      | pass hmove h =>
          have hlt := hlength hmove
          rw [hmove]
          dsimp only
          rw [ih (by omega) h, Bool.or_true]
      | enter hmove h =>
          have hlt := hlength hmove
          rw [hmove]
          dsimp only
          rw [ih (by omega) h, Bool.or_true]
      | leave hmove h =>
          have hlt := hlength hmove
          rw [hmove]
          dsimp only
          rw [ih (by omega) h, Bool.or_true]

/-- Moves that go on find every way there is. -/
theorem crosses_complete
    (hlength : ∀ {s r : List Char} {m : Move}, move s = some (m, r) → r.length < s.length)
    {s t : List Char} (h : Crosses move 0 s t) : crosses move t s = true :=
  crossesFrom_complete hlength (Nat.le_refl s.length) h

end

/-! ## The functions find the end -/

/-- What is left to skip after one of the open brackets has been closed. -/
private def SkipsRest : Nat → List Char → List Char → Prop
  | 0, s, t => s = t
  | depth + 1, s, t => SkipsClass depth s t

private theorem skipClassBody_rest {fuel depth : Nat} {s t : List Char} (hlen : s.length ≤ fuel)
    (h : SkipsClass depth s t) : ∃ r, skipClassBody fuel s = some r ∧ SkipsRest depth r t := by
  induction fuel generalizing depth s t with
  | zero =>
      have hempty : s = [] := List.length_eq_zero_iff.mp (Nat.le_zero.mp hlen)
      subst hempty
      cases h with
      | pass hmove => cases hmove
      | enter hmove => cases hmove
      | leave hmove => cases hmove
  | succ fuel ih =>
      rw [skipClassBody_succ]
      cases h with
      | done => exact ⟨t, rfl, rfl⟩
      | pass hmove h =>
          have hlt := classMove_length hmove
          rw [hmove]
          exact ih (by omega) h
      | enter hmove h =>
          have hlt := classMove_length hmove
          obtain ⟨inner, hinner, houter⟩ := ih (by omega) h
          have hlt' := skipClassBody_length hinner
          rw [hmove]
          dsimp only
          rw [hinner, Option.bind_some]
          exact ih (by omega) houter
      | @leave _ _ r _ hmove h =>
          rw [hmove]
          exact ⟨r, rfl, h⟩

/-- The skip of a class computes what the moves lead to. -/
theorem skipClassBody_of_crosses {fuel : Nat} {s t : List Char} (hlen : s.length ≤ fuel)
    (h : SkipsClass 0 s t) : skipClassBody fuel s = some t := by
  obtain ⟨r, hr, hrest⟩ := skipClassBody_rest hlen h
  have hrt : r = t := hrest
  rw [hr, hrt]

theorem skipClass_of_crosses {s t : List Char} (h : SkipsClass 0 (skipClassHead s) t) :
    skipClass s = some t :=
  skipClassBody_of_crosses (skipClassHead_length s) h

/-- The skip of a group computes what the moves lead to. -/
theorem skipGroupBody_of_crosses {fuel depth : Nat} {s t : List Char} (hlen : s.length ≤ fuel)
    (h : SkipsGroup depth s t) : skipGroupBody fuel depth s = some t := by
  induction fuel generalizing depth s t with
  | zero =>
      have hempty : s = [] := List.length_eq_zero_iff.mp (Nat.le_zero.mp hlen)
      subst hempty
      cases h with
      | pass hmove => cases hmove
      | enter hmove => cases hmove
      | leave hmove => cases hmove
  | succ fuel ih =>
      rw [skipGroupBody_succ]
      cases h with
      | done => rfl
      | pass hmove h =>
          have hlt := groupMove_length hmove
          rw [hmove]
          exact ih (by omega) h
      | enter hmove h =>
          have hlt := groupMove_length hmove
          rw [hmove]
          exact ih (by omega) h
      | leave hmove h =>
          have hlt := groupMove_length hmove
          rw [hmove]
          exact ih (by omega) h

end TrigramSearch.Literals
