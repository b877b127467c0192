import TrigramSearch.Proofs.Pattern.Appending
import TrigramSearch.Proofs.Pattern.Escapes

/-!
# Patterns that are legible at sight

Whether a pattern is legible is decided along the parser.  There are six things
in the text of a pattern that may make it illegible, and they can be seen without
parsing (`isHazard`): a class in a class that begins with `[:` and has no name, a
hyphen in front of a bracket, braces or the payload of an escape that hide a
bracket, a parenthesis or a backslash, a group whose name does, or that turns on
the extended syntax, and a `+` under a repetition that may leave it out.

Everything else that the parser reads as one part is inert to the pass (`Reads`),
apart from the brackets that both of them see.

## Main results

* `classIsLegible_of_hazardFree` — a class without hazards is legible.
* `isLegibleFrom_of_hazardFree` — so is what is left of a pattern.
* `isLegible_of_hazardFree` — so is a pattern.
-/

namespace TrigramSearch.Literals

open Regex Regex.Parser

/-! ## Hazards -/

/-- Whether a character means nothing to a skip. -/
def isInert (c : Char) : Bool := !(c ∈ ['\\', '[', ']', '(', ')'])

/-- The flags that a group starts with. -/
def startFlags : GroupStart → List FlagItem
  | .plain flags => flags
  | .setFlags flags => flags
  | _ => []

/-- Whether a group starts with a name that is not inert, or with the extended syntax. -/
def startIsHazard (start : GroupStart) : Bool :=
  match start with
  | .named name => !name.all isInert
  | start => FlagItem.state? .extended (startFlags start) true == some true

/-- Whether a character may begin a repetition that leaves out what it repeats. -/
def leavesOutSign (c : Char) : Bool := c = '?' || c = '*' || c = '\x7b'

/-- Whether a pattern begins with something that the pass may misread. -/
def isHazard : List Char → Bool
  | '[' :: s => s.head? = some ':' && (posix? s).isNone
  | '-' :: s => s.head? = some '['
  | '\x7b' :: s => !(s.takeWhile (· != '\x7d')).all isInert
  | '\\' :: e :: s => s.head? != some '\x7b' && !(s.take (payloadLength e)).all isInert
  | '(' :: s =>
    match groupStart false s with
    | .ok (start, _) => startIsHazard start
    | .error _ => false
  | '+' :: s => (greediness s).2.head?.any leavesOutSign
  | _ => false

/-- Whether there is something in a pattern that the pass may misread. -/
def hasHazard : List Char → Bool
  | [] => false
  | c :: s => isHazard (c :: s) || hasHazard s

theorem hasHazard_cons {c : Char} {s : List Char} (h : hasHazard (c :: s) = false) :
    isHazard (c :: s) = false ∧ hasHazard s = false := by
  rwa [hasHazard, Bool.or_eq_false_iff] at h

theorem hasHazard_of_suffix {s t : List Char} (h : hasHazard s = false) (ht : t <:+ s) :
    hasHazard t = false := by
  induction s with
  | nil =>
      rw [List.suffix_nil.mp ht]
      exact h
  | cons c s ih =>
      rcases List.suffix_cons_iff.mp ht with rfl | hs
      · exact h
      · exact ih (hasHazard_cons h).2 hs

/-! ## Inert text -/

/-- Only inert text is read up to `t`. -/
def Reads (s t : List Char) : Prop := ∃ u, s = u ++ t ∧ u.all isInert = true

theorem Reads.refl (s : List Char) : Reads s s := ⟨[], rfl, rfl⟩

theorem Reads.cons {c : Char} {s t : List Char} (hc : isInert c = true) (h : Reads s t) :
    Reads (c :: s) t := by
  obtain ⟨u, rfl, hu⟩ := h
  exact ⟨c :: u, rfl, by rw [List.all_cons, hc, hu]; rfl⟩

theorem Reads.trans {s r t : List Char} (h : Reads s r) (hlater : Reads r t) : Reads s t := by
  obtain ⟨u, rfl, hu⟩ := h
  obtain ⟨v, rfl, hv⟩ := hlater
  exact ⟨u ++ v, (List.append_assoc u v t).symm, by rw [List.all_append, hu, hv]; rfl⟩

theorem Reads.suffix {s t : List Char} (h : Reads s t) : t <:+ s := by
  obtain ⟨u, rfl, _⟩ := h
  exact List.suffix_append u t

/-- Up to a character, all that is skipped is in front of it. -/
theorem skipPast_reads {stop : Char} {s : List Char} (hstop : isInert stop = true)
    (h : (s.takeWhile (· != stop)).all isInert = true) : Reads s (skipPast stop s) := by
  induction s with
  | nil => exact Reads.refl []
  | cons c s ih =>
      by_cases hc : c = stop
      · subst hc
        rw [skipPast_self]
        exact Reads.cons hstop (Reads.refl s)
      · have hne : (c != stop) = true := by simpa using hc
        rw [List.takeWhile_cons, if_pos hne, List.all_cons, Bool.and_eq_true] at h
        rw [skipPast_of_ne hc]
        exact Reads.cons h.1 (ih h.2)

/-- What braces hold is read up to the closing one. -/
theorem braces_reads {s : List Char} (h : hasHazard ('\x7b' :: s) = false) :
    Reads ('\x7b' :: s) (skipPast '\x7d' s) := by
  have hinside : (s.takeWhile (· != '\x7d')).all isInert = true := by
    simpa [isHazard] using (hasHazard_cons h).1
  exact Reads.cons (by decide) (skipPast_reads (by decide) hinside)

/-- The payload of an escape is read. -/
theorem skipPayload_reads {e : Char} {s : List Char} (h : hasHazard ('\\' :: e :: s) = false) :
    Reads s (skipPayload e s) := by
  have hs := (hasHazard_cons (hasHazard_cons h).2).2
  have hpayload := (hasHazard_cons h).1
  rw [skipPayload.eq_def]
  split
  · exact Reads.refl s
  · split
    · exact braces_reads hs
    · rename_i hbrace
      have hne : s.head? ≠ some '\x7b' := by
        intro hhead
        obtain ⟨tail, rfl⟩ := List.head?_eq_some_iff.mp hhead
        exact hbrace tail rfl
      have hinert : (s.take (payloadLength e)).all isInert = true := by
        simpa [isHazard, hne] using hpayload
      exact ⟨s.take (payloadLength e), (List.take_append_drop _ s).symm, hinert⟩

/-- What belongs to an escape is read. -/
theorem escape_reads {e : Char} {s t : List Char} {p : Primitive}
    (h : hasHazard ('\\' :: e :: s) = false) (hescape : escape false (e :: s) = .ok (p, t)) :
    Reads s t := by
  rcases escape_rest hescape with rfl | ⟨_, tail, rfl, rfl⟩
  · exact skipPayload_reads h
  · exact braces_reads (hasHazard_cons (hasHazard_cons h).2).2

theorem greediness_reads (s : List Char) : Reads s (greediness s).2 := by
  unfold greediness
  split
  · exact Reads.cons (by decide) (Reads.refl _)
  · exact Reads.refl s

/-! ## Crossing what is read -/

/-- Moves that pass over inert text, and over a backslash with what it escapes. -/
structure Passes (move : List Char → Option (Move × List Char)) : Prop where
  inert : ∀ {c : Char} (s : List Char), isInert c = true → move (c :: s) = some (.pass, s)
  escaped : ∀ (e : Char) (s : List Char), move ('\\' :: e :: s) = some (.pass, s)

theorem isInert_iff {c : Char} :
    isInert c = true ↔ c ≠ '\\' ∧ c ≠ '[' ∧ c ≠ ']' ∧ c ≠ '(' ∧ c ≠ ')' := by
  simp [isInert]

theorem classMove_pass {c : Char} (s : List Char) (hslash : c ≠ '\\') (hopen : c ≠ '[')
    (hclose : c ≠ ']') : classMove (c :: s) = some (.pass, s) := by
  rw [classMove.eq_def]
  dsimp only
  rw [if_neg hslash, if_neg hopen, if_neg hclose]

theorem groupMove_pass {c : Char} (s : List Char) (hslash : c ≠ '\\') (hclass : c ≠ '[')
    (hopen : c ≠ '(') (hclose : c ≠ ')') : groupMove (c :: s) = some (.pass, s) := by
  rw [groupMove.eq_def]
  dsimp only
  rw [if_neg hslash, if_neg hclass, if_neg hopen, if_neg hclose]

theorem classMove_passes : Passes classMove where
  inert s hc := by
    obtain ⟨hslash, hopen, hclose, _⟩ := isInert_iff.mp hc
    exact classMove_pass s hslash hopen hclose
  escaped e s := rfl

theorem groupMove_passes : Passes groupMove where
  inert s hc := by
    obtain ⟨hslash, hclass, _, hopen, hclose⟩ := isInert_iff.mp hc
    exact groupMove_pass s hslash hclass hopen hclose
  escaped e s := rfl

section
variable {move : List Char → Option (Move × List Char)}

theorem Reads.crosses (hpasses : Passes move) {s t : List Char} (h : Reads s t) :
    Crosses move 0 s t := by
  obtain ⟨u, rfl, hu⟩ := h
  induction u with
  | nil => exact .done t
  | cons c u ih =>
      rw [List.all_cons, Bool.and_eq_true] at hu
      exact .pass (hpasses.inert (u ++ t) hu.1) (ih hu.2)

/-- An escape is crossed with all that belongs to it. -/
theorem escape_crosses (hpasses : Passes move) {s t : List Char} {p : Primitive}
    (h : hasHazard ('\\' :: s) = false) (hescape : escape false s = .ok (p, t)) :
    Crosses move 0 ('\\' :: s) t := by
  cases s with
  | nil => cases hescape
  | cons e s => exact .pass (hpasses.escaped e s) ((escape_reads h hescape).crosses hpasses)

end

/-! ## Classes -/

/-- One character or escape of a class is crossed. -/
theorem classPrimitive_crosses {c : Char} {s t : List Char} {p : Primitive}
    (h : hasHazard (c :: s) = false) (hopen : c ≠ '[') (hclose : c ≠ ']')
    (hprimitive : classPrimitive false (c :: s) = .ok (p, t)) : Crosses classMove 0 (c :: s) t := by
  rw [classPrimitive] at hprimitive
  split at hprimitive
  · rename_i hslash
    subst hslash
    exact escape_crosses classMove_passes h hprimitive
  · rename_i hslash
    obtain ⟨_, rfl⟩ := Prod.mk.inj (Except.ok.inj hprimitive)
    exact .pass (classMove_pass s hslash hopen hclose) (.done s)

/-- What is mapped to a pair with a rest comes with this rest. -/
private theorem rest_of_map {E A B : Type} {x : Except E A} {f : A → B} {r t : List Char} {b : B}
    (h : x.map (fun a => (f a, r)) = .ok (b, t)) : t = r := by
  cases x with
  | error e => cases h
  | ok a => exact (Prod.mk.inj (Except.ok.inj h)).2.symm

/-- So is a range; the bracket that its end might be is a hazard. -/
theorem classRange_crosses {c : Char} {s t : List Char} {item : ClassSet}
    (h : hasHazard (c :: s) = false) (hopen : c ≠ '[') (hclose : c ≠ ']')
    (hrange : classRange false (c :: s) = .ok (item, t)) : Crosses classMove 0 (c :: s) t := by
  rw [classRange] at hrange
  split at hrange
  · cases hrange
  rename_i p r hfirst
  have hcrosses := classPrimitive_crosses h hopen hclose hfirst
  have hr := hasHazard_of_suffix h (hcrosses.suffix classMove_suffix)
  have hblanks : skipBlanks false r = r := rfl
  rw [hblanks] at hrange
  split at hrange
  · cases hrange
  · rename_i s'
    have hpeek : peek false s' = s'.head? := rfl
    have hblanks' : skipBlanks false s' = s' := rfl
    dsimp only at hrange
    rw [hpeek, hblanks'] at hrange
    split at hrange
    · rw [rest_of_map hrange]
      exact hcrosses
    rename_i hnext
    split at hrange
    · cases hrange
    rename_i hrest
    cases s' with
    | nil => exact absurd rfl hrest
    | cons d s' =>
        have hd : d ≠ '[' := by
          have hhazard := (hasHazard_cons hr).1
          simpa [isHazard] using hhazard
        have hd' : d ≠ ']' := by
          rintro rfl
          exact hnext rfl
        split at hrange
        · cases hrange
        rename_i q t' hsecond
        have hend := classPrimitive_crosses (hasHazard_cons hr).2 hd hd' hsecond
        have ht : t = t' := by
          repeat' split at hrange
          all_goals cases hrange
          rfl
        subst ht
        exact hcrosses.trans (.pass (classMove_pass _ (by decide) (by decide) (by decide)) hend)
  · rw [rest_of_map hrange]
    exact hcrosses

/-- Hyphens at the start of a class are read. -/
private theorem leadingHyphens_reads {fuel : Nat} {items items' : List ClassSet} {s t : List Char}
    (h : leadingHyphens false fuel items s = .ok (items', t)) :
    Reads s t ∧ items <:+ items' ∧ (items' = [] → s = t) := by
  induction fuel generalizing items s with
  | zero => cases h
  | succ fuel ih =>
      rw [leadingHyphens.eq_def] at h
      dsimp only at h
      split at h
      · cases h
      · obtain ⟨hreads, hitems, _⟩ := ih h
        refine ⟨Reads.cons (by decide) hreads, (List.suffix_cons _ items).trans hitems, ?_⟩
        rintro rfl
        exact absurd (List.suffix_nil.mp hitems) (List.cons_ne_nil _ items)
      · obtain ⟨rfl, rfl⟩ := Prod.mk.inj (Except.ok.inj h)
        exact ⟨Reads.refl s, List.suffix_refl items, fun _ => rfl⟩

/-- Behind its caret, a class starts with hyphens or with a bracket that stands for itself. -/
private theorem openClass_cases {s t : List Char} {start : Bool × List ClassSet}
    (h : openClass false s = .ok (start, t)) :
    ∃ s', (s = '^' :: s' ∨ s = s' ∧ s.head? ≠ some '^') ∧
      (s' = ']' :: t ∨ Reads s' t ∧ s'.head? ≠ some ']') := by
  rw [openClass] at h
  split at h
  rename_i negated s' hcaret
  have hs : s = '^' :: s' ∨ s = s' ∧ s.head? ≠ some '^' := by
    split at hcaret
    · rename_i rest heq
      obtain ⟨_, rfl⟩ := Prod.mk.inj hcaret
      exact Or.inl heq
    · rename_i hnone
      obtain ⟨_, rfl⟩ := Prod.mk.inj hcaret
      refine Or.inr ⟨rfl, ?_⟩
      intro hhead
      obtain ⟨tail, rfl⟩ := List.head?_eq_some_iff.mp hhead
      exact hnone tail rfl
  refine ⟨s', hs, ?_⟩
  split at h
  · cases h
  rename_i items r hhyphens
  obtain ⟨hreads, _, hnone⟩ := leadingHyphens_reads hhyphens
  split at h
  · left
    rw [hnone rfl]
    split at h
    · cases h
    · obtain ⟨_, rfl⟩ := Prod.mk.inj (Except.ok.inj h)
      rfl
  · rename_i hbracket
    obtain ⟨_, rfl⟩ := Prod.mk.inj (Except.ok.inj h)
    right
    refine ⟨hreads, ?_⟩
    intro hhead
    -- at a bracket there are no hyphens, so that it has been taken for itself
    obtain ⟨tail, rfl⟩ := List.head?_eq_some_iff.mp hhead
    obtain ⟨rfl, rfl⟩ := Prod.mk.inj (Except.ok.inj hhyphens)
    exact hbracket tail rfl rfl

/-- Without a bracket that stands for itself, the pass takes only the caret for the start. -/
private theorem skipClassHead_eq {s s' : List Char}
    (hcaret : s = '^' :: s' ∨ s = s' ∧ s.head? ≠ some '^') (hs' : s'.head? ≠ some ']') :
    skipClassHead s = s' := by
  cases s' with
  | nil =>
      rcases hcaret with rfl | ⟨rfl, _⟩
      · rfl
      · rfl
  | cons c s' =>
      have hc : c ≠ ']' := by simpa using hs'
      rcases hcaret with rfl | ⟨rfl, hne⟩
      · simp [skipClassHead, hc]
      · have hc' : c ≠ '^' := by simpa using hne
        simp [skipClassHead, hc, hc']

/-- The start of a class is crossed, behind what the pass takes for it. -/
theorem openClass_crosses {s t : List Char} {start : Bool × List ClassSet}
    (h : openClass false s = .ok (start, t)) : Crosses classMove 0 (skipClassHead s) t := by
  obtain ⟨s', hcaret, rfl | ⟨hreads, hs'⟩⟩ := openClass_cases h
  · have hhead : skipClassHead s = t := by
      rcases hcaret with rfl | ⟨rfl, _⟩
      · rfl
      · rfl
    rw [hhead]
    exact .done t
  · rw [skipClassHead_eq hcaret hs']
    exact hreads.crosses classMove_passes

/-- A step in a class without hazards is one that the pass gets over. -/
theorem classPartIsLegible_of_hazardFree {st : ClassState} {c : Char} {s : List Char}
    (h : hasHazard (c :: s) = false) : classPartIsLegible false st c s = true := by
  have hhead : headIsLegible false s = true := by
    rw [headIsLegible]
    split
    · rename_i hopen
      exact crosses_complete classMove_length (openClass_crosses hopen)
    · rfl
  rw [classPartIsLegible]
  by_cases hopen : c = '['
  · subst hopen
    rw [if_pos rfl]
    split
    · exact hhead
    · split
      · rfl
      · rename_i hposix
        have hcolon : s.head? ≠ some ':' := by
          have hhazard := (hasHazard_cons h).1
          simpa [isHazard, hposix] using hhazard
        rw [if_neg hcolon]
        exact hhead
  rw [if_neg hopen]
  by_cases hclose : c = ']'
  · rw [if_pos hclose]
  rw [if_neg hclose]
  split
  · rename_i st' s' hstep
    apply crosses_complete classMove_length
    cases classStepped hstep with
    | posix => exact absurd rfl hopen
    | enter => exact absurd rfl hopen
    | leave => exact absurd rfl hclose
    | operator op hc hrest =>
        subst hrest
        have hpass : ∀ r, classMove (c :: r) = some (.pass, r) := by
          intro r
          refine classMove_pass r ?_ hopen hclose
          rintro rfl
          exact absurd hc (by decide)
        exact .pass (hpass _) (.pass (hpass _) (.done s'))
    | item _ _ hitem => exact classRange_crosses h hopen hclose hitem
  · rfl

/-- A step in a class reads on. -/
theorem classStepped_suffix {st st' : ClassState} {c : Char} {s t : List Char}
    (h : hasHazard (c :: s) = false) (hstep : ClassStepped false st s c st' t) : t <:+ c :: s := by
  cases hstep with
  | posix _ hposix =>
      obtain ⟨name, rfl, _⟩ := posix?_eq_some hposix
      exact ⟨'[' :: ':' :: (name ++ [':', ']']), by simp⟩
  | enter _ hopen =>
      have hhead := (openClass_crosses hopen).suffix classMove_suffix
      exact (hhead.trans (skipClassHead_suffix s)).trans (List.suffix_cons '[' s)
  | leave => exact List.suffix_cons ']' s
  | operator _ _ hrest =>
      rw [hrest]
      exact (List.suffix_cons c t).trans (List.suffix_cons c _)
  | item hopen hclose hitem =>
      exact (classRange_crosses h hopen hclose hitem).suffix classMove_suffix

/-- What is left of a class is legible if it is free of hazards. -/
theorem classIsLegible_of_hazardFree (fuel : Nat) {st : ClassState} {s : List Char}
    (h : hasHazard s = false) : classIsLegible false fuel st s = true := by
  induction fuel generalizing st s with
  | zero => rfl
  | succ fuel ih =>
      have hblanks : skipBlanks false s = s := rfl
      rw [classIsLegible, hblanks]
      cases s with
      | nil => rfl
      | cons c s =>
          dsimp only
          rw [crosses_complete classMove_length (.done (c :: s)),
            classPartIsLegible_of_hazardFree h, Bool.true_and, Bool.true_and]
          split
          · rename_i st' t hstep
            exact ih (hasHazard_of_suffix h (classStepped_suffix h (classStepped hstep)))
          · rfl

theorem bracketedClassIsLegible_of_hazardFree {s : List Char} (h : hasHazard ('[' :: s) = false) :
    bracketedClassIsLegible false s = true :=
  classIsLegible_of_hazardFree _ h

/-! ## Starts of groups -/

/-- Flags are read up to a colon or a parenthesis. -/
theorem flags_reads {items items' : List FlagItem} {last : Char} {s t : List Char}
    (h : flags items s = .ok ((items', last), t)) :
    Reads s (last :: t) ∧ (last = ':' ∨ last = ')') := by
  induction s generalizing items with
  | nil => cases h
  | cons c s ih =>
      rw [flags] at h
      split at h
      · rename_i hend
        split at h
        · cases h
        · obtain ⟨hresult, rfl⟩ := Prod.mk.inj (Except.ok.inj h)
          obtain ⟨_, rfl⟩ := Prod.mk.inj hresult
          exact ⟨Reads.refl _, by simpa using hend⟩
      split at h
      · rename_i hminus
        subst hminus
        split at h
        · cases h
        · obtain ⟨hreads, hlast⟩ := ih h
          exact ⟨Reads.cons (by decide) hreads, hlast⟩
      split at h
      · cases h
      · rename_i f hflag
        split at h
        · cases h
        · obtain ⟨hreads, hlast⟩ := ih h
          refine ⟨Reads.cons ?_ hreads, hlast⟩
          rw [isInert_iff]
          refine ⟨?_, ?_, ?_, ?_, ?_⟩
          all_goals
            rintro rfl
            cases hflag

/-- The name of a group stands in front of its closing angle. -/
theorem groupName_ok {read name s t : List Char} (h : groupName read s = .ok (name, t)) :
    ∃ u, name = read.reverse ++ u ∧ s = u ++ '>' :: t := by
  induction s generalizing read with
  | nil => cases h
  | cons c s ih =>
      rw [groupName] at h
      split at h
      · rename_i hclose
        subst hclose
        split at h
        · cases h
        · obtain ⟨rfl, rfl⟩ := Prod.mk.inj (Except.ok.inj h)
          exact ⟨[], (List.append_nil _).symm, rfl⟩
      · split at h
        · obtain ⟨u, rfl, rfl⟩ := ih h
          exact ⟨c :: u, by simp, rfl⟩
        · cases h

/-- A name that is inert is read with its closing angle. -/
private theorem named_reads {s t : List Char} {start : GroupStart}
    (h : (groupName [] s).map (fun p => (GroupStart.named p.1, p.2)) = .ok (start, t))
    (hstart : startIsHazard start = false) :
    (∀ flags, start ≠ .setFlags flags) ∧ Reads s t := by
  cases hread : groupName [] s with
  | error e =>
      rw [hread] at h
      cases h
  | ok result =>
      obtain ⟨name, t'⟩ := result
      rw [hread] at h
      obtain ⟨rfl, rfl⟩ := Prod.mk.inj (Except.ok.inj h)
      obtain ⟨u, hu, rfl⟩ := groupName_ok hread
      have hinert : u.all isInert = true := by
        rw [hu] at hstart
        simpa [startIsHazard] using hstart
      exact ⟨nofun, Reads.trans ⟨u, rfl, hinert⟩ (Reads.cons (by decide) (Reads.refl t'))⟩

/-- The start of a group is read; a parenthesis ends flags that are only set. -/
theorem groupStart_reads {s t : List Char} {start : GroupStart}
    (h : groupStart false s = .ok (start, t)) (hstart : startIsHazard start = false) :
    (∀ flags, start ≠ .setFlags flags) ∧ Reads s t ∨
      (∃ flags, start = .setFlags flags) ∧ Reads s (')' :: t) := by
  have hblanks : skipBlanks false s = s := rfl
  rw [groupStart, hblanks] at h
  dsimp only at h
  split at h
  all_goals first | cases h | skip
  · obtain ⟨hnamed, hreads⟩ := named_reads h hstart
    left
    refine ⟨hnamed, ?_⟩
    exact Reads.cons (by decide) (Reads.cons (by decide) (Reads.cons (by decide) hreads))
  · obtain ⟨hnamed, hreads⟩ := named_reads h hstart
    left
    exact ⟨hnamed, Reads.cons (by decide) (Reads.cons (by decide) hreads)⟩
  · split at h
    · cases h
    rename_i items last after hread
    obtain ⟨hreads, hlast⟩ := flags_reads hread
    split at h
    · rename_i hcolon
      obtain ⟨rfl, rfl⟩ := Prod.mk.inj (Except.ok.inj h)
      subst hcolon
      left
      refine ⟨nofun, Reads.cons (by decide) (hreads.trans ?_)⟩
      exact Reads.cons (by decide) (Reads.refl after)
    · rename_i hcolon
      have hclose : last = ')' := hlast.resolve_left hcolon
      subst hclose
      split at h
      · cases h
      · obtain ⟨rfl, rfl⟩ := Prod.mk.inj (Except.ok.inj h)
        exact Or.inr ⟨⟨items, rfl⟩, Reads.cons (by decide) hreads⟩
  · exact Or.inl ⟨nofun, Reads.refl s⟩

/-! ## Patterns -/

/-- The syntax is not extended, and will not be when open groups are left. -/
structure Plain (st : State) : Prop where
  extended : st.extended = false
  before : ∀ g ∈ st.groups, g.extendedBefore = false

/-- How a group starts, if it starts without hazards. -/
theorem startIsHazard_eq {s t : List Char} {start : GroupStart}
    (h : hasHazard ('(' :: s) = false) (hstart : groupStart false s = .ok (start, t)) :
    startIsHazard start = false := by
  have hhazard := (hasHazard_cons h).1
  rw [isHazard, hstart] at hhazard
  exact hhazard

theorem not_extended_of_start {start : GroupStart} (h : startIsHazard start = false) :
    FlagItem.state? .extended (startFlags start) true ≠ some true := by
  cases start with
  | named name => exact nofun
  | _ => simpa [startIsHazard] using h

/-- What flags at the start of a group make of the syntax. -/
theorem openGroup_extended {st st' : State} {s t t' : List Char} {start : GroupStart}
    (hstart : groupStart st.extended s = .ok (start, t)) (h : st.openGroup s = .ok (st', t')) :
    st'.extended = (FlagItem.state? .extended (startFlags start) true).getD st.extended := by
  rw [State.openGroup, hstart] at h
  cases start with
  | named n =>
      dsimp only at h
      split at h
      · cases h
      · rw [← (Prod.mk.inj (Except.ok.inj h)).1]
        rfl
  | _ =>
      rw [← (Prod.mk.inj (Except.ok.inj h)).1]
      rfl

/-- A step that meets no hazard does not turn the extended syntax on. -/
theorem step_plain {st st' : State} {c : Char} {s t : List Char} (hst : Plain st)
    (h : hasHazard (c :: s) = false) (hstep : st.step c s = .ok (st', t)) : Plain st' := by
  -- whether flags are set for a group or for what follows
  have hopen : ∀ {start : GroupStart} {t : List Char}, c = '(' →
      groupStart st.extended s = .ok (start, t) → st'.extended = false := by
    rintro start t rfl hstart
    have hstate : FlagItem.state? .extended (startFlags start) true ≠ some true := by
      rw [hst.extended] at hstart
      exact not_extended_of_start (startIsHazard_eq h hstart)
    rw [State.step, if_pos rfl] at hstep
    rw [openGroup_extended hstart hstep, hst.extended]
    cases hflag : FlagItem.state? .extended (startFlags start) true with
    | none => rfl
    | some b =>
        cases b with
        | false => rfl
        | true => exact absurd hflag hstate
  cases stepped hstep with
  | enter capturing flags names hstart =>
      refine ⟨hopen rfl hstart, ?_⟩
      intro g hg
      rcases List.mem_cons.mp hg with rfl | hg
      · exact hst.extended
      · exact hst.before g hg
  | setFlags hstart => exact ⟨hopen rfl hstart, hst.before⟩
  | @close g groups hgroups =>
      have hbefore := hst.before
      rw [hgroups] at hbefore
      exact ⟨hbefore g List.mem_cons_self, fun g' hg' => hbefore g' (List.mem_cons_of_mem g hg')⟩
  | _ => exact ⟨hst.extended, hst.before⟩

/-- One character or escape outside of classes is crossed. -/
theorem primitive_crosses {c : Char} {s t : List Char} {p : Primitive}
    (h : hasHazard (c :: s) = false) (hclass : c ≠ '[') (hopen : c ≠ '(') (hclose : c ≠ ')')
    (hprimitive : primitive false c s = .ok (p, t)) : Crosses groupMove 0 (c :: s) t := by
  rw [primitive] at hprimitive
  split at hprimitive
  · rename_i hslash
    subst hslash
    exact escape_crosses groupMove_passes h hprimitive
  · rename_i hslash
    have hrest : t = s := by
      repeat' split at hprimitive
      all_goals exact (Prod.mk.inj (Except.ok.inj hprimitive)).2.symm
    rw [hrest]
    exact .pass (groupMove_pass s hslash hclass hopen hclose) (.done s)

/-- A part that the parser reads without meeting a hazard is one that the pass gets over, and the
parser reads on. -/
theorem partIsLegible_of_hazardFree {st st' : State} {c : Char} {s t : List Char}
    (hst : Plain st) (h : hasHazard (c :: s) = false) (hstep : Stepped st s c st' t) :
    partIsLegible st c s st' t = true ∧ t <:+ c :: s := by
  -- a part that is neither a bracket nor a parenthesis nor a bar has to be crossed
  have hpart : c ≠ '[' → st'.groups = st.groups → Crosses groupMove 0 (c :: s) t →
      partIsLegible st c s st' t = true ∧ t <:+ c :: s := by
    intro hclass hgroups hcrosses
    refine ⟨?_, hcrosses.suffix groupMove_suffix⟩
    rw [partIsLegible, if_neg hclass, hgroups, if_neg (Nat.lt_irrefl _),
      crosses_complete groupMove_length hcrosses, Bool.or_true]
    exact ite_self true
  cases hstep with
  | enter capturing flags names hstart hgroup =>
      rw [hst.extended] at hstart
      have hdeeper : st.groups.length < (st.enter capturing flags names).groups.length :=
        Nat.lt_succ_self _
      rcases groupStart_reads hstart (startIsHazard_eq h hstart) with
        ⟨_, hreads⟩ | ⟨⟨items, hitems⟩, _⟩
      · rw [partIsLegible, if_neg (by decide), if_pos hdeeper]
        exact ⟨crosses_complete groupMove_length (hreads.crosses groupMove_passes),
          hreads.suffix.trans (List.suffix_cons '(' s)⟩
      · exact absurd hitems (hgroup items)
  | setFlags hstart =>
      rw [hst.extended] at hstart
      rcases groupStart_reads hstart (startIsHazard_eq h hstart) with ⟨hgroup, _⟩ | ⟨_, hreads⟩
      · exact absurd rfl (hgroup _)
      · refine hpart (by decide) rfl (.enter rfl ?_)
        exact (hreads.crosses groupMove_passes).trans (.leave rfl (.done t))
  | @close g groups hgroups =>
      have hless : ¬ st.groups.length < (st.leave g groups).groups.length := by
        rw [hgroups]
        exact Nat.not_lt.mpr (Nat.le_succ groups.length)
      rw [partIsLegible, if_neg (by decide), if_neg hless]
      exact ⟨rfl, List.suffix_cons ')' s⟩
  | branch =>
      rw [partIsLegible, if_neg (by decide), if_neg (Nat.lt_irrefl _)]
      exact ⟨rfl, List.suffix_cons '|' s⟩
  | charClass hclass =>
      rw [hst.extended] at hclass
      have hlegible := bracketedClassIsLegible_of_hazardFree h
      have hskip := skipClass_suffix (skipClass_of_bracketedClass hclass hlegible)
      refine ⟨?_, ((List.suffix_cons ']' t).trans hskip).trans (List.suffix_cons '[' s)⟩
      rw [partIsLegible, if_pos rfl, hst.extended]
      exact hlegible
  | sign hc =>
      refine hpart ?_ rfl (.pass (groupMove_passes.inert s ?_)
        ((greediness_reads s).crosses groupMove_passes))
      all_goals rcases hc with rfl | rfl | rfl <;> decide
  | counts hcounts =>
      rw [hst.extended] at hcounts
      rw [repetitionCounts_rest hcounts] at hpart ⊢
      exact hpart (by decide) rfl
        (((braces_reads h).trans (greediness_reads _)).crosses groupMove_passes)
  | primitive hc hprimitive =>
      simp only [List.mem_cons, List.not_mem_nil, or_false, not_or] at hc
      rw [hst.extended] at hprimitive
      exact hpart hc.2.2.2.1 rfl
        (primitive_crosses h hc.2.2.2.1 hc.1 hc.2.1 hprimitive)

/-- Only after the sign of such a repetition, the last part may be left out. -/
theorem leavesOutSign_of_isOptional {st st' : State} {c : Char} {s t : List Char}
    (hstep : Stepped st s c st' t) (h : isOptional st' = true) : leavesOutSign c = true := by
  cases hstep with
  | charClass hclass =>
      obtain ⟨negated, set, rfl⟩ := bracketedClass_ast hclass
      cases h
  | sign hc =>
      rcases hc with rfl | rfl | rfl
      · rfl
      · rfl
      · cases h
  | counts => rfl
  | @primitive _ p => cases p <;> cases h
  | _ => cases h

/-- Text is kept under a `+` only, unless it is kept already. -/
theorem eq_plus_of_kept {asciiOnly : Bool} {last : LastPart} {st : State} {c : Char}
    {s : List Char} (h : last.next asciiOnly st c s = .kept)
    (hlast : last = .kept → leavesOutSign c = false) : c = '+' := by
  unfold LastPart.next at h
  split at h
  · cases h
  split at h
  · rename_i hsign
    split at h
    · split at h
      · assumption
      · cases h
    · have hleaves := hlast rfl
      simp [leavesOutSign] at hleaves
      simpa [hleaves] using hsign
    · cases h
  · repeat' split at h
    all_goals cases h

/-- What is left of a pattern is legible if it is free of hazards. -/
theorem isLegibleFrom_of_hazardFree {asciiOnly : Bool} (fuel : Nat) {last : LastPart} {st : State}
    {s : List Char} (hst : Plain st) (h : hasHazard s = false)
    (hlast : last = .kept → s.head?.any leavesOutSign = false) :
    isLegibleFrom asciiOnly fuel last st s = true := by
  induction fuel generalizing last st s with
  | zero => rfl
  | succ fuel ih =>
      have hblanks : skipBlanks st.extended s = s := by
        rw [hst.extended]
        rfl
      rw [isLegibleFrom, hblanks]
      cases s with
      | nil => rfl
      | cons c s =>
          dsimp only
          rw [crosses_complete groupMove_length (.done (c :: s)), Bool.true_and]
          cases hresult : st.step c s with
          | error e => rfl
          | ok result =>
              obtain ⟨st', t⟩ := result
              have hstep := stepped hresult
              obtain ⟨hpart, hsuffix⟩ := partIsLegible_of_hazardFree hst h hstep
              have hsign : last = .kept → leavesOutSign c = false := hlast
              have hkept : (last == .kept && isOptional st') = false := by
                rw [Bool.and_eq_false_iff]
                by_cases hlastKept : last = .kept
                · right
                  rw [← Bool.not_eq_true]
                  intro hoptional
                  have hleaves := leavesOutSign_of_isOptional hstep hoptional
                  rw [hsign hlastKept] at hleaves
                  cases hleaves
                · left
                  simpa using hlastKept
              have hnext : last.next asciiOnly st c s = .kept →
                  t.head?.any leavesOutSign = false := by
                intro hnextKept
                obtain rfl := eq_plus_of_kept hnextKept hsign
                cases hstep with
                | sign => exact (hasHazard_cons h).1
                | primitive hc => exact absurd (by decide) hc
              dsimp only
              rw [hpart, hkept, ih (step_plain hst h hresult) (hasHazard_of_suffix h hsuffix) hnext]
              rfl

/-- **Patterns without hazards are legible.** -/
theorem isLegible_of_hazardFree {pattern : List Char} (options : MatchOptions)
    (h : hasHazard pattern = false) : isLegible pattern options = true := by
  rw [isLegible]
  cases options.extended with
  | true => rfl
  | false =>
      rw [Bool.false_or]
      refine isLegibleFrom_of_hazardFree _ ⟨rfl, by simp⟩ h ?_
      intro hlast
      cases hlast

end TrigramSearch.Literals
