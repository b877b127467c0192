import TrigramSearch.Proofs.Pattern.Positions

/-!
# The pass stops

Every routine of the pass stops, wherever it is called and whatever the pattern
is.  The induction is on the characters that have not been read
(`unread_induction`): a round of a loop reads one, and a routine that it calls
begins behind that character.  The position jumps only over a character that has
been seen (`jumpAt_bounds`), so that it stays within the pattern, and a class
inside of a class leaves the position to the outer one even where it fails.

Along with that, each routine does what the function on lists does.  So the number
of steps that bounds these functions is never used up: a pattern without literals
is one that is malformed or uncertain, and never one that was too long.

## Main results

* `skipPastAt_ends`, `skipPayloadAt_ends`, `skipClassAt_ends`, `skipGroupAt_ends`:
  every skip stops.
* `passAt_ends`: so does the pass, and it finds what `scanFrom` finds.
* `pass_terminates`: this for every pattern, and how many steps there are.
-/

namespace TrigramSearch.Literals

variable {chars : List Char}

/-! ## Reading and looking ahead -/

/-- What reading and looking ahead do at a position, and what is left of the pattern there. -/
theorem bump_cases (chars : List Char) (p : Nat) :
    (bump chars p = (none, p) ∧ chars[p]? = none ∧ chars.drop p = []) ∨
      ∃ c, bump chars p = (some c, p + 1) ∧ chars[p]? = some c ∧
        chars.drop p = c :: chars.drop (p + 1) ∧ p + 1 ≤ chars.length := by
  unfold bump
  by_cases hp : p < chars.length
  · right
    have hget : chars[p]? = some chars[p] := List.getElem?_eq_getElem hp
    refine ⟨chars[p], ?_, hget, List.drop_eq_getElem_cons hp, hp⟩
    rw [hget]
  · left
    have hle : chars.length ≤ p := Nat.le_of_not_lt hp
    have hget : chars[p]? = none := List.getElem?_eq_none hle
    refine ⟨?_, hget, List.drop_eq_nil_of_le hle⟩
    rw [hget]

/-- What holds at a position if it holds at all later ones holds everywhere: the characters that
have not been read become fewer. -/
@[elab_as_elim]
theorem unread_induction {n : Nat} {motive : (p : Nat) → p ≤ n → Prop}
    (step : ∀ p hp, (∀ q hq, p < q → motive q hq) → motive p hp) (p : Nat) (hp : p ≤ n) :
    motive p hp := by
  induction hleft : n - p using Nat.strongRecOn generalizing p with
  | _ k ih =>
      apply step p hp
      intro q hq hlt
      exact ih (n - q) (by omega) q hq rfl

/-- A skip that gives `t` of what is left of the pattern stops where `t` begins, or fails. -/
def LeadsTo (chars : List Char) (t : Option (List Char)) (r : Option Unit) (q : Nat) : Prop :=
  t = r.map fun _ => chars.drop q

theorem LeadsTo.drop_eq {s : List Char} {r : Option Unit} {q : Nat}
    (h : LeadsTo chars (some s) r q) : s = chars.drop q := by
  obtain ⟨_, _, hdrop⟩ := Option.map_eq_some_iff.mp h.symm
  exact hdrop.symm

/-- A skip that leaves less has gone on. -/
theorem LeadsTo.lt {t : Option (List Char)} {r : Option Unit} {p q : Nat}
    (h : LeadsTo chars t r q) (hshorter : ∀ s, t = some s → s.length < (chars.drop p).length)
    (hfound : r.isSome = true) : p < q := by
  obtain ⟨u, rfl⟩ := Option.isSome_iff_exists.mp hfound
  have hlt := hshorter _ h
  rw [List.length_drop, List.length_drop] at hlt
  omega

/-! ## Skips -/

theorem skipPastAt_ends (stop : Char) {p : Nat} (hp : p ≤ chars.length) :
    Ends chars p (skipPastAt chars stop p)
      (LeadsTo chars (some (skipPast stop (chars.drop p)))) := by
  induction p, hp using unread_induction with
  | step p hp ih =>
      rcases bump_cases chars p with ⟨hbump, _, hdrop⟩ | ⟨c, hbump, _, hdrop, hlt⟩
      · rw [hdrop]
        refine .of_eq (fun steps => ?_) (.done () hp) (congrArg some hdrop.symm)
        rw [skipPastAt.eq_def, hbump]
      refine .of_read hlt (fun steps => by rw [skipPastAt.eq_def, hbump]) ?_
      rw [hdrop, skipPast]
      dsimp only
      by_cases hstop : c = stop
      · simp only [if_pos hstop]
        exact (Ends.done hlt rfl).round (by omega)
      · simp only [if_neg hstop]
        exact (ih (p + 1) hlt (by omega)).round (by omega)

theorem skipCharsAt_advances (n : Nat) {p : Nat} (hp : p ≤ chars.length) :
    Advances chars p (skipCharsAt chars n p) ∧ (skipCharsAt chars n p).result = some () ∧
      chars.drop (skipCharsAt chars n p).position = (chars.drop p).drop n := by
  induction n generalizing p with
  | zero => exact ⟨.done () hp, rfl, rfl⟩
  | succ n ih =>
      rw [skipCharsAt]
      rcases bump_cases chars p with ⟨hbump, _, hdrop⟩ | ⟨c, hbump, _, hdrop, hlt⟩
      · rw [hbump, hdrop]
        exact ⟨.done () hp, rfl, hdrop⟩
      · obtain ⟨hadvances, hresult, hrest⟩ := ih hlt
        rw [hbump, hdrop]
        exact ⟨hadvances.round (Nat.lt_succ_self p), hresult, hrest⟩

theorem skipPayloadAt_ends (kind : Char) {p : Nat} (hp : p ≤ chars.length) :
    Ends chars p (skipPayloadAt chars kind p)
      (LeadsTo chars (some (skipPayload kind (chars.drop p)))) := by
  unfold skipPayloadAt skipPayload
  split
  · exact .done hp rfl
  obtain ⟨hadvances, hresult, hrest⟩ := skipCharsAt_advances (payloadLength kind) hp
  have hchars : Ends chars p (fun _ => some (skipCharsAt chars (payloadLength kind) p))
      (LeadsTo chars (some ((chars.drop p).drop (payloadLength kind)))) := by
    refine .of_eq (fun _ => rfl) hadvances ?_
    rw [LeadsTo, hresult, ← hrest]
    rfl
  rcases bump_cases chars p with ⟨_, hget, hdrop⟩ | ⟨c, _, hget, hdrop, hlt⟩
  · simpa [hget, hdrop] using hchars
  by_cases hbrace : c = '\x7b'
  · subst hbrace
    simp only [if_pos hget, hdrop]
    exact (skipPastAt_ends '\x7d' hlt).jump (Nat.le_succ p)
  · rw [hdrop] at hchars ⊢
    simpa [hget, hbrace] using hchars

/-- A jump does not leave the pattern, because it has seen the character. -/
theorem jumpAt_bounds (c : Char) {p : Nat} (hp : p ≤ chars.length) :
    p ≤ jumpAt chars c p ∧ jumpAt chars c p ≤ chars.length ∧
      chars.drop (jumpAt chars c p) =
        if (chars.drop p).head? = some c then (chars.drop p).tail else chars.drop p := by
  rw [jumpAt, List.head?_drop]
  split
  · rename_i hnext
    have hlt := (List.getElem?_eq_some_iff.mp hnext).1
    exact ⟨Nat.le_succ p, hlt, List.tail_drop.symm⟩
  · exact ⟨Nat.le_refl p, hp, rfl⟩

/-- What may stand first in a class is skipped by two jumps. -/
private theorem skipClassHead_eq_tail (s : List Char) :
    let t := if s.head? = some '^' then s.tail else s
    skipClassHead s = if t.head? = some ']' then t.tail else t := by
  cases s with
  | nil => rfl
  | cons a s =>
      by_cases hcaret : a = '^'
      · subst hcaret
        cases s with
        | nil => rfl
        | cons b s => by_cases hbracket : b = ']' <;> simp [skipClassHead, hbracket]
      · by_cases hbracket : a = ']' <;> simp [skipClassHead, hcaret, hbracket]

theorem skipClassHeadAt_bounds {p : Nat} (hp : p ≤ chars.length) :
    p ≤ skipClassHeadAt chars p ∧ skipClassHeadAt chars p ≤ chars.length ∧
      chars.drop (skipClassHeadAt chars p) = skipClassHead (chars.drop p) := by
  obtain ⟨hcaret, hcaret', hdrop⟩ := jumpAt_bounds '^' hp
  obtain ⟨hbracket, hbracket', hdrop'⟩ := jumpAt_bounds ']' hcaret'
  refine ⟨Nat.le_trans hcaret hbracket, hbracket', ?_⟩
  rw [skipClassHead_eq_tail, ← hdrop]
  exact hdrop'

theorem skipClassBodyAt_ends {p fuel : Nat} (hp : p ≤ chars.length)
    (hfuel : chars.length - p ≤ fuel) :
    Ends chars p (skipClassBodyAt chars p)
      (LeadsTo chars (skipClassBody fuel (chars.drop p))) := by
  induction p, hp using unread_induction generalizing fuel with
  | step p hp ih =>
      rcases bump_cases chars p with ⟨hbump, _, hdrop⟩ | ⟨c, hbump, _, hdrop, hlt⟩
      · rw [hdrop]
        refine .of_eq (fun steps => ?_) (.failed hp) (by cases fuel <;> rfl)
        rw [skipClassBodyAt.eq_def, hbump]
      obtain ⟨fuel, rfl⟩ := Nat.exists_eq_succ_of_ne_zero (show fuel ≠ 0 by omega)
      refine .of_read hlt (fun steps => by rw [skipClassBodyAt.eq_def, hbump]) ?_
      rw [hdrop, skipClassBody_succ, classMove.eq_def]
      dsimp only
      by_cases hslash : c = '\\'
      · simp only [if_pos hslash]
        rcases bump_cases chars (p + 1) with ⟨hbump', _, hdrop'⟩ | ⟨e, hbump', _, hdrop', hlt'⟩
        · simp only [hbump', hdrop']
          exact (Ends.failed hlt rfl).round (by omega)
        · simp only [hbump', hdrop']
          exact (ih (p + 2) hlt' (by omega) (by omega)).round (by omega)
      simp only [if_neg hslash]
      by_cases hopen : c = '['
      · simp only [if_pos hopen, List.head?_drop]
        split
        · refine (skipPastAt_ends ']' hlt).call (skipClassBodyAt chars) (by omega) ?_
          intro r q hle hq hname
          rw [hname.drop_eq]
          exact ih q hq (by omega) (by omega)
        · obtain ⟨hhead, hhead', hrest⟩ := skipClassHeadAt_bounds hlt
          dsimp only
          rw [← hrest]
          -- the inner class begins behind its bracket, so the hypothesis serves it as well
          -- as the rest of the outer one
          have hnested := ih _ hhead' (by omega)
            (show chars.length - skipClassHeadAt chars (p + 1) ≤ fuel by omega)
          refine hnested.callOrFail (skipClassBodyAt chars) (by omega) ?_ ?_
          · intro q hinner
            rw [hinner]
            rfl
          · intro b q hle hq hinner
            rw [hinner]
            exact ih q hq (by omega) (by omega)
      simp only [if_neg hopen]
      by_cases hclose : c = ']'
      · simp only [if_pos hclose]
        exact (Ends.done hlt rfl).round (by omega)
      · simp only [if_neg hclose]
        exact (ih (p + 1) hlt (by omega) (by omega)).round (by omega)

theorem skipClassAt_ends {p : Nat} (hp : p ≤ chars.length) :
    Ends chars p (skipClassAt chars p) (LeadsTo chars (skipClass (chars.drop p))) := by
  obtain ⟨hle, hle', hdrop⟩ := skipClassHeadAt_bounds hp
  have hfuel : chars.length - skipClassHeadAt chars p ≤ (chars.drop p).length := by
    rw [List.length_drop]
    omega
  have hbody := skipClassBodyAt_ends hle' hfuel
  rw [hdrop] at hbody
  exact hbody.jump hle

theorem skipGroupBodyAt_ends {p fuel : Nat} (hp : p ≤ chars.length)
    (hfuel : chars.length - p ≤ fuel) (depth : Nat) :
    Ends chars p (skipGroupBodyAt chars depth p)
      (LeadsTo chars (skipGroupBody fuel depth (chars.drop p))) := by
  induction p, hp using unread_induction generalizing fuel depth with
  | step p hp ih =>
      rcases bump_cases chars p with ⟨hbump, _, hdrop⟩ | ⟨c, hbump, _, hdrop, hlt⟩
      · rw [hdrop]
        refine .of_eq (fun steps => ?_) (.failed hp) (by cases fuel <;> rfl)
        rw [skipGroupBodyAt.eq_def, hbump]
      obtain ⟨fuel, rfl⟩ := Nat.exists_eq_succ_of_ne_zero (show fuel ≠ 0 by omega)
      refine .of_read hlt (fun steps => by rw [skipGroupBodyAt.eq_def, hbump]) ?_
      rw [hdrop, skipGroupBody.eq_def]
      dsimp only
      by_cases hslash : c = '\\'
      · simp only [if_pos hslash]
        rcases bump_cases chars (p + 1) with ⟨hbump', _, hdrop'⟩ | ⟨e, hbump', _, hdrop', hlt'⟩
        · simp only [hbump', hdrop']
          exact (Ends.failed hlt rfl).round (by omega)
        · simp only [hbump', hdrop']
          exact (ih (p + 2) hlt' (by omega) (by omega) depth).round (by omega)
      simp only [if_neg hslash]
      by_cases hclass : c = '['
      · simp only [if_pos hclass]
        refine (skipClassAt_ends hlt).callOrFail (skipGroupBodyAt chars depth) (by omega) ?_ ?_
        · intro q hinner
          rw [hinner]
          rfl
        · intro b q hle hq hinner
          rw [hinner]
          exact ih q hq (by omega) (by omega) depth
      simp only [if_neg hclass]
      by_cases hopen : c = '('
      · simp only [if_pos hopen]
        exact (ih (p + 1) hlt (by omega) (by omega) (depth + 1)).round (by omega)
      simp only [if_neg hopen]
      by_cases hclose : c = ')'
      · simp only [if_pos hclose]
        cases depth with
        | zero => exact (Ends.done hlt rfl).round (by omega)
        | succ depth => exact (ih (p + 1) hlt (by omega) (by omega) depth).round (by omega)
      · simp only [if_neg hclose]
        exact (ih (p + 1) hlt (by omega) (by omega) depth).round (by omega)

/-- The start of a group is seen ahead, without moving the position. -/
theorem groupIsUncertainAt_eq (chars : List Char) (p : Nat) :
    groupIsUncertainAt chars p = groupIsUncertain (chars.drop p) := by
  unfold groupIsUncertainAt
  rcases bump_cases chars p with ⟨_, hget, hdrop⟩ | ⟨c, _, hget, hdrop, _⟩
  · simp [hget, hdrop, groupIsUncertain]
  rw [hget, hdrop]
  by_cases hquestion : c = '?'
  · subst hquestion
    rcases bump_cases chars (p + 1) with ⟨_, hget', hdrop'⟩ | ⟨flag, _, hget', hdrop', _⟩
    · simp [hget', hdrop', groupIsUncertain]
    rw [hget', hdrop']
    by_cases hname : flag = 'P'
    · subst hname
      rcases bump_cases chars (p + 2) with ⟨_, hget'', hdrop''⟩ | ⟨mark, _, hget'', hdrop'', _⟩
      · simp [hget'', hdrop'', groupIsUncertain]
      · by_cases hmark : mark = '<'
        · simp [hget'', hdrop'', groupIsUncertain, hmark]
        · simp [hget'', hdrop'', groupIsUncertain, hmark]
    · simp [groupIsUncertain, hname, Bool.beq_eq_decide_eq]
  · simp [groupIsUncertain, hquestion]

theorem skipGroupAt_ends {p : Nat} (hp : p ≤ chars.length) :
    Ends chars p (skipGroupAt chars p) (LeadsTo chars (skipGroup (chars.drop p))) := by
  unfold skipGroupAt skipGroup
  rw [groupIsUncertainAt_eq]
  split
  · exact .failed hp rfl
  · exact skipGroupBodyAt_ends hp (Nat.le_of_eq List.length_drop.symm) 0

/-! ## The pass -/

theorem passAt_ends {p fuel : Nat} (hp : p ≤ chars.length) (hfuel : chars.length - p ≤ fuel)
    (asciiOnly : Bool) (runs : Runs) :
    Ends chars p (passAt chars asciiOnly runs p)
      (fun r _ => scanFrom asciiOnly fuel runs (chars.drop p) = r) := by
  -- the runs change from round to round, and no branch depends on them
  induction p, hp using unread_induction generalizing fuel runs with
  | step p hp ih =>
      rcases bump_cases chars p with ⟨hbump, _, hdrop⟩ | ⟨c, hbump, _, hdrop, hlt⟩
      · rw [hdrop]
        refine .of_eq (fun steps => ?_) (.done _ hp) (by cases fuel <;> rfl)
        rw [passAt.eq_def, hbump]
      obtain ⟨fuel, rfl⟩ := Nat.exists_eq_succ_of_ne_zero (show fuel ≠ 0 by omega)
      refine .of_read hlt (fun steps => by rw [passAt.eq_def, hbump]) ?_
      rw [hdrop, scanFrom.eq_def]
      dsimp only
      by_cases hend : (c = '|' || c = ')') = true
      · simp only [if_pos hend]
        exact (Ends.failed hlt rfl).round (by omega)
      simp only [if_neg hend]
      by_cases hgroup : c = '('
      · simp only [if_pos hgroup]
        have hskip := skipGroupAt_ends hlt
        refine hskip.callOrFail (passAt chars asciiOnly runs.flush) (by omega) ?_ ?_
        · intro q hinner
          rw [hinner]
          rfl
        · intro b q hle hq hinner
          rw [hinner]
          exact ih q hq (by omega) (by omega) runs.flush
      simp only [if_neg hgroup]
      by_cases hclass : c = '['
      · simp only [if_pos hclass]
        have hskip := skipClassAt_ends hlt
        refine hskip.callOrFail (passAt chars asciiOnly runs.flush) (by omega) ?_ ?_
        · intro q hinner
          rw [hinner]
          rfl
        · intro b q hle hq hinner
          rw [hinner]
          exact ih q hq (by omega) (by omega) runs.flush
      simp only [if_neg hclass]
      by_cases hslash : c = '\\'
      · simp only [if_pos hslash]
        rcases bump_cases chars (p + 1) with ⟨hbump', _, hdrop'⟩ | ⟨e, hbump', _, hdrop', hlt'⟩
        · simp only [hbump', hdrop']
          exact (Ends.failed hlt rfl).round (by omega)
        simp only [hbump', hdrop']
        by_cases htext : escapeIsText e = true
        · simp only [if_pos htext]
          exact (ih (p + 2) hlt' (by omega) (by omega) _).round (by omega)
        · simp only [if_neg htext]
          refine (skipPayloadAt_ends e hlt').call (passAt chars asciiOnly runs.flush) (by omega) ?_
          intro r q hle hq hpayload
          rw [hpayload.drop_eq]
          exact ih q hq (by omega) (by omega) runs.flush
      simp only [if_neg hslash]
      by_cases hdrops : (c = '*' || c = '?') = true
      · simp only [if_pos hdrops]
        exact (ih (p + 1) hlt (by omega) (by omega) _).round (by omega)
      simp only [if_neg hdrops]
      by_cases hbrace : c = '\x7b'
      · simp only [if_pos hbrace]
        have hskip := skipPastAt_ends '\x7d' hlt
        refine hskip.call (passAt chars asciiOnly runs.dropLast) (by omega) ?_
        intro r q hle hq hcounts
        rw [hcounts.drop_eq]
        exact ih q hq (by omega) (by omega) runs.dropLast
      simp only [if_neg hbrace]
      split
      · exact (ih (p + 1) hlt (by omega) (by omega) _).round (by omega)
      · exact (ih (p + 1) hlt (by omega) (by omega) _).round (by omega)

/-- Reading a character moves the position behind it; at the end of the pattern it stays. -/
theorem bump_advances {p : Nat} (hp : p ≤ chars.length) :
    p ≤ (bump chars p).2 ∧ (bump chars p).2 ≤ chars.length ∧
      ((bump chars p).1.isSome = true → p < (bump chars p).2) := by
  rcases bump_cases chars p with ⟨hbump, _, _⟩ | ⟨c, hbump, _, _, hlt⟩
  · rw [hbump]
    exact ⟨Nat.le_refl p, hp, nofun⟩
  · rw [hbump]
    exact ⟨Nat.le_succ p, hlt, fun _ => Nat.lt_succ_self p⟩

/-- **Termination.**  Whatever the pattern is, every routine that is called at a position within
it stops, having moved the position forwards within the pattern, also where it fails, and does
what the function on lists does.  So does the pass from the start, within as many steps as there
are characters; all loops together go round at most once for each character, and no two calls of a
routine are made by the same round. -/
theorem pass_terminates (asciiOnly : Bool) (chars : List Char) :
    (∀ p ≤ chars.length,
      (p ≤ (bump chars p).2 ∧ (bump chars p).2 ≤ chars.length ∧
        ((bump chars p).1.isSome = true → p < (bump chars p).2)) ∧
      (∀ stop, Ends chars p (skipPastAt chars stop p)
        (LeadsTo chars (some (skipPast stop (chars.drop p))))) ∧
      (∀ kind, Ends chars p (skipPayloadAt chars kind p)
        (LeadsTo chars (some (skipPayload kind (chars.drop p))))) ∧
      (Ends chars p (skipClassAt chars p) fun r q =>
        LeadsTo chars (skipClass (chars.drop p)) r q ∧ (r.isSome = true → p < q)) ∧
      (Ends chars p (skipGroupAt chars p) fun r q =>
        LeadsTo chars (skipGroup (chars.drop p)) r q ∧ (r.isSome = true → p < q))) ∧
    ∃ e, (∀ steps, chars.length ≤ steps → passAt chars asciiOnly Runs.none 0 steps = some e) ∧
      Advances chars 0 e ∧ e.rounds.length ≤ chars.length ∧ e.calls.length ≤ chars.length ∧
      scan? asciiOnly chars = e.result ∧
      ∀ fuel, chars.length ≤ fuel → scanFrom asciiOnly fuel Runs.none chars = e.result := by
  constructor
  · intro p hp
    refine ⟨bump_advances hp, fun stop => skipPastAt_ends stop hp,
      fun kind => skipPayloadAt_ends kind hp, ?_, ?_⟩
    · exact (skipClassAt_ends hp).imp fun r q h => ⟨h, h.lt fun s hs => skipClass_length hs⟩
    · exact (skipGroupAt_ends hp).imp fun r q h => ⟨h, h.lt fun s hs => skipGroup_length hs⟩
  · have hends : ∀ fuel, chars.length ≤ fuel →
        Ends chars 0 (passAt chars asciiOnly Runs.none 0)
          (fun r _ => scanFrom asciiOnly fuel Runs.none chars = r) :=
      fun fuel hfuel => passAt_ends (Nat.zero_le _) hfuel asciiOnly Runs.none
    obtain ⟨e, hrun, hadvances, hscan⟩ := hends chars.length (Nat.le_refl _)
    have hrounds := hadvances.rounds.length_le
    have hcalls := hadvances.calls.length_le
    have hinside := hadvances.inside
    refine ⟨e, hrun, hadvances, by omega, by omega, hscan, ?_⟩
    intro fuel hfuel
    obtain ⟨e', hrun', _, hscan'⟩ := hends fuel hfuel
    have hsame : e' = e :=
      Option.some.inj ((hrun' chars.length (Nat.le_refl _)).symm.trans (hrun _ (Nat.le_refl _)))
    exact hsame ▸ hscan'

/-- Two classes that are never closed, in a pattern that ends with half an escape. -/
theorem pass_terminates_unclosed :
    let chars := "ab[c[d\\".toList
    3 ≤ chars.length ∧
      (Ends chars 3 (skipClassAt chars 3) fun r q =>
        LeadsTo chars (skipClass (chars.drop 3)) r q ∧ (r.isSome = true → 3 < q)) ∧
      ∃ e, (∀ steps, 7 ≤ steps → passAt chars false Runs.none 0 steps = some e) ∧
        Advances chars 0 e ∧ e.rounds.length ≤ 7 ∧ e.result = none := by
  intro chars
  have hlength : 3 ≤ chars.length := by decide
  have hscan : scan? false chars = none := by decide
  obtain ⟨hroutines, e, hrun, hadvances, hrounds, _, hresult, _⟩ := pass_terminates false chars
  exact ⟨hlength, (hroutines 3 hlength).2.2.2.1, e, hrun, hadvances, hrounds,
    hresult.symm.trans hscan⟩

/-- The last round reads the sign of an escape and nothing else, and needs the last step. -/
example : passAt "ab[c[d\\".toList false Runs.none 0 7 =
      some ⟨none, 7, [0, 1, 2, 3, 4, 5, 6], [2, 4]⟩ ∧
    passAt "ab[c[d\\".toList false Runs.none 0 6 = none := by
  constructor <;> rfl

/-- What belongs to an escape ends with the pattern. -/
example : passAt "a\\x4".toList false Runs.none 0 4 = some ⟨some [['a']], 4, [0, 1, 3], [1]⟩ := by
  rfl

end TrigramSearch.Literals
