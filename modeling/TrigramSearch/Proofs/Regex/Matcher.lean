import TrigramSearch.Regex.Matcher

/-!
# What the matcher finds

The matcher works on sets of positions, kept as bits of a number.  Read with
`testBit`, every operation on such a set is an operation on its members: a mask
selects positions, a shift goes on by one character, and a loop collects what a
number of rounds can reach.

What it finds matches, if the bounds of all repetitions are in order
(`Expr.Ordered`): the matcher takes as many rounds as the lower bound asks for
before it looks at the upper one.

It finds every match, although an unbounded repetition is cut off after as many
rounds as there are positions: a match never ends before it begins, so rounds
that go nowhere can be left out, and of the others there are no more than
characters in the text (`times_short`).

## Main results

* `Matches.le_length` — a match ends within the text.
* `Program.ends_sound` — every end position that the matcher computes is the
  end of a match from one of its start positions.
* `Program.ends_complete` — it computes all of them.
* `Expr.accepts_of_isMatch`, `Expr.isMatch_of_accepts` — the matcher finds a
  match in a text iff there is one.
-/

namespace TrigramSearch.Regex

namespace Expr

/-- The bounds of all repetitions are in order. -/
def Ordered : Expr → Prop
  | concat a b => a.Ordered ∧ b.Ordered
  | either a b => a.Ordered ∧ b.Ordered
  | repeated least most body => (∀ m ∈ most, least ≤ m) ∧ body.Ordered
  | group body => body.Ordered
  | _ => True

/-! ## Repeated steps -/

theorem times_add {step : Nat → Nat → Prop} {m n i j k : Nat} (hm : times step m i j)
    (hn : times step n j k) : times step (m + n) i k := by
  induction m generalizing i with
  | zero =>
      have hij : i = j := hm
      rw [hij, Nat.zero_add]
      exact hn
  | succ m ih =>
      obtain ⟨l, hstep, hrest⟩ := hm
      rw [Nat.succ_add]
      exact ⟨l, hstep, ih hrest⟩

private theorem times_le {step : Nat → Nat → Prop} {bound : Nat}
    (hstep : ∀ i j, step i j → j ≤ bound) {n i j : Nat} (hi : i ≤ bound)
    (h : times step n i j) : j ≤ bound := by
  induction n generalizing i with
  | zero =>
      have hij : i = j := h
      exact hij ▸ hi
  | succ n ih =>
      obtain ⟨k, hfirst, hrest⟩ := h
      exact ih (hstep i k hfirst) hrest

/-- The last step instead of the first. -/
private theorem times_last {step : Nat → Nat → Prop} {n i j : Nat} (h : times step (n + 1) i j) :
    ∃ k, times step n i k ∧ step k j := by
  induction n generalizing i with
  | zero =>
      obtain ⟨k, hstep, hkj⟩ := h
      have hkj : k = j := hkj
      exact ⟨i, rfl, hkj ▸ hstep⟩
  | succ n ih =>
      obtain ⟨l, hfirst, hrest⟩ := h
      obtain ⟨k, hmiddle, hlast⟩ := ih hrest
      exact ⟨k, ⟨l, hfirst, hmiddle⟩, hlast⟩

private theorem times_split {step : Nat → Nat → Prop} {m n i j : Nat}
    (h : times step (m + n) i j) : ∃ k, times step m i k ∧ times step n k j := by
  induction m generalizing i with
  | zero =>
      rw [Nat.zero_add] at h
      exact ⟨i, rfl, h⟩
  | succ m ih =>
      rw [Nat.succ_add] at h
      obtain ⟨l, hfirst, hrest⟩ := h
      obtain ⟨k, hmiddle, hlater⟩ := ih hrest
      exact ⟨k, ⟨l, hfirst, hmiddle⟩, hlater⟩

/-- Steps that never go back, without those that go nowhere. -/
private theorem times_short {step : Nat → Nat → Prop} (hstep : ∀ i j, step i j → i ≤ j)
    {n i j : Nat} (h : times step n i j) : i ≤ j ∧ ∃ m ≤ j - i, times step m i j := by
  induction n generalizing i with
  | zero =>
      have hij : i = j := h
      exact ⟨Nat.le_of_eq hij, 0, Nat.zero_le _, hij⟩
  | succ n ih =>
      obtain ⟨k, hfirst, hrest⟩ := h
      obtain ⟨hkj, m, hm, htimes⟩ := ih hrest
      have hik := hstep i k hfirst
      refine ⟨Nat.le_trans hik hkj, ?_⟩
      by_cases hsame : i = k
      · exact ⟨m, hsame ▸ hm, hsame ▸ htimes⟩
      · exact ⟨m + 1, by omega, k, hfirst, htimes⟩

/-- A match does not end before it begins. -/
theorem Matches.le {text : List Char} {e : Expr} {i j : Nat} (h : Matches text e i j) :
    i ≤ j := by
  induction e generalizing i j with
  | empty => exact Nat.le_of_eq h.1
  | chars set =>
      have hj := h.1
      omega
  | look l => exact Nat.le_of_eq h.1
  | concat a b iha ihb =>
      obtain ⟨k, ha, hb⟩ := h
      exact Nat.le_trans (iha ha) (ihb hb)
  | either a b iha ihb =>
      rcases h with ha | hb
      · exact iha ha
      · exact ihb hb
  | repeated least most body ih =>
      obtain ⟨_, n, _, _, htimes⟩ := h
      exact (times_short (fun _ _ hstep => ih hstep) htimes).1
  | group body ih => exact ih h

/-- A match ends within the text. -/
theorem Matches.le_length {text : List Char} {e : Expr} {i j : Nat} (h : Matches text e i j) :
    j ≤ text.length := by
  induction e generalizing i j with
  | empty =>
      obtain ⟨hij, hi⟩ := h
      exact hij ▸ hi
  | chars set =>
      obtain ⟨hj, c, hc, _⟩ := h
      have hlt := (List.getElem?_eq_some_iff.mp hc).1
      omega
  | look l =>
      obtain ⟨hij, hi, _⟩ := h
      exact hij ▸ hi
  | concat a b _ ihb =>
      obtain ⟨k, _, hb⟩ := h
      exact ihb hb
  | either a b iha ihb =>
      rcases h with ha | hb
      · exact iha ha
      · exact ihb hb
  | repeated least most body ih =>
      obtain ⟨hi, n, _, _, htimes⟩ := h
      exact times_le (fun _ _ hstep => ih hstep) hi htimes
  | group body ih => exact ih h

end Expr

namespace Program

open Regex.Expr (Matches times times_add charBefore)

/-! ## Masks -/

private theorem testBit_one_succ (i : Nat) : Nat.testBit 1 (i + 1) = false := by
  simp [Nat.testBit_succ]

theorem testBit_charMask (set : CharSet) (text : List Char) (i : Nat) :
    (charMask set text).testBit i = true ↔ ∃ c, text[i]? = some c ∧ set.contains c = true := by
  induction text generalizing i with
  | nil => simp [charMask]
  | cons c rest ih =>
      cases i with
      | zero => cases h : set.contains c <;> simp [charMask, h]
      | succ i =>
          have hbit : (charMask set (c :: rest)).testBit (i + 1) =
              (charMask set rest).testBit i := by
            cases h : set.contains c <;> simp [charMask, h, testBit_one_succ]
          rw [hbit, ih, List.getElem?_cons_succ]

/-- The character before a position, where something may stand before the text. -/
private def before? (before : Option Char) (text : List Char) (i : Nat) : Option Char :=
  if i = 0 then before else text[i - 1]?

private theorem testBit_lookMask (l : Look) (before : Option Char) (text : List Char) (i : Nat) :
    (lookMask l before text).testBit i = true ↔
      i ≤ text.length ∧ l.holds (before? before text i) text[i]? = true := by
  induction text generalizing before i with
  | nil =>
      cases i with
      | zero => cases h : l.holds before none <;> simp [lookMask, before?, h]
      | succ i => cases h : l.holds before none <;> simp [lookMask, h, testBit_one_succ]
  | cons c rest ih =>
      cases i with
      | zero => cases h : l.holds before (some c) <;> simp [lookMask, before?, h]
      | succ i =>
          have hbit : (lookMask l before (c :: rest)).testBit (i + 1) =
              (lookMask l (some c) rest).testBit i := by
            cases h : l.holds before (some c) <;> simp [lookMask, h, testBit_one_succ]
          have hbefore : before? before (c :: rest) (i + 1) = before? (some c) rest i := by
            cases i <;> simp [before?]
          rw [hbit, ih, hbefore, List.getElem?_cons_succ, List.length_cons, Nat.succ_le_succ_iff]

/-! ## Loops -/

/-- A function on sets whose results are reached from the members of its argument by a step. -/
private def StepsBy (text : List Char) (step : Nat → Nat → Prop) (f : Nat → Nat) : Prop :=
  ∀ {s j}, (∀ i, s.testBit i = true → i ≤ text.length) → (f s).testBit j = true →
    ∃ i, s.testBit i = true ∧ step i j

section
variable {text : List Char} {step : Nat → Nat → Prop} {f : Nat → Nat}

/-- In a set that no longer changes, every member is reached by any number of steps. -/
private theorem times_of_fixed (hf : StepsBy text step f) {s : Nat}
    (hs : ∀ i, s.testBit i = true → i ≤ text.length) (hfixed : f s = s) (n : Nat) {j : Nat}
    (hj : s.testBit j = true) : ∃ i, s.testBit i = true ∧ times step n i j := by
  induction n with
  | zero => exact ⟨j, hj, rfl⟩
  | succ n ih =>
      obtain ⟨k, hk, htimes⟩ := ih
      rw [← hfixed] at hk
      obtain ⟨i, hi, hstep⟩ := hf hs hk
      exact ⟨i, hi, k, hstep, htimes⟩

private theorem iterate_sound (hf : StepsBy text step f)
    (hle : ∀ i j, step i j → j ≤ text.length) (n : Nat) {s j : Nat}
    (hs : ∀ i, s.testBit i = true → i ≤ text.length) (h : (iterate f n s).testBit j = true) :
    ∃ i, s.testBit i = true ∧ times step n i j := by
  induction n generalizing s with
  | zero => exact ⟨j, h, rfl⟩
  | succ n ih =>
      rw [iterate] at h
      by_cases hfixed : f s = s
      · simp only [hfixed, if_true] at h
        exact times_of_fixed hf hs hfixed (n + 1) h
      · simp only [hfixed, if_false] at h
        have hnext : ∀ k, (f s).testBit k = true → k ≤ text.length := by
          intro k hk
          obtain ⟨i, _, hstep⟩ := hf hs hk
          exact hle i k hstep
        obtain ⟨k, hk, htimes⟩ := ih hnext h
        obtain ⟨i, hi, hstep⟩ := hf hs hk
        exact ⟨i, hi, k, hstep, htimes⟩

/-- What is collected in some rounds is reached from the start by as many steps at most. -/
private theorem collect_sound (hf : StepsBy text step f)
    (hle : ∀ i j, step i j → j ≤ text.length) (n : Nat) {start s j : Nat}
    (hstart : ∀ i, start.testBit i = true → i ≤ text.length)
    (hs : ∀ i, s.testBit i = true → i ≤ text.length)
    (h : (iterate (fun t => start ||| f t) n s).testBit j = true) :
    ∃ m i, m ≤ n ∧ (start.testBit i = true ∨ s.testBit i = true) ∧ times step m i j := by
  induction n generalizing s with
  | zero => exact ⟨0, j, Nat.le_refl 0, Or.inr h, rfl⟩
  | succ n ih =>
      rw [iterate] at h
      by_cases hfixed : (start ||| f s) = s
      · simp only [hfixed, if_true] at h
        exact ⟨0, j, Nat.zero_le _, Or.inr h, rfl⟩
      · simp only [hfixed, if_false] at h
        have hcases : ∀ k, (start ||| f s).testBit k = true →
            start.testBit k = true ∨ ∃ i, s.testBit i = true ∧ step i k := by
          intro k hk
          rw [Nat.testBit_or, Bool.or_eq_true] at hk
          rcases hk with hk | hk
          · exact Or.inl hk
          · exact Or.inr (hf hs hk)
        have hnext : ∀ k, (start ||| f s).testBit k = true → k ≤ text.length := by
          intro k hk
          rcases hcases k hk with hk | ⟨i, _, hstep⟩
          · exact hstart k hk
          · exact hle i k hstep
        obtain ⟨m, k, hm, hk, htimes⟩ := ih hnext h
        have hkcases : start.testBit k = true ∨ ∃ i, s.testBit i = true ∧ step i k := by
          rcases hk with hk | hk
          · exact Or.inl hk
          · exact hcases k hk
        rcases hkcases with hk | ⟨i, hi, hstep⟩
        · exact ⟨m, k, Nat.le_succ_of_le hm, Or.inl hk, htimes⟩
        · exact ⟨m + 1, i, Nat.succ_le_succ hm, Or.inr hi, k, hstep, htimes⟩

end

/-- A function on sets whose results have all that can be reached from the members of its argument
by a step. -/
private def Reaches (step : Nat → Nat → Prop) (f : Nat → Nat) : Prop :=
  ∀ {s i j}, s.testBit i = true → step i j → (f s).testBit j = true

/-- A loop that stops early is where it would get. -/
private theorem iterate_succ (f : Nat → Nat) (n s : Nat) :
    iterate f (n + 1) s = f (iterate f n s) := by
  have hfixed : ∀ {t}, f t = t → ∀ m, iterate f m t = t := by
    intro t ht m
    cases m with
    | zero => rfl
    | succ m => rw [iterate, if_pos ht]
  induction n generalizing s with
  | zero =>
      simp only [iterate]
      split
      · rename_i hs
        exact hs.symm
      · rfl
  | succ n ih =>
      by_cases hs : f s = s
      · rw [hfixed hs, hfixed hs, hs]
      · have hnext : ∀ m, iterate f (m + 1) s = iterate f m (f s) := by
          intro m
          rw [iterate, if_neg hs]
        rw [hnext (n + 1), ih, hnext n]

private theorem iterate_complete {step : Nat → Nat → Prop} {f : Nat → Nat} (hf : Reaches step f)
    {n s i j : Nat} (hi : s.testBit i = true) (h : times step n i j) :
    (iterate f n s).testBit j = true := by
  induction n generalizing j with
  | zero =>
      have hij : i = j := h
      exact hij ▸ hi
  | succ n ih =>
      obtain ⟨k, hbefore, hstep⟩ := Expr.times_last h
      rw [iterate_succ]
      exact hf (ih hbefore) hstep

/-- Whatever is reached in as many steps at most as there are rounds is collected. -/
private theorem collect_complete {step : Nat → Nat → Prop} {f : Nat → Nat} (hf : Reaches step f)
    {n m start i j : Nat} (hm : m ≤ n) (hi : start.testBit i = true) (h : times step m i j) :
    (iterate (fun t => start ||| f t) n start).testBit j = true := by
  induction n generalizing m j with
  | zero =>
      obtain rfl := Nat.le_zero.mp hm
      have hij : i = j := h
      exact hij ▸ hi
  | succ n ih =>
      rw [iterate_succ, Nat.testBit_or, Bool.or_eq_true]
      cases m with
      | zero =>
          have hij : i = j := h
          exact Or.inl (hij ▸ hi)
      | succ m =>
          obtain ⟨k, hbefore, hstep⟩ := Expr.times_last h
          exact Or.inr (hf (ih (Nat.le_of_succ_le_succ hm) hbefore) hstep)

/-! ## Programs -/

/-- Every end position is the end of a match from one of the start positions. -/
theorem ends_sound {text : List Char} (bound : Nat) {e : Expr} (he : e.Ordered) {s j : Nat}
    (hs : ∀ i, s.testBit i = true → i ≤ text.length)
    (h : ((ofExpr text e).ends bound s).testBit j = true) :
    ∃ i, s.testBit i = true ∧ Matches text e i j := by
  induction e generalizing s j with
  | empty => exact ⟨j, h, rfl, hs j h⟩
  | chars set =>
      simp only [ofExpr, ends, Nat.testBit_shiftLeft, Nat.testBit_and, Bool.and_eq_true,
        decide_eq_true_eq, testBit_charMask] at h
      obtain ⟨hj, hbit, hchar⟩ := h
      exact ⟨j - 1, hbit, by omega, hchar⟩
  | look l =>
      simp only [ofExpr, ends, Nat.testBit_and, Bool.and_eq_true, testBit_lookMask] at h
      obtain ⟨hbit, hle, hholds⟩ := h
      exact ⟨j, hbit, rfl, hle, hholds⟩
  | concat a b iha ihb =>
      have hmid : ∀ k, ((ofExpr text a).ends bound s).testBit k = true → k ≤ text.length := by
        intro k hk
        obtain ⟨i, _, ha⟩ := iha he.1 hs hk
        exact ha.le_length
      obtain ⟨k, hk, hb⟩ := ihb he.2 hmid h
      obtain ⟨i, hi, ha⟩ := iha he.1 hs hk
      exact ⟨i, hi, k, ha, hb⟩
  | either a b iha ihb =>
      simp only [ofExpr, ends, Nat.testBit_or, Bool.or_eq_true] at h
      rcases h with h | h
      · obtain ⟨i, hi, ha⟩ := iha he.1 hs h
        exact ⟨i, hi, Or.inl ha⟩
      · obtain ⟨i, hi, hb⟩ := ihb he.2 hs h
        exact ⟨i, hi, Or.inr hb⟩
  | repeated least most body ih =>
      obtain ⟨hbounds, hbody⟩ := he
      have hf : StepsBy text (Matches text body) ((ofExpr text body).ends bound) := by
        intro t k ht hk
        exact ih hbody ht hk
      have hle : ∀ i k, Matches text body i k → k ≤ text.length := fun i k hm => hm.le_length
      have hstart : ∀ k, (iterate ((ofExpr text body).ends bound) least s).testBit k = true →
          ∃ i, s.testBit i = true ∧ times (Matches text body) least i k := by
        intro k hk
        exact iterate_sound hf hle least hs hk
      have hstartLe : ∀ k, (iterate ((ofExpr text body).ends bound) least s).testBit k = true →
          k ≤ text.length := by
        intro k hk
        obtain ⟨i, hi, htimes⟩ := hstart k hk
        exact Expr.times_le hle (hs i hi) htimes
      obtain ⟨m, k, hm, hk, hmore⟩ := collect_sound hf hle _ hstartLe hstartLe h
      obtain ⟨i, hi, hleast⟩ := hstart k (hk.elim id id)
      refine ⟨i, hi, hs i hi, least + m, Nat.le_add_right least m, ?_, times_add hleast hmore⟩
      intro most' hmost
      have hle' := hbounds most' hmost
      obtain rfl := Option.mem_def.mp hmost
      dsimp only at hm
      omega
  | group body ih => exact ih he hs h

/-- Every match from a start position ends at one of the end positions. -/
theorem ends_complete {text : List Char} {bound : Nat} (hbound : text.length ≤ bound) {e : Expr}
    {s i j : Nat} (hi : s.testBit i = true) (h : Matches text e i j) :
    ((ofExpr text e).ends bound s).testBit j = true := by
  induction e generalizing s i j with
  | empty =>
      obtain ⟨rfl, _⟩ := h
      exact hi
  | chars set =>
      obtain ⟨rfl, hchar⟩ := h
      simp only [ofExpr, ends, Nat.testBit_shiftLeft, Nat.testBit_and, Bool.and_eq_true,
        decide_eq_true_eq, testBit_charMask]
      exact ⟨Nat.le_add_left 1 i, hi, hchar⟩
  | look l =>
      obtain ⟨rfl, hle, hholds⟩ := h
      simp only [ofExpr, ends, Nat.testBit_and, Bool.and_eq_true, testBit_lookMask]
      exact ⟨hi, hle, hholds⟩
  | concat a b iha ihb =>
      obtain ⟨k, ha, hb⟩ := h
      exact ihb (iha hi ha) hb
  | either a b iha ihb =>
      simp only [ofExpr, ends, Nat.testBit_or, Bool.or_eq_true]
      rcases h with ha | hb
      · exact Or.inl (iha hi ha)
      · exact Or.inr (ihb hi hb)
  | repeated least most body ih =>
      have hend := h.le_length
      obtain ⟨_, n, hleast, hmost, htimes⟩ := h
      obtain ⟨m, rfl⟩ := Nat.exists_eq_add_of_le hleast
      obtain ⟨k, hfirst, hlater⟩ := Expr.times_split htimes
      have hf : Reaches (Matches text body) ((ofExpr text body).ends bound) :=
        fun hi hstep => ih hi hstep
      have hk := iterate_complete hf hi hfirst
      cases most with
      | some most =>
          have hm : m ≤ most - least := by
            have hall := hmost most rfl
            omega
          exact collect_complete hf hm hk hlater
      | none =>
          have hforward : ∀ i j, Matches text body i j → i ≤ j := fun _ _ hstep => hstep.le
          obtain ⟨_, m', hm', hshort⟩ := Expr.times_short hforward hlater
          have hm : m' ≤ bound := by omega
          exact collect_complete hf hm hk hshort
  | group body ih => exact ih hi h

end Program

namespace Expr

/-- The set of all positions of a text. -/
private theorem testBit_all (text : List Char) (i : Nat) :
    ((1 <<< (text.length + 1)) - 1).testBit i = true ↔ i ≤ text.length := by
  rw [Nat.one_shiftLeft, Nat.testBit_two_pow_sub_one, decide_eq_true_eq, Nat.lt_succ_iff]

/-- A text in which the matcher finds a match has one. -/
theorem accepts_of_isMatch {e : Expr} (he : e.Ordered) {text : List Char}
    (h : e.isMatch text = true) : e.Accepts text := by
  have hne : (Program.ofExpr text e).ends (text.length + 1)
      ((1 <<< (text.length + 1)) - 1) ≠ 0 := by
    simpa [isMatch] using h
  obtain ⟨j, hj⟩ := Nat.exists_testBit_of_ne_zero hne
  have hall := fun i => (testBit_all text i).mp
  obtain ⟨i, _, hmatch⟩ := Program.ends_sound (text.length + 1) he hall hj
  exact ⟨i, j, hmatch⟩

/-- The matcher finds a match in a text that has one. -/
theorem isMatch_of_accepts {e : Expr} {text : List Char} (h : e.Accepts text) :
    e.isMatch text = true := by
  obtain ⟨i, j, hmatch⟩ := h
  have hi := (testBit_all text i).mpr (Nat.le_trans hmatch.le hmatch.le_length)
  have hj := Program.ends_complete (Nat.le_succ text.length) hi hmatch
  rw [isMatch, bne_iff_ne]
  intro hnone
  rw [hnone, Nat.zero_testBit] at hj
  cases hj

end Expr
end TrigramSearch.Regex
