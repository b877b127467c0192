import Mathlib.Data.List.TakeWhile
import Mathlib.Tactic.SplitIfs
import TrigramSearch.Json.Reader

/-!
# How far a number is read

A number ends where nothing follows that could go on with it: no digit, no point
and no exponent.  Up to there it is read alike whatever comes next (`Reads`).  Every
function of the number reader takes such a part off the text (`Takes`); they are gone
through from the exponent back to the first digit.

## Main results

* `number_takes`: **what is read as a number is read as that number before
  everything that does not go on with it**, and there is no blank in it.
-/

namespace TrigramSearch.Json

/-! ## Beginnings of texts -/

/-- The text does not begin with a character of the kind `p`. -/
def HeadNot (p : Char → Bool) (s : List Char) : Prop := ∀ c ∈ s.head?, p c = false

theorem HeadNot.nil {p : Char → Bool} : HeadNot p [] := fun _ hc => nomatch hc

theorem headNot_cons_iff {p : Char → Bool} {c : Char} {s : List Char} :
    HeadNot p (c :: s) ↔ p c = false := by
  simp only [HeadNot, List.head?_cons, Option.mem_some, forall_eq']

/-- The beginning may belong to a first part, or to what follows an empty one. -/
theorem HeadNot.append {p : Char → Bool} {s t t' : List Char} (h : HeadNot p (s ++ t))
    (ht : HeadNot p t') : HeadNot p (s ++ t') := by
  cases s with
  | nil => exact ht
  | cons c s => exact h

theorem headNot_dropWhile (p : Char → Bool) (s : List Char) : HeadNot p (s.dropWhile p) := by
  intro c hc
  have hhead := List.head?_dropWhile_not p s
  rwa [Option.mem_def.mp hc] at hhead

theorem dropWhile_append {p : Char → Bool} {s t : List Char} (hs : ∀ c ∈ s, p c)
    (ht : HeadNot p t) : (s ++ t).dropWhile p = t := by
  rw [List.dropWhile_append_of_pos hs]
  cases t with
  | nil => rfl
  | cons c t => exact List.dropWhile_cons_of_neg (Bool.eq_false_iff.mp (headNot_cons_iff.mp ht))

/-! ## Ends of numbers -/

/-- Characters that may go on with a number. -/
def continuesNumber (c : Char) : Bool := isDigit c || c = '.' || c = 'e' || c = 'E'

/-- What does not go on with a number. -/
abbrev NumberEnd (s : List Char) : Prop := HeadNot continuesNumber s

theorem continuesNumber_eq_false_iff {c : Char} :
    continuesNumber c = false ↔ isDigit c = false ∧ c ≠ '.' ∧ c ≠ 'e' ∧ c ≠ 'E' := by
  simp only [continuesNumber, Bool.or_eq_false_iff, decide_eq_false_iff_not, and_assoc, ne_eq]

theorem continuesNumber_of_isDigit {c : Char} (h : isDigit c) : continuesNumber c := by
  rw [continuesNumber, h]
  rfl

theorem digit?_eq_none_iff {c : Char} : digit? c = none ↔ isDigit c = false := by
  rw [isDigit, Option.isSome_eq_false_iff, Option.isNone_iff_eq_none]

theorem isDigit_of_digit? {c : Char} {d : Nat} (h : digit? c = some d) : isDigit c := by
  rw [isDigit, h]
  rfl

theorem not_isSpace_of_isDigit {c : Char} (h : isDigit c) : isSpace c = false := by
  refine Bool.eq_false_iff.mpr fun hspace => ?_
  simp only [isSpace, Bool.or_eq_true, decide_eq_true_eq] at hspace
  rcases hspace with ((rfl | rfl) | rfl) | rfl <;> exact absurd h (by decide)

/-- `p` is read as `a`, whatever follows that does not go on with a number; there is no
blank in it. -/
structure Reads {α : Type} (f : List Char → Step α) (a : α) (p : List Char) : Prop where
  reads : ∀ r, NumberEnd r → f (p ++ r) = .ok (a, r)
  solid : ∀ c ∈ p, isSpace c = false

/-- A beginning of `s` is read as `a`, and `r` is left. -/
def Takes {α : Type} (f : List Char → Step α) (a : α) (s r : List Char) : Prop :=
  ∃ p, s = p ++ r ∧ Reads f a p

section Takes

variable {α : Type} {f g : List Char → Step α} {a : α} {p s r : List Char}

/-- One reader goes on as another one, after `p` and where no character of the kind `q`
follows. -/
theorem Takes.after {q : Char → Bool} (h : Takes g a s r) (hs : HeadNot q s)
    (hq : ∀ c, q c → continuesNumber c) (hp : ∀ c ∈ p, isSpace c = false)
    (hf : ∀ t, HeadNot q t → f (p ++ t) = g t) : Takes f a (p ++ s) r := by
  obtain ⟨x, rfl, hx⟩ := h
  refine ⟨p ++ x, (List.append_assoc p x r).symm, fun t ht => ?_,
    List.forall_mem_append.mpr ⟨hp, hx.solid⟩⟩
  have htail : HeadNot q t := fun c hc => Bool.eq_false_iff.mpr fun hqc =>
    Bool.eq_false_iff.mp (ht c hc) (hq c hqc)
  rw [List.append_assoc, hf _ (hs.append htail), hx.reads t ht]

theorem Takes.congr {q : Char → Bool} (h : Takes g a s r) (hs : HeadNot q s)
    (hq : ∀ c, q c → continuesNumber c) (hf : ∀ t, HeadNot q t → f t = g t) : Takes f a s r :=
  h.after (p := []) hs hq (fun _ hc => nomatch hc) hf

theorem Takes.append (h : Takes g a s r) (hp : ∀ c ∈ p, isSpace c = false)
    (hf : ∀ t, f (p ++ t) = g t) : Takes f a (p ++ s) r :=
  h.after (q := fun _ => false) (fun _ _ => rfl) (fun _ hq => nomatch hq) hp fun t _ => hf t

theorem Takes.cons {c : Char} (h : Takes g a s r) (hc : isSpace c = false)
    (hf : ∀ t, f (c :: t) = g t) : Takes f a (c :: s) r :=
  h.append (p := [c]) (fun _ hx => List.mem_singleton.mp hx ▸ hc) hf

theorem Takes.nothing (hf : ∀ t, NumberEnd t → f t = .ok (a, t)) : Takes f a s s :=
  ⟨[], rfl, hf, fun _ hc => nomatch hc⟩

/-- Digits that are passed over before another reader goes on. -/
theorem Takes.dropWhile (h : Takes g a (s.dropWhile isDigit) r)
    (hf : ∀ t, f t = g (t.dropWhile isDigit)) : Takes f a s r := by
  rw [← List.takeWhile_append_dropWhile (p := isDigit) (l := s)]
  have hdigits : ∀ c ∈ s.takeWhile isDigit, isDigit c := fun c hc => List.mem_takeWhile_imp hc
  refine h.after (headNot_dropWhile isDigit s) (fun _ => continuesNumber_of_isDigit)
    (fun c hc => not_isSpace_of_isDigit (hdigits c hc)) fun t ht => ?_
  rw [hf, dropWhile_append hdigits ht]

theorem Takes.digits (s : List Char) :
    Takes (fun t => .ok (a, t.dropWhile isDigit)) a s (s.dropWhile isDigit) :=
  .dropWhile (g := fun t => .ok (a, t)) (.nothing fun _ _ => rfl) fun _ => rfl

end Takes

/-! ## The exponent -/

variable {positive up : Bool} {significand count dropped e : Nat} {start exponent : Int}
  {s r : List Char} {n : Number}

theorem floatOfParts_takes (h : floatOfParts positive significand exponent s = .ok (n, r)) :
    Takes (floatOfParts positive significand exponent) n s r := by
  unfold floatOfParts at h
  split at h
  · rename_i x hscale
    obtain ⟨rfl, rfl⟩ := Prod.mk.inj (Except.ok.inj h)
    exact .nothing fun t _ => by rw [floatOfParts, hscale]
  · exact nomatch h

theorem exponentDigits_of_headNot (h : HeadNot isDigit s) :
    exponentDigits positive significand start up e s =
      floatOfParts positive significand (if up then start + e else start - e) s := by
  cases s with
  | nil => rfl
  | cons c s => rw [exponentDigits, digit?_eq_none_iff.mpr (headNot_cons_iff.mp h)]

theorem exponentDigits_takes_of_headNot (hs : HeadNot isDigit s)
    (h : exponentDigits positive significand start up e s = .ok (n, r)) :
    Takes (exponentDigits positive significand start up e) n s r := by
  rw [exponentDigits_of_headNot hs] at h
  exact (floatOfParts_takes h).congr hs (fun _ => continuesNumber_of_isDigit)
    fun _ => exponentDigits_of_headNot

theorem exponentDigits_takes (h : exponentDigits positive significand start up e s = .ok (n, r)) :
    Takes (exponentDigits positive significand start up e) n s r := by
  induction s generalizing e with
  | nil => exact exponentDigits_takes_of_headNot .nil h
  | cons c s ih =>
      cases hdigit : digit? c with
      | none =>
          exact exponentDigits_takes_of_headNot
            (headNot_cons_iff.mpr (digit?_eq_none_iff.mp hdigit)) h
      | some d =>
          have hc := not_isSpace_of_isDigit (isDigit_of_digit? hdigit)
          simp only [exponentDigits, hdigit] at h
          split_ifs at h with hfits hlarge
          · refine (ih h).cons hc fun t => ?_
            simp only [exponentDigits, hdigit, if_pos hfits]
          · -- the exponent is beyond every number: its other digits are passed over
            obtain ⟨rfl, rfl⟩ := Prod.mk.inj (Except.ok.inj h)
            refine (Takes.digits s).cons hc fun t => ?_
            simp only [exponentDigits, hdigit, if_neg hfits, if_neg hlarge]

theorem exponentPart_of_digit? {c : Char} {d : Nat} (h : digit? c = some d) (t : List Char) :
    exponentPart positive significand start (c :: t) =
      exponentDigits positive significand start true d t := by
  unfold exponentPart
  split
  rename_i up u hsplit
  split at hsplit
  · rename_i heq
    rw [(List.cons.inj heq).1] at h
    exact nomatch h
  · rename_i heq
    rw [(List.cons.inj heq).1] at h
    exact nomatch h
  · obtain ⟨rfl, rfl⟩ := Prod.mk.inj hsplit
    simp only [h]

/-- An exponent is its digits, after a sign or without one. -/
theorem exponentPart_cases (h : exponentPart positive significand start s = .ok (n, r)) :
    ∃ sign c d up t, s = sign ++ c :: t ∧ (∀ x ∈ sign, isSpace x = false) ∧
      digit? c = some d ∧ ∀ t, exponentPart positive significand start (sign ++ c :: t) =
        exponentDigits positive significand start up d t := by
  unfold exponentPart at h
  split at h
  rename_i up u hsplit
  cases u with
  | nil => exact nomatch h
  | cons c t =>
      cases hdigit : digit? c with
      | none =>
          simp only [hdigit] at h
          exact nomatch h
      | some d =>
          split at hsplit
          · obtain ⟨rfl, rfl⟩ := Prod.mk.inj hsplit
            exact ⟨['+'], c, d, true, t, rfl, List.forall_mem_singleton.mpr rfl, hdigit, fun t => by
              simp only [List.cons_append, List.nil_append, exponentPart, hdigit]⟩
          · obtain ⟨rfl, rfl⟩ := Prod.mk.inj hsplit
            exact ⟨['-'], c, d, false, t, rfl, List.forall_mem_singleton.mpr rfl, hdigit,
              fun t => by simp only [List.cons_append, List.nil_append, exponentPart, hdigit]⟩
          · obtain ⟨rfl, rfl⟩ := Prod.mk.inj hsplit
            exact ⟨[], c, d, true, t, rfl, (fun _ hx => nomatch hx), hdigit,
              exponentPart_of_digit? hdigit⟩

theorem exponentPart_takes (h : exponentPart positive significand start s = .ok (n, r)) :
    Takes (exponentPart positive significand start) n s r := by
  obtain ⟨sign, c, d, up, t, rfl, hsign, hdigit, hread⟩ := exponentPart_cases h
  rw [hread] at h
  have hc := not_isSpace_of_isDigit (isDigit_of_digit? hdigit)
  have hdigits :
      Takes (fun t => exponentPart positive significand start (sign ++ t)) n (c :: t) r :=
    (exponentDigits_takes h).cons hc hread
  exact hdigits.append hsign fun _ => rfl

/-- The letters that an exponent begins with. -/
def isExponentMark (c : Char) : Bool := c = 'e' || c = 'E'

theorem exponentOrEnd_of_headNot (h : HeadNot isExponentMark s) :
    exponentOrEnd positive significand start s = floatOfParts positive significand start s := by
  cases s with
  | nil => rfl
  | cons c s =>
      rw [headNot_cons_iff, isExponentMark] at h
      rw [exponentOrEnd, h]
      rfl

theorem continuesNumber_of_isExponentMark {c : Char} (h : isExponentMark c) :
    continuesNumber c := by
  rw [isExponentMark, Bool.or_eq_true, decide_eq_true_eq, decide_eq_true_eq] at h
  rcases h with rfl | rfl <;> rfl

theorem isSpace_of_isExponentMark {c : Char} (h : isExponentMark c) : isSpace c = false := by
  rw [isExponentMark, Bool.or_eq_true, decide_eq_true_eq, decide_eq_true_eq] at h
  rcases h with rfl | rfl <;> rfl

theorem exponentOrEnd_takes (h : exponentOrEnd positive significand start s = .ok (n, r)) :
    Takes (exponentOrEnd positive significand start) n s r := by
  by_cases hs : HeadNot isExponentMark s
  · rw [exponentOrEnd_of_headNot hs] at h
    exact (floatOfParts_takes h).congr hs (fun _ => continuesNumber_of_isExponentMark)
      fun _ => exponentOrEnd_of_headNot
  · cases s with
    | nil => exact absurd .nil hs
    | cons c s =>
        rw [headNot_cons_iff, Bool.not_eq_false] at hs
        have hmark : ∀ t, exponentOrEnd positive significand start (c :: t) =
            exponentPart positive significand start t := fun t => if_pos hs
        rw [hmark] at h
        exact (exponentPart_takes h).cons (isSpace_of_isExponentMark hs) hmark

/-! ## Digits -/

theorem fractionDigits_of_headNot (hcount : count ≠ 0) (h : HeadNot isDigit s) :
    fractionDigits positive significand start count s =
      exponentOrEnd positive significand (start - count) s := by
  cases s with
  | nil => rw [fractionDigits, if_neg hcount]
  | cons c s =>
      simp only [fractionDigits, digit?_eq_none_iff.mpr (headNot_cons_iff.mp h), if_neg hcount]

theorem fractionDigits_takes_of_headNot (hs : HeadNot isDigit s)
    (h : fractionDigits positive significand start count s = .ok (n, r)) :
    Takes (fractionDigits positive significand start count) n s r := by
  have hcount : count ≠ 0 := by
    rintro rfl
    cases s with
    | nil => exact nomatch h
    | cons c s =>
        simp only [fractionDigits, digit?_eq_none_iff.mpr (headNot_cons_iff.mp hs), if_true] at h
        exact nomatch h
  rw [fractionDigits_of_headNot hcount hs] at h
  exact (exponentOrEnd_takes h).congr hs (fun _ => continuesNumber_of_isDigit)
    fun _ => fractionDigits_of_headNot hcount

theorem fractionDigits_takes (h : fractionDigits positive significand start count s = .ok (n, r)) :
    Takes (fractionDigits positive significand start count) n s r := by
  induction s generalizing significand count with
  | nil => exact fractionDigits_takes_of_headNot .nil h
  | cons c s ih =>
      cases hdigit : digit? c with
      | none =>
          exact fractionDigits_takes_of_headNot
            (headNot_cons_iff.mpr (digit?_eq_none_iff.mp hdigit)) h
      | some d =>
          have hc := not_isSpace_of_isDigit (isDigit_of_digit? hdigit)
          simp only [fractionDigits, hdigit] at h
          split_ifs at h with hfits
          · refine (ih h).cons hc fun t => ?_
            simp only [fractionDigits, hdigit, if_pos hfits]
          · refine Takes.cons (g := fun t => exponentOrEnd positive significand (start - count)
              (t.dropWhile isDigit)) ((exponentOrEnd_takes h).dropWhile fun _ => rfl) hc fun t => ?_
            simp only [fractionDigits, hdigit, hfits, Bool.false_eq_true, if_false]

/-- Past the digits of a long integer comes a point, an exponent or the end. -/
theorem longInteger_of_headNot (h : HeadNot isDigit s) :
    longInteger positive significand dropped s =
      if s.head? = some '.' then fractionDigits positive significand dropped 0 s.tail
      else exponentOrEnd positive significand dropped s := by
  cases s with
  | nil => rfl
  | cons c s =>
      simp only [longInteger, headNot_cons_iff.mp h, Bool.false_eq_true, if_false,
        List.head?_cons, Option.some.injEq, List.tail_cons]

/-- Past the digits of an integer comes a point, an exponent or the end. -/
theorem afterInteger_of_numberEnd (h : NumberEnd s) :
    afterInteger positive significand s = .ok (integerOfParts positive significand, s) := by
  cases s with
  | nil => rfl
  | cons c s =>
      obtain ⟨-, hpoint, he, hE⟩ := continuesNumber_eq_false_iff.mp (headNot_cons_iff.mp h)
      simp only [afterInteger, hpoint, he, hE, if_false, decide_false, Bool.or_self,
        Bool.false_eq_true]

theorem longInteger_takes_of_headNot (hs : HeadNot isDigit s)
    (h : longInteger positive significand dropped s = .ok (n, r)) :
    Takes (longInteger positive significand dropped) n s r := by
  rw [longInteger_of_headNot hs] at h
  split_ifs at h with hpoint
  · obtain ⟨t, rfl⟩ := List.head?_eq_some_iff.mp hpoint
    exact (fractionDigits_takes h).cons rfl fun t =>
      longInteger_of_headNot (headNot_cons_iff.mpr rfl)
  · have hstop : HeadNot (fun c => isDigit c || c = '.') s := fun c hc => by
      simp only [Bool.or_eq_false_iff, decide_eq_false_iff_not]
      exact ⟨hs c hc, fun heq => hpoint (heq ▸ hc)⟩
    refine (exponentOrEnd_takes h).congr hstop (fun c hc => ?_) fun t ht => ?_
    · rw [continuesNumber, hc]
      rfl
    · simp only [HeadNot, Bool.or_eq_false_iff, decide_eq_false_iff_not] at ht
      have hnot : t.head? ≠ some '.' := fun hhead => (ht '.' hhead).2 rfl
      rw [longInteger_of_headNot fun c hc => (ht c hc).1, if_neg hnot]

theorem longInteger_takes (h : longInteger positive significand dropped s = .ok (n, r)) :
    Takes (longInteger positive significand dropped) n s r := by
  induction s generalizing dropped with
  | nil => exact longInteger_takes_of_headNot .nil h
  | cons c s ih =>
      cases hdigit : isDigit c with
      | false => exact longInteger_takes_of_headNot (headNot_cons_iff.mpr hdigit) h
      | true =>
          simp only [longInteger, hdigit, if_true] at h
          refine (ih h).cons (not_isSpace_of_isDigit hdigit) fun t => ?_
          simp only [longInteger, hdigit, if_true]

theorem afterInteger_takes (h : afterInteger positive significand s = .ok (n, r)) :
    Takes (afterInteger positive significand) n s r := by
  have hend : ∀ {t : List Char}, NumberEnd t →
      afterInteger positive significand t = .ok (integerOfParts positive significand, t) :=
    afterInteger_of_numberEnd
  cases s with
  | nil =>
      obtain ⟨rfl, rfl⟩ := Prod.mk.inj (Except.ok.inj h)
      exact .nothing fun _ => hend
  | cons c s =>
      simp only [afterInteger] at h
      split_ifs at h with hpoint hmark
      · subst hpoint
        exact (fractionDigits_takes h).cons rfl fun _ => rfl
      · refine (exponentPart_takes h).cons (isSpace_of_isExponentMark hmark) fun t => ?_
        simp only [afterInteger, hpoint, hmark, if_true, if_false]
      · obtain ⟨rfl, rfl⟩ := Prod.mk.inj (Except.ok.inj h)
        exact .nothing fun _ => hend

theorem integerDigits_of_headNot (h : HeadNot isDigit s) :
    integerDigits positive significand s = afterInteger positive significand s := by
  cases s with
  | nil => rfl
  | cons c s => rw [integerDigits, digit?_eq_none_iff.mpr (headNot_cons_iff.mp h)]

theorem integerDigits_takes_of_headNot (hs : HeadNot isDigit s)
    (h : integerDigits positive significand s = .ok (n, r)) :
    Takes (integerDigits positive significand) n s r := by
  rw [integerDigits_of_headNot hs] at h
  exact (afterInteger_takes h).congr hs (fun _ => continuesNumber_of_isDigit)
    fun _ => integerDigits_of_headNot

theorem integerDigits_takes (h : integerDigits positive significand s = .ok (n, r)) :
    Takes (integerDigits positive significand) n s r := by
  induction s generalizing significand with
  | nil => exact integerDigits_takes_of_headNot .nil h
  | cons c s ih =>
      cases hdigit : digit? c with
      | none =>
          exact integerDigits_takes_of_headNot
            (headNot_cons_iff.mpr (digit?_eq_none_iff.mp hdigit)) h
      | some d =>
          have hc := isDigit_of_digit? hdigit
          simp only [integerDigits, hdigit] at h
          split_ifs at h with hfits
          · refine (ih h).cons (not_isSpace_of_isDigit hc) fun t => ?_
            simp only [integerDigits, hdigit, if_pos hfits]
          · have hlong : ∀ t, longInteger positive significand 0 (c :: t) =
                longInteger positive significand 1 t := fun t => by rw [longInteger, if_pos hc]
            rw [hlong] at h
            refine (longInteger_takes h).cons (not_isSpace_of_isDigit hc) fun t => ?_
            simp only [integerDigits, hdigit, hfits, Bool.false_eq_true, if_false, hlong]

/-- A number is read alike before everything that does not go on with it, and no blank is
read as a part of it. -/
theorem number_takes (h : number positive s = .ok (n, r)) : Takes (number positive) n s r := by
  cases s with
  | nil => exact nomatch h
  | cons c s =>
      cases hdigit : digit? c with
      | none =>
          simp only [number, hdigit] at h
          exact nomatch h
      | some d =>
          have hc := not_isSpace_of_isDigit (isDigit_of_digit? hdigit)
          cases d with
          | zero =>
              -- a zero is not followed by a digit
              have hzero : ∀ {t : List Char}, HeadNot isDigit t →
                  number positive (c :: t) = afterInteger positive 0 t := by
                intro t ht
                cases t with
                | nil => simp only [number, hdigit]
                | cons x t =>
                    simp only [number, hdigit, headNot_cons_iff.mp ht, Bool.false_eq_true, if_false]
              have hs : HeadNot isDigit s := by
                cases s with
                | nil => exact .nil
                | cons x s =>
                    rw [headNot_cons_iff]
                    refine Bool.eq_false_iff.mpr fun hx => ?_
                    simp only [number, hdigit, hx, if_true] at h
                    exact nomatch h
              rw [hzero hs] at h
              exact (afterInteger_takes h).after (p := [c]) hs (fun _ => continuesNumber_of_isDigit)
                (fun _ hx => List.mem_singleton.mp hx ▸ hc) fun _ => hzero
          | succ d =>
              simp only [number, hdigit] at h
              refine (integerDigits_takes h).cons hc fun t => ?_
              simp only [number, hdigit]

/-- What is read as a number is a number by itself. -/
theorem exists_number (h : number positive s = .ok (n, r)) :
    ∃ p, s = p ++ r ∧ number positive p = .ok (n, []) := by
  obtain ⟨p, hs, hp⟩ := number_takes h
  have hwhole := hp.reads [] .nil
  rw [List.append_nil] at hwhole
  exact ⟨p, hs, hwhole⟩

/-- What is a number when nothing follows is that number before everything that does not go
on with it. -/
theorem number_reads (h : number positive s = .ok (n, [])) : Reads (number positive) n s := by
  obtain ⟨p, hs, hp⟩ := number_takes h
  rwa [hs, List.append_nil]

end TrigramSearch.Json
