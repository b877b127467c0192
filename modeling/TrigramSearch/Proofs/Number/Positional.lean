import TrigramSearch.Proofs.Number.Shortest

/-!
# Numbers without an exponent

The digits of a decimal are laid out around the point: with zeros after them,
with the point among them, or with zeros in front of them.  Read as one row of
digits with so many behind the point, each layout is the same number, possibly
with a zero more at the end, so it reads back as what the decimal reads back as.

## Main results

* `isNumeral_digitsOf` — the digits of a number have no leading zero.
* `Decimal.split_isNumeral` — nor has the part before the point.
* `Decimal.split_readsAs` — the layout reads back.
* `Binary64.ofDecimal_split` — as the number, for the shortest decimal of a number.
-/

namespace TrigramSearch

/-- Decimal digits, of which the first is no zero unless it is alone. -/
structure IsNumeral (ds : List Char) : Prop where
  ne_nil : ds ≠ []
  digits : ∀ c ∈ ds, c.isDigit
  first : ds.head? = some '0' → ds = ['0']

/-- The number `whole.part`. -/
def Decimal.ofParts (whole part : List Char) : Decimal :=
  ⟨Nat.ofDigitChars 10 (whole ++ part) 0, -part.length⟩

/-! ## The digits of a number -/

namespace Decimal

theorem ofDigitChars_digitsOf (n : Nat) : Nat.ofDigitChars 10 (digitsOf n) 0 = n :=
  Nat.ofDigitChars_toDigits (by decide) (by decide)

theorem isDigit_of_mem_digitsOf {n : Nat} {c : Char} (h : c ∈ digitsOf n) : c.isDigit :=
  Nat.isDigit_of_mem_toDigits (by decide) (by decide) h

theorem digitsOf_of_le {n : Nat} (h : 10 ≤ n) :
    digitsOf n = digitsOf (n / 10) ++ [Nat.digitChar (n % 10)] :=
  Nat.toDigits_of_base_le (by decide) h

/-- What stands first in a nonempty list stays first. -/
private theorem head?_append {ds : List Char} (rest : List Char) (h : ds ≠ []) :
    (ds ++ rest).head? = ds.head? := by
  cases ds with
  | nil => exact absurd rfl h
  | cons c ds => rfl

/-- Only zero begins with a zero. -/
theorem digitsOf_first (n : Nat) (h : (digitsOf n).head? = some '0') : n = 0 := by
  induction n using Nat.strongRecOn with
  | ind n ih =>
      by_cases hsmall : n < 10
      · have hone : digitsOf n = [Nat.digitChar n] := Nat.toDigits_of_lt_base hsmall
        have hvalue := ofDigitChars_digitsOf n
        rw [hone] at h hvalue
        have hzero : Nat.digitChar n = '0' := Option.some.inj h
        rw [hzero] at hvalue
        exact hvalue.symm
      · have hsplit := digitsOf_of_le (Nat.le_of_not_lt hsmall)
        have hne : digitsOf (n / 10) ≠ [] := Nat.toDigits_ne_nil
        rw [hsplit, head?_append _ hne] at h
        have hquotient := ih (n / 10) (by omega) h
        omega

theorem isNumeral_digitsOf (n : Nat) : IsNumeral (digitsOf n) where
  ne_nil := Nat.toDigits_ne_nil
  digits _ := isDigit_of_mem_digitsOf
  first h := by
    rw [digitsOf_first n h]
    rfl

/-! ## The layout around the point -/

variable {d : Decimal} {b : Nat}

/-- The part behind the point, which is never empty in a text. -/
def fraction (part : List Char) : List Char := if part.isEmpty then ['0'] else part

/-- The three layouts: zeros behind the digits, the point among them, zeros in front of them. -/
theorem split_cases (d : Decimal) :
    (0 ≤ d.exponent ∧
      d.split = (digitsOf d.digits ++ List.replicate d.exponent.toNat '0', [])) ∨
    (∃ whole part, digitsOf d.digits = whole ++ part ∧ whole ≠ [] ∧ part ≠ [] ∧
      d.exponent = -part.length ∧ d.split = (whole, part)) ∨
    ∃ n : Nat, d.exponent = -(n + (digitsOf d.digits).length : Nat) ∧
      d.split = (['0'], List.replicate n '0' ++ digitsOf d.digits) := by
  have hpoint : d.pointPosition = (digitsOf d.digits).length + d.exponent := rfl
  rw [split]
  by_cases hwhole : 0 ≤ d.exponent
  · exact Or.inl ⟨hwhole, if_pos hwhole⟩
  · rw [if_neg hwhole]
    by_cases hamong : 0 < d.pointPosition
    · rw [if_pos hamong]
      have htake : (List.take d.pointPosition.toNat (digitsOf d.digits)).length =
          d.pointPosition.toNat := List.length_take_of_le (by omega)
      have hdrop : (List.drop d.pointPosition.toNat (digitsOf d.digits)).length =
          (digitsOf d.digits).length - d.pointPosition.toNat := List.length_drop
      refine Or.inr (Or.inl ⟨_, _, (List.take_append_drop _ _).symm, ?_, ?_, ?_, rfl⟩)
      · exact List.ne_nil_of_length_pos (by omega)
      · exact List.ne_nil_of_length_pos (by omega)
      · omega
    · rw [if_neg hamong]
      exact Or.inr (Or.inr ⟨(-d.pointPosition).toNat, by omega, rfl⟩)

theorem isDigit_of_mem_replicate {n : Nat} {c : Char} (h : c ∈ List.replicate n '0') :
    c.isDigit := by
  rw [List.eq_of_mem_replicate h]
  rfl

theorem split_isNumeral (hpos : 0 < d.digits) :
    IsNumeral d.split.1 ∧ ∀ c ∈ d.split.2, c.isDigit := by
  have hnumeral := isNumeral_digitsOf d.digits
  have hfirst : (digitsOf d.digits).head? ≠ some '0' := fun h => by
    have hzero := digitsOf_first _ h
    omega
  obtain ⟨_, hsplit⟩ | ⟨whole, part, hds, hwhole, _, _, hsplit⟩ | ⟨n, _, hsplit⟩ := d.split_cases
  · rw [hsplit]
    refine ⟨⟨?_, ?_, ?_⟩, ?_⟩
    · exact List.append_ne_nil_of_left_ne_nil hnumeral.ne_nil _
    · intro c hc
      exact (List.mem_append.mp hc).elim (hnumeral.digits c) isDigit_of_mem_replicate
    · intro h
      rw [head?_append _ hnumeral.ne_nil] at h
      exact absurd h hfirst
    · intro c hc
      cases hc
  · rw [hsplit]
    rw [hds] at hnumeral hfirst
    refine ⟨⟨hwhole, ?_, ?_⟩, ?_⟩
    · exact fun c hc => hnumeral.digits c (List.mem_append_left _ hc)
    · intro h
      rw [head?_append _ hwhole] at hfirst
      exact absurd h hfirst
    · exact fun c hc => hnumeral.digits c (List.mem_append_right _ hc)
  · rw [hsplit]
    refine ⟨isNumeral_digitsOf 0, ?_⟩
    intro c hc
    exact (List.mem_append.mp hc).elim isDigit_of_mem_replicate (hnumeral.digits c)

theorem readsAs_whole_iff {D n : Nat} :
    ReadsAs ⟨D, n⟩ b ↔ Binary64.IsNearest b ((D * 10 ^ n) <<< 1074) 1 := by
  have hup : (n : Int).toNat = n := Int.toNat_natCast n
  have hdown : (-(n : Int)).toNat = 0 := by omega
  simp only [ReadsAs, hup, hdown, Nat.pow_zero]

theorem readsAs_fraction_iff {D n : Nat} :
    ReadsAs ⟨D, -n⟩ b ↔ Binary64.IsNearest b (D <<< 1074) (10 ^ n) := by
  have hup : (-(n : Int)).toNat = 0 := by omega
  have hdown : (-(-(n : Int))).toNat = n := by omega
  simp only [ReadsAs, hup, hdown, Nat.pow_zero, Nat.mul_one]

private theorem mul_shiftLeft (m n k : Nat) : (m * n) <<< k = n <<< k * m := by
  rw [Nat.shiftLeft_eq, Nat.shiftLeft_eq]
  ring

/-- **Layout.**  The parts before and behind the point read back like the decimal. -/
theorem split_readsAs (h : d.ReadsAs b) :
    (ofParts d.split.1 (fraction d.split.2)).ReadsAs b := by
  have hvalue := ofDigitChars_digitsOf d.digits
  obtain ⟨hwhole, hsplit⟩ | ⟨whole, part, hds, _, hpart, hexponent, hsplit⟩ |
    ⟨n, hexponent, hsplit⟩ := d.split_cases
  · rw [hsplit]
    -- the zero behind the point is one more digit and one more place
    have hdigits : Nat.ofDigitChars 10 (digitsOf d.digits ++
        List.replicate d.exponent.toNat '0' ++ ['0']) 0 =
        10 * (10 ^ d.exponent.toNat * d.digits) := by
      rw [Nat.ofDigitChars_append, Nat.ofDigitChars_append, Nat.ofDigitChars_replicate_zero, hvalue]
      rfl
    have hreads : ReadsAs ⟨d.digits, d.exponent.toNat⟩ b := by
      rwa [Int.toNat_of_nonneg hwhole]
    have hnearest := (Binary64.IsNearest.scale_iff (show 0 < 10 by decide)).mpr
      (readsAs_whole_iff.mp hreads)
    show ReadsAs ⟨Nat.ofDigitChars 10 (digitsOf d.digits ++
      List.replicate d.exponent.toNat '0' ++ ['0']) 0, -(1 : Nat)⟩ b
    rw [hdigits, readsAs_fraction_iff, mul_shiftLeft, Nat.mul_comm (10 ^ d.exponent.toNat)]
    exact hnearest
  · rw [hsplit]
    have hfraction : fraction part = part := if_neg (by rwa [List.isEmpty_iff])
    have hsame : ofParts whole (fraction part) = d := by
      rw [hfraction, ofParts, ← hds, hvalue, ← hexponent]
    rw [hsame]
    exact h
  · rw [hsplit]
    have hfraction : fraction (List.replicate n '0' ++ digitsOf d.digits) =
        List.replicate n '0' ++ digitsOf d.digits :=
      if_neg (by
        rw [List.isEmpty_iff]
        exact List.append_ne_nil_of_right_ne_nil _ Nat.toDigits_ne_nil)
    have hdigits : Nat.ofDigitChars 10 (['0'] ++ (List.replicate n '0' ++ digitsOf d.digits)) 0 =
        d.digits := by
      rw [Nat.ofDigitChars_append, Nat.ofDigitChars_append, Nat.ofDigitChars_replicate_zero]
      exact hvalue
    have hlength : (List.replicate n '0' ++ digitsOf d.digits).length =
        n + (digitsOf d.digits).length := by
      rw [List.length_append, List.length_replicate]
    have hsame : ofParts ['0'] (fraction (List.replicate n '0' ++ digitsOf d.digits)) = d := by
      rw [hfraction, ofParts, hdigits, hlength, ← hexponent]
    rw [hsame]
    exact h

end Decimal
namespace Binary64

/-! ## Numbers as text -/

/-- A number is its sign and its body. -/
theorem ofBody_self (x : Binary64) : ofBody x.signBit x.body = x := by
  have hword : x.word < 2 ^ 64 := x.bits.toNat_lt
  have hsign : x.signBit = decide (x.word / 2 ^ 63 % 2 = 1) := Nat.testBit_eq_decide_div_mod_eq
  have hsame : (if x.signBit then 1 <<< 63 + x.body else x.body) = x.word := by
    show (if x.signBit then 2 ^ 63 + x.word % 2 ^ 63 else x.word % 2 ^ 63) = x.word
    rw [hsign]
    split_ifs with h
    · have hset := of_decide_eq_true h
      omega
    · have hclear := of_decide_eq_false (Bool.eq_false_iff.mpr h)
      omega
  rw [ofBody, hsame]
  exact congrArg Binary64.mk UInt64.ofNat_toNat

variable {x : Binary64}

theorem not_isNaN (hfinite : x.isFinite) : ¬ x.isNaN := fun h =>
  Nat.lt_asymm (of_decide_eq_true hfinite) (of_decide_eq_true h)

theorem not_isInfinite (hfinite : x.isFinite) : ¬ x.isInfinite := fun h =>
  Nat.ne_of_lt (of_decide_eq_true hfinite) (beq_iff_eq.mp h)

theorem shortest_of_zero (h : x.body = 0) : x.shortest = ⟨0, 0⟩ := if_pos h

theorem shortest_isNumeral (hfinite : x.isFinite) :
    IsNumeral x.shortest.split.1 ∧ ∀ c ∈ x.shortest.split.2, c.isDigit := by
  by_cases hzero : x.body = 0
  · rw [shortest_of_zero hzero]
    exact ⟨Decimal.isNumeral_digitsOf 0, fun c hc => nomatch hc⟩
  · have hreads := shortest_readsAs hzero hfinite
    exact Decimal.split_isNumeral (hreads.digits_pos (Nat.pos_of_ne_zero hzero))

/-- **Reading the layout of a number gives the number.** -/
theorem ofDecimal_split (hfinite : x.isFinite) :
    let d := Decimal.ofParts x.shortest.split.1 (Decimal.fraction x.shortest.split.2)
    ofDecimal x.signBit d.digits d.exponent = x := by
  intro d
  have hself := x.ofBody_self
  by_cases hzero : x.body = 0
  · have hd : d.digits = 0 := by
      show (Decimal.ofParts x.shortest.split.1 (Decimal.fraction x.shortest.split.2)).digits = 0
      rw [shortest_of_zero hzero]
      rfl
    rw [ofDecimal, if_pos hd]
    rwa [hzero] at hself
  · have hbody : x.body ≤ infinityBody := Nat.le_of_lt (of_decide_eq_true hfinite)
    have hreads : d.ReadsAs x.body := Decimal.split_readsAs (shortest_readsAs hzero hfinite)
    have hexponent : d.exponent ≤ 400 := by
      show -((Decimal.fraction x.shortest.split.2).length : Int) ≤ 400
      omega
    exact (ofDecimal_eq x.signBit hreads (Nat.pos_of_ne_zero hzero) hbody hexponent).trans hself

end Binary64
end TrigramSearch
