import TrigramSearch.Number.Decimal
import TrigramSearch.Proofs.Number.Rounding

/-!
# The shortest decimal reads back

A decimal reads back as a number if the number is the nearest one to it
(`Decimal.ReadsAs`).  A grid point that the search for the shortest decimal
accepts does so, for it is accepted by comparing it with the half-way points.
The search ends at such a point: a grid whose step is less than the distance of
the half-way points has one between them, and four hundred grids are enough to
come to such a step.

## Main results

* `gridPoint?_readsAs`, `gridPoint?_isSome` — grid points that are accepted.
* `shortest_readsAs` — the shortest decimal reads back.
* `ofDecimal_eq` — reading a decimal that reads back.
-/

namespace TrigramSearch

/-- The number with a body is the nearest one to a decimal. -/
def Decimal.ReadsAs (d : Decimal) (b : Nat) : Prop :=
  Binary64.IsNearest b ((d.digits * 10 ^ d.exponent.toNat) <<< 1074) (10 ^ (-d.exponent).toNat)

namespace Binary64

variable {b d : Nat} {e : Int}

/-! ## Grid points -/

theorem lt_magnitudeOfBody_succ (b : Nat) : magnitudeOfBody b < magnitudeOfBody (b + 1) :=
  magnitudeOfBody_strictMono (Nat.lt_succ_self b)

theorem magnitudeOfBody_pred_le (b : Nat) : magnitudeOfBody (b - 1) ≤ magnitudeOfBody b :=
  magnitudeOfBody_strictMono.monotone (Nat.sub_le b 1)

/-- A step of a grid is counted in half units. -/
private theorem mul_shiftLeft_succ (n up k : Nat) : n * up <<< (k + 1) = 2 * (n * up) <<< k := by
  rw [Nat.shiftLeft_succ, Nat.shiftLeft_eq, Nat.shiftLeft_eq]
  ring

private theorem shiftLeft_pos {n : Nat} (h : 0 < n) (k : Nat) : 0 < n <<< k := by
  rw [Nat.shiftLeft_eq]
  exact Nat.mul_pos h (Nat.two_pow_pos k)

/-- A point that is accepted lies between the half-way points. -/
private theorem gridPoint?_bounds (h : gridPoint? b e = some d) :
    (magnitudeOfBody (b - 1) + magnitudeOfBody b) * 10 ^ (-e).toNat ≤ d * 10 ^ e.toNat <<< 1075 ∧
    d * 10 ^ e.toNat <<< 1075 ≤ (magnitudeOfBody b + magnitudeOfBody (b + 1)) * 10 ^ (-e).toNat ∧
    ((magnitudeOfBody (b - 1) + magnitudeOfBody b) * 10 ^ (-e).toNat = d * 10 ^ e.toNat <<< 1075 ∨
      d * 10 ^ e.toNat <<< 1075 = (magnitudeOfBody b + magnitudeOfBody (b + 1)) * 10 ^ (-e).toNat →
      b % 2 = 0) := by
  have hdown : 0 < 10 ^ (-e).toNat := Nat.pow_pos (by decide)
  have hstep : 0 < 10 ^ e.toNat <<< 1075 := shiftLeft_pos (Nat.pow_pos (by decide)) 1075
  have hleft : (magnitudeOfBody (b - 1) + magnitudeOfBody b) * 10 ^ (-e).toNat ≤
      2 * magnitudeOfBody b * 10 ^ (-e).toNat :=
    Nat.mul_le_mul_right _ (by have := magnitudeOfBody_pred_le b; omega)
  have hright : 2 * magnitudeOfBody b * 10 ^ (-e).toNat <
      (magnitudeOfBody b + magnitudeOfBody (b + 1)) * 10 ^ (-e).toNat :=
    Nat.mul_lt_mul_of_pos_right (by have := lt_magnitudeOfBody_succ b; omega) hdown
  simp only [gridPoint?, Nat.pow_eq] at h
  generalize (magnitudeOfBody (b - 1) + magnitudeOfBody b) * 10 ^ (-e).toNat = low at *
  generalize (magnitudeOfBody b + magnitudeOfBody (b + 1)) * 10 ^ (-e).toNat = high at *
  generalize 2 * magnitudeOfBody b * 10 ^ (-e).toNat = value at *
  generalize 10 ^ e.toNat <<< 1075 = step at *
  have hbelow : value / step * step ≤ value := Nat.div_mul_le_self value step
  have habove : value < (value / step + 1) * step := by
    rw [Nat.add_mul, Nat.one_mul]
    exact Nat.lt_div_mul_add hstep
  generalize value / step = below at h hbelow habove
  simp only [Bool.and_eq_true, Bool.or_eq_true, decide_eq_true_eq, beq_iff_eq] at h
  have hd : (d = below ∧ (low < below * step ∨ b % 2 = 0 ∧ low = below * step)) ∨
      (d = below + 1 ∧
        ((below + 1) * step < high ∨ b % 2 = 0 ∧ (below + 1) * step = high)) := by
    split_ifs at h with hboth hnearer honlyBelow honlyAbove
    · exact Or.inl ⟨(Option.some.inj h).symm, hboth.1⟩
    · exact Or.inr ⟨(Option.some.inj h).symm, hboth.2⟩
    · exact Or.inl ⟨(Option.some.inj h).symm, honlyBelow⟩
    · exact Or.inr ⟨(Option.some.inj h).symm, honlyAbove⟩
  rcases hd with ⟨rfl, hlow⟩ | ⟨rfl, hhigh⟩
  · exact ⟨by omega, by omega, by omega⟩
  · exact ⟨by omega, by omega, by omega⟩

/-- A grid point that is accepted reads back. -/
theorem gridPoint?_readsAs (h : gridPoint? b e = some d) : Decimal.ReadsAs ⟨d, e⟩ b := by
  have hpoint := mul_shiftLeft_succ d (10 ^ e.toNat) 1074
  obtain ⟨hlow, hhigh, heven⟩ := gridPoint?_bounds h
  rw [hpoint] at hlow hhigh heven
  exact ⟨hlow, hhigh, fun hends => heven (hends.imp Eq.symm id)⟩

/-- A grid with a step below the distance of the half-way points has a point between them. -/
theorem gridPoint?_isSome
    (h : 10 ^ e.toNat <<< 1075 <
      (magnitudeOfBody (b + 1) - magnitudeOfBody b) * 10 ^ (-e).toNat) :
    (gridPoint? b e).isSome := by
  have hleft := Nat.mul_le_mul_right (10 ^ (-e).toNat) (magnitudeOfBody_pred_le b)
  rw [Nat.sub_mul] at h
  simp only [gridPoint?, Nat.pow_eq, Nat.mul_assoc 2, Nat.add_mul]
  generalize magnitudeOfBody (b - 1) * 10 ^ (-e).toNat = before at *
  generalize magnitudeOfBody (b + 1) * 10 ^ (-e).toNat = after at *
  generalize magnitudeOfBody b * 10 ^ (-e).toNat = value at *
  generalize 10 ^ e.toNat <<< 1075 = step at *
  generalize 2 * value / step = below
  split_ifs with hboth hnearer honlyBelow honlyAbove
  · rfl
  · rfl
  · rfl
  · rfl
  · simp only [Bool.and_eq_true, Bool.or_eq_true, decide_eq_true_eq, beq_iff_eq] at *
    omega

/-- The size of a magnitude, by its binade. -/
theorem log2_magnitudeOfBody_le (b : Nat) : (magnitudeOfBody b).log2 ≤ 52 + (b / 2 ^ 52 - 1) := by
  obtain ⟨e, s, hb, he, hlow, hhigh⟩ := exists_place b
  rw [← he, hb, magnitudeOfBody_place hlow (Nat.le_of_lt hhigh)]
  by_cases hzero : s * 2 ^ e = 0
  · rw [hzero]
    exact Nat.zero_le _
  · have hlt : s * 2 ^ e < 2 ^ (53 + e) := by
      rw [Nat.pow_add]
      exact Nat.mul_lt_mul_of_pos_right hhigh (Nat.two_pow_pos e)
    have hlog := (Nat.log2_lt hzero).mpr hlt
    omega

/-- A power of ten has more than three bits for each place. -/
private theorem shiftLeft_lt_mul_pow {k m n : Nat} (h : k < m + 3 * n) :
    1 <<< k < 2 ^ m * 10 ^ n := by
  rw [Nat.one_shiftLeft]
  calc 2 ^ k < 2 ^ (m + 3 * n) := Nat.pow_lt_pow_right (by decide) h
    _ = 2 ^ m * 8 ^ n := by rw [Nat.pow_add, Nat.pow_mul]
    _ ≤ 2 ^ m * 10 ^ n := Nat.mul_le_mul_left _ (Nat.pow_le_pow_left (by decide) n)

theorem gridPoint?_isSome_of_fine {n : Nat} (h : 1075 < b / 2 ^ 52 - 1 + 3 * n) :
    (gridPoint? b (-n)).isSome := by
  apply gridPoint?_isSome
  have hup : (-(n : Int)).toNat = 0 := by omega
  have hdown : (-(-(n : Int))).toNat = n := by omega
  have hgap : magnitudeOfBody (b + 1) - magnitudeOfBody b = 2 ^ (b / 2 ^ 52 - 1) := by
    rw [magnitudeOfBody_succ, Nat.add_sub_cancel_left]
  rw [hup, hdown, hgap, Nat.pow_zero]
  exact shiftLeft_lt_mul_pow h

/-! ## The search -/

theorem shortestFrom_readsAs {fuel : Nat} (h : ∃ k < fuel, (gridPoint? b (e - k)).isSome) :
    (shortestFrom b fuel e).ReadsAs b := by
  induction fuel generalizing e with
  | zero =>
      obtain ⟨k, hk, -⟩ := h
      omega
  | succ fuel ih =>
      obtain ⟨k, hk, hsome⟩ := h
      rw [shortestFrom]
      cases hpoint : gridPoint? b e with
      | some d => exact gridPoint?_readsAs hpoint
      | none =>
          show (shortestFrom b fuel (e - 1)).ReadsAs b
          cases k with
          | zero =>
              rw [Int.natCast_zero, Int.sub_zero, hpoint] at hsome
              cases hsome
          | succ k =>
              have hshift : e - 1 - k = e - (k + 1 : Nat) := by omega
              exact ih ⟨k, by omega, hshift ▸ hsome⟩

/-- **The shortest decimal reads back.** -/
theorem shortest_readsAs {x : Binary64} (hzero : x.body ≠ 0) (hfinite : x.isFinite) :
    x.shortest.ReadsAs x.body := by
  have hbody : x.body < 0x7ff0000000000000 := of_decide_eq_true hfinite
  have hlog := log2_magnitudeOfBody_le x.body
  rw [shortest, if_neg hzero]
  apply shortestFrom_readsAs
  refine ⟨399, by decide, ?_⟩
  show (gridPoint? x.body (coarsestExponent (magnitudeOfBody x.body) - 399)).isSome
  have hcoarsest : coarsestExponent (magnitudeOfBody x.body) =
      (((magnitudeOfBody x.body).log2 : Int) - 1073) * 30103 / 100000 + 1 := rfl
  obtain ⟨n, hn⟩ : ∃ n : Nat, coarsestExponent (magnitudeOfBody x.body) - 399 = -(n : Int) :=
    ⟨(399 - coarsestExponent (magnitudeOfBody x.body)).toNat, by omega⟩
  rw [hn]
  exact gridPoint?_isSome_of_fine (by omega)

/-! ## Reading a decimal -/

/-- What is nearest to a positive number is no less than half of the smallest one. -/
private theorem den_le_of_isNearest {num den : Nat} (h : IsNearest b num den) (hb : 0 < b) :
    den ≤ 2 * num := by
  have hpos : magnitudeOfBody 0 < magnitudeOfBody b := magnitudeOfBody_strictMono hb
  calc den = 1 * den := (Nat.one_mul den).symm
    _ ≤ (magnitudeOfBody (b - 1) + magnitudeOfBody b) * den := Nat.mul_le_mul_right den (by omega)
    _ ≤ 2 * num := h.low

end Binary64

theorem Decimal.ReadsAs.digits_pos {b : Nat} {d : Decimal} (h : d.ReadsAs b) (hb : 0 < b) :
    0 < d.digits := by
  have hden : 0 < 10 ^ (-d.exponent).toNat := Nat.pow_pos (by decide)
  have hsize := Binary64.den_le_of_isNearest h hb
  by_contra hzero
  have hdigits : d.digits = 0 := by omega
  rw [hdigits, Nat.zero_mul, Nat.zero_shiftLeft] at hsize
  omega

namespace Binary64

variable {b : Nat} {e : Int}

private theorem shiftLeft_le_of_log2 (n k : Nat) : n <<< k ≤ 1 <<< (n.log2 + 1 + k) := by
  rw [Nat.shiftLeft_eq, Nat.one_shiftLeft, Nat.pow_add]
  exact Nat.mul_le_mul_right _ (Nat.le_of_lt Nat.lt_log2_self)

/-- **Reading.**  A decimal gives the number that it reads back as. -/
theorem ofDecimal_eq {D : Nat} (negative : Bool) (h : Decimal.ReadsAs ⟨D, e⟩ b) (hb : 0 < b)
    (hfinite : b ≤ infinityBody) (he : e ≤ 400) : ofDecimal negative D e = ofBody negative b := by
  have hnearest : IsNearest b ((D * 10 ^ e.toNat) <<< 1074) (10 ^ (-e).toNat) := h
  have hden : 0 < 10 ^ (-e).toNat := Nat.pow_pos (by decide)
  have hsize := den_le_of_isNearest hnearest hb
  have hdigits : D ≠ 0 := Nat.ne_of_gt (h.digits_pos hb)
  have hnotSmall : ¬ e + D.log2 < -400 := by
    intro hsmall
    have hlog := shiftLeft_le_of_log2 D 1075
    have hpow : 1 <<< (D.log2 + 1 + 1075) < 2 ^ 0 * 10 ^ (-e).toNat :=
      shiftLeft_lt_mul_pow (by omega)
    rw [Nat.pow_zero, Nat.one_mul] at hpow
    have hwhole : e.toNat = 0 := by omega
    rw [hwhole, Nat.pow_zero, Nat.mul_one, ← Nat.shiftLeft_succ] at hsize
    omega
  rw [ofDecimal, if_neg hdigits, if_neg (by omega), if_neg hnotSmall]
  by_cases hwhole : e ≥ 0
  · rw [if_pos hwhole, ofQuotient]
    have hone : (-e).toNat = 0 := by omega
    rw [hone, Nat.pow_zero] at hnearest
    exact congrArg (ofBody negative) (bodyOfQuotient_eq hnearest Nat.one_pos hfinite)
  · rw [if_neg hwhole, ofQuotient]
    have hone : e.toNat = 0 := by omega
    rw [hone, Nat.pow_zero, Nat.mul_one] at hnearest
    exact congrArg (ofBody negative) (bodyOfQuotient_eq hnearest hden hfinite)

end Binary64
end TrigramSearch
