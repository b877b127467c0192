import Mathlib.Algebra.Order.Group.Nat
import Mathlib.Order.Monotone.Basic
import Mathlib.Tactic.Ring
import TrigramSearch.Number.Binary64

/-!
# Rounding is to the nearest number

A body is a binade and a place in it: body `e * 2 ^ 52 + s` has the magnitude
`s * 2 ^ e`, as long as the place `s` has at most 53 bits and, in all binades but
the lowest, no fewer.  Both ends of a binade may be written in two ways, which
is what makes the carry of a rounded place into the next binade harmless.

So magnitudes increase, and by `2 ^ e` within a binade.  A body is the nearest
one to a quotient if the quotient lies between the half-way points around its
magnitude, and on one of them only if the body is even (`IsNearest`).  There is
at most one such body, and rounding finds it.

## Main results

* `magnitudeOfBody_place` — the magnitude of a place in a binade.
* `magnitudeOfBody_succ`, `magnitudeOfBody_strictMono` — magnitudes increase.
* `IsNearest.unique` — there is one nearest body at most.
* `bodyOfQuotient_eq` — rounding gives the nearest body.
-/

namespace TrigramSearch.Binary64

/-! ## Magnitudes -/

theorem magnitudeOfBody_eq (b : Nat) : magnitudeOfBody b =
    if b < 2 ^ 52 then b else (2 ^ 52 + b % 2 ^ 52) * 2 ^ (b / 2 ^ 52 - 1) := by
  simp only [magnitudeOfBody, Nat.shiftLeft_eq, Nat.one_mul]

/-- The magnitude of a place in a binade. The place `2 ^ 53` is the beginning of the next one. -/
theorem magnitudeOfBody_place {e s : Nat} (hlow : e = 0 ∨ 2 ^ 52 ≤ s) (hhigh : s ≤ 2 ^ 53) :
    magnitudeOfBody (e * 2 ^ 52 + s) = s * 2 ^ e := by
  rw [magnitudeOfBody_eq]
  by_cases hsub : e * 2 ^ 52 + s < 2 ^ 52
  · have he : e = 0 := by omega
    rw [if_pos hsub, he]
    omega
  · rw [if_neg hsub]
    by_cases hlast : s = 2 ^ 53
    · have hmod : (e * 2 ^ 52 + s) % 2 ^ 52 = 0 := by omega
      have hdiv : (e * 2 ^ 52 + s) / 2 ^ 52 - 1 = e + 1 := by omega
      rw [hmod, hdiv, hlast, Nat.pow_succ 2 e]
      omega
    · have hmod : (e * 2 ^ 52 + s) % 2 ^ 52 = s - 2 ^ 52 := by omega
      have hdiv : (e * 2 ^ 52 + s) / 2 ^ 52 - 1 = e := by omega
      have hsum : 2 ^ 52 + (s - 2 ^ 52) = s := by omega
      rw [hmod, hdiv, hsum]

/-- Every body is a place before the last of its binade. -/
theorem exists_place (b : Nat) : ∃ e s, b = e * 2 ^ 52 + s ∧ e = b / 2 ^ 52 - 1 ∧
    (e = 0 ∨ 2 ^ 52 ≤ s) ∧ s < 2 ^ 53 :=
  ⟨b / 2 ^ 52 - 1, b - (b / 2 ^ 52 - 1) * 2 ^ 52, by omega, rfl, by omega, by omega⟩

theorem magnitudeOfBody_succ (b : Nat) :
    magnitudeOfBody (b + 1) = magnitudeOfBody b + 2 ^ (b / 2 ^ 52 - 1) := by
  obtain ⟨e, s, hb, he, hlow, hhigh⟩ := exists_place b
  have hhere := magnitudeOfBody_place hlow (Nat.le_of_lt hhigh)
  have hnext : magnitudeOfBody (e * 2 ^ 52 + (s + 1)) = (s + 1) * 2 ^ e :=
    magnitudeOfBody_place (by omega) hhigh
  rw [← he, hb, Nat.add_assoc, hnext, hhere, Nat.add_mul, Nat.one_mul]

theorem magnitudeOfBody_strictMono : StrictMono magnitudeOfBody := by
  apply strictMono_nat_of_lt_succ
  intro b
  rw [magnitudeOfBody_succ]
  exact Nat.lt_add_of_pos_right (Nat.two_pow_pos _)

/-! ## The nearest body -/

/-- The quotient `num / den` lies between the half-way points around the magnitude of a body, and
on one of them only if the body is even. -/
structure IsNearest (b num den : Nat) : Prop where
  low : (magnitudeOfBody (b - 1) + magnitudeOfBody b) * den ≤ 2 * num
  high : 2 * num ≤ (magnitudeOfBody b + magnitudeOfBody (b + 1)) * den
  even : 2 * num = (magnitudeOfBody (b - 1) + magnitudeOfBody b) * den ∨
    2 * num = (magnitudeOfBody b + magnitudeOfBody (b + 1)) * den → b % 2 = 0

namespace IsNearest

variable {b b' num den : Nat}

/-- Of two bodies that are nearest, the first is not less. -/
private theorem not_lt (h : IsNearest b num den) (h' : IsNearest b' num den) (hden : 0 < den) :
    ¬ b < b' := by
  intro hlt
  have hleft : magnitudeOfBody b ≤ magnitudeOfBody (b' - 1) :=
    magnitudeOfBody_strictMono.monotone (by omega)
  have hright : magnitudeOfBody (b + 1) ≤ magnitudeOfBody b' :=
    magnitudeOfBody_strictMono.monotone (by omega)
  have hle : (magnitudeOfBody b + magnitudeOfBody (b + 1)) * den ≤
      (magnitudeOfBody (b' - 1) + magnitudeOfBody b') * den :=
    Nat.mul_le_mul_right den (by omega)
  have hhigh := h.high
  have hlow := h'.low
  -- the quotient is the half-way point between two neighbours, of which one is odd
  have heven := h.even (Or.inr (by omega))
  have heven' := h'.even (Or.inl (by omega))
  have hsame : magnitudeOfBody b + magnitudeOfBody (b + 1) =
      magnitudeOfBody (b' - 1) + magnitudeOfBody b' :=
    Nat.eq_of_mul_eq_mul_right hden (by omega)
  have hneighbour : b = b' - 1 := magnitudeOfBody_strictMono.injective (by omega)
  omega

theorem unique (h : IsNearest b num den) (h' : IsNearest b' num den) (hden : 0 < den) :
    b = b' := by
  have hge := not_lt h h' hden
  have hle := not_lt h' h hden
  omega

/-- Being nearest depends on the value of the quotient only. -/
theorem scale_iff {k : Nat} (hk : 0 < k) :
    IsNearest b (num * k) (den * k) ↔ IsNearest b num den := by
  have hnum : 2 * (num * k) = 2 * num * k := (Nat.mul_assoc 2 num k).symm
  have hden : ∀ m, m * (den * k) = m * den * k := fun m => (Nat.mul_assoc m den k).symm
  constructor
  · rintro ⟨hlow, hhigh, heven⟩
    simp only [hnum, hden, Nat.mul_left_inj (Nat.ne_of_gt hk)] at hlow hhigh heven
    exact ⟨Nat.le_of_mul_le_mul_right hlow hk, Nat.le_of_mul_le_mul_right hhigh hk, heven⟩
  · rintro ⟨hlow, hhigh, heven⟩
    refine ⟨?_, ?_, ?_⟩ <;> simp only [hnum, hden, Nat.mul_left_inj (Nat.ne_of_gt hk)]
    · exact Nat.mul_le_mul_right k hlow
    · exact Nat.mul_le_mul_right k hhigh
    · exact heven

end IsNearest

/-! ## Rounding -/

/-- `bodyOfQuotient`, without an end to the numbers. -/
def unboundedBody (num den : Nat) : Nat :=
  let shift := Nat.log2 (num / den) - 52
  let unit := den <<< shift
  let low := num / unit
  let rest := 2 * (num % unit)
  shift <<< 52 + if unit < rest || (rest == unit && low % 2 == 1) then low + 1 else low

theorem bodyOfQuotient_eq_min (num den : Nat) :
    bodyOfQuotient num den = min (unboundedBody num den) infinityBody := rfl

/-- The quotient by the unit of its binade is a place of the binade. -/
theorem place_of_quotient (num den : Nat) :
    (Nat.log2 (num / den) - 52 = 0 ∨
      2 ^ 52 ≤ num / (den * 2 ^ (Nat.log2 (num / den) - 52))) ∧
    num / (den * 2 ^ (Nat.log2 (num / den) - 52)) < 2 ^ 53 := by
  rw [← Nat.div_div_eq_div_mul]
  generalize num / den = q
  by_cases hq : q = 0
  · rw [hq, Nat.zero_div]
    exact ⟨Or.inl (by decide), by decide⟩
  · have hlower : 2 ^ q.log2 ≤ q := Nat.log2_self_le hq
    have hupper : q < 2 ^ (q.log2 + 1) := Nat.lt_log2_self
    generalize q.log2 = l at hlower hupper ⊢
    by_cases hl : l ≤ 52
    · have hshift : l - 52 = 0 := by omega
      have hplace : 2 ^ (l + 1) ≤ 2 ^ 53 := Nat.pow_le_pow_right (by decide) (by omega)
      rw [hshift, Nat.pow_zero, Nat.div_one]
      exact ⟨Or.inl rfl, by omega⟩
    · have hpos : 0 < 2 ^ (l - 52) := Nat.two_pow_pos _
      have hl0 : 2 ^ l = 2 ^ 52 * 2 ^ (l - 52) := by rw [← Nat.pow_add]; congr 1; omega
      have hl1 : 2 ^ (l + 1) = 2 ^ 53 * 2 ^ (l - 52) := by rw [← Nat.pow_add]; congr 1; omega
      rw [hl0] at hlower
      rw [hl1] at hupper
      exact ⟨Or.inr ((Nat.le_div_iff_mul_le hpos).mpr hlower),
        (Nat.div_lt_iff_lt_mul hpos).mpr hupper⟩

/-- A place is nearest to what lies in the half of its gap next to it. -/
private theorem isNearest_below {b num den : Nat} (hden : 0 < den)
    (hlow : magnitudeOfBody b * den ≤ num)
    (hhigh : 2 * num ≤ (magnitudeOfBody b + magnitudeOfBody (b + 1)) * den)
    (heven : 2 * num = (magnitudeOfBody b + magnitudeOfBody (b + 1)) * den → b % 2 = 0) :
    IsNearest b num den := by
  have hbefore : magnitudeOfBody (b - 1) ≤ magnitudeOfBody b :=
    magnitudeOfBody_strictMono.monotone (Nat.sub_le b 1)
  have hmul : magnitudeOfBody (b - 1) * den ≤ magnitudeOfBody b * den :=
    Nat.mul_le_mul_right den hbefore
  refine ⟨?_, hhigh, ?_⟩
  · rw [Nat.add_mul]
    omega
  · rintro (hleft | hright)
    · rw [Nat.add_mul] at hleft
      have hsame : magnitudeOfBody (b - 1) = magnitudeOfBody b :=
        Nat.eq_of_mul_eq_mul_right hden (by omega)
      have hzero : b - 1 = b := magnitudeOfBody_strictMono.injective hsame
      omega
    · exact heven hright

/-- The same for the other half. -/
private theorem isNearest_above {b num den : Nat}
    (hlow : (magnitudeOfBody b + magnitudeOfBody (b + 1)) * den ≤ 2 * num)
    (hhigh : num < magnitudeOfBody (b + 1) * den)
    (heven : (magnitudeOfBody b + magnitudeOfBody (b + 1)) * den = 2 * num → b % 2 = 1) :
    IsNearest (b + 1) num den := by
  have hafter : magnitudeOfBody (b + 1) ≤ magnitudeOfBody (b + 1 + 1) :=
    magnitudeOfBody_strictMono.monotone (Nat.le_succ _)
  have hmul : magnitudeOfBody (b + 1) * den ≤ magnitudeOfBody (b + 1 + 1) * den :=
    Nat.mul_le_mul_right den hafter
  refine ⟨?_, ?_, ?_⟩
  · rw [Nat.add_sub_cancel]
    exact hlow
  · rw [Nat.add_mul]
    omega
  · rintro (hleft | hright)
    · rw [Nat.add_sub_cancel] at hleft
      have hodd := heven hleft.symm
      omega
    · rw [Nat.add_mul] at hright
      omega

theorem unboundedBody_isNearest (num : Nat) {den : Nat} (hden : 0 < den) :
    IsNearest (unboundedBody num den) num den := by
  obtain ⟨hlow, hhigh⟩ := place_of_quotient num den
  simp only [unboundedBody, Nat.shiftLeft_eq]
  generalize Nat.log2 (num / den) - 52 = e at hlow hhigh ⊢
  have hsplit := Nat.div_add_mod num (den * 2 ^ e)
  have hrest := Nat.mod_lt num (Nat.mul_pos hden (Nat.two_pow_pos e))
  generalize num / (den * 2 ^ e) = s at hlow hhigh hsplit ⊢
  generalize num % (den * 2 ^ e) = r at hsplit hrest ⊢
  have hhere : magnitudeOfBody (e * 2 ^ 52 + s) = s * 2 ^ e :=
    magnitudeOfBody_place hlow (Nat.le_of_lt hhigh)
  have hnext : magnitudeOfBody (e * 2 ^ 52 + (s + 1)) = (s + 1) * 2 ^ e :=
    magnitudeOfBody_place (by omega) hhigh
  rw [← Nat.add_assoc] at hnext
  have hhereUnit : s * 2 ^ e * den = den * 2 ^ e * s := by ring
  have hnextUnit : (s + 1) * 2 ^ e * den = den * 2 ^ e * s + den * 2 ^ e := by ring
  have hparity : (e * 2 ^ 52 + s) % 2 = s % 2 := by omega
  generalize den * 2 ^ e = unit at hsplit hrest hhereUnit hnextUnit ⊢
  by_cases hup : (decide (unit < 2 * r) || (2 * r == unit && s % 2 == 1)) = true
  · rw [if_pos hup, ← Nat.add_assoc]
    simp only [Bool.or_eq_true, Bool.and_eq_true, decide_eq_true_eq, beq_iff_eq] at hup
    apply isNearest_above <;> simp only [hhere, hnext, Nat.add_mul _ _ den, hhereUnit, hnextUnit]
    · omega
    · omega
    · omega
  · rw [if_neg hup]
    simp only [Bool.or_eq_true, Bool.and_eq_true, decide_eq_true_eq, beq_iff_eq] at hup
    apply isNearest_below hden <;>
      simp only [hhere, hnext, Nat.add_mul _ _ den, hhereUnit, hnextUnit]
    · omega
    · omega
    · omega

/-- **Rounding.**  The body of a quotient is the nearest one, if that is not beyond the infinity. -/
theorem bodyOfQuotient_eq {b num den : Nat} (h : IsNearest b num den) (hden : 0 < den)
    (hfinite : b ≤ infinityBody) : bodyOfQuotient num den = b := by
  rw [bodyOfQuotient_eq_min, (unboundedBody_isNearest num hden).unique h hden]
  exact Nat.min_eq_left hfinite

end TrigramSearch.Binary64
