import Mathlib.Algebra.Order.Field.Basic
import Mathlib.Algebra.Order.Field.Rat
import Mathlib.Data.Rat.Cast.Order
import TrigramSearch.Proofs.Search.Session

/-!
# Changes of settings are all or nothing

Settings are faulty if the threshold is not a number from 0 to 1 or if filters
would have no bytes or no hash functions (`SearchSettings.IsFaulty`).  The check
compares bit patterns; what it finds is a fact about exact values: a NaN is not
between any bounds, nor are the infinities, and `-0` is as good as `0`.

Faulty settings leave an engine exactly as it was.  Others become the settings
of the engine, and its indexes stay unless filters of the new settings differ
from those of the old ones.

## Main results

* `SearchSettings.check_eq_ok_iff` — the check accepts what is not faulty.
* `Engine.configure_of_not_faulty` — all that a change of settings changes.
* `SearchSession.act_notFaulty` — no action makes settings faulty.
* `SearchSession.configure_atomic` — all of this after every run.
-/

namespace TrigramSearch

/-! ## Thresholds -/

namespace Binary64

/-- The exact value of a finite number. -/
def value (x : Binary64) : ℚ := x.scaled / 2 ^ 1074

/-- A NaN, an infinity, or a number that is less than `low` or greater than `high`. -/
def IsOutside (x : Binary64) (low high : ℚ) : Prop :=
  x.isNaN = true ∨ x.isInfinite = true ∨ x.value < low ∨ high < x.value

private theorem unit_pos : (0 : ℚ) < 2 ^ 1074 := pow_pos two_pos 1074

/-- The infinities are counted as numbers beyond all finite ones. -/
theorem scaled_of_isInfinite {x : Binary64} (h : x.isInfinite = true) :
    x.scaled < 0 ∨ 2 ^ 1074 < x.scaled := by
  have hbody : x.body = infinityBody := beq_iff_eq.mp h
  have hmagnitude : x.magnitude = 2 ^ 2098 := by
    rw [magnitude, hbody]
    decide +kernel
  have hbig : 2 ^ 1074 < 2 ^ 2098 := pow_lt_pow_right₀ (by decide) (by decide)
  have hpos : 0 < 2 ^ 2098 := pow_pos two_pos 2098
  rw [scaled, hmagnitude]
  split
  · exact Or.inl (Int.neg_neg_of_pos (by exact_mod_cast hpos))
  · exact Or.inr (by exact_mod_cast hbig)

theorem zero_le_iff (x : Binary64) : zero.le x = true ↔ x.isNaN = false ∧ 0 ≤ x.value := by
  have hnumber : zero.isNaN = false := by decide
  have hzero : zero.scaled = 0 := by decide
  have hvalue : 0 ≤ x.value ↔ 0 ≤ x.scaled := by
    rw [value, le_div_iff₀ unit_pos, zero_mul, Int.cast_nonneg_iff]
  rw [le, hnumber, hzero, hvalue]
  simp

theorem le_one_iff (x : Binary64) : x.le one = true ↔ x.isNaN = false ∧ x.value ≤ 1 := by
  have hnumber : one.isNaN = false := by decide
  have hone : one.scaled = 2 ^ 1074 := by decide +kernel
  have hvalue : x.value ≤ 1 ↔ x.scaled ≤ 2 ^ 1074 := by
    rw [value, div_le_one unit_pos, ← Int.cast_le (R := ℚ), Int.cast_pow, Int.cast_ofNat]
  simp only [le, hnumber, hone, hvalue, Bool.and_eq_true, Bool.not_eq_true', Bool.not_false,
    and_true, decide_eq_true_eq]

/-- Comparing with both ends of the interval tells exactly what is outside of it. -/
theorem isOutside_iff (x : Binary64) :
    x.IsOutside 0 1 ↔ (zero.le x && x.le one) = false := by
  have hinside : (zero.le x && x.le one) = true ↔
      x.isNaN = false ∧ 0 ≤ x.value ∧ x.value ≤ 1 := by
    rw [Bool.and_eq_true, zero_le_iff, le_one_iff]
    tauto
  rw [← Bool.not_eq_true, hinside, IsOutside]
  constructor
  · rintro (hnan | hinfinite | hlow | hhigh) ⟨hnumber, hle, hge⟩
    · rw [hnan] at hnumber
      cases hnumber
    · rcases scaled_of_isInfinite hinfinite with hneg | hbig
      · have hlow : x.value < 0 := div_neg_of_neg_of_pos (by exact_mod_cast hneg) unit_pos
        exact absurd hle (not_le.mpr hlow)
      · rw [value, div_le_one unit_pos, ← Int.cast_ofNat, ← Int.cast_pow, Int.cast_le] at hge
        exact absurd hge (not_le.mpr hbig)
    · exact absurd hle (not_le.mpr hlow)
    · exact absurd hge (not_le.mpr hhigh)
  · intro houtside
    by_cases hnan : x.isNaN = true
    · exact Or.inl hnan
    · by_cases hlow : x.value < 0
      · exact Or.inr (Or.inr (Or.inl hlow))
      · refine Or.inr (Or.inr (Or.inr (not_le.mp fun hhigh => houtside ?_)))
        exact ⟨Bool.not_eq_true _ ▸ hnan, not_lt.mp hlow, hhigh⟩

/-- `-0` is not outside. -/
example : ¬ IsOutside ⟨0x8000000000000000⟩ 0 1 := by
  rw [isOutside_iff]
  decide

end Binary64

/-! ## Settings -/

namespace SearchSettings

/-- The threshold is not a number from 0 to 1, or filters would have no bytes or no hash
functions. -/
def IsFaulty (s : SearchSettings) : Prop :=
  s.effectivenessThreshold.IsOutside 0 1 ∨ s.filterSizeBytes = 0 ∨ s.hashFunctions = 0

/-- A search with one of the settings cannot use indexes made under the other, or does not want
them. -/
def DiffersInFilters (s other : SearchSettings) : Prop :=
  s.filterSizeBytes ≠ other.filterSizeBytes ∨ s.hashFunctions ≠ other.hashFunctions ∨
    s.useFilters ≠ other.useFilters ∨ s.idField ≠ other.idField

theorem fault?_eq_none_iff (s : SearchSettings) : s.fault? = none ↔ ¬ s.IsFaulty := by
  rw [fault?, IsFaulty, Binary64.isOutside_iff]
  cases Binary64.zero.le s.effectivenessThreshold && s.effectivenessThreshold.le Binary64.one with
  | false => simp
  | true =>
      by_cases hsize : s.filterSizeBytes = 0
      · simp [hsize]
      · by_cases hhash : s.hashFunctions = 0 <;> simp [hsize, hhash]

theorem check_eq_ok_iff (s : SearchSettings) : s.check = .ok () ↔ ¬ s.IsFaulty := by
  rw [← fault?_eq_none_iff, check]
  cases s.fault? <;> simp

theorem invalidatesIndexes_iff (s other : SearchSettings) :
    s.invalidatesIndexes other = true ↔ s.DiffersInFilters other := by
  simp only [invalidatesIndexes, DiffersInFilters, Bool.or_eq_true, bne_iff_ne]
  tauto

end SearchSettings

/-! ## Engines -/

namespace Engine

theorem configure_of_faulty (g : Engine) {settings : SearchSettings} (h : settings.IsFaulty) :
    ∃ e, g.configure settings = .error e := by
  rw [configure]
  cases hcheck : settings.check with
  | error e => exact ⟨e, rfl⟩
  | ok _ => exact absurd h ((settings.check_eq_ok_iff).mp hcheck)

/-- Settings that are not faulty become the settings of the engine. Besides, only the indexes
change, and only if filters do. -/
theorem configure_of_not_faulty (g : Engine) {settings : SearchSettings}
    (h : ¬ settings.IsFaulty) :
    ∃ g', g.configure settings = .ok g' ∧ g'.settings = settings ∧ g'.tally = g.tally ∧
      (g.settings.DiffersInFilters settings → g'.cache.entries = []) ∧
      (¬ g.settings.DiffersInFilters settings → g'.cache = g.cache) := by
  rw [← SearchSettings.invalidatesIndexes_iff, configure, (settings.check_eq_ok_iff).mpr h]
  refine ⟨_, rfl, rfl, rfl, ?_, ?_⟩
  · intro hdiffers
    rw [if_pos hdiffers]
    rfl
  · intro hsame
    rw [if_neg hsame]

end Engine

/-! ## Runs -/

namespace SearchSession

/-- No action makes settings faulty. -/
theorem act_notFaulty {w : SearchSession} (h : ¬ w.engine.settings.IsFaulty) (a : Action) :
    ¬ (w.act a).engine.settings.IsFaulty := by
  rw [act_settings]
  cases a with
  | configure other =>
      rw [configured]
      cases hcheck : other.check with
      | error e => exact h
      | ok _ => exact (other.check_eq_ok_iff).mp hcheck
  | _ => exact h

theorem run_notFaulty {settings : SearchSettings} (h : ¬ settings.IsFaulty)
    (actions : List Action) : ¬ (run settings actions).engine.settings.IsFaulty :=
  List.foldlRecOn (motive := fun w => ¬ w.engine.settings.IsFaulty) actions act h
    fun _ hw a _ => act_notFaulty hw a

/-- **Changes of settings.**  After any run, faulty settings are refused and nothing changes at
all.  Others become the settings of the engine; the statistics stay, and so do the indexes, unless
filters differ: then there are none.  So an engine that begins with settings that are not faulty
never has faulty ones. -/
theorem configure_atomic (initial : SearchSettings) (actions : List Action)
    (other : SearchSettings) :
    let w := run initial actions
    let after := w.act (.configure other)
    ((∃ e, w.engine.configure other = .error e) ↔
      other.effectivenessThreshold.IsOutside 0 1 ∨ other.filterSizeBytes = 0 ∨
        other.hashFunctions = 0) ∧
    (∀ e, w.engine.configure other = .error e → after = w) ∧
    (∀ g, w.engine.configure other = .ok g →
      after = ⟨w.store, g⟩ ∧ g.settings = other ∧ g.tally = w.engine.tally ∧
      (w.engine.settings.DiffersInFilters other → g.cache.entries = []) ∧
      (¬ w.engine.settings.DiffersInFilters other → g.cache = w.engine.cache)) ∧
    (¬ initial.IsFaulty → ¬ w.engine.settings.IsFaulty) := by
  intro w after
  refine ⟨?_, ?_, ?_, fun h => run_notFaulty h actions⟩
  · constructor
    · rintro ⟨e, he⟩
      by_contra hfaultless
      have hsound : ¬ other.IsFaulty := hfaultless
      obtain ⟨g, hg, _⟩ := w.engine.configure_of_not_faulty hsound
      rw [hg] at he
      cases he
    · exact w.engine.configure_of_faulty
  · intro e he
    show w.act (.configure other) = w
    simp only [act, he]
  · intro g hg
    have hsound : ¬ other.IsFaulty := by
      intro hfaulty
      obtain ⟨e, he⟩ := w.engine.configure_of_faulty hfaulty
      rw [he] at hg
      cases hg
    obtain ⟨g', hg', hkept⟩ := w.engine.configure_of_not_faulty hsound
    obtain rfl := Except.ok.inj (hg.symm.trans hg')
    refine ⟨?_, hkept⟩
    show w.act (.configure other) = ⟨w.store, g⟩
    simp only [act, hg]

/-- An engine with an index, given a threshold that is a NaN, another number of hash functions, and
a threshold that is negative zero. -/
theorem configure_atomic_after_search :
    let document := Json.Value.object [("text", .string "abc")]
    let actions : List Action :=
      [.collection (.create "c" [document]),
        .search Timing.none "c" "text" ['a', 'b', 'c'] [] none]
    let refused : SearchSettings := { effectivenessThreshold := Binary64.nan }
    let other : SearchSettings := { hashFunctions := 2 }
    let negativeZero : SearchSettings := { effectivenessThreshold := ⟨0x8000000000000000⟩ }
    let w := run {} actions
    w.engine.cache.size = 1 ∧
      (∃ e, w.engine.configure refused = .error e) ∧ w.act (.configure refused) = w ∧
      (∃ g, w.engine.configure other = .ok g ∧ g.cache.entries = []) ∧
      (∃ g, w.engine.configure negativeZero = .ok g ∧ g.settings = negativeZero ∧
        g.cache = w.engine.cache) := by
  intro document actions refused other negativeZero w
  obtain ⟨hiff, hrefused, _⟩ := configure_atomic {} actions refused
  obtain ⟨e, he⟩ := hiff.mpr (Or.inl (Or.inl (by decide)))
  have hsettings : w.engine.settings = {} := by decide +kernel
  have hother : (w.engine.configure other).isOk = true := by decide +kernel
  have hzero : (w.engine.configure negativeZero).isOk = true := by decide +kernel
  refine ⟨by decide +kernel, ⟨e, he⟩, hrefused e he, ?_, ?_⟩
  · cases hg : w.engine.configure other with
    | error e =>
        rw [hg] at hother
        cases hother
    | ok g =>
        obtain ⟨_, _, _, hempty, _⟩ := (configure_atomic {} actions other).2.2.1 g hg
        refine ⟨g, rfl, hempty ?_⟩
        rw [← SearchSettings.invalidatesIndexes_iff]
        show w.engine.settings.invalidatesIndexes other = true
        rw [hsettings]
        decide
  · cases hg : w.engine.configure negativeZero with
    | error e =>
        rw [hg] at hzero
        cases hzero
    | ok g =>
        obtain ⟨_, hchanged, _, _, hkept⟩ :=
          (configure_atomic {} actions negativeZero).2.2.1 g hg
        refine ⟨g, rfl, hchanged, hkept ?_⟩
        rw [← SearchSettings.invalidatesIndexes_iff]
        show ¬ w.engine.settings.invalidatesIndexes negativeZero = true
        rw [hsettings]
        decide

end SearchSession
end TrigramSearch
