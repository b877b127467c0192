import TrigramSearch.Pattern.Literals

/-!
# What one step of the pass can do

`Scanned` lists what the pass for literals can do at a character, and
`scanFrom_step` takes a pass that gives literals apart into such steps.

## Main results

* `scanFrom_step` — a pass that gives literals is at the end of the pattern, or
  makes a step and gives the same literals after it.
* `scanFrom_invariant` — what every step keeps holds at the end.
* `scan?_ascii` — where case is ignored, all literals consist of ASCII
  characters.
-/

namespace TrigramSearch.Literals

/-- The characters that the pass does not take as text. -/
def passMarks : List Char :=
  ['|', ')', '(', '[', '\\', '*', '?', '\x7b', '+', '.', '^', '$']

/-- What a step of the pass at a character can do to the runs and to what is left. -/
inductive Scanned (asciiOnly : Bool) (runs : Runs) (rest : List Char) :
    Char → Runs → List Char → Prop where
  | group {rest' : List Char} (h : skipGroup rest = some rest') :
      Scanned asciiOnly runs rest '(' runs.flush rest'
  | charClass {rest' : List Char} (h : skipClass rest = some rest') :
      Scanned asciiOnly runs rest '[' runs.flush rest'
  | text {e : Char} {rest' : List Char} (he : escapeIsText e = true) (hrest : rest = e :: rest') :
      Scanned asciiOnly runs rest '\\' (runs.push asciiOnly e) rest'
  | escape {e : Char} {tail : List Char} (he : escapeIsText e = false) (hrest : rest = e :: tail) :
      Scanned asciiOnly runs rest '\\' runs.flush (skipPayload e tail)
  | drop {c : Char} (hc : c = '*' ∨ c = '?') : Scanned asciiOnly runs rest c runs.dropLast rest
  | counts : Scanned asciiOnly runs rest '\x7b' runs.dropLast (skipPast '\x7d' rest)
  | flush {c : Char} (hc : c ∈ ['+', '.', '^', '$']) : Scanned asciiOnly runs rest c runs.flush rest
  | literal {c : Char} (hc : c ∉ passMarks) :
      Scanned asciiOnly runs rest c (runs.push asciiOnly c) rest

/-- A pass that gives literals is at the end of the pattern, or makes a step. -/
theorem scanFrom_step {asciiOnly : Bool} {fuel : Nat} {runs : Runs} {s : List Char}
    {literals : List (List Char)} (h : scanFrom asciiOnly fuel runs s = some literals) :
    (s = [] ∧ literals = runs.toList) ∨
      ∃ fuel' c rest runs' rest', fuel = fuel' + 1 ∧ s = c :: rest ∧
        Scanned asciiOnly runs rest c runs' rest' ∧
        scanFrom asciiOnly fuel' runs' rest' = some literals := by
  cases s with
  | nil =>
      rw [scanFrom.eq_def] at h
      exact Or.inl ⟨rfl, (Option.some.inj h).symm⟩
  | cons c rest =>
      right
      cases fuel with
      | zero => cases h
      | succ fuel =>
          rw [scanFrom.eq_def] at h
          dsimp only at h
          by_cases hend : (c = '|' || c = ')') = true
          · rw [if_pos hend] at h
            cases h
          rw [if_neg hend] at h
          by_cases hgroup : c = '('
          · rw [if_pos hgroup] at h
            subst hgroup
            split at h
            · rename_i rest' hskip
              exact ⟨fuel, _, rest, _, rest', rfl, rfl, .group hskip, h⟩
            · cases h
          rw [if_neg hgroup] at h
          by_cases hclass : c = '['
          · rw [if_pos hclass] at h
            subst hclass
            split at h
            · rename_i rest' hskip
              exact ⟨fuel, _, rest, _, rest', rfl, rfl, .charClass hskip, h⟩
            · cases h
          rw [if_neg hclass] at h
          by_cases hslash : c = '\\'
          · rw [if_pos hslash] at h
            subst hslash
            cases rest with
            | nil => cases h
            | cons e tail =>
                dsimp only at h
                split at h
                · rename_i he
                  exact ⟨fuel, _, _, _, tail, rfl, rfl, .text he rfl, h⟩
                · rename_i he
                  exact ⟨fuel, _, _, _, _, rfl, rfl, .escape (Bool.eq_false_iff.mpr he) rfl, h⟩
          rw [if_neg hslash] at h
          by_cases hdrop : (c = '*' || c = '?') = true
          · rw [if_pos hdrop] at h
            have hc : c = '*' ∨ c = '?' := by simpa using hdrop
            exact ⟨fuel, c, rest, _, rest, rfl, rfl, .drop hc, h⟩
          rw [if_neg hdrop] at h
          by_cases hbrace : c = '\x7b'
          · rw [if_pos hbrace] at h
            subst hbrace
            exact ⟨fuel, _, rest, _, _, rfl, rfl, .counts, h⟩
          rw [if_neg hbrace] at h
          by_cases hflush : (c = '+' || c = '.' || c = '^' || c = '$') = true
          · rw [if_pos hflush] at h
            have hc : c ∈ ['+', '.', '^', '$'] := by simpa [or_assoc] using hflush
            exact ⟨fuel, c, rest, _, rest, rfl, rfl, .flush hc, h⟩
          rw [if_neg hflush] at h
          have hc : c ∉ passMarks := by
            simp only [Bool.or_eq_true, decide_eq_true_eq, not_or] at hend hdrop hflush
            simp [passMarks, hend, hgroup, hclass, hslash, hdrop, hbrace, hflush]
          exact ⟨fuel, c, rest, _, rest, rfl, rfl, .literal hc, h⟩

/-- What every step keeps holds at the end of the pattern, where the literals are all runs. -/
theorem scanFrom_invariant {asciiOnly : Bool} {P : Runs → List Char → Prop}
    (hkept : ∀ {runs runs' : Runs} {c : Char} {rest rest' : List Char}, P runs (c :: rest) →
      Scanned asciiOnly runs rest c runs' rest' → P runs' rest')
    {fuel : Nat} {runs : Runs} {s : List Char} (hstart : P runs s) {literals : List (List Char)}
    (h : scanFrom asciiOnly fuel runs s = some literals) :
    ∃ runs', P runs' [] ∧ literals = runs'.toList := by
  induction fuel generalizing runs s with
  | zero =>
      rcases scanFrom_step h with ⟨rfl, hliterals⟩ | ⟨_, _, _, _, _, hfuel, _⟩
      · exact ⟨runs, hstart, hliterals⟩
      · cases hfuel
  | succ fuel ih =>
      rcases scanFrom_step h with ⟨rfl, hliterals⟩ | ⟨_, c, rest, _, _, hfuel, rfl, hstep, hrest⟩
      · exact ⟨runs, hstart, hliterals⟩
      · obtain rfl := Nat.succ.inj hfuel
        exact ih (hkept hstart hstep) hrest

/-- The literals of a pattern are the distinct runs of its pass, if that gives any and the syntax is
not extended. -/
theorem literals_cases (pattern : List Char) (options : MatchOptions) :
    (ofPattern pattern options).literals = [] ∨
      options.extended = false ∧ ∃ runs, scan? options.caseInsensitive pattern = some runs ∧
        (ofPattern pattern options).literals = runs.eraseDups := by
  rw [ofPattern]
  dsimp only
  cases options.extended with
  | true => exact Or.inl rfl
  | false =>
      cases hscan : scan? options.caseInsensitive pattern with
      | none => exact Or.inl rfl
      | some runs => exact Or.inr ⟨rfl, runs, rfl, rfl⟩

/-! ### Steps at a given character -/

section
variable {asciiOnly : Bool} {runs runs' : Runs} {rest rest' : List Char}

theorem Scanned.at_group (h : Scanned asciiOnly runs rest '(' runs' rest') :
    skipGroup rest = some rest' ∧ runs' = runs.flush := by
  cases h with
  | group h => exact ⟨h, rfl⟩
  | drop hc => exact absurd hc (by decide)
  | flush hc => exact absurd hc (by decide)
  | literal hc => exact absurd (by decide) hc

theorem Scanned.at_class (h : Scanned asciiOnly runs rest '[' runs' rest') :
    skipClass rest = some rest' ∧ runs' = runs.flush := by
  cases h with
  | charClass h => exact ⟨h, rfl⟩
  | drop hc => exact absurd hc (by decide)
  | flush hc => exact absurd hc (by decide)
  | literal hc => exact absurd (by decide) hc

/-- A bar outside of groups ends the pass. -/
theorem Scanned.at_bar (h : Scanned asciiOnly runs rest '|' runs' rest') : False := by
  cases h with
  | drop hc => exact absurd hc (by decide)
  | flush hc => exact absurd hc (by decide)
  | literal hc => exact hc (by decide)

theorem Scanned.at_escape (h : Scanned asciiOnly runs rest '\\' runs' rest') :
    ∃ e tail, rest = e :: tail ∧
      ((escapeIsText e = true ∧ runs' = runs.push asciiOnly e ∧ rest' = tail) ∨
        (escapeIsText e = false ∧ runs' = runs.flush ∧ rest' = skipPayload e tail)) := by
  cases h with
  | @text e _ he hrest => exact ⟨e, rest', hrest, Or.inl ⟨he, rfl, rfl⟩⟩
  | @escape e tail he hrest => exact ⟨e, tail, hrest, Or.inr ⟨he, rfl, rfl⟩⟩
  | drop hc => exact absurd hc (by decide)
  | flush hc => exact absurd hc (by decide)
  | literal hc => exact absurd (by decide) hc

theorem Scanned.at_drop {c : Char} (hc : c = '*' ∨ c = '?')
    (h : Scanned asciiOnly runs rest c runs' rest') : runs' = runs.dropLast ∧ rest' = rest := by
  cases h with
  | drop _ => exact ⟨rfl, rfl⟩
  | flush hflush => rcases hc with rfl | rfl <;> exact absurd hflush (by decide)
  | literal hno => rcases hc with rfl | rfl <;> exact absurd (by decide) hno
  | _ => exact absurd hc (by decide)

theorem Scanned.at_counts (h : Scanned asciiOnly runs rest '\x7b' runs' rest') :
    runs' = runs.dropLast ∧ rest' = skipPast '\x7d' rest := by
  cases h with
  | counts => exact ⟨rfl, rfl⟩
  | drop hc => exact absurd hc (by decide)
  | flush hc => exact absurd hc (by decide)
  | literal hc => exact absurd (by decide) hc

theorem Scanned.at_flush {c : Char} (hc : c ∈ ['+', '.', '^', '$'])
    (h : Scanned asciiOnly runs rest c runs' rest') : runs' = runs.flush ∧ rest' = rest := by
  cases h with
  | flush _ => exact ⟨rfl, rfl⟩
  | drop hdrop => rcases hdrop with rfl | rfl <;> exact absurd hc (by decide)
  | literal hno =>
      simp only [List.mem_cons, List.not_mem_nil, or_false] at hc
      rcases hc with rfl | rfl | rfl | rfl <;> exact absurd (by decide) hno
  | _ => exact absurd hc (by decide)

theorem Scanned.at_literal {c : Char} (hc : c ∉ passMarks)
    (h : Scanned asciiOnly runs rest c runs' rest') :
    runs' = runs.push asciiOnly c ∧ rest' = rest := by
  cases h with
  | literal _ => exact ⟨rfl, rfl⟩
  | drop hdrop => rcases hdrop with rfl | rfl <;> exact absurd (by decide) hc
  | flush hflush =>
      simp only [List.mem_cons, List.not_mem_nil, or_false] at hflush
      rcases hflush with rfl | rfl | rfl | rfl <;> exact absurd (by decide) hc
  | _ => exact absurd (by decide) hc

end

/-! ## ASCII -/

namespace Runs

/-- All characters of all runs satisfy a condition. -/
def All (P : Char → Prop) (r : Runs) : Prop :=
  (∀ c ∈ r.current, P c) ∧ ∀ l ∈ r.finished, ∀ c ∈ l, P c

theorem All.flush {P : Char → Prop} {r : Runs} (h : r.All P) : r.flush.All P := by
  rw [Runs.flush]
  split
  · exact h
  · refine ⟨by simp, ?_⟩
    intro l hl
    rcases List.mem_cons.mp hl with rfl | hold
    · intro c hc
      exact h.1 c (List.mem_reverse.mp hc)
    · exact h.2 l hold

theorem All.dropLast {P : Char → Prop} {r : Runs} (h : r.All P) : r.dropLast.All P :=
  All.flush ⟨fun c hc => h.1 c (List.mem_of_mem_tail hc), h.2⟩

theorem All.toList {P : Char → Prop} {r : Runs} (h : r.All P) :
    ∀ l ∈ r.toList, ∀ c ∈ l, P c := by
  intro l hl
  exact h.flush.2 l (List.mem_reverse.mp hl)

theorem All.push {r : Runs} (h : r.All (·.toNat < 128)) (c : Char) :
    (r.push true c).All (·.toNat < 128) := by
  rw [Runs.push]
  split
  · exact h.flush
  · rename_i hc
    refine ⟨?_, h.2⟩
    intro x hx
    rcases List.mem_cons.mp hx with rfl | hold
    · simpa using hc
    · exact h.1 x hold

end Runs

theorem Scanned.ascii {runs runs' : Runs} {c : Char} {rest rest' : List Char}
    (hstep : Scanned true runs rest c runs' rest') (h : runs.All (·.toNat < 128)) :
    runs'.All (·.toNat < 128) := by
  cases hstep with
  | group => exact h.flush
  | charClass => exact h.flush
  | text => exact h.push _
  | escape => exact h.flush
  | drop => exact h.dropLast
  | counts => exact h.dropLast
  | flush => exact h.flush
  | literal => exact h.push c

/-- Where case is ignored, all literals consist of ASCII characters. -/
theorem scan?_ascii {pattern : List Char} {literals : List (List Char)}
    (h : scan? true pattern = some literals) : ∀ l ∈ literals, ∀ c ∈ l, c.toNat < 128 := by
  have hstart : Runs.none.All (·.toNat < 128) := ⟨by simp [Runs.none], by simp [Runs.none]⟩
  obtain ⟨runs, hruns, rfl⟩ :=
    scanFrom_invariant (P := fun runs _ => runs.All (·.toNat < 128))
      (fun hbefore hstep => hstep.ascii hbefore) hstart h
  exact hruns.toList

end TrigramSearch.Literals
