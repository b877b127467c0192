import Mathlib.Algebra.GroupWithZero.Nat
import Mathlib.Algebra.Order.BigOperators.Group.List
import Mathlib.Algebra.Order.Group.Nat
import TrigramSearch.Proofs.Pattern.Appending
import TrigramSearch.Proofs.Pattern.Scanning

/-!
# Where literals come from

The pass adds characters to a run only while it reads text: characters that stand
for themselves and escaped punctuation.  Everything else ends the run.  So the
current run is spelled by the part of the pattern in front of the place where the
pass stands, and every finished run by a part further to the left; no two of these
parts overlap (`DrawsOn`, `Drawn`).  A repetition takes back the last character of
the current run together with what spells it, which may be two characters of the
pattern, and the rest of the run is still spelled by one part.

Nothing is asked of the pattern: the pass has no idea whether it is well formed.

## Main results

* `Scanned.drawsOn` — what a step of the pass does to the parts that spell the runs.
* `exists_drawn` — the runs of a pass are drawn from separate parts of the pattern.
* `literals_provenance` — the same for literals, and what follows for their
  number and length.
-/

namespace TrigramSearch.Literals

/-! ## Spelling -/

/-- How text is spelled in a pattern: punctuation may be escaped, other than `<` and `>`, and what
is not escaped is no metacharacter, or one that closes and has nothing to close. -/
inductive Spells : List Char → List Char → Prop where
  | nil : Spells [] []
  | plain {c : Char} {factor l : List Char} (hc : c ∉ metacharacters ∨ c = ']' ∨ c = '\x7d')
      (h : Spells factor l) : Spells (c :: factor) (c :: l)
  | escaped {c : Char} {factor l : List Char} (hc : isAsciiPunctuation c = true)
      (hname : c ≠ '<' ∧ c ≠ '>') (h : Spells factor l) : Spells ('\\' :: c :: factor) (c :: l)

theorem Spells.append {factor factor' l l' : List Char} (h : Spells factor l)
    (h' : Spells factor' l') : Spells (factor ++ factor') (l ++ l') := by
  induction h with
  | nil => exact h'
  | plain hc _ ih => exact .plain hc ih
  | escaped hc hname _ ih => exact .escaped hc hname ih

/-- What spells a text can be cut where the text is. -/
theorem Spells.split {factor l l' : List Char} (h : Spells factor (l ++ l')) :
    ∃ before after, factor = before ++ after ∧ Spells before l ∧ Spells after l' := by
  induction l generalizing factor with
  | nil => exact ⟨[], factor, rfl, .nil, h⟩
  | cons c l ih =>
      cases h with
      | plain hc h =>
          obtain ⟨before, after, rfl, hbefore, hafter⟩ := ih h
          exact ⟨c :: before, after, rfl, .plain hc hbefore, hafter⟩
      | escaped hc hname h =>
          obtain ⟨before, after, rfl, hbefore, hafter⟩ := ih h
          exact ⟨'\\' :: c :: before, after, rfl, .escaped hc hname hbefore, hafter⟩

theorem Spells.length_le {factor l : List Char} (h : Spells factor l) :
    l.length ≤ factor.length := by
  induction h with
  | nil => exact Nat.le_refl 0
  | plain _ _ ih => exact Nat.succ_le_succ ih
  | escaped _ _ _ ih => exact Nat.le_succ_of_le (Nat.succ_le_succ ih)

/-! ## Places -/

/-- The pass over a pattern comes to a place, given by what is left there. -/
inductive Reaches (pattern : List Char) : List Char → Prop where
  | start : Reaches pattern pattern
  | step {asciiOnly : Bool} {runs runs' : Runs} {c : Char} {rest rest' : List Char}
      (h : Reaches pattern (c :: rest)) (hstep : Scanned asciiOnly runs rest c runs' rest') :
      Reaches pattern rest'

/-- A step of the pass leaves a later part of the pattern. -/
theorem Scanned.suffix {asciiOnly : Bool} {runs runs' : Runs} {c : Char} {rest rest' : List Char}
    (h : Scanned asciiOnly runs rest c runs' rest') : rest' <:+ rest := by
  cases h with
  | group h => exact (List.suffix_cons ')' _).trans (skipGroup_suffix h)
  | charClass h => exact (List.suffix_cons ']' _).trans (skipClass_suffix h)
  | text _ hrest => exact hrest ▸ List.suffix_cons _ _
  | escape _ hrest => exact hrest ▸ (skipPayload_suffix _ _).trans (List.suffix_cons _ _)
  | drop => exact List.suffix_refl rest
  | counts => exact skipPast_suffix '\x7d' rest
  | flush => exact List.suffix_refl rest
  | literal => exact List.suffix_refl rest

theorem escapeIsText_iff {c : Char} :
    escapeIsText c = true ↔ isAsciiPunctuation c = true ∧ c ≠ '<' ∧ c ≠ '>' := by
  simp [escapeIsText, and_assoc]

/-- The pass takes two metacharacters as text. -/
theorem not_mem_passMarks_iff {c : Char} :
    c ∉ passMarks ↔ c ∉ metacharacters ∨ c = ']' ∨ c = '\x7d' := by
  have hmarks : ∀ d ∈ passMarks, d ∈ metacharacters := by simp [passMarks, metacharacters]
  have hothers : ∀ d ∈ metacharacters, d ∈ passMarks ∨ d = ']' ∨ d = '\x7d' := by
    simp [passMarks, metacharacters]
  constructor
  · intro h
    by_cases hmeta : c ∈ metacharacters
    · exact Or.inr ((hothers c hmeta).resolve_left h)
    · exact Or.inl hmeta
  · rintro (h | rfl | rfl)
    · exact fun hmark => h (hmarks c hmark)
    · decide
    · decide

section
variable {pattern : List Char} {runs runs' : Runs} {s : List Char} {c : Char}

theorem Reaches.suffix (h : Reaches pattern s) : s <:+ pattern := by
  induction h with
  | start => exact List.suffix_refl pattern
  | step _ hstep ih => exact (hstep.suffix.trans (List.suffix_cons _ _)).trans ih

/-- The pass goes on over what spells a text, and comes to its end. -/
theorem Reaches.spelled {factor l after : List Char} (hspells : Spells factor l)
    (h : Reaches pattern (factor ++ after)) : Reaches pattern after := by
  induction hspells with
  | nil => exact h
  | @plain c factor _ hc _ ih =>
      have hstep : Scanned false Runs.none (factor ++ after) c (Runs.none.push false c)
          (factor ++ after) := .literal (not_mem_passMarks_iff.mpr hc)
      exact ih (h.step hstep)
  | @escaped c factor _ hc hname _ ih =>
      have hstep : Scanned false Runs.none (c :: factor ++ after) '\\' (Runs.none.push false c)
          (factor ++ after) := .text (escapeIsText_iff.mpr ⟨hc, hname⟩) rfl
      exact ih (h.step hstep)

/-! ## Runs and what spells them -/

/-- Finished runs, the last one first, that are spelled by separate parts of the pattern, in front
of what is left. -/
inductive Drawn (pattern : List Char) : List (List Char) → List Char → Prop where
  | start : Drawn pattern [] pattern
  | gap {finished : List (List Char)} {skipped rest : List Char}
      (h : Drawn pattern finished (skipped ++ rest)) : Drawn pattern finished rest
  | run {finished : List (List Char)} {factor l rest : List Char}
      (h : Drawn pattern finished (factor ++ rest)) (hplace : Reaches pattern (factor ++ rest))
      (hspells : Spells factor l) (hne : l ≠ []) : Drawn pattern (l :: finished) rest

/-- The current run is spelled by the part of the pattern in front of what is left, and the
finished ones by parts in front of that. -/
def DrawsOn (pattern : List Char) (runs : Runs) (s : List Char) : Prop :=
  Reaches pattern s ∧ ∃ factor, Drawn pattern runs.finished (factor ++ s) ∧
    Reaches pattern (factor ++ s) ∧ Spells factor runs.current.reverse

theorem Drawn.length_le {finished : List (List Char)} (h : Drawn pattern finished s) :
    (finished.map List.length).sum + s.length ≤ pattern.length := by
  induction h with
  | start => simp
  | gap _ ih =>
      rw [List.length_append] at ih
      omega
  | run _ _ hspells _ ih =>
      have hle := hspells.length_le
      rw [List.length_append] at ih
      rw [List.map_cons, List.sum_cons]
      omega

/-- Where a run that is drawn from the pattern comes from. -/
theorem Drawn.exists_factor {finished : List (List Char)} (h : Drawn pattern finished s)
    {l : List Char} (hl : l ∈ finished) :
    l ≠ [] ∧ ∃ before factor after, pattern = before ++ factor ++ after ∧ Spells factor l ∧
      Reaches pattern (factor ++ after) ∧ Reaches pattern after := by
  induction h with
  | start => cases hl
  | gap _ ih => exact ih hl
  | @run finished factor l' rest _ hplace hspells hne ih =>
      rcases List.mem_cons.mp hl with rfl | hold
      · obtain ⟨before, hbefore⟩ := hplace.suffix
        refine ⟨hne, before, factor, rest, ?_, hspells, hplace, hplace.spelled hspells⟩
        rw [← hbefore, List.append_assoc]
      · exact ih hold

/-- When the current run ends, it is one of those that are drawn from the pattern. -/
theorem DrawsOn.flush (h : DrawsOn pattern runs s) : Drawn pattern runs.flush.finished s := by
  obtain ⟨_, factor, hdrawn, hplace, hspells⟩ := h
  rw [Runs.flush]
  split
  · exact hdrawn.gap
  · rename_i hcurrent
    exact hdrawn.run hplace hspells (by simpa using hcurrent)

/-- Between two runs the pass may go on as it likes. -/
theorem Drawn.drawsOn {finished : List (List Char)} {s' : List Char}
    (h : Drawn pattern finished s) (hsuffix : s' <:+ s) (hplace : Reaches pattern s') :
    DrawsOn pattern ⟨[], finished⟩ s' := by
  obtain ⟨skipped, rfl⟩ := hsuffix
  exact ⟨hplace, [], h.gap, hplace, .nil⟩

theorem DrawsOn.flush_drawsOn {s' : List Char} (h : DrawsOn pattern runs s) (hsuffix : s' <:+ s)
    (hplace : Reaches pattern s') : DrawsOn pattern runs.flush s' := by
  rw [flush_eq runs]
  exact h.flush.drawsOn hsuffix hplace

/-- A character joins the current run together with what spells it, or ends the run. -/
theorem DrawsOn.push {asciiOnly : Bool} (spelling : List Char)
    (h : DrawsOn pattern runs (spelling ++ s)) (hspells : Spells spelling [c])
    (hplace : Reaches pattern s) : DrawsOn pattern (runs.push asciiOnly c) s := by
  rw [Runs.push]
  split
  · exact h.flush_drawsOn (List.suffix_append spelling s) hplace
  · obtain ⟨_, factor, hdrawn, hstart, hcurrent⟩ := h
    rw [← List.append_assoc] at hdrawn hstart
    refine ⟨hplace, factor ++ spelling, hdrawn, hstart, ?_⟩
    rw [List.reverse_cons]
    exact hcurrent.append hspells

/-- A repetition takes back the last character of the current run together with what spells it. -/
theorem DrawsOn.dropLast {s' : List Char} (h : DrawsOn pattern runs s) (hsuffix : s' <:+ s)
    (hplace : Reaches pattern s') : DrawsOn pattern runs.dropLast s' := by
  obtain ⟨current, finished⟩ := runs
  cases current with
  | nil => exact h.flush_drawsOn hsuffix hplace
  | cons c current =>
      obtain ⟨_, factor, hdrawn, hstart, hcurrent⟩ := h
      rw [List.reverse_cons] at hcurrent
      obtain ⟨before, spelling, rfl, hbefore, _⟩ := hcurrent.split
      rw [List.append_assoc] at hdrawn hstart
      have hshorter : DrawsOn pattern ⟨current, finished⟩ (spelling ++ s) :=
        ⟨hstart.spelled hbefore, before, hdrawn, hstart, hbefore⟩
      exact hshorter.flush_drawsOn (hsuffix.trans (List.suffix_append spelling s)) hplace

/-- The parts that spell the runs after a step of the pass. -/
theorem Scanned.drawsOn {asciiOnly : Bool} {rest rest' : List Char}
    (hstep : Scanned asciiOnly runs rest c runs' rest') (h : DrawsOn pattern runs (c :: rest)) :
    DrawsOn pattern runs' rest' := by
  have hplace : Reaches pattern rest' := h.1.step hstep
  have hsuffix : rest' <:+ c :: rest := hstep.suffix.trans (List.suffix_cons c rest)
  cases hstep with
  | group => exact h.flush_drawsOn hsuffix hplace
  | charClass => exact h.flush_drawsOn hsuffix hplace
  | @text e _ he hrest =>
      subst hrest
      obtain ⟨hpunctuation, hname⟩ := escapeIsText_iff.mp he
      exact DrawsOn.push ['\\', e] h (.escaped hpunctuation hname .nil) hplace
  | escape => exact h.flush_drawsOn hsuffix hplace
  | drop => exact h.dropLast hsuffix hplace
  | counts => exact h.dropLast hsuffix hplace
  | flush => exact h.flush_drawsOn hsuffix hplace
  | literal hc =>
      exact DrawsOn.push [c] h (.plain (not_mem_passMarks_iff.mp hc) .nil) hplace

end

/-- The runs of a pass are drawn from separate parts of the pattern, in pattern order. -/
theorem exists_drawn {asciiOnly : Bool} {pattern : List Char} {literals : List (List Char)}
    (h : scan? asciiOnly pattern = some literals) :
    ∃ rest, Drawn pattern literals.reverse rest := by
  have hstart : DrawsOn pattern Runs.none pattern :=
    Drawn.start.drawsOn (List.suffix_refl pattern) .start
  obtain ⟨runs, hruns, rfl⟩ :=
    scanFrom_invariant (P := DrawsOn pattern) (fun hbefore hstep => hstep.drawsOn hbefore) hstart h
  rw [Runs.toList, List.reverse_reverse]
  exact ⟨[], hruns.flush⟩

/-! ## Literals -/

/-- What is left without repetitions is part of the list, in its order. -/
private theorem eraseDups_nodup_sublist {α : Type*} [BEq α] [LawfulBEq α] (xs : List α) :
    xs.eraseDups.Nodup ∧ xs.eraseDups.Sublist xs := by
  induction hlength : xs.length using Nat.strongRecOn generalizing xs with
  | _ n ih =>
      cases xs with
      | nil => exact ⟨List.nodup_nil, List.Sublist.refl []⟩
      | cons x xs =>
          have hshorter : (xs.filter fun y => !y == x).length < n := by
            rw [← hlength]
            exact Nat.lt_succ_of_le (List.length_filter_le _ xs)
          obtain ⟨hnodup, hsublist⟩ := ih _ hshorter _ rfl
          rw [List.eraseDups_cons]
          refine ⟨List.nodup_cons.mpr ⟨?_, hnodup⟩,
            (hsublist.trans List.filter_sublist).cons_cons x⟩
          simp

/-- **Provenance.**  The literals of a pattern, which may be malformed, are distinct and together
not longer than the pattern.  None is empty, and where case is ignored they consist of ASCII
characters.  Each is spelled by one part of the pattern, and the pass comes to both ends of that
part: it does not begin or end within a group, a class or an escape that the pass goes over. -/
theorem literals_provenance (pattern : List Char) (options : MatchOptions) :
    let literals := (ofPattern pattern options).literals
    literals.Nodup ∧ (literals.map List.length).sum ≤ pattern.length ∧
      ∀ l ∈ literals, l ≠ [] ∧ (options.caseInsensitive = true → ∀ c ∈ l, c.toNat < 128) ∧
        ∃ before factor after, pattern = before ++ factor ++ after ∧ Spells factor l ∧
          Reaches pattern (factor ++ after) ∧ Reaches pattern after := by
  intro literals
  rcases literals_cases pattern options with hnone | ⟨_, runs, hscan, hliterals⟩
  · have hempty : literals = [] := hnone
    simp [hempty]
  · have hdistinct : literals = runs.eraseDups := hliterals
    obtain ⟨rest, hdrawn⟩ := exists_drawn hscan
    obtain ⟨hnodup, hsublist⟩ := eraseDups_nodup_sublist runs
    have hruns : (runs.map List.length).sum ≤ pattern.length := by
      have hle := hdrawn.length_le
      rw [List.map_reverse, List.sum_reverse] at hle
      omega
    have hfewer : (literals.map List.length).sum ≤ (runs.map List.length).sum := by
      rw [hdistinct]
      exact (hsublist.map List.length).sum_le_sum fun _ _ => Nat.zero_le _
    refine ⟨hdistinct ▸ hnodup, Nat.le_trans hfewer hruns, ?_⟩
    intro l hl
    rw [hdistinct, List.mem_eraseDups] at hl
    obtain ⟨hne, hfactor⟩ := hdrawn.exists_factor (List.mem_reverse.mpr hl)
    refine ⟨hne, ?_, hfactor⟩
    intro hcase
    rw [hcase] at hscan
    exact scan?_ascii hscan l hl

/-- A pattern with escaped punctuation, a group, brackets that close nothing, and a repetition that
takes back an escaped character. -/
theorem literals_provenance_escaped :
    let pattern := "é\\.a(b)c\\]*\x7d\\x41]".toList
    let literals := (ofPattern pattern { caseInsensitive := true }).literals
    literals = [".a".toList, "c".toList, "\x7d".toList, "]".toList] ∧ literals.Nodup ∧
      (literals.map List.length).sum ≤ 17 ∧ ".a".toList ∈ literals ∧
      (∀ c ∈ ".a".toList, c.toNat < 128) ∧
      ∃ before factor after, pattern = before ++ factor ++ after ∧ Spells factor ".a".toList ∧
        Reaches pattern (factor ++ after) ∧ Reaches pattern after := by
  intro pattern literals
  have hliterals : literals = [".a".toList, "c".toList, "\x7d".toList, "]".toList] := by
    decide +kernel
  have hmem : ".a".toList ∈ literals := by
    rw [hliterals]
    exact List.mem_cons_self
  obtain ⟨hnodup, hlength, hall⟩ := literals_provenance pattern { caseInsensitive := true }
  obtain ⟨_, hascii, hfactor⟩ := hall _ hmem
  exact ⟨hliterals, hnodup, hlength, hmem, hascii rfl, hfactor⟩

end TrigramSearch.Literals
