import TrigramSearch.Pattern.Literals
import TrigramSearch.Regex.Parser

/-!
# Escapes and repetitions end where the pass expects it

Outside of the extended syntax, what belongs to an escape or to a counted
repetition is found by the pass without reading it: a number of characters, or
everything up to a closing brace.  The parser reads it character by character,
and comes to the same place.

## Main results

* `repetitionCounts_rest` — a counted repetition ends after the next closing
  brace, and after the sign that makes it lazy.
* `escape_rest` — an escape ends where the pass goes on; only the name of a word
  assertion is left to the pass as if it were a repetition.
* `escape_of_text`, `escape_text` — an escape that the pass takes as text is this
  character.
-/

namespace TrigramSearch.Literals

open Regex Regex.Parser

private theorem skipBlanks_false (s : List Char) : skipBlanks false s = s := rfl

/-! ## Up to a brace -/

theorem skipPast_of_ne {stop c : Char} (hc : c ≠ stop) (s : List Char) :
    skipPast stop (c :: s) = skipPast stop s := by
  rw [skipPast, if_neg hc]

theorem skipPast_self (stop : Char) (s : List Char) : skipPast stop (stop :: s) = s := by
  rw [skipPast, if_pos rfl]

/-- A character of a kind that the closing one is not of. -/
private theorem ne_stop {p : Char → Bool} {stop c : Char} (hstop : p stop = false)
    (hc : p c = true) : c ≠ stop := by
  rintro rfl
  rw [hstop] at hc
  cases hc

private theorem skipPast_dropWhile {stop : Char} {p : Char → Bool} (hp : p stop = false)
    (s : List Char) : skipPast stop (s.dropWhile p) = skipPast stop s := by
  induction s with
  | nil => rfl
  | cons c s ih =>
      rw [List.dropWhile_cons]
      split
      · rename_i hc
        rw [skipPast_of_ne (ne_stop hp hc), ih]
      · rfl

private theorem skipPast_decimalDigits (fuel : Nat) (read s : List Char) :
    skipPast '\x7d' (decimalDigits false fuel read s).2 = skipPast '\x7d' s := by
  induction fuel generalizing read s with
  | zero => rfl
  | succ fuel ih =>
      cases s with
      | nil => rfl
      | cons c rest =>
          rw [decimalDigits]
          split
          · rename_i hc
            rw [ih, skipPast_of_ne (ne_stop (p := Char.isDigit) rfl hc)]
            rfl
          · rfl

private theorem skipPast_skipSpaces (fuel : Nat) (s : List Char) :
    skipPast '\x7d' (skipSpaces false fuel s) = skipPast '\x7d' s := by
  induction fuel generalizing s with
  | zero => rfl
  | succ fuel ih =>
      cases s with
      | nil => rfl
      | cons c rest =>
          rw [skipSpaces]
          split
          · rename_i hc
            rw [ih, skipPast_of_ne (ne_stop (p := Text.isWhiteSpace) (by decide) hc)]
            rfl
          · rfl

private theorem skipPast_decimal (s : List Char) :
    skipPast '\x7d' (decimal false s).2 = skipPast '\x7d' s := by
  have hspaces : (decimal false s).2 =
      skipSpaces false
        ((decimalDigits false ((s.dropWhile Text.isWhiteSpace).length + 1) []
          (s.dropWhile Text.isWhiteSpace)).2.length + 1)
        (decimalDigits false ((s.dropWhile Text.isWhiteSpace).length + 1) []
          (s.dropWhile Text.isWhiteSpace)).2 := by
    simp only [decimal]
    split
    · rfl
    · split <;> rfl
  rw [hspaces, skipPast_skipSpaces, skipPast_decimalDigits, skipPast_dropWhile (by decide)]

/-- A counted repetition ends after the next closing brace, and after the sign that makes it
lazy. -/
theorem repetitionCounts_rest {s rest : List Char} {r : Repetition}
    (h : repetitionCounts false s = .ok (r, rest)) :
    rest = (greediness (skipPast '\x7d' s)).2 := by
  have hfirst := skipPast_decimal s
  rw [repetitionCounts] at h
  dsimp only [skipBlanks_false] at h
  repeat' split at h
  all_goals cases h
  · rename_i after _ hcomma _ _ _ _ rest hbrace
    obtain rfl := (List.cons.inj hbrace).2
    rw [← hfirst, hcomma, skipPast_of_ne (by decide), skipPast_self]
  · rename_i second hcomma _ _ _ _ _ _ _ _ _ rest hsecond _
    have hlater := skipPast_decimal second
    rw [hsecond, skipPast_self] at hlater
    rw [← hfirst, hcomma, skipPast_of_ne (by decide), ← hlater]
  · rename_i rest hbrace _
    rw [← hfirst, hbrace, skipPast_self]

/-! ## Escapes -/

private theorem hexUntilBrace_rest {fuel : Nat} {read s ds rest : List Char}
    (h : hexUntilBrace false fuel read s = .ok (ds, rest)) : rest = skipPast '\x7d' s := by
  induction fuel generalizing read s with
  | zero => cases h
  | succ fuel ih =>
      cases s with
      | nil => cases h
      | cons c s =>
          rw [hexUntilBrace] at h
          dsimp only [skipBlanks_false] at h
          split at h
          · rename_i hc
            subst hc
            obtain ⟨_, rfl⟩ := Prod.mk.inj (Except.ok.inj h)
            rw [skipPast_self]
          · rename_i hc
            rw [skipPast_of_ne hc]
            split at h
            · exact ih h
            · cases h

private theorem textUntilBrace_rest {fuel : Nat} {read s text rest : List Char}
    (h : textUntilBrace false fuel read s = .ok (text, rest)) : rest = skipPast '\x7d' s := by
  induction fuel generalizing read s with
  | zero => cases h
  | succ fuel ih =>
      cases s with
      | nil => cases h
      | cons c s =>
          rw [textUntilBrace] at h
          dsimp only [skipBlanks_false] at h
          split at h
          · rename_i hc
            subst hc
            obtain ⟨_, rfl⟩ := Prod.mk.inj (Except.ok.inj h)
            rw [skipPast_self]
          · rename_i hc
            rw [skipPast_of_ne hc]
            exact ih h

private theorem hexDigits_rest {count : Nat} {read s ds rest : List Char}
    (h : hexDigits false count read s = .ok (ds, rest)) : rest = s.drop count := by
  induction count generalizing read s with
  | zero =>
      obtain ⟨_, rfl⟩ := Prod.mk.inj (Except.ok.inj h)
      rw [List.drop_zero]
  | succ count ih =>
      cases s with
      | nil => cases h
      | cons c s =>
          rw [hexDigits] at h
          dsimp only [skipBlanks_false] at h
          split at h
          · exact ih h
          · cases h

private theorem skipPast_boundaryName (fuel : Nat) (read s : List Char) :
    skipPast '\x7d' (boundaryName false fuel read s).2 = skipPast '\x7d' s := by
  induction fuel generalizing read s with
  | zero => rfl
  | succ fuel ih =>
      cases s with
      | nil => rfl
      | cons c rest =>
          rw [boundaryName]
          split
          · rename_i hc
            rw [ih, skipPast_of_ne (ne_stop (p := isBoundaryChar) (by decide) hc)]
            rfl
          · rfl

private theorem hexLiteral_rest {isByte : Bool} {ds s rest : List Char} {p : Primitive}
    (h : hexLiteral isByte ds s = .ok (p, rest)) : rest = s := by
  rw [hexLiteral] at h
  split at h
  · exact (Prod.mk.inj (Except.ok.inj h)).2.symm
  · cases h

private theorem hexEscape_rest {kind : Char} {s rest : List Char} {p : Primitive}
    (hkind : kind = 'x' ∨ kind = 'u' ∨ kind = 'U') (h : hexEscape false kind s = .ok (p, rest)) :
    rest = skipPayload kind s := by
  have hlength : payloadLength kind = if kind = 'x' then 2 else if kind = 'u' then 4 else 8 := by
    rcases hkind with rfl | rfl | rfl <;> rfl
  have hpositive : payloadLength kind ≠ 0 := by
    rcases hkind with rfl | rfl | rfl <;> decide
  rw [hexEscape] at h
  dsimp only [skipBlanks_false] at h
  rw [skipPayload.eq_def, if_neg hpositive]
  split at h
  · cases h
  · split at h
    · cases h
    · cases h
    · rename_i hdigits
      rw [hexLiteral_rest h]
      exact hexUntilBrace_rest hdigits
  · rename_i hbrace
    split at h
    · cases h
    · rename_i hdigits
      rw [hexLiteral_rest h, hexDigits_rest hdigits, ← hlength]
      split
      · exact absurd rfl (hbrace _)
      · rfl

private theorem propertyEscape_rest {kind : Char} {negated : Bool} {s rest : List Char}
    {p : Primitive} (hkind : kind = 'p' ∨ kind = 'P')
    (h : propertyEscape false negated s = .ok (p, rest)) : rest = skipPayload kind s := by
  have hlength : payloadLength kind = 1 := by
    rcases hkind with rfl | rfl <;> rfl
  rw [propertyEscape] at h
  dsimp only [skipBlanks_false] at h
  rw [skipPayload.eq_def, hlength, if_neg (by decide)]
  split at h
  · cases h
  · split at h
    · cases h
    · rename_i htext
      obtain ⟨_, rfl⟩ := Prod.mk.inj (Except.ok.inj h)
      exact textUntilBrace_rest htext
  · rename_i c tail hbrace
    split at h
    · cases h
    · obtain ⟨_, rfl⟩ := Prod.mk.inj (Except.ok.inj h)
      split
      · rename_i heq
        exact (hbrace (List.cons.inj heq).1).elim
      · rfl

/-- The name of a word assertion is in braces, and ends with them. -/
private theorem wordEscape_rest {s rest : List Char} {p : Primitive}
    (h : wordEscape false s = .ok (p, rest)) :
    rest = s ∨ ∃ tail, s = '\x7b' :: tail ∧ rest = skipPast '\x7d' tail := by
  rw [wordEscape.eq_def] at h
  dsimp only [skipBlanks_false] at h
  split at h
  · split at h
    · cases h
    · rename_i c tail
      split at h
      · exact Or.inl (Prod.mk.inj (Except.ok.inj h)).2.symm
      · right
        have hname := skipPast_boundaryName (tail.length + 2) [] (c :: tail)
        split at h
        · rename_i hclosed
          rw [hclosed, skipPast_self] at hname
          refine ⟨_, rfl, ?_⟩
          rw [← hname]
          split at h
          all_goals first
            | exact (Prod.mk.inj (Except.ok.inj h)).2.symm
            | cases h
        · cases h
  · exact Or.inl (Prod.mk.inj (Except.ok.inj h)).2.symm

/-- An escape ends where the pass goes on; only the name of a word assertion is left to the pass
as if it were a repetition. -/
theorem escape_rest {e : Char} {s rest : List Char} {p : Primitive}
    (h : escape false (e :: s) = .ok (p, rest)) :
    rest = skipPayload e s ∨
      (e = 'b' ∧ ∃ tail, s = '\x7b' :: tail ∧ rest = skipPast '\x7d' tail) := by
  have hnone : payloadLength e = 0 → skipPayload e s = s := by
    intro hzero
    rw [skipPayload.eq_def, if_pos hzero]
  rw [escape] at h
  split at h
  · cases h
  split at h
  · rename_i hkind
    exact Or.inl (hexEscape_rest (by simpa [or_assoc] using hkind) h)
  rename_i hhex
  split at h
  · rename_i hkind
    exact Or.inl (propertyEscape_rest (by simpa using hkind) h)
  rename_i hproperty
  have hzero : payloadLength e = 0 := by
    simp only [Bool.or_eq_true, decide_eq_true_eq, not_or] at hhex hproperty
    simp [payloadLength, hhex, hproperty]
  rw [hnone hzero]
  split at h
  · exact Or.inl (Prod.mk.inj (Except.ok.inj h)).2.symm
  split at h
  · rename_i hword
    rcases wordEscape_rest h with hsame | hnamed
    · exact Or.inl hsame
    · exact Or.inr ⟨hword, hnamed⟩
  left
  split at h
  · exact (Prod.mk.inj (Except.ok.inj h)).2.symm
  split at h
  · exact (Prod.mk.inj (Except.ok.inj h)).2.symm
  split at h
  · exact (Prod.mk.inj (Except.ok.inj h)).2.symm
  · cases h

theorem toNat_of_text {e : Char} (he : escapeIsText e = true) : e.toNat < 128 := by
  simp only [escapeIsText, isAsciiPunctuation, Bool.and_eq_true, Bool.or_eq_true,
    decide_eq_true_eq] at he
  omega

/-- The parser takes escaped punctuation as itself, too. -/
private theorem isEscapable_of_text {e : Char} (he : escapeIsText e = true) :
    isEscapable e = true ∧ e.isDigit = false ∧ e ∉ ['x', 'u', 'U', 'p', 'P'] := by
  have hascii : ∀ n < 128, escapeIsText (Char.ofNat n) = true →
      isEscapable (Char.ofNat n) = true ∧ (Char.ofNat n).isDigit = false ∧
        Char.ofNat n ∉ ['x', 'u', 'U', 'p', 'P'] := by
    decide
  have hall := hascii e.toNat (toNat_of_text he)
  rw [Char.ofNat_toNat] at hall
  exact hall he

/-- An escape that the pass takes as text is this character. -/
theorem escape_of_text {e : Char} (he : escapeIsText e = true) (s : List Char) :
    escape false (e :: s) = .ok (.literal ⟨e, false⟩, s) := by
  obtain ⟨hescapable, hdigit, hletters⟩ := isEscapable_of_text he
  simp only [List.mem_cons, List.not_mem_nil, or_false, not_or] at hletters
  rw [escape, if_neg (by simp [hdigit]), if_neg (by simp [hletters]), if_neg (by simp [hletters]),
    if_pos hescapable]

theorem escape_text {e : Char} {s rest : List Char} {p : Primitive} (he : escapeIsText e = true)
    (h : escape false (e :: s) = .ok (p, rest)) : p = .literal ⟨e, false⟩ ∧ rest = s := by
  rw [escape_of_text he] at h
  obtain ⟨rfl, rfl⟩ := Prod.mk.inj (Except.ok.inj h)
  exact ⟨rfl, rfl⟩

end TrigramSearch.Literals
