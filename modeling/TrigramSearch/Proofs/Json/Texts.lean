import Mathlib.Data.List.Forall2
import TrigramSearch.Proofs.Json.Grammar

/-!
# Whole texts of JSON

A whole text is read as a value exactly if it is a spelling of the value with blanks
around it.  The levels of arrays and objects it may have are a bound on the reader; the
same reader with another bound (`readWithin`) tells the texts apart by the levels that
they need.

## Main results

* `readWithin_eq_ok_iff`: **the texts that are read as a value within a limit are its
  spellings, with blanks around them and fewer levels than the limit.**
* `readChars_concat`: a blank at the end makes no difference.
* `readChars_array`: **texts joined by commas, between brackets, are read as the array
  of what they are read as**, with one level more.
-/

namespace TrigramSearch.Json

/-- A text that is a spelling of a value with blanks around it, with at most so many levels. -/
def IsText (levels : Nat) (s : List Char) (v : Value) : Prop :=
  ∃ b p b', s = b ++ (p ++ b') ∧ Blank b ∧ Blank b' ∧ Spells .value levels p v

/-- The reader with another limit in the place of `depthLimit`. -/
def readWithin (limit : Nat) (s : List Char) : Except ReadError Value :=
  match value (2 * s.length + 2) limit s with
  | .error e => .error e
  | .ok (v, rest) => if (skipSpace rest).isEmpty then .ok v else .error .trailingCharacters

theorem readWithin_depthLimit (s : List Char) : readWithin depthLimit s = readChars s := rfl

theorem skipSpace_eq_nil_iff {s : List Char} : skipSpace s = [] ↔ Blank s := by
  rw [skipSpace, List.dropWhile_eq_nil_iff]
  rfl

/-- The texts that are read are the spellings of values that have not too many levels. -/
theorem readWithin_eq_ok_iff {levels : Nat} {s : List Char} {v : Value} :
    readWithin (levels + 1) s = .ok v ↔ IsText levels s v := by
  constructor
  · intro h
    rw [readWithin] at h
    split at h
    · exact nomatch h
    rename_i w rest hread
    split_ifs at h with hrest
    obtain rfl := Except.ok.inj h
    obtain ⟨b, p, hs, hb, hp⟩ := exists_spells_value (readsSpellings _) hread
    exact ⟨b, p, rest, hs, hb, skipSpace_eq_nil_iff.mp (List.isEmpty_iff.mp hrest), hp⟩
  · rintro ⟨b, p, b', rfl, hb, hb', hp⟩
    have hend : NumberEnd b' := by
      cases b' with
      | nil => exact .nil
      | cons c b' =>
          exact headNot_cons_iff.mpr (continuesNumber_of_isSpace (hb' c List.mem_cons_self))
    have hread : Json.value (2 * (b ++ (p ++ b')).length + 2) (levels + 1) (b ++ (p ++ b')) =
        .ok (v, b') := by
      have hfuel : p.length ≤ 2 * (b ++ (p ++ b')).length + 2 := by
        rw [List.length_append, List.length_append]
        omega
      rw [value_blank hb hp.headNot_append]
      exact hp.reads hfuel (Nat.lt_succ_self levels) hend
    simp only [readWithin, hread, skipSpace_eq_nil_iff.mpr hb', List.isEmpty_nil, if_true]

theorem readChars_eq_ok_iff {s : List Char} {v : Value} :
    readChars s = .ok v ↔ IsText (depthLimit - 1) s v :=
  readWithin_eq_ok_iff

/-- What is read within a limit is read alike within a higher one. -/
theorem readWithin_mono {limit limit' : Nat} (hlimit : limit ≤ limit') {s : List Char} {v : Value}
    (h : readWithin (limit + 1) s = .ok v) : readWithin (limit' + 1) s = .ok v := by
  obtain ⟨b, p, b', hs, hb, hb', hp⟩ := readWithin_eq_ok_iff.mp h
  exact readWithin_eq_ok_iff.mpr ⟨b, p, b', hs, hb, hb', hp.mono hlimit⟩

/-! ## Blanks at the end -/

theorem IsText.append_blank {levels : Nat} {s b : List Char} {v : Value} (h : IsText levels s v)
    (hb : Blank b) : IsText levels (s ++ b) v := by
  obtain ⟨b₁, p, b₂, rfl, hb₁, hb₂, hp⟩ := h
  exact ⟨b₁, p, b₂ ++ b, by simp only [List.append_assoc], hb₁, hb₂.append hb, hp⟩

theorem IsText.of_concat {levels : Nat} {s : List Char} {c : Char} {v : Value}
    (h : IsText levels (s ++ [c]) v) (hc : isSpace c) : IsText levels s v := by
  obtain ⟨b₁, p, b₂, hs, hb₁, hb₂, hp⟩ := h
  cases hlast : b₂.reverse with
  | nil =>
      -- the text would end with the value, whose last character is no blank
      obtain ⟨t, x, rfl, hx⟩ := hp.last
      rw [List.reverse_eq_nil_iff.mp hlast, List.append_nil, ← List.append_assoc] at hs
      obtain ⟨-, heq⟩ := List.append_inj' hs rfl
      rw [(List.cons.inj heq).1, hx] at hc
      exact nomatch hc
  | cons x b =>
      rw [List.reverse_eq_cons_iff] at hlast
      subst hlast
      rw [← List.append_assoc, ← List.append_assoc] at hs
      obtain ⟨rfl, -⟩ := List.append_inj' hs rfl
      exact ⟨b₁, p, b.reverse, List.append_assoc _ _ _, hb₁,
        fun y hy => hb₂ y (List.mem_append_left _ hy), hp⟩

/-- A blank at the end is neither here nor there. -/
theorem readChars_concat {s : List Char} {c : Char} {v : Value} (hc : isSpace c) :
    readChars (s ++ [c]) = .ok v ↔ readChars s = .ok v := by
  rw [readChars_eq_ok_iff, readChars_eq_ok_iff]
  exact ⟨fun h => h.of_concat hc, fun h => h.append_blank fun _ hx => List.mem_singleton.mp hx ▸ hc⟩

/-! ## Arrays of texts -/

/-- Texts joined by commas are the items of an array, up to its bracket. -/
theorem exists_spells_joined {levels : Nat} {texts : List (List Char)} {values : List Value}
    (h : List.Forall₂ (IsText levels) texts values) (hne : texts ≠ []) (read : List Value) :
    ∃ b p, [','].intercalate texts ++ [']'] = b ++ p ∧ Blank b ∧
      Spells (.items read) levels p (.array (read.reverse ++ values)) := by
  induction h generalizing read with
  | nil => exact absurd rfl hne
  | @cons t v texts values ht hrest ih =>
      obtain ⟨b, p, b', rfl, hb, hb', hp⟩ := ht
      cases hrest with
      | nil =>
          refine ⟨b, p ++ (b' ++ [']']), ?_, hb, ?_⟩
          · simp only [List.intercalate_singleton, List.append_assoc]
          · rw [← List.reverse_cons]
            exact .lastItem hp hb'
      | @cons t' v' texts values ht' hrest' =>
          obtain ⟨b'', q, hq, hb'', hspells⟩ := ih (List.cons_ne_nil _ _) (v :: read)
          refine ⟨b, p ++ (b' ++ ',' :: (b'' ++ q)), ?_, hb, ?_⟩
          · rw [List.intercalate_cons_cons, ← hq]
            simp only [List.append_assoc, List.cons_append, List.nil_append]
          · rw [List.reverse_cons, List.append_assoc] at hspells
            exact .nextItem hp hb' hb'' hspells

/-- Between brackets and joined by commas, texts are an array of one level more. -/
theorem isText_array {levels : Nat} {texts : List (List Char)} {values : List Value}
    (h : List.Forall₂ (IsText levels) texts values) :
    IsText (levels + 1) ('[' :: ([','].intercalate texts ++ [']'])) (.array values) := by
  cases texts with
  | nil =>
      cases h
      exact ⟨[], ['[', ']'], [], rfl, .nil, .nil, .noItems .nil⟩
  | cons t texts =>
      obtain ⟨b, p, heq, hb, hp⟩ := exists_spells_joined h (List.cons_ne_nil _ _) []
      refine ⟨[], '[' :: (b ++ p), [], ?_, .nil, .nil, .array hb hp⟩
      rw [heq, List.append_nil, List.nil_append]

theorem readChars_array {texts : List (List Char)} {values : List Value}
    (h : List.Forall₂ (fun t v => readWithin (depthLimit - 1) t = .ok v) texts values) :
    readChars ('[' :: ([','].intercalate texts ++ [']'])) = .ok (.array values) :=
  readChars_eq_ok_iff.mpr (isText_array (h.imp fun _ _ => readWithin_eq_ok_iff.mp))

end TrigramSearch.Json
