import Mathlib.Data.List.Basic
import TrigramSearch.Regex.CharSet
import TrigramSearch.Text.Fold

/-!
# Literals in a text, up to letter case

Where case is ignored, a character of a pattern stands for all its case
variants, and the fold that filters use is another map on characters than the
one that case variants come from.  For ASCII characters the two agree: the
variants of an ASCII character have its fold.  So a literal of ASCII characters
that occurs in a text, up to case, occurs in the fold of the text when it is
folded.

## Main results

* `Regex.CharSet.mem_variants_of_contains` — the set of case variants has no
  further members.
* `Regex.foldChar_of_variant` — variants of an ASCII character have its fold.
* `Regex.fold_infix_of_occurs` — the fold of a literal that occurs in a text is part
  of the fold of the text.
-/

namespace TrigramSearch

/-! ## Sets of case variants -/

namespace Regex.CharSet

/-- Some range of a list covers a code point. -/
private def Covers (n : Nat) (rs : List (Nat × Nat)) : Prop := ∃ r ∈ rs, r.1 ≤ n ∧ n ≤ r.2

private theorem covers_of_containedIn {n : Nat} {rs : List (Nat × Nat)}
    (h : containedIn n rs = true) : Covers n rs := by
  induction rs with
  | nil => cases h
  | cons r rest ih =>
      rw [containedIn] at h
      split at h
      · cases h
      · rename_i hlo
        split at h
        · rename_i hhi
          exact ⟨r, List.mem_cons_self, Nat.le_of_not_lt hlo, hhi⟩
        · obtain ⟨r', hr', hcovers⟩ := ih h
          exact ⟨r', List.mem_cons_of_mem r hr', hcovers⟩

/-- Ranges are merged only where they meet, so nothing is added between them. -/
private theorem covers_insertRange {n lo hi : Nat} {rs : List (Nat × Nat)}
    (h : Covers n (insertRange lo hi rs)) : (lo ≤ n ∧ n ≤ hi) ∨ Covers n rs := by
  induction rs generalizing lo hi with
  | nil =>
      obtain ⟨r, hr, hcovers⟩ := h
      rw [insertRange, List.mem_singleton] at hr
      subst hr
      exact Or.inl hcovers
  | cons r rest ih =>
      obtain ⟨a, b⟩ := r
      have hrest : Covers n rest → Covers n ((a, b) :: rest) := by
        rintro ⟨r, hr, hcovers⟩
        exact ⟨r, List.mem_cons_of_mem _ hr, hcovers⟩
      have hfirst : a ≤ n → n ≤ b → Covers n ((a, b) :: rest) :=
        fun ha hb => ⟨(a, b), List.mem_cons_self, ha, hb⟩
      rw [insertRange] at h
      split at h
      · obtain ⟨r, hr, hcovers⟩ := h
        rcases List.mem_cons.mp hr with rfl | hold
        · exact Or.inl hcovers
        · exact Or.inr ⟨r, hold, hcovers⟩
      · split at h
        · obtain ⟨r, hr, hcovers⟩ := h
          rcases List.mem_cons.mp hr with rfl | hold
          · exact Or.inr (hfirst hcovers.1 hcovers.2)
          · rcases ih ⟨r, hold, hcovers⟩ with hnew | hcovered
            · exact Or.inl hnew
            · exact Or.inr (hrest hcovered)
        · rcases ih h with ⟨hlo, hhi⟩ | hcovered
          · by_cases hnew : lo ≤ n ∧ n ≤ hi
            · exact Or.inl hnew
            · exact Or.inr (hfirst (by omega) (by omega))
          · exact Or.inr (hrest hcovered)

/-- A set of case variants has no further members. -/
theorem mem_variants_of_contains {c d : Char} (h : (variantsOf c).contains d = true) :
    d.toNat ∈ LetterCase.variants c.toNat := by
  have hall : ∀ (ns : List Nat) (acc : List (Nat × Nat)),
      Covers d.toNat ((ns.map fun n => (n, n)).foldl (fun acc r => insertRange r.1 r.2 acc) acc) →
      d.toNat ∈ ns ∨ Covers d.toNat acc := by
    intro ns
    induction ns with
    | nil =>
        intro acc hcovers
        exact Or.inr hcovers
    | cons n rest ih =>
        intro acc hcovers
        rcases ih _ hcovers with hmem | hinsert
        · exact Or.inl (List.mem_cons_of_mem n hmem)
        · rcases covers_insertRange hinsert with ⟨hlo, hhi⟩ | hold
          · exact Or.inl (List.mem_cons.mpr (Or.inl (Nat.le_antisymm hhi hlo)))
          · exact Or.inr hold
  rcases hall _ [] (covers_of_containedIn h) with hmem | ⟨r, hr, _⟩
  · exact hmem
  · cases hr

end Regex.CharSet

/-! ## Case variants of ASCII characters -/

namespace LetterCase

/-- The entries of the fold table that lead to ASCII characters: capitals, the long s, and the
Kelvin sign. -/
def asciiEntries : List CaseRange :=
  [⟨0x41, 0x5a, 1, 32⟩, ⟨0x17f, 0x17f, 1, -268⟩, ⟨0x212a, 0x212a, 1, -8383⟩]

private theorem filter_foldTable :
    foldTable.filter (fun r => decide ((r.first : Int) + r.offset < 128) || r.first == 0) =
      asciiEntries := by
  rfl

/-- The case variants of an ASCII character. -/
def asciiVariants (n : Nat) : List Nat :=
  foldCode n :: asciiEntries.filterMap (·.source? (foldCode n))

/-- The representative of an ASCII character is its lower case. -/
theorem foldCode_ascii : ∀ n < 128,
    foldCode n = if 0x41 ≤ n ∧ n ≤ 0x5a then n + 32 else n := by
  decide

theorem foldCode_lt {n : Nat} (hn : n < 128) : foldCode n < 128 := by
  rw [foldCode_ascii n hn]
  split <;> omega

theorem foldChar_ascii : ∀ n < 128,
    Text.foldChar (Char.ofNat n) = [Char.ofNat (foldCode n)] := by
  decide

/-- Of the fold table, only those entries count for ASCII characters. -/
theorem variants_ascii {n : Nat} (hn : n < 128) : variants n = asciiVariants n := by
  have hf := foldCode_lt hn
  rw [variants, asciiVariants, ← filter_foldTable, List.filterMap_filter]
  congr 1
  apply List.filterMap_congr
  intro r _
  split
  · rfl
  · rename_i hentry
    rw [CaseRange.source?, if_neg]
    intro hcovers
    simp only [CaseRange.covers, Bool.and_eq_true, Bool.or_eq_true, decide_eq_true_eq,
      beq_iff_eq] at hcovers hentry
    omega

private theorem foldChar_of_mem_asciiVariants : ∀ n < 128, ∀ m ∈ asciiVariants n,
    Text.foldChar (Char.ofNat m) = Text.foldChar (Char.ofNat n) := by
  decide +kernel

/-- The case variants of an ASCII character have its fold. -/
theorem foldChar_of_mem_variants {n m : Nat} (hn : n < 128) (hm : m ∈ variants n) :
    Text.foldChar (Char.ofNat m) = Text.foldChar (Char.ofNat n) := by
  rw [variants_ascii hn] at hm
  exact foldChar_of_mem_asciiVariants n hn m hm

end LetterCase

namespace Regex

/-- What a character of a literal stands for: itself, or all its case variants. -/
def Variant (ignoreCase : Bool) (c d : Char) : Prop :=
  if ignoreCase then (CharSet.variantsOf c).contains d = true else d = c

/-- A literal stands at a position of a text, up to case where it is ignored. -/
def OccursAt (ignoreCase : Bool) (text : List Char) : List Char → Nat → Prop
  | [], _ => True
  | c :: l, k => (∃ d, text[k]? = some d ∧ Variant ignoreCase c d) ∧
      OccursAt ignoreCase text l (k + 1)

/-- A literal occurs in a text, up to case where it is ignored. -/
def Occurs (ignoreCase : Bool) (text l : List Char) : Prop := ∃ k, OccursAt ignoreCase text l k

theorem occursAt_append {ignoreCase : Bool} {text l l' : List Char} {k : Nat} :
    OccursAt ignoreCase text (l ++ l') k ↔
      OccursAt ignoreCase text l k ∧ OccursAt ignoreCase text l' (k + l.length) := by
  induction l generalizing k with
  | nil => simp [OccursAt]
  | cons c l ih =>
      rw [List.cons_append, OccursAt, OccursAt, ih, List.length_cons, and_assoc,
        Nat.add_assoc, Nat.add_comm 1]

/-- Variants of an ASCII character, and of any character where case matters, have its fold. -/
theorem foldChar_of_variant {ignoreCase : Bool} {c d : Char}
    (hc : ignoreCase = true → c.toNat < 128) (h : Variant ignoreCase c d) :
    Text.foldChar d = Text.foldChar c := by
  cases ignoreCase with
  | false =>
      have hd : d = c := h
      rw [hd]
  | true =>
      have hvariant := LetterCase.foldChar_of_mem_variants (hc rfl)
        (CharSet.mem_variants_of_contains h)
      rwa [Char.ofNat_toNat, Char.ofNat_toNat] at hvariant

/-- What stands where a literal occurs has the fold of the literal. -/
private theorem fold_of_occursAt {ignoreCase : Bool} {text l : List Char} {k : Nat}
    (hl : ignoreCase = true → ∀ c ∈ l, c.toNat < 128) (h : OccursAt ignoreCase text l k) :
    ∃ u rest, text.drop k = u ++ rest ∧ Text.fold u = Text.fold l := by
  induction l generalizing k with
  | nil => exact ⟨[], text.drop k, rfl, rfl⟩
  | cons c l ih =>
      obtain ⟨⟨d, hd, hvariant⟩, hrest⟩ := h
      obtain ⟨u, rest, hdrop, hfold⟩ :=
        ih (fun hi x hx => hl hi x (List.mem_cons_of_mem c hx)) hrest
      have hchar := foldChar_of_variant (fun hi => hl hi c List.mem_cons_self) hvariant
      obtain ⟨hlt, hget⟩ := List.getElem?_eq_some_iff.mp hd
      refine ⟨d :: u, rest, ?_, ?_⟩
      · rw [List.drop_eq_getElem_cons hlt, hget, hdrop, List.cons_append]
      · rw [Text.fold_cons, Text.fold_cons, hchar, hfold]

/-- The fold of a literal that occurs in a text is part of the fold of the text. -/
theorem fold_infix_of_occurs {ignoreCase : Bool} {text l : List Char}
    (hl : ignoreCase = true → ∀ c ∈ l, c.toNat < 128) (h : Occurs ignoreCase text l) :
    Text.fold l <:+: Text.fold text := by
  obtain ⟨k, hk⟩ := h
  obtain ⟨u, rest, hdrop, hfold⟩ := fold_of_occursAt hl hk
  refine ⟨Text.fold (text.take k), Text.fold rest, ?_⟩
  rw [← hfold, ← Text.fold_append, ← Text.fold_append, List.append_assoc, ← hdrop,
    List.take_append_drop]

end Regex
end TrigramSearch
