import Std.Data.TreeSet.Lemmas
import TrigramSearch.Trigram

/-!
# The windows of a text

A trigram is a window of a folded text exactly when its three characters stand
there in a row (`mem_windowsOf_iff`).  Being contained is transitive and the
fold keeps it, so a text that contains a literal has all trigrams of the
literal.

## Main results

* `mem_windowsOf_iff`: windows are the contained triples.
* `windows_subset_of_infix`: a contained text has no window of its own.
* `mem_ofText_iff`, `mem_ofTexts_iff`: when the trigrams of texts are collected,
  repetitions are lost and nothing else is.
* `distinct_nodup`: no repetition is left.
* `ofTexts_ne_nil`: there are trigrams if one of the texts is long enough.
-/

namespace TrigramSearch

namespace Text

/-- The fold keeps containment, because it looks at one character at a time. -/
theorem fold_infix {s t : List Char} (h : s <:+: t) : fold s <:+: fold t := by
  obtain ⟨before, after, rfl⟩ := h
  exact ⟨fold before, fold after, by simp⟩

end Text

namespace Trigram

/-- A trigram is a window exactly when its characters are contained in a row. -/
theorem mem_windowsOf_iff (g : Trigram) (s : List Char) :
    g ∈ windowsOf s ↔ g.toList <:+: s := by
  obtain ⟨x, y, z⟩ := g
  -- The induction follows the recursion of the windows: one character at a time, while three
  -- are left.
  induction s using windowsOf.induct with
  | case1 a b c rest ih =>
      have hhead : Trigram.mk x y z = ⟨a, b, c⟩ ↔
          (Trigram.mk x y z).toList <+: a :: b :: c :: rest := by
        simp [toList, List.cons_prefix_cons]
      rw [windowsOf, List.mem_cons, ih, hhead]
      exact List.infix_cons_iff.symm
  | case2 s hshort =>
      have hnil : windowsOf s = [] := by
        rw [windowsOf]
        exact hshort
      rw [hnil]
      constructor
      · intro h
        cases h
      · intro h
        have hlen := h.length_le
        match s, hshort, hlen with
        | a :: b :: c :: rest, hshort, _ => exact absurd rfl (hshort a b c rest)
        | [], _, hlen => simp [toList] at hlen
        | [_], _, hlen => simp [toList] at hlen
        | [_, _], _, hlen => simp [toList] at hlen

theorem windowsOf_subset_of_infix {s t : List Char} (h : s <:+: t) :
    windowsOf s ⊆ windowsOf t := by
  intro g hg
  rw [mem_windowsOf_iff] at hg ⊢
  exact hg.trans h

/-- A text that contains another has all its windows. -/
theorem windows_subset_of_infix {s t : List Char} (h : s <:+: t) :
    windows s ⊆ windows t :=
  windowsOf_subset_of_infix (Text.fold_infix h)

/-! ## Distinct trigrams -/

/-- Codes tell trigrams apart: every code point has less than 22 bits. -/
theorem code_injective {g g' : Trigram} (h : g.code = g'.code) : g = g' := by
  obtain ⟨x, y, z⟩ := g
  obtain ⟨x', y', z'⟩ := g'
  have hbound : ∀ c : Char, c.toNat < 2 ^ 21 := by
    intro c
    rcases c.valid with hlow | ⟨_, hhigh⟩
    · exact Nat.lt_trans hlow (by decide)
    · exact Nat.lt_trans hhigh (by decide)
  have hy := hbound y
  have hy' := hbound y'
  have hz := hbound z
  have hz' := hbound z'
  simp only [code, Nat.shiftLeft_eq] at h
  have hfirst : x.toNat = x'.toNat := by omega
  have hsecond : y.toNat = y'.toNat := by omega
  have hthird : z.toNat = z'.toNat := by omega
  rw [Char.toNat_inj.mp hfirst, Char.toNat_inj.mp hsecond, Char.toNat_inj.mp hthird]

/-- What is kept of a list is what has not been seen before it. -/
private theorem mem_distinctFrom_iff {g : Trigram} {gs : List Trigram} :
    ∀ {seen : Std.TreeSet Nat},
      g ∈ distinctFrom seen gs ↔ g ∈ gs ∧ seen.contains g.code = false := by
  induction gs with
  | nil =>
      intro seen
      simp [distinctFrom]
  | cons x xs ih =>
      intro seen
      rw [distinctFrom, List.mem_cons]
      split
      · rename_i hold
        rw [ih]
        constructor
        · rintro ⟨hg, hnew⟩
          exact ⟨Or.inr hg, hnew⟩
        · rintro ⟨rfl | hg, hnew⟩
          · rw [hold] at hnew
            cases hnew
          · exact ⟨hg, hnew⟩
      · rename_i hnew
        rw [List.mem_cons, ih, Std.TreeSet.contains_insert]
        by_cases hx : g = x
        · subst hx
          simp [Bool.eq_false_iff.mpr hnew]
        · have hcode : x.code ≠ g.code := fun h => hx (code_injective h).symm
          simp [hx, hcode]

/-- No trigram is lost when repetitions are, and none is made up. -/
theorem mem_distinct_iff {g : Trigram} {gs : List Trigram} : g ∈ distinct gs ↔ g ∈ gs := by
  rw [distinct, mem_distinctFrom_iff]
  simp

private theorem distinctFrom_nodup (seen : Std.TreeSet Nat) (gs : List Trigram) :
    (distinctFrom seen gs).Nodup := by
  induction gs generalizing seen with
  | nil => exact List.nodup_nil
  | cons g gs ih =>
      rw [distinctFrom]
      split
      · exact ih seen
      · have hnew : g ∉ distinctFrom (seen.insert g.code) gs := by
          rw [mem_distinctFrom_iff]
          simp
        exact List.nodup_cons.mpr ⟨hnew, ih _⟩

/-- What is kept is kept once. -/
theorem distinct_nodup (gs : List Trigram) : (distinct gs).Nodup := distinctFrom_nodup ∅ gs

/-- The trigrams of a text are its windows. -/
theorem mem_ofText_iff {g : Trigram} {text : List Char} : g ∈ ofText text ↔ g ∈ windows text :=
  mem_distinct_iff

/-- The trigrams of several texts are the windows of each of them. -/
theorem mem_ofTexts_iff {g : Trigram} {texts : List (List Char)} :
    g ∈ ofTexts texts ↔ ∃ s ∈ texts, g ∈ windows s := by
  rw [ofTexts, mem_distinct_iff, List.mem_flatMap]
  simp only [mem_ofText_iff]

/-- More texts have more trigrams. -/
theorem ofTexts_subset {texts texts' : List (List Char)} (h : texts ⊆ texts') :
    ofTexts texts ⊆ ofTexts texts' := by
  intro g hg
  rw [mem_ofTexts_iff] at hg ⊢
  obtain ⟨s, hs, hwindow⟩ := hg
  exact ⟨s, h hs, hwindow⟩

/-! ## Texts that have trigrams -/

/-- A text whose fold has three characters has a window. -/
theorem windows_ne_nil {text : List Char} (h : 3 ≤ foldedLength text) : windows text ≠ [] := by
  rw [foldedLength] at h
  rw [windows]
  match hfold : Text.fold text, h with
  | _ :: _ :: _ :: _, _ => exact List.cons_ne_nil _ _

/-- Texts have a trigram if one of them is long enough. -/
theorem ofTexts_ne_nil {texts : List (List Char)} {text : List Char} (hmem : text ∈ texts)
    (h : 3 ≤ foldedLength text) : ofTexts texts ≠ [] := by
  obtain ⟨g, hg⟩ := List.exists_mem_of_ne_nil _ (windows_ne_nil h)
  exact List.ne_nil_of_mem (mem_ofTexts_iff.mpr ⟨text, hmem, hg⟩)

end Trigram
end TrigramSearch
