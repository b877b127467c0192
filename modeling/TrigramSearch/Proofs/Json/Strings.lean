import Mathlib.Tactic.SplitIfs
import TrigramSearch.Json.Reader

/-!
# How far a string is read

A string ends at its closing quote, and what comes after the quote plays no part in
what is read: an escape takes a fixed part off the text, whatever follows, and so does
the rest of a string.  What stands between the quotes of a string can therefore be
named without the text around it (`IsString`).

## Main results

* `escape_takes`: an escape is read alike before everything.
* `exists_isString`, `IsString.reads`: **the strings of a text are those parts of it
  that are read as strings alone**, each up to its closing quote.
-/

namespace TrigramSearch.Json

/-! ## Escapes -/

theorem hexFour_takes {s r : List Char} {n : Nat} (h : hexFour s = .ok (n, r)) :
    ∃ p, s = p ++ r ∧ ∀ t, hexFour (p ++ t) = .ok (n, t) := by
  unfold hexFour at h
  split_ifs at h with hsize
  split at h
  · rename_i a b c d rest
    split at h
    · rename_i ha hb hc hd
      obtain ⟨rfl, rfl⟩ := Prod.mk.inj (Except.ok.inj h)
      refine ⟨[a, b, c, d], rfl, fun t => ?_⟩
      have htake : ([a, b, c, d] ++ t).take 4 = [a, b, c, d] := List.take_left' rfl
      have hsize' : ¬ ([a, b, c, d] : List Char).foldl (fun n c => n + c.utf8Size) 0 < 4 := hsize
      unfold hexFour
      rw [htake, if_neg hsize']
      simp only [List.cons_append, List.nil_append, ha, hb, hc, hd]
    · exact nomatch h
  · exact nomatch h

theorem hexEscape_takes {s r : List Char} {c : Char} (h : hexEscape s = .ok (c, r)) :
    ∃ p, s = p ++ r ∧ ∀ t, hexEscape (p ++ t) = .ok (c, t) := by
  unfold hexEscape at h
  cases hfour : hexFour s with
  | error e =>
      rw [hfour] at h
      exact nomatch h
  | ok first =>
      obtain ⟨n, s'⟩ := first
      obtain ⟨p, rfl, hp⟩ := hexFour_takes hfour
      simp only [hfour] at h
      split_ifs at h with hlow hplain
      · obtain ⟨rfl, rfl⟩ := Prod.mk.inj (Except.ok.inj h)
        refine ⟨p, rfl, fun t => ?_⟩
        unfold hexEscape
        simp only [hp t, hlow, hplain, Bool.false_eq_true, if_false, if_true]
      · -- the first half of a pair
        split at h
        · exact nomatch h
        · exact nomatch h
        · rename_i s''
          cases hsecond : hexFour s'' with
          | error e =>
              rw [hsecond] at h
              exact nomatch h
          | ok second =>
              obtain ⟨m, s'''⟩ := second
              obtain ⟨q, rfl, hq⟩ := hexFour_takes hsecond
              simp only [hsecond] at h
              split_ifs at h with hpair
              obtain ⟨rfl, rfl⟩ := Prod.mk.inj (Except.ok.inj h)
              refine ⟨p ++ '\\' :: 'u' :: q, by simp only [List.append_assoc, List.cons_append],
                fun t => ?_⟩
              unfold hexEscape
              simp only [List.append_assoc, List.cons_append, hp, hq, hlow, hplain, hpair,
                Bool.false_eq_true, if_false]
        · exact nomatch h

/-- An escape is read alike whatever follows. -/
theorem escape_takes {s r : List Char} {c : Char} (h : escape s = .ok (c, r)) :
    ∃ p, s = p ++ r ∧ ∀ t, escape (p ++ t) = .ok (c, t) := by
  cases s with
  | nil => exact nomatch h
  | cons x s =>
      by_cases hhex : x = 'u'
      · subst hhex
        obtain ⟨p, rfl, hp⟩ := hexEscape_takes (s := s) h
        exact ⟨'u' :: p, rfl, hp⟩
      · -- one character, which does not depend on what follows
        have hone : ∃ o : Option Char, ∀ t, escape (x :: t) =
            o.elim (.error .invalidEscape) fun c => .ok (c, t) := by
          simp only [escape, hhex, if_false]
          split_ifs
          · exact ⟨some x, fun _ => rfl⟩
          · exact ⟨some (Char.ofNat 8), fun _ => rfl⟩
          · exact ⟨some (Char.ofNat 12), fun _ => rfl⟩
          · exact ⟨some '\n', fun _ => rfl⟩
          · exact ⟨some '\r', fun _ => rfl⟩
          · exact ⟨some '\t', fun _ => rfl⟩
          · exact ⟨none, fun _ => rfl⟩
        obtain ⟨o, ho⟩ := hone
        rw [ho] at h
        cases o with
        | none => exact nomatch h
        | some d =>
            obtain ⟨rfl, rfl⟩ := Prod.mk.inj (Except.ok.inj h)
            exact ⟨[x], rfl, ho⟩

/-! ## Strings -/

/-- The rest of a string is read alike whatever follows its closing quote. -/
theorem stringBody_takes {fuel : Nat} {read s r : List Char} {text : String}
    (h : stringBody fuel read s = .ok (text, r)) :
    ∃ p, s = p ++ '"' :: r ∧ ∀ t fuel', p.length < fuel' →
      stringBody fuel' read (p ++ '"' :: t) = .ok (text, t) := by
  induction fuel generalizing read s with
  | zero => exact nomatch h
  | succ fuel ih =>
      cases s with
      | nil => exact nomatch h
      | cons c s =>
          simp only [stringBody] at h
          split_ifs at h with hquote hescape hcontrol
          · obtain ⟨rfl, rfl⟩ := Prod.mk.inj (Except.ok.inj h)
            refine ⟨[], by rw [hquote]; rfl, fun t fuel' hfuel => ?_⟩
            cases fuel' with
            | zero => exact absurd hfuel (Nat.lt_irrefl 0)
            | succ fuel' => rfl
          · cases hread : escape s with
            | error e =>
                rw [hread] at h
                exact nomatch h
            | ok escaped =>
                obtain ⟨e, s'⟩ := escaped
                obtain ⟨q, rfl, hq⟩ := escape_takes hread
                rw [hread] at h
                obtain ⟨p, rfl, hp⟩ := ih h
                refine ⟨c :: (q ++ p), by simp only [List.cons_append, List.append_assoc],
                  fun t fuel' hfuel => ?_⟩
                rw [List.length_cons, List.length_append] at hfuel
                cases fuel' with
                | zero => omega
                | succ fuel' =>
                    simp only [List.cons_append, List.append_assoc, stringBody, if_neg hquote,
                      if_pos hescape, hq]
                    exact hp t fuel' (by omega)
          · obtain ⟨p, rfl, hp⟩ := ih h
            refine ⟨c :: p, rfl, fun t fuel' hfuel => ?_⟩
            cases fuel' with
            | zero => exact absurd hfuel (Nat.not_lt_zero _)
            | succ fuel' =>
                simp only [List.cons_append, stringBody, if_neg hquote, if_neg hescape,
                  if_neg hcontrol]
                exact hp t fuel' (Nat.lt_of_succ_lt_succ hfuel)

/-- Between quotes `p` stands for `text`. -/
def IsString (p : List Char) (text : String) : Prop :=
  stringBody (p.length + 1) [] (p ++ ['"']) = .ok (text, [])

theorem IsString.reads {p : List Char} {text : String} (h : IsString p text) {fuel : Nat}
    (hfuel : p.length < fuel) (t : List Char) :
    stringBody fuel [] (p ++ '"' :: t) = .ok (text, t) := by
  obtain ⟨q, hq, hreads⟩ := stringBody_takes h
  obtain rfl : p = q := List.append_cancel_right hq
  exact hreads t fuel hfuel

theorem exists_isString {fuel : Nat} {s r : List Char} {text : String}
    (h : stringBody fuel [] s = .ok (text, r)) : ∃ p, s = p ++ '"' :: r ∧ IsString p text := by
  obtain ⟨p, hs, hreads⟩ := stringBody_takes h
  exact ⟨p, hs, hreads [] _ (Nat.lt_succ_self p.length)⟩

end TrigramSearch.Json
