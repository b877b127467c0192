import Mathlib.Tactic.SplitIfs
import TrigramSearch.Toml.Printer
import TrigramSearch.Toml.Reader

/-!
# Strings read back

A string is written in one of four ways, and each of them is read back.  Between
double quotes every character is a piece of the text: itself, a line break where
these may stand, or an escape (`Piece`).  Between single quotes every character
stands for itself.

The quotes need care only between three of them.  Up to two may stand in a row;
the reader takes a whole row at once, so the row that has been written so far is
kept beside the text that follows (`Spelling`), and is read when something else
comes or when the string ends, then together with the three quotes of the end.

## Main results

* `escapeChar_piece` — what is written for a character is a piece for it.
* `basicString_escapeChars`, `longString_spelling` — bodies of strings.
* `string_stringChars` — **every string reads back**, up to the end of its line.
-/

namespace TrigramSearch.Toml

/-! ## Pieces -/

/-- What a character may be written as between double quotes. -/
inductive Piece (multiLine : Bool) : Char → List Char → Prop where
  | plain {c : Char} : isStringChar c → c ≠ '"' → c ≠ '\\' → Piece multiLine c [c]
  | newline : multiLine → Piece multiLine '\n' ['\n']
  | escaped {c e : Char} {es : List Char} : (∀ t, escape (e :: (es ++ t)) = some (c, t)) →
      isBlank e = false → e ≠ '\n' → e ≠ '\r' → Piece multiLine c ('\\' :: e :: es)

theorem hexFour_reads {n : Nat} (h : n < 0x80) :
    (hexFour n).all isHex ∧ valueOf 16 (hexFour n) = n := by
  have hall : ∀ n < 0x80, (hexFour n).all isHex ∧ valueOf 16 (hexFour n) = n := by decide +kernel
  exact hall n h

theorem escape_code {c : Char} (h : c.toNat < 0x80) (t : List Char) :
    escape ('u' :: (hexFour c.toNat ++ t)) = some (c, t) := by
  obtain ⟨hhex, hvalue⟩ := hexFour_reads h
  have hvalid : c.toNat.isValidChar := c.valid
  have htake : (hexFour c.toNat ++ t).take 4 = hexFour c.toNat := List.take_left' rfl
  have hdrop : (hexFour c.toNat ++ t).drop 4 = t := List.drop_left' rfl
  have hcount : decide ((hexFour c.toNat).length = 4) && (hexFour c.toNat).all isHex := by
    rw [hhex]
    rfl
  show codeEscape 4 (hexFour c.toNat ++ t) = some (c, t)
  rw [codeEscape, htake, hdrop, if_pos hcount, hvalue]
  show (if c.toNat.isValidChar then some (Char.ofNat c.toNat, t) else none) = some (c, t)
  rw [if_pos hvalid, Char.ofNat_toNat]

theorem escapeChar_piece (multiLine : Bool) {c : Char} (hc : c ≠ '"') :
    Piece multiLine c (escapeChar multiLine c) := by
  have hcode : ∀ n, c.toNat = n → Char.ofNat n = c := by
    rintro n rfl
    exact Char.ofNat_toNat c
  have hletter : ∀ e, (∀ t, escape (e :: t) = some (c, t)) → isBlank e = false → e ≠ '\n' →
      e ≠ '\r' → Piece multiLine c ['\\', e] := fun e h => .escaped fun t => h t
  rw [escapeChar]
  split_ifs with hb ht hn hmulti hf hr hbackslash hother
  · exact hletter 'b' (fun t => congrArg (fun d => some (d, t)) (hcode 8 hb)) rfl (by decide)
      (by decide)
  · exact hletter 't' (fun t => ht ▸ rfl) rfl (by decide) (by decide)
  · rw [hn]
    exact .newline hmulti
  · exact hletter 'n' (fun t => hn ▸ rfl) rfl (by decide) (by decide)
  · exact hletter 'f' (fun t => congrArg (fun d => some (d, t)) (hcode 12 hf)) rfl (by decide)
      (by decide)
  · exact hletter 'r' (fun t => hr ▸ rfl) rfl (by decide) (by decide)
  · subst hbackslash
    exact hletter '\\' (fun t => rfl) rfl (by decide) (by decide)
  · have hlow : c.toNat < 0x80 := by
      simp only [Bool.or_eq_true, decide_eq_true_eq] at hother
      omega
    exact .escaped (escape_code hlow) rfl (by decide) (by decide)
  · have hplain : isStringChar c := by
      simp only [Bool.or_eq_true, decide_eq_true_eq] at hother
      simp only [isStringChar, Bool.or_eq_true, Bool.and_eq_true, decide_eq_true_eq]
      omega
    exact .plain hplain hc hbackslash

theorem quote_piece (multiLine : Bool) : Piece multiLine '"' ['\\', '"'] :=
  .escaped (fun t => show escape ('"' :: ([] ++ t)) = some ('"', t) from rfl) rfl (by decide)
    (by decide)

theorem Piece.head {multiLine : Bool} {c : Char} {piece : List Char} (h : Piece multiLine c piece) :
    ∃ x xs, piece = x :: xs ∧ x ≠ '"' := by
  cases h with
  | plain _ hquote _ => exact ⟨_, _, rfl, hquote⟩
  | newline => exact ⟨_, _, rfl, by decide⟩
  | escaped => exact ⟨_, _, rfl, by decide⟩

theorem newline?_cons {c : Char} (hnewline : c ≠ '\n') (hreturn : c ≠ '\r') (t : List Char) :
    newline? (c :: t) = none := by
  unfold newline?
  split
  · rename_i heq
    exact absurd (List.cons.inj heq).1 hnewline
  · rename_i heq
    exact absurd (List.cons.inj heq).1 hreturn
  · rfl

theorem ne_of_isStringChar {c : Char} (h : isStringChar c) : c ≠ '\n' ∧ c ≠ '\r' := by
  constructor <;> (rintro rfl; exact absurd h (by decide))

/-! ## One line between double quotes -/

theorem basicString_piece {c : Char} {piece : List Char} (h : Piece false c piece) (fuel : Nat)
    (read t : List Char) :
    basicString (fuel + 1) read (piece ++ t) = basicString fuel (c :: read) t := by
  cases h with
  | plain hplain hquote hbackslash =>
      show basicString (fuel + 1) read (c :: t) = _
      rw [basicString, if_neg hquote, if_neg hbackslash, if_pos hplain]
  | newline hmulti => cases hmulti
  | @escaped _ e es hescape =>
      show basicString (fuel + 1) read ('\\' :: e :: (es ++ t)) = _
      rw [basicString, if_neg (by decide), if_pos rfl, hescape, Option.bind_some]

/-- With no quotes in a row, each character is written as a piece. -/
theorem escapeChars_cons (multiLine : Bool) (run : Nat) (c : Char) (s : List Char) :
    ∃ piece, Piece multiLine c piece ∧
      escapeChars multiLine 0 run (c :: s) = piece ++ escapeChars multiLine 0 0 s := by
  by_cases hc : c = '"'
  · rw [hc]
    exact ⟨_, quote_piece multiLine, by rw [escapeChars, if_pos rfl, if_pos (Nat.zero_le run)]; rfl⟩
  · exact ⟨_, escapeChar_piece multiLine hc, by rw [escapeChars, if_neg hc]⟩

theorem basicString_escapeChars (s rest : List Char) :
    ∀ (fuel : Nat) (read : List Char), s.length < fuel →
      basicString fuel read (escapeChars false 0 0 s ++ '"' :: rest) =
        some (String.ofList (read.reverse ++ s), rest) := by
  induction s with
  | nil =>
      intro fuel read hfuel
      obtain ⟨fuel, rfl⟩ : ∃ n, fuel = n + 1 := Nat.exists_eq_add_one_of_ne_zero (by omega)
      show basicString (fuel + 1) read ('"' :: rest) = _
      rw [basicString, if_pos rfl, List.append_nil]
  | cons c s ih =>
      intro fuel read hfuel
      rw [List.length_cons] at hfuel
      obtain ⟨fuel, rfl⟩ : ∃ n, fuel = n + 1 := Nat.exists_eq_add_one_of_ne_zero (by omega)
      obtain ⟨piece, hpiece, htext⟩ := escapeChars_cons false 0 c s
      rw [htext, List.append_assoc, basicString_piece hpiece, ih _ _ (by omega), List.reverse_cons,
        List.append_assoc]
      rfl

/-! ## One line between single quotes -/

theorem literalString_append (rest : List Char) {s : List Char}
    (h : ∀ c ∈ s, isStringChar c ∧ c ≠ '\'') :
    ∀ read, literalString read (s ++ '\'' :: rest) =
      some (String.ofList (read.reverse ++ s), rest) := by
  induction s with
  | nil =>
      intro read
      show literalString read ('\'' :: rest) = _
      rw [literalString, if_pos rfl, List.append_nil]
  | cons c s ih =>
      intro read
      obtain ⟨hplain, hquote⟩ := h c List.mem_cons_self
      show literalString read (c :: (s ++ '\'' :: rest)) = _
      rw [literalString, if_neg hquote, if_pos hplain,
        ih fun d hd => h d (List.mem_cons_of_mem c hd), List.reverse_cons, List.append_assoc]
      rfl

/-! ## Between three quotes -/

/-- A piece of the text between three quotes that is read as one character. Only that of a line
break begins with one. -/
structure ReadsChar (quote : Char) (escapes : Bool) (c : Char) (piece : List Char) : Prop where
  head : ∃ x xs, piece = x :: xs ∧ x ≠ quote ∧ (c ≠ '\n' → x ≠ '\n' ∧ x ≠ '\r')
  reads : ∀ fuel read t, longString quote escapes (fuel + 1) read (piece ++ t) =
    longString quote escapes fuel (c :: read) t

/-- The second text writes the first one between three quotes, after a row of so many quotes. -/
inductive Spelling (quote : Char) (escapes : Bool) : Nat → List Char → List Char → Prop where
  | nil {run : Nat} : run ≤ 2 → Spelling quote escapes run [] []
  | quote {run : Nat} {s t : List Char} : Spelling quote escapes (run + 1) s t →
      Spelling quote escapes run (quote :: s) (quote :: t)
  | piece {run : Nat} {c : Char} {p s t : List Char} : run ≤ 2 → ReadsChar quote escapes c p →
      Spelling quote escapes 0 s t → Spelling quote escapes run (c :: s) (p ++ t)

section

variable {quote : Char} {escapes : Bool} {run fuel : Nat} {read t : List Char}

/-- The row of quotes at the beginning of a text. -/
theorem span_row (run : Nat) (ht : t.head? ≠ some quote) :
    (List.replicate run quote ++ t).takeWhile (· = quote) = List.replicate run quote ∧
      (List.replicate run quote ++ t).dropWhile (· = quote) = t := by
  have hrow : ∀ c ∈ List.replicate run quote, decide (c = quote) = true := fun c hc =>
    decide_eq_true (List.eq_of_mem_replicate hc)
  have hstop : t.takeWhile (· = quote) = [] ∧ t.dropWhile (· = quote) = t := by
    cases t with
    | nil => exact ⟨rfl, rfl⟩
    | cons x t =>
        have hx : ¬ decide (x = quote) = true := fun h => ht (congrArg some (of_decide_eq_true h))
        exact ⟨List.takeWhile_cons_of_neg hx, List.dropWhile_cons_of_neg hx⟩
  rw [List.takeWhile_append_of_pos hrow, List.dropWhile_append_of_pos hrow, hstop.1, hstop.2,
    List.append_nil]
  exact ⟨rfl, rfl⟩

/-- A row of quotes that does not end the string belongs to it. -/
theorem longString_row (hpos : 0 < run) (hrun : run ≤ 2) (ht : t.head? ≠ some quote) :
    longString quote escapes (fuel + 1) read (List.replicate run quote ++ t) =
      longString quote escapes fuel (List.replicate run quote ++ read) t := by
  obtain ⟨htake, hdrop⟩ := span_row run ht
  obtain ⟨n, rfl⟩ : ∃ n, run = n + 1 := Nat.exists_eq_add_one_of_ne_zero (by omega)
  have hshort : (List.replicate (n + 1) quote).length < 3 := by
    rw [List.length_replicate]
    omega
  rw [List.replicate_succ, List.cons_append] at htake hdrop ⊢
  rw [longString, if_pos rfl, htake, hdrop, ← List.replicate_succ, if_pos hshort]

/-- A row of three quotes or more ends the string. -/
theorem longString_end (hrun : run ≤ 2) (ht : t.head? ≠ some quote) :
    longString quote escapes (fuel + 1) read (List.replicate (run + 3) quote ++ t) =
      some (String.ofList (List.replicate run quote ++ read).reverse, t) := by
  obtain ⟨htake, hdrop⟩ := span_row (run + 3) ht
  have hlong : ¬ (List.replicate (run + 3) quote).length < 3 := by
    rw [List.length_replicate]
    omega
  have hend : (List.replicate (run + 3) quote).length ≤ 5 := by
    rw [List.length_replicate]
    omega
  have hrest : (List.replicate (run + 3) quote).length - 3 = run := by
    rw [List.length_replicate]
    omega
  rw [List.replicate_succ, List.cons_append] at htake hdrop ⊢
  rw [longString, if_pos rfl, htake, hdrop, ← List.replicate_succ, if_neg hlong, if_pos hend, hrest]

/-- **What is spelled is read.** -/
theorem longString_spelling {s : List Char} (h : Spelling quote escapes run s t)
    {rest : List Char} (hrest : rest.head? ≠ some quote) :
    ∀ (fuel : Nat) (read : List Char), s.length + run < fuel →
      longString quote escapes fuel read
          (List.replicate run quote ++ (t ++ (List.replicate 3 quote ++ rest))) =
        some (String.ofList (read.reverse ++ (List.replicate run quote ++ s)), rest) := by
  induction h with
  | @nil run hrun =>
      -- for the reader, the row and the three quotes of the end are one row
      intro fuel read hfuel
      obtain ⟨fuel, rfl⟩ : ∃ n, fuel = n + 1 := Nat.exists_eq_add_one_of_ne_zero (by omega)
      rw [List.nil_append, ← List.append_assoc, List.replicate_append_replicate,
        longString_end hrun hrest, List.reverse_append, List.reverse_replicate, List.append_nil]
  | @quote run s t _ ih =>
      intro fuel read hfuel
      rw [List.length_cons] at hfuel
      have hrow : ∀ u,
          List.replicate run quote ++ quote :: u = List.replicate (run + 1) quote ++ u := by
        intro u
        rw [List.replicate_succ', List.append_assoc]
        rfl
      rw [List.cons_append, hrow, hrow]
      exact ih _ _ (by omega)
  | @piece run c p s t hrun hreads _ ih =>
      intro fuel read hfuel
      rw [List.length_cons] at hfuel
      obtain ⟨x, xs, rfl, hx, _⟩ := hreads.head
      obtain ⟨fuel, rfl⟩ : ∃ n, fuel = n + 1 := Nat.exists_eq_add_one_of_ne_zero (by omega)
      have hpiece : ∀ fuel read, s.length < fuel →
          longString quote escapes (fuel + 1) read
              (x :: xs ++ (t ++ (List.replicate 3 quote ++ rest))) =
            some (String.ofList ((c :: read).reverse ++ s), rest) := by
        intro fuel read hfuel
        rw [hreads.reads]
        exact ih _ _ (by omega)
      -- the row is complete, and is read before the piece if there is one
      have hhead : (x :: xs ++ (t ++ (List.replicate 3 quote ++ rest))).head? ≠ some quote :=
        fun heq => hx (Option.some.inj heq)
      rw [List.append_assoc]
      by_cases hzero : run = 0
      · rw [hzero, List.replicate_zero, List.nil_append, List.nil_append,
          hpiece fuel read (by omega), List.reverse_cons, List.append_assoc]
        rfl
      · obtain ⟨fuel, rfl⟩ : ∃ n, fuel = n + 1 := Nat.exists_eq_add_one_of_ne_zero (by omega)
        rw [longString_row (by omega) hrun hhead, hpiece fuel _ (by omega), List.reverse_cons,
          List.reverse_append, List.reverse_replicate, List.append_assoc, List.append_assoc]
        rfl

/-- A character that stands for itself. -/
theorem readsChar_self {c : Char} (hquote : c ≠ quote) (hescape : escapes → c ≠ '\\')
    (hplain : isStringChar c ∨ c = '\n') : ReadsChar quote escapes c [c] where
  head := ⟨c, [], rfl, hquote, fun hc => ne_of_isStringChar (hplain.resolve_right hc)⟩
  reads fuel read t := by
    have hnoEscape : ¬ (escapes && decide (c = '\\')) := by
      intro h
      obtain ⟨hescapes, hc⟩ := Bool.and_eq_true_iff.mp h
      exact hescape hescapes (of_decide_eq_true hc)
    show longString quote escapes (fuel + 1) read (c :: t) = _
    rw [longString, if_neg hquote, if_neg hnoEscape]
    rcases hplain with hplain | rfl
    · obtain ⟨hnewline, hreturn⟩ := ne_of_isStringChar hplain
      rw [newline?_cons hnewline hreturn]
      exact if_pos hplain
    · rfl

theorem readsChar_piece {c : Char} {piece : List Char} (h : Piece true c piece) :
    ReadsChar '"' true c piece := by
  cases h with
  | plain hplain hquote hbackslash =>
      exact readsChar_self hquote (fun _ => hbackslash) (Or.inl hplain)
  | newline => exact readsChar_self (by decide) (fun _ => by decide) (Or.inr rfl)
  | @escaped _ e es hescape hblank hnewline hreturn =>
      refine ⟨⟨'\\', e :: es, rfl, by decide, fun _ => by decide⟩, ?_⟩
      intro fuel read t
      have hblanks : skipBlanks (e :: (es ++ t)) = e :: (es ++ t) :=
        List.dropWhile_cons_of_neg (by rw [hblank]; exact Bool.false_ne_true)
      have hline : lineEscape? (e :: (es ++ t)) = none := by
        rw [lineEscape?, hblanks, newline?_cons hnewline hreturn, Option.map_none]
      show longString '"' true (fuel + 1) read ('\\' :: e :: (es ++ t)) = _
      rw [longString, if_neg (by decide), if_pos (by decide), hline]
      show (escape (e :: (es ++ t))).bind _ = _
      rw [hescape, Option.bind_some]

end

/-- Between double quotes, a quote is escaped where it would be the third in a row. -/
theorem escapeChars_spelling (s : List Char) :
    ∀ {run : Nat}, run ≤ 2 → Spelling '"' true run s (escapeChars true 2 run s) := by
  induction s with
  | nil =>
      intro run hrun
      exact .nil hrun
  | cons c s ih =>
      intro run hrun
      by_cases hc : c = '"'
      · subst hc
        by_cases hlimit : 2 ≤ run
        · rw [escapeChars, if_pos rfl, if_pos hlimit]
          exact .piece hrun (readsChar_piece (quote_piece true)) (ih (Nat.zero_le 2))
        · rw [escapeChars, if_pos rfl, if_neg hlimit]
          exact .quote (ih (by omega))
      · rw [escapeChars, if_neg hc]
        exact .piece hrun (readsChar_piece (escapeChar_piece true hc)) (ih (Nat.zero_le 2))

theorem plain_of_not_needsCode {c : Char} (h : needsCode c = false) :
    isStringChar c ∨ c = '\n' := by
  simp only [needsCode, Bool.or_eq_false_iff, Bool.and_eq_false_iff, decide_eq_false_iff_not,
    bne_eq_false_iff_eq] at h
  simp only [isStringChar, Bool.or_eq_true, Bool.and_eq_true, decide_eq_true_eq]
  obtain ⟨(hhigh | htab) | hnewline, hdelete⟩ := h
  · exact Or.inl (Or.inr ⟨Nat.le_of_not_lt hhigh, hdelete⟩)
  · exact Or.inl (Or.inl htab)
  · exact Or.inr hnewline

/-- Between single quotes every character stands for itself. -/
theorem literal_spelling {s : List Char} (hplain : ∀ c ∈ s, needsCode c = false) :
    ∀ {run : Nat}, longestRun '\'' run s ≤ 2 → Spelling '\'' false run s s := by
  induction s with
  | nil =>
      intro run hrun
      exact .nil hrun
  | cons c s ih =>
      intro run hrun
      have hs : ∀ {run : Nat}, longestRun '\'' run s ≤ 2 → Spelling '\'' false run s s :=
        ih fun d hd => hplain d (List.mem_cons_of_mem c hd)
      rw [longestRun] at hrun
      by_cases hc : c = '\''
      · rw [if_pos hc] at hrun
        rw [hc]
        exact .quote (hs hrun)
      · rw [if_neg hc] at hrun
        have hself : ReadsChar '\'' false c [c] :=
          readsChar_self hc (fun h => nomatch h)
            (plain_of_not_needsCode (hplain c List.mem_cons_self))
        exact .piece (by omega) hself (hs (by omega))

/-! ## Strings of each kind -/

theorem length_le_escapeChars (s : List Char) :
    s.length ≤ (escapeChars false 0 0 s).length := by
  induction s with
  | nil => exact Nat.le_refl 0
  | cons c s ih =>
      obtain ⟨piece, hpiece, htext⟩ := escapeChars_cons false 0 c s
      obtain ⟨x, xs, rfl, _⟩ := hpiece.head
      rw [htext, List.length_append, List.length_cons, List.length_cons]
      omega

theorem string_basic (s rest : List Char) :
    string (basic s ++ '\n' :: rest) = some (String.ofList s, '\n' :: rest) := by
  have htext : basic s ++ '\n' :: rest =
      '"' :: (escapeChars false 0 0 s ++ '"' :: '\n' :: rest) := by
    rw [basic, List.append_assoc]
    rfl
  have hlength := length_le_escapeChars s
  have hfuel : s.length <
      ('"' :: (escapeChars false 0 0 s ++ '"' :: '\n' :: rest)).length + 1 := by
    rw [List.length_cons, List.length_append]
    omega
  have hnotLong : ∀ t, escapeChars false 0 0 s ++ '"' :: '\n' :: rest ≠ '"' :: '"' :: t := by
    intro t heq
    cases s with
    | nil => exact absurd (List.cons.inj (List.cons.inj heq).2).1 (by decide)
    | cons c s =>
        obtain ⟨piece, hpiece, hsplit⟩ := escapeChars_cons false 0 c s
        obtain ⟨x, xs, rfl, hx⟩ := hpiece.head
        rw [hsplit] at heq
        exact hx (List.cons.inj heq).1
  rw [htext, string]
  · exact basicString_escapeChars s ('\n' :: rest) _ [] hfuel
  · intro t heq
    exact hnotLong t heq

theorem string_literal {s : List Char} (h : ∀ c ∈ s, isStringChar c ∧ c ≠ '\'')
    (rest : List Char) :
    string (literal s ++ '\n' :: rest) = some (String.ofList s, '\n' :: rest) := by
  have htext : literal s ++ '\n' :: rest = '\'' :: (s ++ '\'' :: '\n' :: rest) := by
    rw [literal, List.append_assoc]
    rfl
  have hnotLong : ∀ t, s ++ '\'' :: '\n' :: rest ≠ '\'' :: '\'' :: t := by
    intro t heq
    cases s with
    | nil => exact absurd (List.cons.inj (List.cons.inj heq).2).1 (by decide)
    | cons c s => exact (h c List.mem_cons_self).2 (List.cons.inj heq).1
  rw [htext, string]
  · exact literalString_append ('\n' :: rest) h []
  · intro t heq
    exact hnotLong t heq

section

variable {quote : Char} {escapes : Bool} {run : Nat} {s t : List Char}

theorem Spelling.length_le (h : Spelling quote escapes run s t) : s.length ≤ t.length := by
  induction h with
  | nil => exact Nat.le_refl 0
  | quote _ ih => exact Nat.succ_le_succ ih
  | piece _ hreads _ ih =>
      obtain ⟨x, xs, rfl, _⟩ := hreads.head
      rw [List.length_cons, List.length_append, List.length_cons]
      omega

/-- Only a line break that has been written before the string is left out. -/
theorem skipFirstNewline_eq (h : Spelling quote escapes run s t) (hnewline : quote ≠ '\n')
    (hreturn : quote ≠ '\r') (rest : List Char) :
    skipFirstNewline (firstNewline s ++ (t ++ quote :: rest)) = t ++ quote :: rest := by
  by_cases hmem : '\n' ∈ s
  · have hfirst : firstNewline s = ['\n'] := if_pos (List.contains_iff_mem.mpr hmem)
    rw [hfirst]
    rfl
  · have hfirst : firstNewline s = [] :=
      if_neg fun hcontains => hmem (List.contains_iff_mem.mp hcontains)
    have hnone : newline? (t ++ quote :: rest) = none := by
      cases h with
      | nil => exact newline?_cons hnewline hreturn _
      | quote => exact newline?_cons hnewline hreturn _
      | @piece _ c _ _ _ _ hreads _ =>
          obtain ⟨x, xs, rfl, _, hx⟩ := hreads.head
          have hc : c ≠ '\n' := fun hc => hmem (hc ▸ List.mem_cons_self)
          exact newline?_cons (hx hc).1 (hx hc).2 _
    rw [hfirst, List.nil_append, skipFirstNewline, hnone]
    rfl

theorem longString_body (h : Spelling quote escapes 0 s t) (hnewline : quote ≠ '\n')
    (hreturn : quote ≠ '\r') {rest : List Char} (hrest : rest.head? ≠ some quote) {fuel : Nat}
    (hfuel : t.length < fuel) :
    longString quote escapes fuel []
        (skipFirstNewline (firstNewline s ++ (t ++ quote :: quote :: quote :: rest))) =
      some (String.ofList s, rest) := by
  have hlength := h.length_le
  rw [skipFirstNewline_eq h hnewline hreturn]
  exact longString_spelling h hrest fuel [] (by omega)

end

theorem string_longBasic (s rest : List Char) :
    string (longBasic s ++ '\n' :: rest) = some (String.ofList s, '\n' :: rest) := by
  have htext : longBasic s ++ '\n' :: rest = '"' :: '"' :: '"' ::
      (firstNewline s ++ (escapeChars true 2 0 s ++ '"' :: '"' :: '"' :: '\n' :: rest)) := by
    simp only [longBasic, List.append_assoc, List.cons_append, List.nil_append]
  have hrest : ('\n' :: rest).head? ≠ some '"' := fun h => absurd (Option.some.inj h) (by decide)
  rw [htext, string]
  apply longString_body (escapeChars_spelling s (Nat.zero_le 2)) (by decide) (by decide) hrest
  simp only [List.length_cons, List.length_append]
  omega

theorem string_longLiteral {s : List Char} (hplain : ∀ c ∈ s, needsCode c = false)
    (hrun : longestRun '\'' 0 s ≤ 2) (rest : List Char) :
    string (longLiteral s ++ '\n' :: rest) = some (String.ofList s, '\n' :: rest) := by
  have htext : longLiteral s ++ '\n' :: rest = '\'' :: '\'' :: '\'' ::
      (firstNewline s ++ (s ++ '\'' :: '\'' :: '\'' :: '\n' :: rest)) := by
    simp only [longLiteral, List.append_assoc, List.cons_append, List.nil_append]
  have hrest : ('\n' :: rest).head? ≠ some '\'' := fun h => absurd (Option.some.inj h) (by decide)
  rw [htext, string]
  apply longString_body (literal_spelling hplain hrun) (by decide) (by decide) hrest
  simp only [List.length_cons, List.length_append]
  omega

/-! ## The choice of the kind -/

theorem le_longestRun (mark : Char) (s : List Char) : ∀ run, run ≤ longestRun mark run s := by
  induction s with
  | nil => exact fun run => Nat.le_refl run
  | cons c s ih =>
      intro run
      rw [longestRun]
      split_ifs
      · exact Nat.le_trans (Nat.le_succ run) (ih (run + 1))
      · exact Nat.le_max_left _ _

theorem ne_of_longestRun {mark : Char} {s : List Char} (h : longestRun mark 0 s = 0) :
    ∀ c ∈ s, c ≠ mark := by
  induction s with
  | nil => exact fun c hc => nomatch hc
  | cons c s ih =>
      rw [longestRun] at h
      by_cases hc : c = mark
      · rw [if_pos hc] at h
        have hrun := le_longestRun mark s (0 + 1)
        omega
      · rw [if_neg hc] at h
        intro d hd
        rcases List.mem_cons.mp hd with rfl | hd
        · exact hc
        · exact ih (by omega) d hd

/-- **Every string reads back**, up to the end of its line. -/
theorem string_stringChars (s rest : List Char) :
    string (stringChars s ++ '\n' :: rest) = some (String.ofList s, '\n' :: rest) := by
  have hplain : (!s.any needsCode) = true → ∀ c ∈ s, needsCode c = false := by
    intro h c hc
    rw [Bool.not_eq_true', List.any_eq_false] at h
    exact Bool.eq_false_iff.mpr (h c hc)
  simp only [stringChars]
  split_ifs with hbasic hliteral hlongBasic hlongLiteral hnewline
  · exact string_basic s rest
  · simp only [Bool.and_eq_true, decide_eq_true_eq] at hliteral
    obtain ⟨⟨hcodes, hsingles⟩, hnoNewline⟩ := hliteral
    apply string_literal
    intro c hc
    refine ⟨(plain_of_not_needsCode (hplain hcodes c hc)).resolve_right ?_,
      ne_of_longestRun hsingles c hc⟩
    rintro rfl
    rw [List.contains_iff_mem.mpr hc] at hnoNewline
    cases hnoNewline
  · exact string_longBasic s rest
  · simp only [Bool.and_eq_true, decide_eq_true_eq] at hlongLiteral
    exact string_longLiteral (hplain hlongLiteral.1) hlongLiteral.2 rest
  · exact string_longBasic s rest
  · exact string_basic s rest

/-- The two quotes of the string and the three of its end. -/
example : String.ofList (stringChars ['\n', '"', '"']) = "\"\"\"\n\n\"\"\"\"\"" := by decide

theorem stringChars_first (s : List Char) :
    ∃ c cs, stringChars s = c :: cs ∧ (c = '"' ∨ c = '\'') := by
  simp only [stringChars]
  split_ifs
  all_goals first
    | exact ⟨'"', _, rfl, Or.inl rfl⟩
    | exact ⟨'\'', _, rfl, Or.inr rfl⟩

end TrigramSearch.Toml
