import TrigramSearch.Proofs.Pattern.Mandatory

/-!
# Quoted text

Text becomes a pattern for itself when its metacharacters are escaped.  The pass
and the parser each take one step for a character, escaped or not: the pass adds
the character to the current run, and the parser adds it as a part.  So the
pattern has the text as its only literal, and where case matters it matches the
texts that contain it.

## Main results

* `scanFrom_quote`, `literals_quote` — the runs and the literals of a quoted text.
* `parse_quote` — its tree.
* `isMatch_quote_iff` — a text matches it iff it contains the quoted text.
-/

namespace TrigramSearch

/-- A pattern that stands for a text: the text with its metacharacters escaped. -/
def quote (text : List Char) : List Char :=
  text.flatMap fun c => if metacharacters.contains c then ['\\', c] else [c]

theorem quote_cons (c : Char) (rest : List Char) :
    quote (c :: rest) =
      if metacharacters.contains c then '\\' :: c :: quote rest else c :: quote rest := by
  rw [quote, List.flatMap_cons]
  split <;> rfl

theorem length_le_quote (text : List Char) : text.length ≤ (quote text).length := by
  induction text with
  | nil => exact Nat.le_refl 0
  | cons c rest ih =>
      rw [quote_cons]
      split <;> simp only [List.length_cons] <;> omega

namespace Literals

open Regex Regex.Parser

/-! ## The pass -/

theorem escapeIsText_of_meta {c : Char} (hc : metacharacters.contains c = true) :
    escapeIsText c = true := by
  have hall : metacharacters.all escapeIsText = true := by decide
  exact List.all_eq_true.mp hall c (List.contains_iff_mem.mp hc)

private theorem not_meta {c : Char} (hc : metacharacters.contains c = false) :
    c ≠ '.' ∧ c ≠ '*' ∧ c ≠ '+' ∧ c ≠ '?' ∧ c ≠ '^' ∧ c ≠ '$' ∧ c ≠ '\x7b' ∧ c ≠ '\x7d' ∧
      c ≠ '(' ∧ c ≠ ')' ∧ c ≠ '|' ∧ c ≠ '[' ∧ c ≠ ']' ∧ c ≠ '\\' := by
  simpa [metacharacters] using hc

/-- The pass takes one step for a character, escaped or not. -/
theorem scanFrom_quote_cons (asciiOnly : Bool) (fuel : Nat) (runs : Runs) (c : Char)
    (rest : List Char) :
    scanFrom asciiOnly (fuel + 1) runs (quote (c :: rest)) =
      scanFrom asciiOnly fuel (runs.push asciiOnly c) (quote rest) := by
  rw [quote_cons]
  cases hc : metacharacters.contains c with
  | true =>
      rw [if_pos rfl, scanFrom.eq_def]
      simp [escapeIsText_of_meta hc]
  | false =>
      have hplain := not_meta hc
      rw [if_neg Bool.false_ne_true, scanFrom.eq_def]
      simp [hplain]

theorem scanFrom_quote (asciiOnly : Bool) {fuel : Nat} {text : List Char}
    (hfuel : text.length ≤ fuel) (runs : Runs) :
    scanFrom asciiOnly fuel runs (quote text) =
      some (text.foldl (Runs.push asciiOnly) runs).toList := by
  induction text generalizing fuel runs with
  | nil =>
      rw [scanFrom.eq_def]
      rfl
  | cons c rest ih =>
      cases fuel with
      | zero => cases hfuel
      | succ fuel =>
          rw [scanFrom_quote_cons, ih (Nat.le_of_succ_le_succ hfuel), List.foldl_cons]

/-- The current run grows by the text as long as no character ends it. -/
theorem foldl_push (text : List Char) :
    ∀ runs : Runs, text.foldl (Runs.push false) runs =
      { runs with current := text.reverse ++ runs.current } := by
  induction text with
  | nil =>
      intro runs
      rfl
  | cons c rest ih =>
      intro runs
      rw [List.foldl_cons, ih, List.reverse_cons, List.append_assoc]
      rfl

/-- Where case matters, the only run of a quoted text is the text. -/
theorem scan?_quote (text : List Char) :
    scan? false (quote text) = some (Runs.toList ⟨text.reverse, []⟩) := by
  rw [scan?, scanFrom_quote false (length_le_quote text), foldl_push]
  simp [Runs.none]

/-- The literals of a quoted text, where case matters: the text, unless it is empty. -/
theorem literals_quote (text : List Char) {options : MatchOptions}
    (hcase : options.caseInsensitive = false) (hextended : options.extended = false) :
    (ofPattern (quote text) options).literals = if text.isEmpty then [] else [text] := by
  rw [ofPattern, hextended, hcase, scan?_quote]
  cases text with
  | nil => rfl
  | cons c rest => simp [Runs.toList, Runs.flush, List.eraseDups_cons]

/-! ## The parser -/

/-- The parser takes one step for a character, escaped or not. -/
theorem loop_quote_cons (fuel : Nat) {st : State} (hextended : st.extended = false) (c : Char)
    (rest : List Char) :
    loop (fuel + 1) st (quote (c :: rest)) = loop fuel (st.push (textPart c)) (quote rest) := by
  rw [quote_cons, loop.eq_def]
  cases hc : metacharacters.contains c with
  | true =>
      have hstep : st.step '\\' (c :: quote rest) = .ok (st.push (textPart c), quote rest) := by
        have hescape := escape_of_text (escapeIsText_of_meta hc) (quote rest)
        rw [State.step]
        simp [primitive, hextended, hescape, Except.map, Primitive.ast, textPart]
      rw [if_pos rfl]
      simp [skipBlanks, hextended, hstep]
  | false =>
      have hstep : st.step c (quote rest) = .ok (st.push (textPart c), quote rest) := by
        have hplain := not_meta hc
        rw [State.step]
        simp [primitive, hplain, Except.map, Primitive.ast, textPart]
      rw [if_neg Bool.false_ne_true]
      simp [skipBlanks, hextended, hstep]

theorem loop_quote {fuel : Nat} {text : List Char} (hfuel : text.length ≤ fuel) (st : State)
    (hextended : st.extended = false) (hgroups : st.groups = []) :
    loop fuel st (quote text) =
      .ok (State.tree { st with parts := (text.map textPart).reverse ++ st.parts }) := by
  induction text generalizing fuel st with
  | nil =>
      have hblanks : skipBlanks st.extended (quote []) = [] := by
        rw [hextended]
        rfl
      rw [loop.eq_def]
      simp only [hblanks, hgroups]
      rfl
  | cons c rest ih =>
      cases fuel with
      | zero => cases hfuel
      | succ fuel =>
          rw [loop_quote_cons fuel hextended,
            ih (Nat.le_of_succ_le_succ hfuel) (st.push (textPart c)) hextended hgroups]
          simp [State.push]

private theorem sequence_reverse (a b : Ast) (rest : List Ast) :
    sequence (a :: b :: rest).reverse = .concat (a :: b :: rest) := by
  have hlength : (a :: b :: rest).reverse.length = rest.length + 2 := List.length_reverse
  cases hparts : (a :: b :: rest).reverse with
  | nil => simp at hparts
  | cons x later =>
      cases later with
      | nil =>
          rw [hparts] at hlength
          simp at hlength
      | cons y tail =>
          rw [Parser.sequence, ← hparts, List.reverse_reverse]
          · intro hnone
            cases hnone
          · intro z hone
            cases hone

private theorem depth_sequence (text : List Char) :
    (sequence (text.map textPart).reverse).depth ≤ 1 := by
  have hflat : ∀ s : List Char, Ast.listDepth (s.map textPart) = 0 := by
    intro s
    induction s with
    | nil => rfl
    | cons c rest ih =>
        rw [List.map_cons, Ast.listDepth, ih]
        rfl
  match text with
  | [] => exact Nat.zero_le 1
  | [c] => exact Nat.zero_le 1
  | c :: d :: rest =>
      have hsequence : sequence ((c :: d :: rest).map textPart).reverse =
          .concat ((c :: d :: rest).map textPart) := sequence_reverse _ _ _
      have hdepth : (Ast.concat ((c :: d :: rest).map textPart)).depth = 1 := by
        rw [Ast.depth, hflat]
      rw [hsequence]
      exact Nat.le_of_eq hdepth

/-- The tree of a quoted text: its characters as parts. -/
theorem parse_quote (text : List Char) :
    Ast.parse false (quote text) = .ok (sequence (text.map textPart).reverse) := by
  have hloop := loop_quote (length_le_quote text) ⟨false, [], [], [], []⟩ rfl rfl
  have hdepth : ¬ nestLimit < (sequence (text.map textPart).reverse).depth := by
    have hflat := depth_sequence text
    rw [nestLimit]
    omega
  rw [Ast.parse, hloop, List.append_nil]
  exact if_neg hdepth

/-! ## The meaning -/

/-- The expression of a text: its characters, one after the other. -/
def textExpr (text : List Char) : Expr :=
  Expr.ofList (text.map fun c => .chars (CharSet.singleton c))

theorem matches_textExpr {s text : List Char} {i j : Nat} :
    (textExpr s).Matches text i j ↔ i ≤ text.length ∧ j = i + s.length ∧ s <+: text.drop i := by
  induction s generalizing i with
  | nil =>
      constructor
      · rintro ⟨rfl, hi⟩
        exact ⟨hi, rfl, List.nil_prefix⟩
      · rintro ⟨hi, rfl, _⟩
        exact ⟨rfl, hi⟩
  | cons c rest ih =>
      rw [textExpr, List.map_cons, matches_ofList_cons]
      constructor
      · rintro ⟨k, ⟨rfl, d, hd, hc⟩, hrest⟩
        obtain ⟨hlt, rfl⟩ := List.getElem?_eq_some_iff.mp hd
        obtain ⟨_, rfl, hprefix⟩ := ih.mp hrest
        refine ⟨Nat.le_of_lt hlt, by simp only [List.length_cons]; omega, ?_⟩
        rw [List.drop_eq_getElem_cons hlt, contains_singleton.mp hc]
        exact List.cons_prefix_cons.mpr ⟨rfl, hprefix⟩
      · rintro ⟨_, rfl, hprefix⟩
        have hlt : i < text.length := by
          have hlength := hprefix.length_le
          rw [List.length_cons, List.length_drop] at hlength
          omega
        rw [List.drop_eq_getElem_cons hlt, List.cons_prefix_cons] at hprefix
        obtain ⟨rfl, hrest⟩ := hprefix
        refine ⟨i + 1, ⟨rfl, _, List.getElem?_eq_getElem hlt, contains_singleton.mpr rfl⟩, ?_⟩
        exact ih.mpr ⟨hlt, by simp only [List.length_cons]; omega, hrest⟩

theorem accepts_textExpr {s text : List Char} : (textExpr s).Accepts text ↔ s <:+: text := by
  constructor
  · rintro ⟨i, j, hmatch⟩
    obtain ⟨_, _, hprefix⟩ := matches_textExpr.mp hmatch
    exact hprefix.isInfix.trans (List.drop_suffix i text).isInfix
  · rintro ⟨before, after, rfl⟩
    refine ⟨before.length, before.length + s.length, matches_textExpr.mpr ⟨?_, rfl, ?_⟩⟩
    · simp only [List.length_append]
      omega
    · rw [List.append_assoc, List.drop_left]
      exact List.prefix_append s after

private theorem interpret_textPart {f : Flags} (hcase : f.caseInsensitive = false) (c : Char) :
    Meaning.interpret f (textPart c) = .ok (.chars f (CharSet.singleton c), f) := by
  rw [textPart, Meaning.interpret, Meaning.literalSet, hcase]
  simp [Meaning.oneOf, Except.map]

private theorem interpretAll_text {f : Flags} (hcase : f.caseInsensitive = false)
    (text : List Char) :
    Meaning.interpretAll f (text.map textPart) =
      .ok (text.map fun c => .chars f (CharSet.singleton c), f) := by
  induction text with
  | nil => rfl
  | cons c rest ih =>
      rw [List.map_cons, Meaning.interpretAll, interpret_textPart hcase]
      simp only [ih, List.map_cons]

/-- The expression of a text, where case matters. -/
theorem interpret_text {f : Flags} (hcase : f.caseInsensitive = false) (text : List Char) :
    ∃ m, Meaning.interpret f (sequence (text.map textPart).reverse) = .ok (m, f) ∧
      m.expr = textExpr text := by
  match text with
  | [] => exact ⟨.empty, rfl, rfl⟩
  | [c] => exact ⟨_, interpret_textPart hcase c, rfl⟩
  | c :: d :: rest =>
      have hsequence : sequence ((c :: d :: rest).map textPart).reverse =
          .concat ((c :: d :: rest).map textPart) := sequence_reverse _ _ _
      have hall := interpretAll_text hcase (c :: d :: rest)
      refine ⟨.concat ((c :: d :: rest).map fun c => .chars f (CharSet.singleton c)), ?_, ?_⟩
      · rw [hsequence, Meaning.interpret, hall]
      · rw [Interpretation.concat, textExpr, List.map_map]
        rfl

/-- **Quoted text matches itself.**  Where case matters, a text has a match of a quoted text iff
it contains that text. -/
theorem isMatch_quote_iff {s : List Char} {options : MatchOptions}
    (hcase : options.caseInsensitive = false) (hextended : options.extended = false) {e : Expr}
    (he : compile (quote s) options = .ok e) (text : List Char) :
    e.isMatch text = true ↔ s <:+: text := by
  obtain ⟨a, m, g, hparse, hmeaning, rfl⟩ := compile_ok he
  obtain ⟨m', hmeaning', hexpr⟩ := interpret_text (f := Flags.ofOptions options) hcase s
  rw [hextended, parse_quote] at hparse
  obtain rfl := Except.ok.inj hparse
  rw [hmeaning'] at hmeaning
  obtain ⟨rfl, _⟩ := Prod.mk.inj (Except.ok.inj hmeaning)
  rw [isMatch_iff_accepts he, hexpr, accepts_textExpr]

end Literals
end TrigramSearch
