import TrigramSearch.Proofs.Pattern.Mandatory

/-!
# Literals of flat patterns

A flat pattern has no groups, no classes and no alternatives, so its tree is a
row of characters, escapes, assertions and repetitions of these, however deep
the repetitions are stacked.  The pass reads such a pattern part by part, as the
parser does, and every literal is a run of neighbouring parts (`Placed`).  Only
the last character of a run may be more than a character: the pass keeps a
character under `+` and ends the run with it, and knows nothing about the
repetitions that are applied to it afterwards (`Stacked`).

So there is one way for a literal to be missing from a match, and the main
statement names it: one of these later repetitions leaves the last character
out.

## Main results

* `scanFrom_placed` — the literals of a flat pattern are runs of its parts.
* `Placed.occurs` — such a run occurs in every match, without its last character
  if that may be left out.
* `occurs_of_flat` — the same for patterns and texts.
-/

namespace TrigramSearch.Literals

open Regex Regex.Parser

/-- A pattern without groups, classes and alternatives. -/
def IsFlat (pattern : List Char) : Prop := ∀ c ∈ pattern, c ∉ ['(', '[', '|']

instance (pattern : List Char) : Decidable (IsFlat pattern) :=
  List.decidableBAll (fun c => c ∉ ['(', '[', '|']) pattern

/-- A character under `+`, and under any further repetitions. -/
inductive Stacked (c : Char) : Ast → Prop where
  | plus (greedy : Bool) : Stacked c (.repetition ⟨1, none, greedy⟩ (textPart c))
  | again {a : Ast} (r : Repetition) (h : Stacked c a) : Stacked c (.repetition r a)

/-- Whether one of the repetitions that are stacked in a part may leave out what it repeats. -/
def leavesOut : Ast → Bool
  | .repetition r body => r.least == 0 || leavesOut body
  | _ => false

/-! ## Runs of parts -/

/-- A literal is a run of parts, the last of which may be stacked under repetitions; like the
parts of a state, the list has the last part first. -/
def Placed (parts : List Ast) (l : List Char) : Prop :=
  ∃ after part c p before, parts = after ++ part :: (p.map textPart ++ before) ∧
    l = (c :: p).reverse ∧ (part = textPart c ∨ Stacked c part)

/-- A literal that ends with the last part, which is stacked under repetitions. -/
def AtEnd (parts : List Ast) (l : List Char) : Prop :=
  ∃ part c p before, parts = part :: (p.map textPart ++ before) ∧ l = (c :: p).reverse ∧
    Stacked c part

/-- The current run stands at the end of the parts, and the finished runs stand before it. -/
def InRow (runs : Runs) (parts : List Ast) : Prop :=
  ∃ before, parts = runs.current.map textPart ++ before ∧ ∀ l ∈ runs.finished, Placed before l

/-- What holds between the runs of the pass and the parts of the parser. -/
structure Stands (runs : Runs) (parts : List Ast) : Prop where
  row : InRow runs parts
  /-- Without a current run, a repetition may take hold of the end of a finished one. -/
  ended : runs.current = [] → ∀ l ∈ runs.finished, Placed parts.tail l ∨ AtEnd parts l

section
variable {runs : Runs} {parts before : List Ast} {a : Ast} {l : List Char}

theorem Placed.cons (h : Placed parts l) (a : Ast) : Placed (a :: parts) l := by
  obtain ⟨after, part, c, p, before, rfl, hl, hpart⟩ := h
  exact ⟨a :: after, part, c, p, before, rfl, hl, hpart⟩

theorem Placed.append (h : Placed parts l) (later : List Ast) : Placed (later ++ parts) l := by
  obtain ⟨after, part, c, p, before, rfl, hl, hpart⟩ := h
  exact ⟨later ++ after, part, c, p, before, (List.append_assoc ..).symm, hl, hpart⟩

/-- When a run ends, all finished runs are runs of parts. -/
theorem InRow.flush (h : InRow runs parts) : ∀ l ∈ runs.flush.finished, Placed parts l := by
  obtain ⟨before, rfl, hfinished⟩ := h
  have hold : ∀ l ∈ runs.finished, Placed (runs.current.map textPart ++ before) l :=
    fun l hl => (hfinished l hl).append _
  obtain ⟨current, finished⟩ := runs
  cases current with
  | nil => exact hold
  | cons c p =>
      intro l hl
      rcases List.mem_cons.mp hl with rfl | hmem
      · exact ⟨[], textPart c, c, p, before, rfl, rfl, Or.inl rfl⟩
      · exact hold l hmem

/-- A state without a current run, whose finished runs all stand before the last part or end with
it. -/
theorem stands_of_ended {finished : List (List Char)}
    (h : ∀ l ∈ finished, Placed before l ∨ AtEnd (a :: before) l) :
    Stands ⟨[], finished⟩ (a :: before) := by
  refine ⟨⟨a :: before, rfl, ?_⟩, fun _ => h⟩
  intro l hl
  rcases h l hl with hplaced | ⟨part, c, p, rest, hparts, hl, hstacked⟩
  · exact hplaced.cons a
  · exact ⟨[], part, c, p, rest, hparts, hl, Or.inr hstacked⟩

/-! ### Steps that agree -/

/-- Both read a character as text. -/
theorem Stands.push_text (h : Stands runs parts) (c : Char) :
    Stands { runs with current := c :: runs.current } (textPart c :: parts) := by
  obtain ⟨before, rfl, hfinished⟩ := h.row
  exact ⟨⟨before, rfl, hfinished⟩, nofun⟩

/-- The pass ends the run, and the parser adds a part. -/
theorem Stands.push_part (h : Stands runs parts) (a : Ast) : Stands runs.flush (a :: parts) := by
  rw [flush_eq]
  exact stands_of_ended fun l hl => Or.inl (h.row.flush l hl)

/-- The pass adds a character or ends the run, and the parser adds the character. -/
theorem Stands.push (h : Stands runs parts) (asciiOnly : Bool) (c : Char) :
    Stands (runs.push asciiOnly c) (textPart c :: parts) := by
  rw [Runs.push]
  split
  · exact h.push_part (textPart c)
  · exact h.push_text c

/-- Without a current run, the pass has nothing to do when the parser repeats its last part. -/
theorem Stands.repeat_part {finished : List (List Char)} (h : Stands ⟨[], finished⟩ (a :: before))
    (r : Repetition) : Stands ⟨[], finished⟩ (.repetition r a :: before) := by
  apply stands_of_ended
  intro l hl
  rcases h.ended rfl l hl with hplaced | ⟨part, c, p, rest, hparts, hl, hstacked⟩
  · exact Or.inl hplaced
  · obtain ⟨rfl, rfl⟩ := List.cons.inj hparts
    exact Or.inr ⟨_, c, p, rest, rfl, hl, .again r hstacked⟩

/-- The pass forgets the last character, if there is one, and the parser repeats the last part. -/
theorem Stands.drop (h : Stands runs (a :: before)) (r : Repetition) :
    Stands runs.dropLast (.repetition r a :: before) := by
  obtain ⟨current, finished⟩ := runs
  cases current with
  | nil => exact h.repeat_part r
  | cons c p =>
      obtain ⟨rest, hparts, hfinished⟩ := h.row
      have hshort : InRow ⟨p, finished⟩ before := ⟨rest, (List.cons.inj hparts).2, hfinished⟩
      rw [Runs.dropLast, flush_eq]
      exact stands_of_ended fun l hl => Or.inl (hshort.flush l hl)

/-- The pass ends the run and keeps its last character, and the parser repeats that by `+`. -/
theorem Stands.plus (h : Stands runs (a :: before)) (greedy : Bool) :
    Stands runs.flush (.repetition ⟨1, none, greedy⟩ a :: before) := by
  obtain ⟨current, finished⟩ := runs
  cases current with
  | nil => exact h.repeat_part _
  | cons c p =>
      obtain ⟨rest, hparts, hfinished⟩ := h.row
      obtain ⟨rfl, rfl⟩ := List.cons.inj hparts
      apply stands_of_ended
      intro l hl
      rcases List.mem_cons.mp hl with rfl | hmem
      · exact Or.inr ⟨_, c, p, rest, rfl, rfl, .plus greedy⟩
      · exact Or.inl ((hfinished l hmem).append _)

end

/-! ## Suffixes -/

theorem greediness_suffix (s : List Char) : (greediness s).2 <:+ s := by
  rw [greediness.eq_def]
  split
  · exact List.suffix_cons _ _
  · exact List.suffix_refl s

theorem IsFlat.of_suffix {s t : List Char} (h : IsFlat s) (hs : t <:+ s) : IsFlat t :=
  fun c hc => h c (hs.subset hc)

/-! ## Side by side -/

/-- A pass that gives literals, next to a run of the parser that succeeds, on what is left of a
flat pattern. -/
structure FlatRun (asciiOnly : Bool) (a : Ast) (literals : List (List Char)) (fuel : Nat)
    (st : State) (runs : Runs) (s : List Char) : Prop where
  run : loop fuel st s = .ok a
  pass : ∃ steps, scanFrom asciiOnly steps runs s = some literals
  top : TopLevel st
  flat : IsFlat s
  stands : Stands runs st.parts

/-- The whole tree is the sequence of some parts, and the literals are runs of these. -/
def Spelled (a : Ast) (literals : List (List Char)) : Prop :=
  ∃ parts, a = sequence parts ∧ (∀ p ∈ parts, p.KeepsFlags) ∧ ∀ l ∈ literals, Placed parts l

section
variable {asciiOnly : Bool} {a : Ast} {literals : List (List Char)} {fuel : Nat} {st st' : State}
  {runs runs' : Runs} {c : Char} {s rest rest' after : List Char}

/-- A step of both at a character: the parser comes to `rest'`, and the pass to `after`. -/
private structure FlatStep (asciiOnly : Bool) (a : Ast) (literals : List (List Char)) (fuel : Nat)
    (st : State) (runs : Runs) (c : Char) (rest : List Char) (st' : State) (rest' : List Char)
    (runs' : Runs) (after : List Char) : Prop where
  top : TopLevel st
  stands : Stands runs st.parts
  flat : IsFlat (c :: rest)
  scanned : Scanned asciiOnly runs rest c runs' after
  run : loop fuel st' rest' = .ok a
  pass : ∃ steps, scanFrom asciiOnly steps runs' after = some literals

/-- Where the parser adds or repeats a part, and the pass can go on at the same place, both are
side by side again. -/
private theorem FlatStep.goesOn {b : Ast} {before : List Ast}
    (h : FlatStep asciiOnly a literals fuel st runs c rest { st with parts := b :: before } rest'
      runs' after) (hb : b.KeepsFlags) (hbefore : ∀ x ∈ before, x ∈ st.parts)
    (hpass : ∃ steps, scanFrom asciiOnly steps runs' rest' = some literals)
    (hsuffix : rest' <:+ rest) (hstands : Stands runs' (b :: before)) :
    FlatRun asciiOnly a literals fuel { st with parts := b :: before } runs' rest' :=
  ⟨h.run, hpass, h.top.with_part hb hbefore,
    h.flat.of_suffix (hsuffix.trans (List.suffix_cons c rest)), hstands⟩

/-! ### Repetitions -/

section
variable {r : Repetition} {b : Ast} {before : List Ast}

/-- After a repetition the pass has no current run, so it may stand before a sign that makes the
repetition lazy. -/
private theorem FlatStep.repeated (hparts : st.parts = b :: before)
    (h : FlatStep asciiOnly a literals fuel st runs c rest
      { st with parts := .repetition r b :: before } (greediness after).2 runs' after)
    (hsuffix : after <:+ rest) (hcurrent : runs'.current = [])
    (hstands : Stands runs' (.repetition r b :: before)) :
    FlatRun asciiOnly a literals fuel { st with parts := .repetition r b :: before } runs'
      (greediness after).2 := by
  have hb : b.KeepsFlags := h.top.parts b (hparts ▸ List.mem_cons_self)
  obtain ⟨steps, hscan⟩ := h.pass
  obtain ⟨current, finished⟩ := runs'
  have hempty : current = [] := hcurrent
  subst hempty
  exact h.goesOn hb (fun x hx => hparts ▸ List.mem_cons_of_mem b hx) (scan_lazy hscan)
    ((greediness_suffix after).trans hsuffix) hstands

private theorem flatRun_sign (hc : c = '?' ∨ c = '*' ∨ c = '+') (hparts : st.parts = b :: before)
    (h : FlatStep asciiOnly a literals fuel st runs c rest
      { st with parts := .repetition (signCounts c (greediness rest).1) b :: before }
      (greediness rest).2 runs' after) :
    FlatRun asciiOnly a literals fuel
      { st with parts := .repetition (signCounts c (greediness rest).1) b :: before } runs'
      (greediness rest).2 := by
  have hstands : Stands runs (b :: before) := hparts ▸ h.stands
  by_cases hplus : c = '+'
  · subst hplus
    obtain ⟨rfl, rfl⟩ := h.scanned.at_flush (by decide)
    exact h.repeated hparts (List.suffix_refl _) (flush_current runs) (hstands.plus _)
  · have hdrop : c = '*' ∨ c = '?' := by
      rcases hc with rfl | rfl | rfl
      · exact Or.inr rfl
      · exact Or.inl rfl
      · exact absurd rfl hplus
    obtain ⟨rfl, rfl⟩ := h.scanned.at_drop hdrop
    exact h.repeated hparts (List.suffix_refl _) (flush_current _) (hstands.drop _)

private theorem flatRun_counts (hcounts : repetitionCounts st.extended rest = .ok (r, rest'))
    (hparts : st.parts = b :: before)
    (h : FlatStep asciiOnly a literals fuel st runs '\x7b' rest
      { st with parts := .repetition r b :: before } rest' runs' after) :
    FlatRun asciiOnly a literals fuel { st with parts := .repetition r b :: before } runs'
      rest' := by
  have hstands : Stands runs (b :: before) := hparts ▸ h.stands
  rw [h.top.extended] at hcounts
  obtain ⟨rfl, rfl⟩ := h.scanned.at_counts
  obtain rfl := repetitionCounts_rest hcounts
  exact h.repeated hparts (skipPast_suffix _ _) (flush_current _) (hstands.drop r)

end

/-! ### Single characters -/

/-- An escape is text for both, or ends the run. -/
private theorem flatRun_escape {p : Primitive}
    (hprimitive : Parser.primitive false '\\' rest = .ok (p, rest')) (hp : p.ast.KeepsFlags)
    (h : FlatStep asciiOnly a literals fuel st runs '\\' rest (st.push p.ast) rest' runs' after) :
    FlatRun asciiOnly a literals fuel (st.push p.ast) runs' rest' := by
  obtain ⟨e, tail, rfl, hcases⟩ := h.scanned.at_escape
  rw [Parser.primitive, if_pos rfl] at hprimitive
  rcases hcases with ⟨he, rfl, rfl⟩ | ⟨he, rfl, rfl⟩
  · obtain ⟨rfl, rfl⟩ := escape_text he hprimitive
    exact h.goesOn hp (fun _ hx => hx) h.pass (List.suffix_cons _ _) (h.stands.push asciiOnly e)
  have hstands := h.stands.push_part p.ast
  rcases escape_rest hprimitive with rfl | ⟨rfl, tail', rfl, rfl⟩
  · exact h.goesOn hp (fun _ hx => hx) h.pass
      ((skipPayload_suffix e tail).trans (List.suffix_cons e tail)) hstands
  · -- the name of a word assertion is a repetition of nothing to the pass
    obtain ⟨steps, hscan⟩ := h.pass
    have hbrace : scanFrom asciiOnly steps runs.flush ('\x7b' :: tail') = some literals := hscan
    rw [flush_eq] at hbrace
    have hpass := scan_wordName hbrace
    rw [← flush_eq] at hpass
    refine h.goesOn hp (fun _ hx => hx) hpass ?_ hstands
    exact (skipPast_suffix _ tail').trans
      ((List.suffix_cons '\x7b' tail').trans (List.suffix_cons 'b' _))

/-- Where the parser reads a primitive, the pass reads text or ends the run. -/
private theorem flatRun_primitive {p : Primitive}
    (hc : c ∉ ['(', ')', '|', '[', '?', '*', '+', '\x7b'])
    (hprimitive : Parser.primitive st.extended c rest = .ok (p, rest'))
    (h : FlatStep asciiOnly a literals fuel st runs c rest (st.push p.ast) rest' runs' after) :
    FlatRun asciiOnly a literals fuel (st.push p.ast) runs' rest' := by
  have hp : p.ast.KeepsFlags := by cases p <;> exact trivial
  rw [h.top.extended] at hprimitive
  by_cases hslash : c = '\\'
  · subst hslash
    exact flatRun_escape hprimitive hp h
  obtain ⟨rfl, hliteral⟩ := primitive_alone hslash hprimitive
  by_cases hmark : c ∈ ['.', '^', '$']
  · obtain ⟨rfl, rfl⟩ := h.scanned.at_flush (List.mem_cons_of_mem '+' hmark)
    exact h.goesOn hp (fun _ hx => hx) h.pass (List.suffix_refl _) (h.stands.push_part p.ast)
  · have hpass : c ∉ passMarks := by
      simp only [passMarks, List.mem_cons, List.not_mem_nil, or_false, not_or] at hc hmark ⊢
      simp [hc, hmark, hslash]
    obtain ⟨rfl, rfl⟩ := h.scanned.at_literal hpass
    obtain rfl := hliteral hmark
    exact h.goesOn hp (fun _ hx => hx) h.pass (List.suffix_refl _) (h.stands.push asciiOnly c)

/-! ### All steps -/

/-- Side by side, both are at the end of the pattern, or make a step. -/
private theorem flatRun_step (h : FlatRun asciiOnly a literals fuel st runs s) :
    Spelled a literals ∨
      ∃ fuel' st' runs' s', fuel = fuel' + 1 ∧ FlatRun asciiOnly a literals fuel' st' runs' s' := by
  have htop := h.top
  obtain ⟨steps, hscan⟩ := h.pass
  have hblank : skipBlanks st.extended s = s := by
    rw [htop.extended]
    rfl
  rcases loop_step h.run with ⟨hs, _, ha⟩ | ⟨fuel, c, rest, st', rest', rfl, hs, hstep, hrun⟩
  · rw [hblank] at hs
    rcases scanFrom_step hscan with ⟨_, hliterals⟩ | ⟨_, _, _, _, _, _, hcons, _⟩
    · refine Or.inl ⟨st.parts, ?_, htop.parts, ?_⟩
      · rw [ha, State.tree, htop.branches]
        rfl
      · intro l hl
        rw [hliterals] at hl
        exact h.stands.row.flush l (List.mem_reverse.mp hl)
    · rw [hs] at hcons
      cases hcons
  rw [hblank] at hs
  subst hs
  rcases scanFrom_step hscan with
    ⟨hnil, _⟩ | ⟨steps', c', rest'', runs', after, _, hcons, hscanned, hscan'⟩
  · cases hnil
  obtain ⟨rfl, rfl⟩ := List.cons.inj hcons
  have hboth : FlatStep asciiOnly a literals fuel st runs c rest st' rest' runs' after :=
    ⟨htop, h.stands, h.flat, hscanned, hrun, ⟨steps', hscan'⟩⟩
  have hplain : c ∉ ['(', '[', '|'] := h.flat c List.mem_cons_self
  right
  refine ⟨fuel, st', runs', rest', rfl, ?_⟩
  cases stepped hstep with
  | enter => exact absurd (by decide) hplain
  | setFlags => exact absurd (by decide) hplain
  | close hgroups =>
      rw [htop.groups] at hgroups
      cases hgroups
  | branch => exact absurd (by decide) hplain
  | charClass => exact absurd (by decide) hplain
  | sign hc hparts => exact flatRun_sign hc hparts hboth
  | counts hcounts hparts => exact flatRun_counts hcounts hparts hboth
  | primitive hc hprimitive => exact flatRun_primitive hc hprimitive hboth

/-- The literals of a flat pattern are runs of its parts. -/
theorem scanFrom_placed (h : FlatRun asciiOnly a literals fuel st runs s) :
    Spelled a literals := by
  induction fuel generalizing st runs s with
  | zero =>
      rcases flatRun_step h with hend | ⟨_, _, _, _, hfuel, _⟩
      · exact hend
      · cases hfuel
  | succ fuel ih =>
      rcases flatRun_step h with hend | ⟨fuel', st', runs', s', hfuel, hnext⟩
      · exact hend
      · obtain rfl := Nat.succ.inj hfuel
        exact ih hnext

end

/-! ## Matches -/

section
variable {f : Flags} {text : List Char}

theorem possible_of_append {later parts : List Ast} (h : Possible f text (later ++ parts)) :
    Possible f text parts := by
  induction later with
  | nil => exact h
  | cons a later ih => exact ih h.of_cons

/-- A stack of repetitions that leaves nothing out begins with the character. -/
theorem Stacked.starts {c : Char} {part : Ast} (h : Stacked c part)
    (hkeeps : leavesOut part = false) {i j : Nat} (hmatch : part.MatchesUnder f text i j) :
    ∃ k, (textPart c).MatchesUnder f text i k := by
  induction h generalizing j with
  | plus greedy => exact matchesUnder_of_repetition Nat.one_ne_zero hmatch
  | again r _ ih =>
      rw [leavesOut, Bool.or_eq_false_iff] at hkeeps
      have hleast : r.least ≠ 0 := by simpa using hkeeps.1
      obtain ⟨k, hbody⟩ := matchesUnder_of_repetition hleast hmatch
      exact ih hkeeps.2 hbody

/-- A run of parts occurs in every match of all parts, without its last character if that may be
left out. -/
theorem Placed.occurs (hunicode : f.unicode = true) {parts : List Ast} {l : List Char}
    (h : Placed parts l) (hpossible : Possible f text parts) :
    Occurs f.caseInsensitive text l ∨
      ∃ p c part, l = p ++ [c] ∧ part ∈ parts ∧ Stacked c part ∧ leavesOut part = true ∧
        Occurs f.caseInsensitive text p := by
  obtain ⟨after, part, c, p, before, rfl, rfl, hpart⟩ := h
  obtain ⟨i, j, k, hbefore, hlast⟩ := possible_of_append hpossible
  obtain ⟨start, _, hoccurs, rfl⟩ := occursAt_of_spans hunicode hbefore
  rw [List.reverse_cons]
  -- the last character matches where the run before it ends
  have hwhole : (∃ k, (textPart c).MatchesUnder f text (start + p.length) k) →
      Occurs f.caseInsensitive text (p.reverse ++ [c]) := by
    rintro ⟨k, hmatch⟩
    obtain ⟨_, hvariant⟩ := variant_of_matchesUnder hunicode hmatch
    refine ⟨start, occursAt_append.mpr ⟨hoccurs, ?_, trivial⟩⟩
    rw [List.length_reverse]
    exact hvariant
  rcases hpart with rfl | hstacked
  · exact Or.inl (hwhole ⟨j, hlast⟩)
  cases hleaves : leavesOut part with
  | false => exact Or.inl (hwhole (hstacked.starts hleaves hlast))
  | true =>
      refine Or.inr ⟨p.reverse, c, part, rfl, ?_, hstacked, hleaves, start, hoccurs⟩
      exact List.mem_append_right after List.mem_cons_self

end

/-! ## Patterns -/

/-- **Literals of flat patterns.**  In every text that a flat pattern matches, each of its literals
occurs, up to case where it is ignored; or its last character is one that `+` repeats and that a
further repetition leaves out, and then the literal occurs without it. -/
theorem occurs_of_flat {pattern : List Char} {options : MatchOptions} {e : Expr}
    (hflat : IsFlat pattern) (hplain : options.extended = false)
    (hcompile : Regex.compile pattern options = .ok e) :
    ∃ parts, Ast.parse false pattern = .ok (sequence parts) ∧
      ∀ text, e.isMatch text = true → ∀ l ∈ (ofPattern pattern options).literals,
        Occurs options.caseInsensitive text l ∨
          ∃ p c part, l = p ++ [c] ∧ part ∈ parts ∧ Stacked c part ∧ leavesOut part = true ∧
            Occurs options.caseInsensitive text p := by
  obtain ⟨a, m, g, hparse, hmeaning, rfl⟩ := compile_ok hcompile
  rw [hplain] at hparse
  cases hscan : scan? options.caseInsensitive pattern with
  | none =>
      have hnone : (ofPattern pattern options).literals = [] := by
        rw [ofPattern, hplain, hscan]
        rfl
      refine ⟨[a], hparse, ?_⟩
      intro text _ l hl
      rw [hnone] at hl
      cases hl
  | some literals =>
      have hstart : FlatRun options.caseInsensitive a literals pattern.length
          ⟨false, [], [], [], []⟩ Runs.none pattern :=
        { run := parse_ok hparse
          pass := ⟨pattern.length, hscan⟩
          top := ⟨rfl, rfl, rfl, by simp⟩
          flat := hflat
          stands := ⟨⟨[], rfl, by simp [Runs.none]⟩, by simp [Runs.none]⟩ }
      obtain ⟨parts, rfl, hparts, hplaced⟩ := scanFrom_placed hstart
      refine ⟨parts, hparse, ?_⟩
      intro text hmatch l hl
      obtain ⟨literals', hscan', hmem, _⟩ := exists_scan_of_mem hl
      obtain rfl := Option.some.inj (hscan.symm.trans hscan')
      obtain ⟨i, j, hspan⟩ := (isMatch_iff_accepts hcompile text).mp hmatch
      have hspans := spans_of_sequence hparts ⟨m, g, hmeaning, hspan⟩
      exact (hplaced l hmem).occurs (f := Flags.ofOptions options) rfl ⟨i, j, hspans⟩

/-- Escapes with and without text, lazy signs, and repetitions of repetitions; the last `*` leaves
the letter `c` out. -/
theorem occurs_of_flat_repeated :
    let pattern := "^x\\.\\x41y{2,3}?z\\b.*abc+?*".toList
    let text := "x.Ayyz -ab".toList
    ∃ e, IsFlat pattern ∧ Regex.compile pattern {} = .ok e ∧ e.isMatch text = true ∧
      (ofPattern pattern {}).literals = ["x.".toList, "z".toList, "abc".toList] ∧
      ∃ parts, Ast.parse false pattern = .ok (sequence parts) ∧
        ∀ l ∈ (ofPattern pattern {}).literals, Occurs false text l ∨
          ∃ p c part, l = p ++ [c] ∧ part ∈ parts ∧ Stacked c part ∧ leavesOut part = true ∧
            Occurs false text p := by
  intro pattern text
  have hmatch : (Regex.compile pattern {}).toOption.any (·.isMatch text) = true := by
    decide +kernel
  cases hcompile : Regex.compile pattern {} with
  | error e =>
      rw [hcompile] at hmatch
      cases hmatch
  | ok e =>
      rw [hcompile] at hmatch
      obtain ⟨parts, hparse, hoccur⟩ := occurs_of_flat (by decide +kernel) rfl hcompile
      exact ⟨e, by decide +kernel, rfl, hmatch, by decide +kernel, parts, hparse,
        hoccur text hmatch⟩

/-- The letter that `+` repeats may be left out by a further repetition, but the literal holds
it. -/
theorem literal_missing_from_match :
    let pattern := "abc+*".toList
    let text := "ab".toList
    IsFlat pattern ∧ (Regex.compile pattern {}).toOption.any (·.isMatch text) = true ∧
      "abc".toList ∈ (ofPattern pattern {}).literals ∧ ¬ Occurs false text "abc".toList := by
  intro pattern text
  refine ⟨by decide +kernel, by decide +kernel, by decide +kernel, ?_⟩
  rintro ⟨k, ⟨a, ha, _⟩, ⟨b, hb, _⟩, ⟨c, hc, _⟩, _⟩
  have hlength : text.length = 2 := rfl
  obtain ⟨hlt, _⟩ := List.getElem?_eq_some_iff.mp hc
  omega

end TrigramSearch.Literals
