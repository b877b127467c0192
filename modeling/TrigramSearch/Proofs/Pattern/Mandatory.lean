import TrigramSearch.Proofs.Pattern.Escapes
import TrigramSearch.Proofs.Pattern.Legible
import TrigramSearch.Proofs.Pattern.Scanning
import TrigramSearch.Proofs.Regex.Bounds
import TrigramSearch.Proofs.Regex.Spans

/-!
# Literals of a legible pattern are mandatory

Outside of groups the pass for literals and the parser go through a legible
pattern side by side.  The current run is the characters that the parser has
read last, each a part of its own; in front of them stand the parts that demand
the finished runs (`Supported`).  A repetition takes one part away from this: the
last one.  So the runs that are finished must not need the last part, unless it
is text under `+`, which a legible pattern does not make optional afterwards
(`Tracks`).

## Main results

* `scanFrom_tracks` — from two states that agree, the pass and the parser come
  to the end of the pattern with literals that all parts together demand.
* `occurs_of_accepts` — every literal of a legible pattern occurs in every text
  that the pattern matches.
* `fold_infix_of_isMatch` — the same for the matcher, and up to folding.
-/

namespace TrigramSearch.Literals

open Regex Regex.Parser

/-! ## The runs and the parts -/

/-- A character as a part of its own. -/
def textPart (c : Char) : Ast := .literal ⟨c, false⟩

section
variable (f : Flags) (text : List Char)

/-- All literals of a list occur in the text. -/
def AllOccur (literals : List (List Char)) : Prop :=
  ∀ l ∈ literals, Occurs f.caseInsensitive text l

/-- The current run stands at the end of the parts, and what stands before it demands the finished
runs. -/
def Supported (runs : Runs) (parts : List Ast) : Prop :=
  ∃ before, parts = runs.current.map textPart ++ before ∧
    (Possible f text before → AllOccur f text runs.finished)

/-- What holds between the pass and the parser outside of groups. -/
structure Tracks (runs : Runs) (last : LastPart) (parts : List Ast) : Prop where
  supported : Supported f text runs parts
  taken : runs.current ≠ [] → last = .text
  /-- Without a current run, the finished ones do not need the last part. -/
  apart : runs.current = [] → last ≠ .kept → Possible f text parts.tail →
    AllOccur f text runs.finished

end

section
variable {f : Flags} {text : List Char}

/-- The current run occurs where its parts match. -/
theorem occursAt_of_spans (hunicode : f.unicode = true) {current : List Char}
    {before : List Ast} {i j : Nat} (h : Spans f text (current.map textPart ++ before) i j) :
    ∃ k, Spans f text before i k ∧ OccursAt f.caseInsensitive text current.reverse k ∧
      j = k + current.length := by
  induction current generalizing j with
  | nil => exact ⟨j, h, trivial, rfl⟩
  | cons c current ih =>
      obtain ⟨l, hrest, hlast⟩ := h
      obtain ⟨k, hbefore, hoccurs, rfl⟩ := ih hrest
      obtain ⟨rfl, hvariant⟩ := variant_of_matchesUnder hunicode hlast
      refine ⟨k, hbefore, ?_, rfl⟩
      rw [List.reverse_cons, occursAt_append, List.length_reverse]
      exact ⟨hoccurs, hvariant, trivial⟩

/-- When a run ends, all parts together demand it. -/
theorem Supported.flush (hunicode : f.unicode = true) {runs : Runs} {parts : List Ast}
    (h : Supported f text runs parts) (hpossible : Possible f text parts) :
    AllOccur f text runs.flush.finished := by
  obtain ⟨before, rfl, hfinished⟩ := h
  obtain ⟨i, j, hspans⟩ := hpossible
  obtain ⟨k, hbefore, hoccurs, _⟩ := occursAt_of_spans hunicode hspans
  have hold := hfinished ⟨i, k, hbefore⟩
  rw [Runs.flush]
  split
  · exact hold
  · intro l hl
    rcases List.mem_cons.mp hl with rfl | hmem
    · exact ⟨k, hoccurs⟩
    · exact hold l hmem

/-- Without its last character, the current run is supported by the parts without the last one. -/
theorem Supported.dropLast {c : Char} {current : List Char} {finished : List (List Char)}
    {a : Ast} {before : List Ast} (h : Supported f text ⟨c :: current, finished⟩ (a :: before)) :
    Supported f text ⟨current, finished⟩ before := by
  obtain ⟨rest, hparts, hfinished⟩ := h
  exact ⟨rest, (List.cons.inj hparts).2, hfinished⟩

theorem flush_current (runs : Runs) : runs.flush.current = [] := by
  rw [Runs.flush]
  split
  · rename_i hempty
    exact List.isEmpty_iff.mp hempty
  · rfl

theorem flush_eq (runs : Runs) : runs.flush = ⟨[], runs.flush.finished⟩ := by
  rw [← flush_current runs]

/-! ## Steps that agree -/

/-- Both read a character as text. -/
theorem Tracks.push_text {runs : Runs} {last : LastPart} {parts : List Ast}
    (h : Tracks f text runs last parts) (c : Char) :
    Tracks f text { runs with current := c :: runs.current } .text (textPart c :: parts) := by
  obtain ⟨before, rfl, hfinished⟩ := h.supported
  exact ⟨⟨before, rfl, hfinished⟩, fun _ => rfl, nofun⟩

/-- The pass ends the run, and the parser adds a part. -/
theorem Tracks.push_part (hunicode : f.unicode = true) {runs : Runs} {last : LastPart}
    {parts : List Ast} (h : Tracks f text runs last parts) (last' : LastPart) (a : Ast) :
    Tracks f text runs.flush last' (a :: parts) := by
  have hfinished : Possible f text parts → AllOccur f text runs.flush.finished :=
    fun hpossible => h.supported.flush hunicode hpossible
  refine ⟨⟨a :: parts, ?_, fun hpossible => hfinished hpossible.of_cons⟩, ?_, fun _ _ => hfinished⟩
  · rw [flush_current]
    rfl
  · intro hcurrent
    exact absurd (flush_current runs) hcurrent

/-- The pass adds a character or ends the run, and the parser adds the character. -/
theorem Tracks.push (hunicode : f.unicode = true) {asciiOnly : Bool} {runs : Runs}
    {last : LastPart} {parts : List Ast} (h : Tracks f text runs last parts) (c : Char) :
    Tracks f text (runs.push asciiOnly c) (if asciiOnly && 128 ≤ c.toNat then .other else .text)
      (textPart c :: parts) := by
  rw [Runs.push]
  split
  · exact h.push_part hunicode .other (textPart c)
  · exact h.push_text c

/-- The pass forgets a character, and the parser repeats it. -/
theorem Tracks.dropLast_text (hunicode : f.unicode = true) {c : Char} {current : List Char}
    {finished : List (List Char)} {last : LastPart} {a : Ast} {before : List Ast}
    (h : Tracks f text ⟨c :: current, finished⟩ last (a :: before)) (r : Repetition)
    (last' : LastPart) :
    Tracks f text (Runs.flush ⟨current, finished⟩) last' (.repetition r a :: before) := by
  have hfinished : Possible f text before →
      AllOccur f text (Runs.flush ⟨current, finished⟩).finished :=
    fun hpossible => h.supported.dropLast.flush hunicode hpossible
  refine ⟨⟨.repetition r a :: before, ?_, fun hpossible => hfinished hpossible.of_cons⟩, ?_,
    fun _ _ => hfinished⟩
  · rw [flush_current]
    rfl
  · intro hcurrent
    exact absurd (flush_current _) hcurrent

/-- The pass ends the run and keeps its last character, and the parser repeats it by `+`. -/
theorem Tracks.keep_text (hunicode : f.unicode = true) {runs : Runs} {last : LastPart} {a : Ast}
    {before : List Ast} (h : Tracks f text runs last (a :: before)) {r : Repetition}
    (hr : r.least ≠ 0) : Tracks f text runs.flush .kept (.repetition r a :: before) := by
  have hfinished : Possible f text (.repetition r a :: before) →
      AllOccur f text runs.flush.finished :=
    fun hpossible => h.supported.flush hunicode (hpossible.of_repetition hr)
  refine ⟨⟨.repetition r a :: before, ?_, hfinished⟩, ?_, fun _ hkept => absurd rfl hkept⟩
  · rw [flush_current]
    rfl
  · intro hcurrent
    exact absurd (flush_current runs) hcurrent

/-- Without a current run, the pass has nothing to do when the parser repeats its last part. -/
theorem Tracks.repeat_part {finished : List (List Char)} {last last' : LastPart} {a : Ast}
    {before : List Ast} (h : Tracks f text ⟨[], finished⟩ last (a :: before)) {r : Repetition}
    (hr : last = .kept → r.least ≠ 0 ∧ last' = .kept) :
    Tracks f text ⟨[], finished⟩ last' (.repetition r a :: before) := by
  by_cases hkept : last = .kept
  · obtain ⟨hleast, hkept'⟩ := hr hkept
    obtain ⟨all, hparts, hfinished⟩ := h.supported
    have hall : all = a :: before := hparts.symm
    subst hall
    refine ⟨⟨.repetition r a :: before, rfl, ?_⟩, fun hne => absurd rfl hne,
      fun _ hne => absurd hkept' hne⟩
    intro hpossible
    exact hfinished (hpossible.of_repetition hleast)
  · have hfinished : Possible f text before → AllOccur f text finished := h.apart rfl hkept
    exact ⟨⟨.repetition r a :: before, rfl, fun hpossible => hfinished hpossible.of_cons⟩,
      fun hne => absurd rfl hne, fun _ _ => hfinished⟩

/-- A repetition that drops the last character of the run, if there is one. -/
theorem Tracks.drop (hunicode : f.unicode = true) {runs : Runs} {last last' : LastPart} {a : Ast}
    {before : List Ast} (h : Tracks f text runs last (a :: before)) {r : Repetition}
    (hr : last = .kept → r.least ≠ 0 ∧ last' = .kept) :
    Tracks f text runs.dropLast last' (.repetition r a :: before) := by
  obtain ⟨current, finished⟩ := runs
  cases current with
  | nil => exact h.repeat_part hr
  | cons c current => exact h.dropLast_text hunicode r last'

/-- A repetition that keeps the run. -/
theorem Tracks.plus (hunicode : f.unicode = true) {runs : Runs} {last last' : LastPart} {a : Ast}
    {before : List Ast} (h : Tracks f text runs last (a :: before)) {r : Repetition}
    (hr : r.least ≠ 0) (hlast : last ≠ .other → last' = .kept) :
    Tracks f text runs.flush last' (.repetition r a :: before) := by
  obtain ⟨current, finished⟩ := runs
  cases current with
  | nil => exact h.repeat_part fun hkept => ⟨hr, hlast (by rw [hkept]; decide)⟩
  | cons c current =>
      have htext := h.taken (List.cons_ne_nil c current)
      rw [hlast (by rw [htext]; decide)]
      exact h.keep_text hunicode hr

end

/-! ## Side by side -/

/-- A state of the parser outside of groups, with no branches so far. -/
structure TopLevel (st : State) : Prop where
  extended : st.extended = false
  branches : st.branches = []
  groups : st.groups = []
  parts : ∀ a ∈ st.parts, a.KeepsFlags

theorem TopLevel.with_part {st : State} (h : TopLevel st) {a : Ast} {before : List Ast}
    (ha : a.KeepsFlags) (hbefore : ∀ x ∈ before, x ∈ st.parts) :
    TopLevel { st with parts := a :: before } where
  extended := h.extended
  branches := h.branches
  groups := h.groups
  parts := by
    intro x hx
    rcases List.mem_cons.mp hx with rfl | hold
    · exact ha
    · exact h.parts x (hbefore x hold)

/-- A letter that is a flag. -/
private theorem isAsciiLetter_of_flag {c : Char} {flag : Flag} (h : flag? c = some flag) :
    isAsciiLetter c = true ∧ c ≠ 'P' := by
  simp only [flag?] at h
  repeat' split at h
  all_goals first
    | (rename_i hc
       subst hc
       decide)
    | cases h

private theorem named_ne_setFlags {s rest : List Char} {items : List FlagItem} :
    ((groupName [] s).map fun (n, s) => (GroupStart.named n, s)) ≠ .ok (.setFlags items, rest) := by
  intro h
  cases hname : groupName [] s with
  | error e =>
      rw [hname] at h
      cases h
  | ok result =>
      rw [hname] at h
      exact nomatch (Prod.mk.inj (Except.ok.inj h)).1

private theorem uncertain_of_letter {c : Char} {s : List Char} (hname : c ≠ 'P')
    (hc : (isAsciiLetter c || c = '-') = true) : groupIsUncertain ('?' :: c :: s) = true := by
  rw [groupIsUncertain.eq_def]
  split
  · rfl
  · rename_i heq
    exact absurd (List.cons.inj (List.cons.inj heq).2).1 hname
  · rename_i heq
    obtain ⟨rfl, _⟩ := List.cons.inj (List.cons.inj heq).2
    exact hc
  · rename_i hno
    exact (hno c s rfl).elim

/-- Flags of their own make the pass give up. -/
private theorem uncertain_of_setFlags {rest rest' : List Char} {items : List FlagItem}
    (h : groupStart false rest = .ok (.setFlags items, rest')) : groupIsUncertain rest = true := by
  rw [groupStart.eq_def] at h
  dsimp only at h
  split at h
  case h_8 =>
    rename_i tail _ _ _ _ _ _ _ hstart
    have hrest : rest = '?' :: tail := hstart
    rw [hrest]
    cases tail with
    | nil => cases h
    | cons c tail =>
        rw [flags] at h
        by_cases hend : (c = ':' || c = ')') = true
        · rw [if_pos hend, if_neg (by simp)] at h
          dsimp only at h
          split at h
          · cases h
          · cases h
        rw [if_neg hend] at h
        by_cases hminus : c = '-'
        · exact uncertain_of_letter (by rw [hminus]; decide) (by simp [hminus])
        rw [if_neg hminus] at h
        cases hflag : flag? c with
        | none =>
            rw [hflag] at h
            cases h
        | some flag =>
            obtain ⟨hletter, hname⟩ := isAsciiLetter_of_flag hflag
            exact uncertain_of_letter hname (by simp [hletter])
  case h_5 => exact absurd h named_ne_setFlags
  case h_6 => exact absurd h named_ne_setFlags
  all_goals cases h

/-- The sign that makes a repetition lazy means nothing to the pass. -/
theorem scan_lazy {asciiOnly : Bool} {fuel : Nat} {finished literals : List (List Char)}
    {s : List Char} (h : scanFrom asciiOnly fuel ⟨[], finished⟩ s = some literals) :
    ∃ fuel', scanFrom asciiOnly fuel' ⟨[], finished⟩ (greediness s).2 = some literals := by
  rw [greediness.eq_def]
  split
  · rename_i rest
    rcases scanFrom_step h with ⟨hnil, _⟩ | ⟨fuel', c, after, runs', rest', _, hs, hstep, hscan⟩
    · cases hnil
    · obtain ⟨rfl, rfl⟩ := List.cons.inj hs
      cases hstep with
      | drop => exact ⟨fuel', hscan⟩
      | flush hc => exact absurd hc (by decide)
      | literal hc => exact absurd (by decide) hc
  · exact ⟨fuel, h⟩

/-- A pass that gives literals, next to a run of the parser that succeeds. -/
structure SideBySide (f : Flags) (text : List Char) (asciiOnly : Bool) (a : Ast)
    (literals : List (List Char)) (fuel : Nat) (last : LastPart) (st : State) (runs : Runs)
    (s : List Char) : Prop where
  parser : Succeeds asciiOnly a fuel last st s
  pass : ∃ steps, scanFrom asciiOnly steps runs s = some literals
  top : TopLevel st
  tracks : Tracks f text runs last st.parts

section
variable {f : Flags} {text : List Char} {asciiOnly : Bool} {a : Ast} {literals : List (List Char)}

/-- The whole tree is the sequence of some parts, which together demand the literals. -/
def Demands (f : Flags) (text : List Char) (a : Ast) (literals : List (List Char)) : Prop :=
  ∃ parts, a = sequence parts ∧ (∀ p ∈ parts, p.KeepsFlags) ∧
    (Possible f text parts → AllOccur f text literals)

/-- At the end of the pattern, all parts together demand the literals. -/
private theorem demands_at_end (hunicode : f.unicode = true) {st : State} (htop : TopLevel st)
    {runs : Runs} {last : LastPart} (htracks : Tracks f text runs last st.parts)
    (ha : a = st.tree) (hliterals : literals = runs.toList) : Demands f text a literals := by
  refine ⟨st.parts, ?_, htop.parts, ?_⟩
  · rw [ha, State.tree, htop.branches]
    rfl
  · intro hpossible l hl
    rw [hliterals] at hl
    exact htracks.supported.flush hunicode hpossible l (List.mem_reverse.mp hl)

/-- What a step side by side leads to: the end of the pattern, or another state. -/
private def Continues (f : Flags) (text : List Char) (asciiOnly : Bool) (a : Ast)
    (literals : List (List Char)) (fuel : Nat) : Prop :=
  Demands f text a literals ∨
    ∃ fuel' last st runs s, fuel' < fuel ∧
      SideBySide f text asciiOnly a literals fuel' last st runs s

/-- A step of both at a character: before it they agree, and after it both succeed. -/
private structure StepSideBySide (f : Flags) (text : List Char) (asciiOnly : Bool) (a : Ast)
    (literals : List (List Char)) (fuel : Nat) (last : LastPart) (st : State) (runs : Runs)
    (c : Char) (rest : List Char) (st' : State) (rest' : List Char) (runs' : Runs)
    (after : List Char) : Prop where
  top : TopLevel st
  tracks : Tracks f text runs last st.parts
  scanned : Scanned asciiOnly runs rest c runs' after
  part : partIsLegible st c rest st' rest' = true
  kept : last = .kept → isOptional st' = false
  parser : Succeeds asciiOnly a fuel (last.next asciiOnly st c rest) st' rest'
  pass : ∃ steps, scanFrom asciiOnly steps runs' after = some literals

section
variable {fuel : Nat} {last : LastPart} {st st' : State} {runs runs' : Runs} {c : Char}
  {rest rest' after : List Char}

/-- Where both go on at the same place, it remains to see that they agree. -/
private theorem StepSideBySide.continues
    (h : StepSideBySide f text asciiOnly a literals fuel last st runs c rest st' after runs' after)
    (htop : TopLevel st')
    (htracks : Tracks f text runs' (last.next asciiOnly st c rest) st'.parts) :
    Continues f text asciiOnly a literals (fuel + 1) :=
  Or.inr ⟨fuel, _, st', runs', after, Nat.lt_succ_self fuel, h.parser, h.pass, htop, htracks⟩

/-! ### Groups and classes -/

/-- A group, if it is no setting of flags, is one part for both. -/
private theorem continues_enter (hunicode : f.unicode = true) {capturing : Bool}
    {flags : List FlagItem} {names : List (List Char)}
    (h : StepSideBySide f text asciiOnly a literals fuel last st runs '(' rest
      (st.enter capturing flags names) rest' runs' after) :
    Continues f text asciiOnly a literals (fuel + 1) := by
  obtain ⟨hskip, rfl⟩ := h.scanned.at_group
  have hcrosses : Crosses groupMove 0 rest rest' := by
    have hpart := h.part
    have hdeeper : st.groups.length < (st.enter capturing flags names).groups.length :=
      Nat.lt_succ_self _
    rw [partIsLegible, if_neg (by decide), if_pos hdeeper] at hpart
    exact crosses_sound hpart
  have hopen : (st.enter capturing flags names).groups =
      [] ++ ⟨capturing, flags, st.extended, st.branches, st.parts⟩ :: [] := by
    rw [State.enter, h.top.groups, List.nil_append]
  obtain ⟨fuel', st'', t, hlt, hsucceeds, hskips, hclosed⟩ := group_skipped h.parser hopen
  -- the pass comes out of the group where the parser does
  have hbody := skipGroupBody_of_crosses (Nat.le_refl rest.length) (hcrosses.trans hskips)
  have hsame : after = t := by
    rw [skipGroup] at hskip
    split at hskip
    · cases hskip
    · exact Option.some.inj (hskip.symm.trans hbody)
  subst hsame
  obtain ⟨body, hparts⟩ := hclosed.parts
  have htop : TopLevel st'' := by
    refine ⟨hclosed.extended.trans h.top.extended, hclosed.branches.trans h.top.branches,
      hclosed.groups, ?_⟩
    intro x hx
    rw [hparts] at hx
    rcases List.mem_cons.mp hx with rfl | hold
    · exact trivial
    · exact h.top.parts x hold
  have htracks : Tracks f text runs.flush .other st''.parts := by
    rw [hparts]
    exact h.tracks.push_part hunicode .other _
  exact Or.inr ⟨fuel', .other, st'', runs.flush, after, Nat.lt_succ_of_lt hlt, hsucceeds, h.pass,
    htop, htracks⟩

/-- At flags of their own the pass has given up. -/
private theorem not_setFlags {flags : List FlagItem}
    (h : StepSideBySide f text asciiOnly a literals fuel last st runs '(' rest
      (st.setFlags flags) rest' runs' after)
    (hstart : groupStart st.extended rest = .ok (.setFlags flags, rest')) : False := by
  obtain ⟨hskip, _⟩ := h.scanned.at_group
  rw [h.top.extended] at hstart
  rw [skipGroup, if_pos (uncertain_of_setFlags hstart)] at hskip
  cases hskip

private theorem continues_charClass (hunicode : f.unicode = true) {b : Ast}
    (hclass : bracketedClass st.extended ('[' :: rest) = .ok (b, rest'))
    (h : StepSideBySide f text asciiOnly a literals fuel last st runs '[' rest (st.push b) rest'
      runs' after) :
    Continues f text asciiOnly a literals (fuel + 1) := by
  obtain ⟨hskip, rfl⟩ := h.scanned.at_class
  have hpart := h.part
  rw [partIsLegible, if_pos rfl] at hpart
  obtain rfl := Option.some.inj (hskip.symm.trans (skipClass_of_bracketedClass hclass hpart))
  obtain ⟨negated, set, rfl⟩ := bracketedClass_ast hclass
  exact h.continues (h.top.with_part trivial fun _ hx => hx) (h.tracks.push_part hunicode _ _)

/-! ### Repetitions -/

section
variable {r : Repetition} {b : Ast} {before : List Ast}

/-- A repetition of what the pass keeps leaves nothing out. -/
private theorem StepSideBySide.least
    (h : StepSideBySide f text asciiOnly a literals fuel last st runs c rest
      { st with parts := .repetition r b :: before } rest' runs' after) (hlast : last = .kept) :
    r.least ≠ 0 := by
  have hoptional := h.kept hlast
  rw [isOptional] at hoptional
  simpa using hoptional

/-- After a repetition the pass has no current run, so it may stand before a sign that makes the
repetition lazy. -/
private theorem StepSideBySide.continues_repetition (hparts : st.parts = b :: before)
    (h : StepSideBySide f text asciiOnly a literals fuel last st runs c rest
      { st with parts := .repetition r b :: before } (greediness after).2 runs' after)
    (hcurrent : runs'.current = [])
    (htracks : Tracks f text runs' (last.next asciiOnly st c rest) (.repetition r b :: before)) :
    Continues f text asciiOnly a literals (fuel + 1) := by
  have hb : b.KeepsFlags := h.top.parts b (hparts ▸ List.mem_cons_self)
  have htop : TopLevel { st with parts := .repetition r b :: before } :=
    h.top.with_part hb fun x hx => hparts ▸ List.mem_cons_of_mem b hx
  obtain ⟨steps, hscan⟩ := h.pass
  obtain ⟨current, finished⟩ := runs'
  have hempty : current = [] := hcurrent
  subst hempty
  exact Or.inr ⟨fuel, _, _, _, _, Nat.lt_succ_self fuel, h.parser, scan_lazy hscan, htop, htracks⟩

/-- Where the pass drops the last character of the run, the parser repeats it. -/
private theorem StepSideBySide.tracks_drop (hunicode : f.unicode = true)
    (hparts : st.parts = b :: before)
    (h : StepSideBySide f text asciiOnly a literals fuel last st runs c rest
      { st with parts := .repetition r b :: before } rest' runs' after)
    (hc : c = '?' ∨ c = '*' ∨ c = '+' ∨ c = '\x7b') :
    Tracks f text runs.dropLast (last.next asciiOnly st c rest) (.repetition r b :: before) := by
  have htracks := h.tracks
  rw [hparts] at htracks
  refine htracks.drop hunicode ?_
  intro hlast
  refine ⟨h.least hlast, ?_⟩
  rw [hlast]
  exact LastPart.next_kept h.top.groups hc

private theorem continues_sign (hunicode : f.unicode = true) (hc : c = '?' ∨ c = '*' ∨ c = '+')
    (hparts : st.parts = b :: before)
    (h : StepSideBySide f text asciiOnly a literals fuel last st runs c rest
      { st with parts := .repetition (signCounts c (greediness rest).1) b :: before }
      (greediness rest).2 runs' after) :
    Continues f text asciiOnly a literals (fuel + 1) := by
  by_cases hplus : c = '+'
  · subst hplus
    obtain ⟨rfl, rfl⟩ := h.scanned.at_flush (by decide)
    have htracks := h.tracks
    rw [hparts] at htracks
    have hone : (signCounts '+' (greediness after).1).least ≠ 0 := Nat.one_ne_zero
    exact h.continues_repetition hparts (flush_current runs)
      (htracks.plus hunicode hone (LastPart.next_plus h.top.groups))
  · have hdrop : c = '*' ∨ c = '?' := by
      rcases hc with rfl | rfl | rfl
      · exact Or.inr rfl
      · exact Or.inl rfl
      · exact absurd rfl hplus
    obtain ⟨rfl, rfl⟩ := h.scanned.at_drop hdrop
    refine h.continues_repetition hparts (flush_current _) (h.tracks_drop hunicode hparts ?_)
    rcases hdrop with rfl | rfl
    · exact Or.inr (Or.inl rfl)
    · exact Or.inl rfl

private theorem continues_counts (hunicode : f.unicode = true)
    (hcounts : repetitionCounts st.extended rest = .ok (r, rest'))
    (hparts : st.parts = b :: before)
    (h : StepSideBySide f text asciiOnly a literals fuel last st runs '\x7b' rest
      { st with parts := .repetition r b :: before } rest' runs' after) :
    Continues f text asciiOnly a literals (fuel + 1) := by
  rw [h.top.extended] at hcounts
  obtain ⟨rfl, rfl⟩ := h.scanned.at_counts
  obtain rfl := repetitionCounts_rest hcounts
  exact h.continues_repetition hparts (flush_current _)
    (h.tracks_drop hunicode hparts (Or.inr (Or.inr (Or.inr rfl))))

end

/-! ### Single characters -/

/-- A character that starts no escape is read alone. -/
theorem primitive_alone {extended : Bool} {c : Char} {rest rest' : List Char}
    {p : Primitive} (hslash : c ≠ '\\')
    (h : Parser.primitive extended c rest = .ok (p, rest')) :
    rest' = rest ∧ (c ∉ ['.', '^', '$'] → p = .literal ⟨c, false⟩) := by
  simp only [List.mem_cons, List.not_mem_nil, or_false, not_or]
  rw [Parser.primitive, if_neg hslash] at h
  repeat' split at h
  all_goals
    obtain ⟨rfl, rfl⟩ := Prod.mk.inj (Except.ok.inj h)
    simp_all

/-- The name of a word assertion is a repetition to the pass, of nothing. -/
theorem scan_wordName {steps : Nat} {finished : List (List Char)} {tail : List Char}
    (h : scanFrom asciiOnly steps ⟨[], finished⟩ ('\x7b' :: tail) = some literals) :
    ∃ steps', scanFrom asciiOnly steps' ⟨[], finished⟩ (skipPast '\x7d' tail) = some literals := by
  rcases scanFrom_step h with ⟨hnil, _⟩ | ⟨steps', c, after, runs', rest', _, hs, hstep, hscan⟩
  · cases hnil
  · obtain ⟨rfl, rfl⟩ := List.cons.inj hs
    obtain ⟨rfl, rfl⟩ := hstep.at_counts
    exact ⟨steps', hscan⟩

/-- An escape is text for both, or ends the run. -/
private theorem continues_escape (hunicode : f.unicode = true) {p : Primitive}
    (hprimitive : Parser.primitive false '\\' rest = .ok (p, rest')) (hp : p.ast.KeepsFlags)
    (h : StepSideBySide f text asciiOnly a literals fuel last st runs '\\' rest (st.push p.ast)
      rest' runs' after) :
    Continues f text asciiOnly a literals (fuel + 1) := by
  have htop : TopLevel (st.push p.ast) := h.top.with_part hp fun _ hx => hx
  obtain ⟨e, tail, rfl, hcases⟩ := h.scanned.at_escape
  rw [Parser.primitive, if_pos rfl] at hprimitive
  rcases hcases with ⟨he, rfl, rfl⟩ | ⟨he, rfl, rfl⟩
  · obtain ⟨rfl, rfl⟩ := escape_text he hprimitive
    have hnext : Tracks f text (runs.push asciiOnly e) _ (textPart e :: st.parts) :=
      h.tracks.push hunicode e
    rw [if_neg (by simp [toNat_of_text he])] at hnext
    refine h.continues htop ?_
    rw [LastPart.next_escape h.top.groups he]
    exact hnext
  · rcases escape_rest hprimitive with rfl | ⟨rfl, tail', rfl, rfl⟩
    · exact h.continues htop (h.tracks.push_part hunicode _ _)
    · obtain ⟨steps, hscan⟩ := h.pass
      have hbrace : scanFrom asciiOnly steps runs.flush ('\x7b' :: tail') = some literals := hscan
      rw [flush_eq] at hbrace
      have hpass := scan_wordName hbrace
      rw [← flush_eq] at hpass
      exact Or.inr ⟨fuel, _, _, _, _, Nat.lt_succ_self fuel, h.parser, hpass, htop,
        h.tracks.push_part hunicode _ _⟩

/-- Where the parser reads a primitive, the pass reads text or ends the run. -/
private theorem continues_primitive (hunicode : f.unicode = true) {p : Primitive}
    (hc : c ∉ ['(', ')', '|', '[', '?', '*', '+', '\x7b'])
    (hprimitive : Parser.primitive st.extended c rest = .ok (p, rest'))
    (h : StepSideBySide f text asciiOnly a literals fuel last st runs c rest (st.push p.ast)
      rest' runs' after) :
    Continues f text asciiOnly a literals (fuel + 1) := by
  have hp : p.ast.KeepsFlags := by cases p <;> exact trivial
  have htop : TopLevel (st.push p.ast) := h.top.with_part hp fun _ hx => hx
  rw [h.top.extended] at hprimitive
  by_cases hslash : c = '\\'
  · subst hslash
    exact continues_escape hunicode hprimitive hp h
  obtain ⟨rfl, hliteral⟩ := primitive_alone hslash hprimitive
  by_cases hmark : c ∈ ['.', '^', '$']
  · obtain ⟨rfl, rfl⟩ := h.scanned.at_flush (List.mem_cons_of_mem '+' hmark)
    exact h.continues htop (h.tracks.push_part hunicode _ _)
  · have hpass : c ∉ passMarks := by
      simp only [passMarks, List.mem_cons, List.not_mem_nil, or_false, not_or] at hc hmark ⊢
      simp [hc, hmark, hslash]
    obtain ⟨rfl, rfl⟩ := h.scanned.at_literal hpass
    obtain rfl := hliteral hmark
    refine h.continues htop ?_
    rw [LastPart.next_literal h.top.groups hpass]
    exact h.tracks.push hunicode c

end

/-! ### All steps -/

/-- A step side by side. -/
private theorem sideBySide_step (hunicode : f.unicode = true) {fuel : Nat} {last : LastPart}
    {st : State} {runs : Runs} {s : List Char}
    (h : SideBySide f text asciiOnly a literals fuel last st runs s) :
    Continues f text asciiOnly a literals fuel := by
  have htop := h.top
  obtain ⟨steps, hscan⟩ := h.pass
  have hblank : skipBlanks st.extended s = s := by
    rw [htop.extended]
    rfl
  rcases loop_step h.parser.run with ⟨hs, _, ha⟩ | ⟨fuel, c, rest, st', rest', rfl, hs, hstep, hrun⟩
  · rw [hblank] at hs
    rcases scanFrom_step hscan with ⟨_, hliterals⟩ | ⟨_, _, _, _, _, _, hcons, _⟩
    · exact Or.inl (demands_at_end hunicode htop h.tracks ha hliterals)
    · rw [hs] at hcons
      cases hcons
  obtain ⟨_, hpart, hkept, hlater⟩ := isLegibleFrom_step h.parser.legible hs hstep
  rw [hblank] at hs
  subst hs
  rcases scanFrom_step hscan with
    ⟨hnil, _⟩ | ⟨steps', c', rest'', runs', after, _, hcons, hscanned, hscan'⟩
  · cases hnil
  obtain ⟨rfl, rfl⟩ := List.cons.inj hcons
  have hboth : StepSideBySide f text asciiOnly a literals fuel last st runs c rest st' rest' runs'
      after :=
    ⟨htop, h.tracks, hscanned, hpart, hkept, ⟨hrun, hlater⟩, ⟨steps', hscan'⟩⟩
  cases stepped hstep with
  | enter capturing flags names => exact continues_enter hunicode hboth
  | setFlags hstart => exact (not_setFlags hboth hstart).elim
  | close hgroups =>
      rw [htop.groups] at hgroups
      cases hgroups
  | branch => exact hscanned.at_bar.elim
  | charClass hclass => exact continues_charClass hunicode hclass hboth
  | sign hc hparts => exact continues_sign hunicode hc hparts hboth
  | counts hcounts hparts => exact continues_counts hunicode hcounts hparts hboth
  | primitive hc hprimitive => exact continues_primitive hunicode hc hprimitive hboth

/-- From two states that agree, the pass and the parser come to the end of the pattern. -/
theorem scanFrom_tracks (hunicode : f.unicode = true) {fuel : Nat} {last : LastPart} {st : State}
    {runs : Runs} {s : List Char}
    (h : SideBySide f text asciiOnly a literals fuel last st runs s) :
    Demands f text a literals := by
  induction fuel using Nat.strongRecOn generalizing last st runs s with
  | ind fuel ih =>
      rcases sideBySide_step hunicode h with hend | ⟨fuel', last', st', runs', s', hlt, hnext⟩
      · exact hend
      · exact ih fuel' hlt hnext

end

/-! ## Patterns -/

/-- Every literal of a pattern is a literal of its pass, in a syntax that is not extended. -/
theorem exists_scan_of_mem {pattern : List Char} {options : MatchOptions} {l : List Char}
    (hl : l ∈ (ofPattern pattern options).literals) :
    ∃ literals, scan? options.caseInsensitive pattern = some literals ∧ l ∈ literals ∧
      options.extended = false := by
  rcases literals_cases pattern options with hnone | ⟨hplain, literals, hscan, hliterals⟩
  · rw [hnone] at hl
    cases hl
  · rw [hliterals, List.mem_eraseDups] at hl
    exact ⟨literals, hscan, hl, hplain⟩

/-- Every literal of a legible pattern occurs in every text that the pattern matches, up to case
where it is ignored. -/
theorem occurs_of_accepts {pattern : List Char} {options : MatchOptions} {e : Expr}
    (hcompile : Regex.compile pattern options = .ok e) (hlegible : isLegible pattern options = true)
    {text : List Char} (haccepts : e.Accepts text) :
    ∀ l ∈ (ofPattern pattern options).literals, Occurs options.caseInsensitive text l := by
  intro l hl
  obtain ⟨literals, hscan, hmem, hplain⟩ := exists_scan_of_mem hl
  obtain ⟨a, m, g, hparse, hmeaning, rfl⟩ := compile_ok hcompile
  rw [hplain] at hparse
  rw [isLegible, hplain, Bool.false_or] at hlegible
  have hstart : SideBySide (Flags.ofOptions options) text options.caseInsensitive a literals
      pattern.length .other ⟨false, [], [], [], []⟩ Runs.none pattern :=
    { parser := ⟨parse_ok hparse, hlegible⟩
      pass := ⟨pattern.length, hscan⟩
      top := ⟨rfl, rfl, rfl, by simp⟩
      tracks := ⟨⟨[], rfl, fun _ => by simp [AllOccur, Runs.none]⟩, fun h => absurd rfl h,
        fun _ _ _ => by simp [AllOccur, Runs.none]⟩ }
  obtain ⟨parts, rfl, hparts, hoccur⟩ := scanFrom_tracks rfl hstart
  obtain ⟨i, j, hmatch⟩ := haccepts
  exact hoccur ⟨i, j, spans_of_sequence hparts ⟨m, g, hmeaning, hmatch⟩⟩ l hmem

/-- **Literals are mandatory.**  Where a legible pattern matches, the fold of the text contains
the folds of all its literals. -/
theorem fold_infix_of_isMatch {pattern : List Char} {options : MatchOptions} {e : Expr}
    (hcompile : Regex.compile pattern options = .ok e) (hlegible : isLegible pattern options = true)
    {text : List Char} (hmatch : e.isMatch text = true) :
    ∀ l ∈ (ofPattern pattern options).literals, Text.fold l <:+: Text.fold text := by
  intro l hl
  have haccepts := (isMatch_iff_accepts hcompile text).mp hmatch
  have hoccurs := occurs_of_accepts hcompile hlegible haccepts l hl
  refine fold_infix_of_occurs ?_ hoccurs
  intro hcase
  obtain ⟨literals, hscan, hmem, _⟩ := exists_scan_of_mem hl
  rw [hcase] at hscan
  exact scan?_ascii hscan l hmem

end TrigramSearch.Literals
