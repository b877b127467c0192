import Mathlib.Data.List.Induction
import TrigramSearch.Proofs.Pattern.Quoting

/-!
# Literals where case is ignored

Where case is ignored, a character outside of ASCII ends a run instead of joining
it.  Everything else about the pass stays as it is: what it skips, and where it
gives up, do not depend on its runs.  So the two passes over a pattern go in
lockstep, and their runs are tied by a function: cutting the runs at the
characters outside of ASCII (`Runs.cut`) commutes with every operation of the
pass.  In particular a repetition that takes back such a character, where case
matters, takes back nothing where it is ignored, and the cut runs are the same.

## Main results

* `mem_asciiPieces_iff` — the pieces of a text are its maximal runs of ASCII
  characters.
* `scanFrom_cut` — the pass where case is ignored finds the pieces of the runs of
  the other pass.
* `literals_ignoringCase` — its literals are the pieces of the other literals.
* `ofPattern_quote` — the literals and the complexity of a quoted text.
-/

namespace TrigramSearch.Literals

/-! ## Pieces -/

/-- The text between the characters outside of ASCII, from left to right. -/
def asciiPieces (text : List Char) : List (List Char) :=
  (text.splitOnP fun c => 128 ≤ c.toNat).filter (· ≠ [])

@[simp] theorem asciiPieces_nil : asciiPieces [] = [] := by
  simp [asciiPieces, List.splitOnP_nil]

/-- A text of ASCII characters is one piece. -/
theorem asciiPieces_of_ascii {text : List Char} (hne : text ≠ [])
    (h : ∀ c ∈ text, c.toNat < 128) : asciiPieces text = [text] := by
  have hone : text.splitOnP (fun c => 128 ≤ c.toNat) = [text] :=
    List.splitOnP_eq_singleton fun c hc => decide_eq_false (Nat.not_le.mpr (h c hc))
  simp [asciiPieces, hone, hne]

/-- A character outside of ASCII belongs to no piece, and no piece goes across it. -/
theorem asciiPieces_break {c : Char} (hc : 128 ≤ c.toNat) (before after : List Char) :
    asciiPieces (before ++ c :: after) = asciiPieces before ++ asciiPieces after := by
  rw [asciiPieces, List.splitOnP_append_cons before after (decide_eq_true hc), List.filter_append]
  rfl

/-- What comes before the first character outside of ASCII. -/
private theorem ascii_or_break (text : List Char) :
    (∀ c ∈ text, c.toNat < 128) ∨
      ∃ before c after, text = before ++ c :: after ∧ (∀ d ∈ before, d.toNat < 128) ∧
        128 ≤ c.toNat := by
  induction text with
  | nil => exact Or.inl (by simp)
  | cons c rest ih =>
      by_cases hc : 128 ≤ c.toNat
      · exact Or.inr ⟨[], c, rest, rfl, by simp, hc⟩
      · rcases ih with hall | ⟨before, d, after, rfl, hbefore, hd⟩
        · exact Or.inl (List.forall_mem_cons.mpr ⟨Nat.lt_of_not_le hc, hall⟩)
        · exact Or.inr ⟨c :: before, d, after, rfl,
            List.forall_mem_cons.mpr ⟨Nat.lt_of_not_le hc, hbefore⟩, hd⟩

/-- A part of a text that consists of ASCII characters and cannot be made longer on either side. -/
structure IsMaximalAscii (text l : List Char) : Prop where
  nonempty : l ≠ []
  ascii : ∀ c ∈ l, c.toNat < 128
  /-- The neighbours of the part are outside of ASCII. -/
  apart : ∃ before after, text = before ++ l ++ after ∧
    (∀ c ∈ before.getLast?, 128 ≤ c.toNat) ∧ ∀ c ∈ after.head?, 128 ≤ c.toNat

private theorem isMaximalAscii_of_mem {text l : List Char} (h : l ∈ asciiPieces text) :
    IsMaximalAscii text l := by
  -- the induction goes from one character outside of ASCII to the next
  induction hlength : text.length using Nat.strongRecOn generalizing text with
  | _ n ih =>
      rcases ascii_or_break text with hall | ⟨first, c, rest, rfl, hfirst, hc⟩
      · by_cases hne : text = []
        · rw [hne, asciiPieces_nil] at h
          cases h
        · rw [asciiPieces_of_ascii hne hall, List.mem_singleton] at h
          subst h
          exact ⟨hne, hall, [], [], by simp, by simp, by simp⟩
      · rw [asciiPieces_break hc, List.mem_append] at h
        rcases h with hleft | hright
        · by_cases hne : first = []
          · rw [hne, asciiPieces_nil] at hleft
            cases hleft
          · rw [asciiPieces_of_ascii hne hfirst, List.mem_singleton] at hleft
            subst hleft
            exact ⟨hne, hfirst, [], c :: rest, by simp, by simp, by simpa using hc⟩
        · have hshorter : rest.length < n := by
            rw [← hlength, List.length_append, List.length_cons]
            omega
          obtain ⟨hne, hascii, before, after, rfl, hbefore, hafter⟩ := ih _ hshorter hright rfl
          refine ⟨hne, hascii, first ++ c :: before, after, by simp, ?_, hafter⟩
          cases before with
          | nil => simpa using hc
          | cons d before => simpa using hbefore

/-- The pieces of a text are its maximal runs of ASCII characters. -/
theorem mem_asciiPieces_iff {text l : List Char} :
    l ∈ asciiPieces text ↔ IsMaximalAscii text l := by
  constructor
  · exact isMaximalAscii_of_mem
  · rintro ⟨hne, hascii, before, after, rfl, hbefore, hafter⟩
    have hlast : l ∈ asciiPieces (l ++ after) := by
      cases after with
      | nil => simp [asciiPieces_of_ascii hne hascii]
      | cons c after => simp [asciiPieces_break (hafter c rfl), asciiPieces_of_ascii hne hascii]
    rw [List.append_assoc]
    rcases List.eq_nil_or_concat' before with rfl | ⟨first, c, rfl⟩
    · exact hlast
    · have hc : 128 ≤ c.toNat := hbefore c (by simp)
      rw [List.append_assoc, List.singleton_append, asciiPieces_break hc]
      exact List.mem_append_right _ hlast

/-! ## Runs of the two passes -/

namespace Runs

/-- When a run has ended, there is nothing to take back. -/
theorem dropLast_flush (r : Runs) : r.flush.dropLast = r.flush := by
  rw [flush_eq r]
  rfl

/-- To take back the last character is to end the run before it. -/
theorem dropLast_push (asciiOnly : Bool) (r : Runs) (c : Char) :
    (r.push asciiOnly c).dropLast = r.flush := by
  rw [push]
  split
  · exact dropLast_flush r
  · rfl

/-- A run of ASCII characters is its own piece when it ends. -/
private theorem flush_ascii {current : List Char} (h : ∀ c ∈ current, c.toNat < 128)
    (finished : List (List Char)) :
    flush ⟨current, finished⟩ = ⟨[], (asciiPieces current.reverse).reverse ++ finished⟩ := by
  cases current with
  | nil =>
      rw [List.reverse_nil, asciiPieces_nil]
      rfl
  | cons c current =>
      rw [asciiPieces_of_ascii (by simp) fun d hd => h d (List.mem_reverse.mp hd)]
      rfl

/-- Where case is ignored, a text that is added to the runs leaves its pieces. -/
theorem flush_foldl_push (text : List Char) {current : List Char}
    (hcurrent : ∀ c ∈ current, c.toNat < 128) (finished : List (List Char)) :
    (text.foldl (push true) ⟨current, finished⟩).flush =
      ⟨[], (asciiPieces (current.reverse ++ text)).reverse ++ finished⟩ := by
  induction text generalizing current finished with
  | nil => rw [List.append_nil, List.foldl_nil, flush_ascii hcurrent]
  | cons c rest ih =>
      rw [List.foldl_cons]
      by_cases hc : 128 ≤ c.toNat
      · have hpush : push true ⟨current, finished⟩ c =
            ⟨[], (asciiPieces current.reverse).reverse ++ finished⟩ := by
          rw [push, Bool.true_and, if_pos (decide_eq_true hc), flush_ascii hcurrent]
        rw [hpush, ih (by simp), asciiPieces_break hc, List.reverse_append, List.append_assoc,
          List.reverse_nil, List.nil_append]
      · have hpush : push true ⟨current, finished⟩ c = ⟨c :: current, finished⟩ := by
          rw [push, Bool.true_and, if_neg (by simpa using hc)]
        have hlonger : ∀ d ∈ c :: current, d.toNat < 128 :=
          List.forall_mem_cons.mpr ⟨Nat.lt_of_not_le hc, hcurrent⟩
        rw [hpush, ih hlonger, List.reverse_cons, List.append_assoc, List.singleton_append]

/-- The runs of the pass where case is ignored, from those of the pass where it matters: the
finished ones in pieces, and the current one as if it were read again. -/
def cut (r : Runs) : Runs :=
  r.current.reverse.foldl (push true)
    ⟨[], r.finished.flatMap fun l => (asciiPieces l).reverse⟩

theorem cut_push (r : Runs) (c : Char) : (r.push false c).cut = r.cut.push true c := by
  have hpush : r.push false c = { r with current := c :: r.current } := rfl
  rw [hpush, cut, cut, List.reverse_cons, List.foldl_append]
  rfl

theorem cut_flush (r : Runs) : r.flush.cut = r.cut.flush := by
  obtain ⟨current, finished⟩ := r
  cases current with
  | nil => rfl
  | cons c current =>
      have hnone : ∀ d ∈ ([] : List Char), d.toNat < 128 := by simp
      exact (flush_foldl_push (c :: current).reverse hnone _).symm

/-- A character outside of ASCII is taken back by the one pass, and has ended the run of the
other: cut, the runs are the same. -/
theorem cut_dropLast (r : Runs) : r.dropLast.cut = r.cut.dropLast := by
  obtain ⟨current, finished⟩ := r
  cases current with
  | nil => rfl
  | cons c current =>
      have hpush : (⟨c :: current, finished⟩ : Runs) = push false ⟨current, finished⟩ c := rfl
      rw [hpush, dropLast_push, cut_push, dropLast_push, cut_flush]

theorem cut_toList (r : Runs) : r.cut.toList = r.toList.flatMap asciiPieces := by
  have hflush : r.flush.cut = ⟨[], r.flush.finished.flatMap fun l => (asciiPieces l).reverse⟩ := by
    rw [flush_eq r]
    rfl
  rw [toList, ← cut_flush, hflush, List.reverse_flatMap]
  simp only [Function.comp_def, List.reverse_reverse]
  rfl

end Runs

/-! ## The passes in lockstep -/

/-- The pass where case is ignored finds the pieces of the runs of the other pass, and gives up
where that does. -/
theorem scanFrom_cut (fuel : Nat) (runs : Runs) (s : List Char) :
    scanFrom true fuel runs.cut s =
      (scanFrom false fuel runs s).map (List.flatMap asciiPieces) := by
  induction fuel generalizing runs s with
  | zero =>
      cases s with
      | nil => exact congrArg some runs.cut_toList
      | cons c rest => rfl
  | succ fuel ih =>
      cases s with
      | nil => exact congrArg some runs.cut_toList
      | cons c rest =>
          rw [scanFrom.eq_def, scanFrom.eq_def]
          dsimp only
          -- no branch looks at the runs, and cutting commutes with what each does to them
          simp only [← Runs.cut_push, ← Runs.cut_flush, ← Runs.cut_dropLast, ih]
          repeat' split
          all_goals rfl

theorem scan?_true (pattern : List Char) :
    scan? true pattern = (scan? false pattern).map (List.flatMap asciiPieces) :=
  scanFrom_cut pattern.length Runs.none pattern

/-! ## Literals without repetitions -/

section
variable {α β : Type*} [BEq α] [LawfulBEq α] [BEq β] [LawfulBEq β]

/-- Only the distinct members of what comes before decide which members are new. -/
private theorem eraseDups_append_congr {xs ys : List α} (h : xs.eraseDups = ys.eraseDups)
    (zs : List α) : (xs ++ zs).eraseDups = (ys ++ zs).eraseDups := by
  have hmem : ∀ a, a ∈ xs ↔ a ∈ ys := by
    intro a
    rw [← List.mem_eraseDups, h, List.mem_eraseDups]
  have hremove : zs.removeAll xs = zs.removeAll ys := by
    apply List.filter_congr
    intro a _
    rw [Bool.not_inj_iff, Bool.eq_iff_iff, List.elem_iff, List.elem_iff, hmem]
  rw [List.eraseDups_append, List.eraseDups_append, h, hremove]

private theorem eraseDups_append_of_subset {xs zs : List α} (h : zs ⊆ xs) :
    (xs ++ zs).eraseDups = xs.eraseDups := by
  have hremove : zs.removeAll xs = [] := by
    rw [List.removeAll, List.filter_eq_nil_iff]
    intro a ha
    simp [h ha]
  rw [List.eraseDups_append, hremove, List.eraseDups_nil, List.append_nil]

/-- Repetitions that are dropped before each member is replaced by several are dropped after it as
well. -/
theorem eraseDups_flatMap_eraseDups (f : α → List β) (xs : List α) :
    (xs.eraseDups.flatMap f).eraseDups = (xs.flatMap f).eraseDups := by
  -- the list grows at its end, because the first of equal members is the one that stays
  induction xs using List.reverseRecOn with
  | nil => rfl
  | append_singleton xs a ih =>
      rw [List.flatMap_append]
      by_cases ha : a ∈ xs
      · have hold : [a] ⊆ xs := by simpa using ha
        have hpieces : [a].flatMap f ⊆ xs.flatMap f := by
          intro b hb
          rw [List.mem_flatMap] at hb ⊢
          obtain ⟨x, hx, hbx⟩ := hb
          exact ⟨x, hold hx, hbx⟩
        rw [eraseDups_append_of_subset hold, ih, eraseDups_append_of_subset hpieces]
      · have hnew : ([a].removeAll xs).eraseDups = [a] := by
          simp [List.removeAll, ha, List.eraseDups_cons]
        rw [List.eraseDups_append, hnew, List.flatMap_append]
        exact eraseDups_append_congr ih _

end

/-- **Cutting.**  The literals where case is ignored are the pieces of ASCII characters of the
literals where it matters, without repetitions. -/
theorem literals_ignoringCase (pattern : List Char) (options : MatchOptions) :
    (ofPattern pattern { options with caseInsensitive := true }).literals =
      ((ofPattern pattern { options with caseInsensitive := false }).literals.flatMap
        asciiPieces).eraseDups := by
  rw [ofPattern, ofPattern]
  dsimp only
  cases options.extended with
  | true => rfl
  | false =>
      rw [scan?_true]
      cases scan? false pattern with
      | none => rfl
      | some runs => exact (eraseDups_flatMap_eraseDups asciiPieces runs).symm

/-- The star takes back a character that has ended the run where case is ignored. -/
example :
    (ofPattern "café*teria.téa.ét".toList { caseInsensitive := true }).literals =
      ["caf".toList, "teria".toList, "t".toList, "a".toList] := by
  decide +kernel

/-! ## Quoted text -/

/-- A metacharacter counts twice in a pattern, and so does the sign that escapes it. -/
theorem patternComplexity_quote (text : List Char) :
    patternComplexity (quote text) = text.length + 3 * text.countP metacharacters.contains := by
  induction text with
  | nil => rfl
  | cons c rest ih =>
      have hslash : metacharacters.contains '\\' = true := by decide
      simp only [patternComplexity] at ih ⊢
      rw [quote_cons]
      cases hc : metacharacters.contains c with
      | true =>
          simp only [if_true, List.length_cons, List.countP_cons, hslash, hc]
          omega
      | false =>
          simp only [Bool.false_eq_true, if_false, List.length_cons, List.countP_cons, hc]
          omega

/-- **Quoted text.**  A text that is quoted has itself as the only literal, and where case is
ignored the distinct pieces of ASCII characters, which are the maximal ones; in the extended syntax
there are none. -/
theorem ofPattern_quote {text : List Char} (hne : text ≠ []) (options : MatchOptions) :
    ofPattern (quote text) options =
        { literals :=
            if options.extended then []
            else if options.caseInsensitive then (asciiPieces text).eraseDups
            else [text]
          complexity := text.length + 3 * text.countP metacharacters.contains } ∧
      (options.extended = false → options.caseInsensitive = true →
        ∀ l, l ∈ (ofPattern (quote text) options).literals ↔ IsMaximalAscii text l) := by
  have hruns : scan? false (quote text) = some [text] := by
    rw [scan?_quote]
    simp [Runs.toList, Runs.flush, hne]
  have hliterals : (ofPattern (quote text) options).literals =
      if options.extended then []
      else if options.caseInsensitive then (asciiPieces text).eraseDups
      else [text] := by
    rw [ofPattern]
    dsimp only
    congr 1
    cases options.caseInsensitive with
    | true =>
        rw [scan?_true, hruns]
        simp
    | false =>
        rw [hruns]
        simp [List.eraseDups_cons]
  constructor
  · rw [← hliterals, ← patternComplexity_quote]
    rfl
  · intro hplain hcase l
    rw [hliterals, hplain, hcase, ← mem_asciiPieces_iff]
    exact List.mem_eraseDups

/-- A text with metacharacters and a repeated run. -/
theorem ofPattern_quote_accented :
    let text := "a.é(<ü\\éa.".toList
    let ignoring : MatchOptions := { caseInsensitive := true }
    text ≠ [] ∧ ofPattern (quote text) {} = ⟨[text], 22⟩ ∧
      ofPattern (quote text) ignoring = ⟨["a.".toList, "(<".toList, "\\".toList], 22⟩ ∧
      ignoring.extended = false ∧ ignoring.caseInsensitive = true ∧
      IsMaximalAscii text "(<".toList := by
  intro text ignoring
  have hne : text ≠ [] := by decide
  obtain ⟨hquote, _⟩ := ofPattern_quote hne {}
  obtain ⟨hignoring, hmaximal⟩ := ofPattern_quote hne ignoring
  refine ⟨hne, ?_, ?_, rfl, rfl, (hmaximal rfl rfl _).mp ?_⟩
  · rw [hquote]
    decide +kernel
  · rw [hignoring]
    decide +kernel
  · rw [hignoring]
    decide +kernel

end TrigramSearch.Literals
