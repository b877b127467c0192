import TrigramSearch.Regex.Meaning
import TrigramSearch.Regex.Parser
import TrigramSearch.Proofs.Regex.Matcher
import TrigramSearch.Proofs.Text.Occurrence

/-!
# A match, part by part

A pattern without an alternation outside of its groups is a sequence of parts,
and a match of it is a match of the parts one after the other.  The parser keeps
the parts in reverse, the last one first, and so does `Spans`: what is known
about the parts read so far stays known when a part is added, and a part that is
repeated is exchanged for its repetition at the front of the list.

Flags would connect the parts; but only a part that sets flags hands on others
than it was given (`KeepsFlags`), and such a part makes the pass give up.

## Main results

* `spans_of_sequence` — a match of a sequence is a match of its parts.
* `Possible.of_cons`, `Possible.of_repetition` — parts that can match one after
  the other can do so without the last one, and with a repetition taken once.
-/

namespace TrigramSearch.Regex

open Meaning

namespace Ast

/-- A part that hands on the flags that it was given. -/
def KeepsFlags : Ast → Prop
  | .flags _ => False
  | .concat _ => False
  | .alternation _ => False
  | .repetition _ body => body.KeepsFlags
  | _ => True

/-- A part matches between two positions, under flags. -/
def MatchesUnder (f : Flags) (text : List Char) (a : Ast) (i j : Nat) : Prop :=
  ∃ m g, Meaning.interpret f a = .ok (m, g) ∧ m.expr.Matches text i j

end Ast

private theorem oneOf_flags {f g : Flags} {s : Except SyntaxError CharSet} {m : Interpretation}
    (h : oneOf f s = .ok (m, g)) : g = f := by
  cases s with
  | error e => cases h
  | ok s => exact (Prod.mk.inj (Except.ok.inj h)).2.symm

theorem interpret_keepsFlags {f g : Flags} {a : Ast} {m : Interpretation} (ha : a.KeepsFlags)
    (h : interpret f a = .ok (m, g)) : g = f := by
  match a with
  | .empty => exact (Prod.mk.inj (Except.ok.inj h)).2.symm
  | .flags _ => exact absurd ha id
  | .literal l => exact oneOf_flags h
  | .dot => exact oneOf_flags h
  | .assertion _ => exact (Prod.mk.inj (Except.ok.inj h)).2.symm
  | .shorthand _ _ => exact oneOf_flags h
  | .property _ _ => exact oneOf_flags h
  | .charClass negated set =>
      rw [interpret] at h
      split at h
      · cases h
      · exact oneOf_flags h
  | .repetition r body =>
      rw [interpret] at h
      split at h
      · cases h
      · rename_i m' g' hbody
        obtain ⟨_, rfl⟩ := Prod.mk.inj (Except.ok.inj h)
        exact interpret_keepsFlags (a := body) ha hbody
  | .group _ _ _ =>
      rw [interpret] at h
      split at h
      · cases h
      · exact (Prod.mk.inj (Except.ok.inj h)).2.symm
  | .concat _ => exact absurd ha id
  | .alternation _ => exact absurd ha id

/-- The parts of a list, the last one first, match one after the other. -/
def Spans (f : Flags) (text : List Char) : List Ast → Nat → Nat → Prop
  | [], i, j => i = j
  | a :: before, i, j => ∃ k, Spans f text before i k ∧ a.MatchesUnder f text k j

/-- Some part of a text is matched by the parts of a list, the last one first. -/
def Possible (f : Flags) (text : List Char) (parts : List Ast) : Prop :=
  ∃ i j, Spans f text parts i j

theorem Possible.of_cons {f : Flags} {text : List Char} {a : Ast} {before : List Ast}
    (h : Possible f text (a :: before)) : Possible f text before := by
  obtain ⟨i, _, k, hbefore, _⟩ := h
  exact ⟨i, k, hbefore⟩

/-- A repetition that leaves nothing out begins with what it repeats. -/
theorem matchesUnder_of_repetition {f : Flags} {text : List Char} {r : Repetition} {a : Ast}
    {i j : Nat} (hr : r.least ≠ 0) (h : (Ast.repetition r a).MatchesUnder f text i j) :
    ∃ k, a.MatchesUnder f text i k := by
  obtain ⟨m, g, hinterpret, hmatch⟩ := h
  rw [interpret] at hinterpret
  split at hinterpret
  · cases hinterpret
  · rename_i m' g' hbody
    obtain ⟨rfl, _⟩ := Prod.mk.inj (Except.ok.inj hinterpret)
    obtain ⟨_, n, hn, _, htimes⟩ := hmatch
    cases n with
    | zero => exact absurd (Nat.le_zero.mp hn) hr
    | succ n =>
        obtain ⟨k, hfirst, _⟩ := htimes
        exact ⟨k, m', g', hbody, hfirst⟩

theorem Possible.of_repetition {f : Flags} {text : List Char} {r : Repetition} {a : Ast}
    {before : List Ast} (hr : r.least ≠ 0) (h : Possible f text (.repetition r a :: before)) :
    Possible f text (a :: before) := by
  obtain ⟨i, _, k, hbefore, hmatch⟩ := h
  obtain ⟨j, hfirst⟩ := matchesUnder_of_repetition hr hmatch
  exact ⟨i, j, k, hbefore, hfirst⟩

/-! ## Sequences -/

theorem matches_ofList_cons {text : List Char} {e : Expr} {es : List Expr} {i j : Nat} :
    (Expr.ofList (e :: es)).Matches text i j ↔
      ∃ k, e.Matches text i k ∧ (Expr.ofList es).Matches text k j := by
  cases es with
  | nil =>
      constructor
      · intro h
        exact ⟨j, h, rfl, h.le_length⟩
      · rintro ⟨_, h, rfl, _⟩
        exact h
  | cons e' es => exact Iff.rfl

private theorem spans_of_interpretAll {f g : Flags} {text : List Char} {as before : List Ast}
    {ms : List Interpretation} {i j k : Nat} (has : ∀ a ∈ as, a.KeepsFlags)
    (h : interpretAll f as = .ok (ms, g)) (hbefore : Spans f text before i k)
    (hmatch : (Expr.ofList (ms.map Interpretation.expr)).Matches text k j) :
    Spans f text (as.reverse ++ before) i j := by
  induction as generalizing before ms k g with
  | nil =>
      obtain ⟨rfl, _⟩ := Prod.mk.inj (Except.ok.inj h)
      obtain ⟨rfl, _⟩ := hmatch
      exact hbefore
  | cons a as ih =>
      rw [interpretAll] at h
      split at h
      · cases h
      · rename_i m g' hfirst
        split at h
        · cases h
        · rename_i ms' g'' hrest
          obtain ⟨rfl, _⟩ := Prod.mk.inj (Except.ok.inj h)
          obtain rfl := interpret_keepsFlags (has a List.mem_cons_self) hfirst
          obtain ⟨l, hl, hlater⟩ := matches_ofList_cons.mp hmatch
          have hnow : Spans g' text (a :: before) i l := ⟨k, hbefore, m, g', hfirst, hl⟩
          have hall := ih (fun x hx => has x (List.mem_cons_of_mem a hx)) hrest hnow hlater
          rw [List.reverse_cons, List.append_assoc]
          exact hall

/-- A match of a sequence is a match of its parts, one after the other. -/
theorem spans_of_sequence {f : Flags} {text : List Char} {parts : List Ast} {i j : Nat}
    (hparts : ∀ a ∈ parts, a.KeepsFlags)
    (h : (Parser.sequence parts).MatchesUnder f text i j) : Spans f text parts i j := by
  obtain ⟨m, g, hinterpret, hmatch⟩ := h
  match parts with
  | [] =>
      obtain ⟨rfl, _⟩ := Prod.mk.inj (Except.ok.inj hinterpret)
      exact hmatch.1
  | [a] => exact ⟨i, rfl, m, g, hinterpret, hmatch⟩
  | a :: b :: rest =>
      rw [Parser.sequence, interpret] at hinterpret
      · split at hinterpret
        · cases hinterpret
        · rename_i ms g' hall
          obtain ⟨rfl, _⟩ := Prod.mk.inj (Except.ok.inj hinterpret)
          have hempty : Spans f text [] i i := rfl
          have hspans := spans_of_interpretAll (fun x hx => hparts x (List.mem_reverse.mp hx)) hall
            hempty hmatch
          rwa [List.reverse_reverse, List.append_nil] at hspans
      · exact nofun
      · exact nofun

/-! ## Characters -/

theorem contains_singleton {c d : Char} :
    (CharSet.singleton c).contains d = true ↔ d = c := by
  have hcode : d.toNat = c.toNat ↔ d = c := by
    constructor
    · intro h
      rw [← Char.ofNat_toNat d, h, Char.ofNat_toNat]
    · rintro rfl
      rfl
  rw [← hcode]
  simp only [CharSet.contains, CharSet.containsCode, CharSet.singleton, CharSet.containedIn]
  grind

/-- A literal matches the character it stands for. -/
theorem variant_of_matchesUnder {f : Flags} {text : List Char} {c : Char} {i j : Nat}
    (hunicode : f.unicode = true) (h : (Ast.literal ⟨c, false⟩).MatchesUnder f text i j) :
    j = i + 1 ∧ ∃ d, text[i]? = some d ∧ Variant f.caseInsensitive c d := by
  obtain ⟨m, g, hinterpret, hmatch⟩ := h
  have hset : literalSet f ⟨c, false⟩ =
      .ok (if f.caseInsensitive then CharSet.variantsOf c else CharSet.singleton c) := by
    rw [literalSet, hunicode]
    cases f.caseInsensitive <;> rfl
  rw [interpret, hset] at hinterpret
  obtain ⟨rfl, _⟩ := Prod.mk.inj (Except.ok.inj hinterpret)
  obtain ⟨hj, d, hd, hcontains⟩ := hmatch
  refine ⟨hj, d, hd, ?_⟩
  rw [Variant]
  cases hcase : f.caseInsensitive with
  | true => rwa [hcase] at hcontains
  | false =>
      rw [hcase] at hcontains
      exact contains_singleton.mp hcontains

end TrigramSearch.Regex
