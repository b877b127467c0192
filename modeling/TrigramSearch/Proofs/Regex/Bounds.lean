import TrigramSearch.Regex.Compile
import TrigramSearch.Proofs.Regex.ClassSteps
import TrigramSearch.Proofs.Regex.Matcher
import TrigramSearch.Proofs.Regex.Steps

/-!
# Bounds of repetitions are in order

The parser refuses a repetition whose upper bound is below its lower one, and no
later phase makes a repetition of its own.  So the bounds of all repetitions of
a compiled expression are in order, and the matcher decides whether a text has a
match of it.

## Main results

* `Parser.loop_ordered` — the tree of a pattern has its bounds in order.
* `Meaning.interpret_ordered` — so has the expression of such a tree.
* `isMatch_iff_accepts` — the matcher finds a match of a compiled expression in a
  text iff there is one.
-/

namespace TrigramSearch.Regex

/-- The bounds of a repetition are in order. -/
def Repetition.Ordered (r : Repetition) : Prop := ∀ m ∈ r.most, r.least ≤ m

namespace Ast

mutual

/-- The bounds of all repetitions are in order. -/
def Ordered : Ast → Prop
  | .repetition r body => r.Ordered ∧ body.Ordered
  | .group _ _ body => body.Ordered
  | .concat parts => AllOrdered parts
  | .alternation branches => AllOrdered branches
  | _ => True

def AllOrdered : List Ast → Prop
  | [] => True
  | a :: rest => a.Ordered ∧ AllOrdered rest

end

theorem allOrdered_iff {as : List Ast} : AllOrdered as ↔ ∀ a ∈ as, a.Ordered := by
  induction as with
  | nil => simp [AllOrdered]
  | cons a rest ih => simp [AllOrdered, ih]

end Ast

namespace Parser

theorem sequence_ordered {parts : List Ast} (h : ∀ a ∈ parts, a.Ordered) :
    (sequence parts).Ordered := by
  match parts with
  | [] => exact trivial
  | [a] => exact h a List.mem_cons_self
  | a :: b :: rest =>
      rw [sequence, Ast.Ordered, Ast.allOrdered_iff]
      · intro x hx
        exact h x (List.mem_reverse.mp hx)
      · exact nofun
      · exact nofun

theorem alternatives_ordered {branches : List Ast} {last : Ast} (hlast : last.Ordered)
    (h : ∀ a ∈ branches, a.Ordered) : (alternatives branches last).Ordered := by
  rw [alternatives]
  split
  · exact hlast
  · rw [Ast.Ordered, Ast.allOrdered_iff]
    intro x hx
    rcases List.mem_cons.mp (List.mem_reverse.mp hx) with rfl | hold
    · exact hlast
    · exact h x hold

/-! ## Where repetitions come from -/

theorem signCounts_ordered (c : Char) (greedy : Bool) : (signCounts c greedy).Ordered := by
  intro m hm
  simp only [signCounts] at hm ⊢
  split at hm
  · rename_i hc
    rw [if_pos hc]
    exact Nat.zero_le m
  · split at hm <;> cases hm

theorem repetitionCounts_ordered {extended : Bool} {s rest : List Char} {r : Repetition}
    (h : repetitionCounts extended s = .ok (r, rest)) : r.Ordered := by
  have hopen : ∀ n greedy, Repetition.Ordered ⟨n, none, greedy⟩ := by
    intro n greedy m hm
    cases hm
  have hbounded : ∀ {n m : Nat} greedy, ¬ m < n → Repetition.Ordered ⟨n, some m, greedy⟩ := by
    intro n m greedy hle x hx
    obtain rfl := Option.mem_some.mp hx
    exact Nat.le_of_not_lt hle
  rw [repetitionCounts] at h
  dsimp only at h
  -- every way to a result builds the repetition in one of these two shapes
  repeat' split at h
  all_goals cases h
  · exact hopen _ _
  · exact hbounded _ ‹_›
  · exact hbounded _ ‹_›

/-! ## The run of the parser -/

/-- The bounds of everything that has been read are in order. -/
structure State.Ordered (st : State) : Prop where
  parts : ∀ a ∈ st.parts, a.Ordered
  branches : ∀ a ∈ st.branches, a.Ordered
  groups : ∀ g ∈ st.groups, (∀ a ∈ g.parts, a.Ordered) ∧ ∀ a ∈ g.branches, a.Ordered

theorem start_ordered (extended : Bool) : State.Ordered ⟨extended, [], [], [], []⟩ where
  parts := by simp
  branches := by simp
  groups := by simp

theorem State.Ordered.tree {st : State} (h : st.Ordered) : st.tree.Ordered :=
  alternatives_ordered (sequence_ordered h.parts) h.branches

private theorem push_ordered {st : State} (h : st.Ordered) {a : Ast} (ha : a.Ordered) :
    (st.push a).Ordered where
  parts := by
    intro x hx
    rcases List.mem_cons.mp hx with rfl | hold
    · exact ha
    · exact h.parts x hold
  branches := h.branches
  groups := h.groups

private theorem repeated_ordered {st : State} (h : st.Ordered) {r : Repetition} (hr : r.Ordered)
    {a : Ast} {parts : List Ast} (hparts : st.parts = a :: parts) :
    State.Ordered { st with parts := .repetition r a :: parts } where
  parts := by
    have hold : ∀ x ∈ a :: parts, x.Ordered := hparts ▸ h.parts
    intro x hx
    rcases List.mem_cons.mp hx with rfl | hrest
    · exact ⟨hr, hold a List.mem_cons_self⟩
    · exact hold x (List.mem_cons_of_mem a hrest)
  branches := h.branches
  groups := h.groups

theorem bracketedClass_ordered {extended : Bool} {s rest : List Char} {a : Ast}
    (h : bracketedClass extended s = .ok (a, rest)) : a.Ordered := by
  obtain ⟨negated, set, rfl⟩ := bracketedClass_ast h
  exact trivial

theorem step_ordered {st st' : State} {c : Char} {rest rest' : List Char} (h : st.Ordered)
    (hstep : st.step c rest = .ok (st', rest')) : st'.Ordered := by
  cases stepped hstep with
  | enter capturing flags names _ _ =>
      constructor
      · simp [State.enter]
      · simp [State.enter]
      · intro g hg
        rcases List.mem_cons.mp hg with rfl | hold
        · exact ⟨h.parts, h.branches⟩
        · exact h.groups g hold
  | @setFlags flags _ _ =>
      have hpushed : (st.push (.flags flags)).Ordered := push_ordered h trivial
      exact ⟨hpushed.parts, hpushed.branches, hpushed.groups⟩
  | @close g groups hgroups =>
      have hg := h.groups g (hgroups ▸ List.mem_cons_self)
      constructor
      · intro x hx
        rcases List.mem_cons.mp hx with rfl | hold
        · exact h.tree
        · exact hg.1 x hold
      · exact hg.2
      · intro x hx
        exact h.groups x (hgroups ▸ List.mem_cons_of_mem g hx)
  | branch =>
      constructor
      · simp
      · intro x hx
        rcases List.mem_cons.mp hx with rfl | hold
        · exact sequence_ordered h.parts
        · exact h.branches x hold
      · exact h.groups
  | charClass hclass => exact push_ordered h (bracketedClass_ordered hclass)
  | sign _ hparts _ => exact repeated_ordered h (signCounts_ordered c _) hparts
  | counts hcounts hparts _ =>
      exact repeated_ordered h (repetitionCounts_ordered hcounts) hparts
  | @primitive _ p _ _ _ =>
      have hp : p.ast.Ordered := by cases p <;> exact trivial
      exact push_ordered h hp

/-- The tree of a pattern has its bounds in order. -/
theorem loop_ordered {fuel : Nat} {st : State} {s : List Char} {a : Ast} (h : st.Ordered)
    (hloop : loop fuel st s = .ok a) : a.Ordered := by
  induction fuel generalizing st s with
  | zero =>
      rcases loop_step hloop with ⟨_, _, rfl⟩ | ⟨_, _, _, _, _, hfuel, _⟩
      · exact h.tree
      · cases hfuel
  | succ fuel ih =>
      rcases loop_step hloop with ⟨_, _, rfl⟩ | ⟨_, _, _, _, _, hfuel, _, hstep, hrest⟩
      · exact h.tree
      · obtain rfl := Nat.succ.inj hfuel
        exact ih (step_ordered h hstep) hrest

end Parser

theorem parse_ok {extended : Bool} {pattern : List Char} {a : Ast}
    (h : Ast.parse extended pattern = .ok a) :
    Parser.loop pattern.length ⟨extended, [], [], [], []⟩ pattern = .ok a := by
  rw [Ast.parse] at h
  split at h
  · cases h
  · rename_i hloop
    split at h
    · cases h
    · obtain rfl := Except.ok.inj h
      exact hloop

theorem parse_ordered {extended : Bool} {pattern : List Char} {a : Ast}
    (h : Ast.parse extended pattern = .ok a) : a.Ordered :=
  Parser.loop_ordered (Parser.start_ordered extended) (parse_ok h)

/-! ## Meanings -/

theorem Expr.ofList_ordered {es : List Expr} (h : ∀ e ∈ es, e.Ordered) :
    (Expr.ofList es).Ordered := by
  induction es with
  | nil => exact trivial
  | cons e rest ih =>
      have he := h e List.mem_cons_self
      have hrest := ih fun x hx => h x (List.mem_cons_of_mem e hx)
      cases rest with
      | nil => exact he
      | cons e' rest' => exact ⟨he, hrest⟩

theorem Expr.anyOf_ordered {es : List Expr} (h : ∀ e ∈ es, e.Ordered) :
    (Expr.anyOf es).Ordered := by
  induction es with
  | nil => exact trivial
  | cons e rest ih =>
      have he := h e List.mem_cons_self
      have hrest := ih fun x hx => h x (List.mem_cons_of_mem e hx)
      cases rest with
      | nil => exact he
      | cons e' rest' => exact ⟨he, hrest⟩

namespace Meaning

/-- A set of characters has no repetitions. -/
private theorem oneOf_ordered {f g : Flags} {s : Except SyntaxError CharSet} {i : Interpretation}
    (h : oneOf f s = .ok (i, g)) : i.expr.Ordered := by
  cases s with
  | error e => cases h
  | ok s =>
      obtain ⟨rfl, _⟩ := Prod.mk.inj (Except.ok.inj h)
      exact trivial

mutual

/-- The expression of a tree has its bounds in order if the tree has. -/
theorem interpret_ordered {f g : Flags} : ∀ {a : Ast} {i : Interpretation}, a.Ordered →
    interpret f a = .ok (i, g) → i.expr.Ordered
  | .empty, _, _, h => by
      obtain ⟨rfl, _⟩ := Prod.mk.inj (Except.ok.inj h)
      exact trivial
  | .flags items, _, _, h => by
      obtain ⟨rfl, _⟩ := Prod.mk.inj (Except.ok.inj h)
      exact trivial
  | .literal l, _, _, h => oneOf_ordered h
  | .dot, _, _, h => oneOf_ordered h
  | .assertion a, _, _, h => by
      obtain ⟨rfl, _⟩ := Prod.mk.inj (Except.ok.inj h)
      exact trivial
  | .shorthand kind negated, _, _, h => oneOf_ordered h
  | .property query negated, _, _, h => oneOf_ordered h
  | .charClass negated set, _, _, h => by
      rw [interpret] at h
      split at h
      · cases h
      · exact oneOf_ordered h
  | .repetition r body, _, ha, h => by
      rw [interpret] at h
      split at h
      · cases h
      · rename_i i' g' hbody
        obtain ⟨rfl, _⟩ := Prod.mk.inj (Except.ok.inj h)
        exact ⟨ha.1, interpret_ordered ha.2 hbody⟩
  | .group capturing items body, _, ha, h => by
      rw [interpret] at h
      split at h
      · cases h
      · rename_i i' g' hbody
        obtain ⟨rfl, _⟩ := Prod.mk.inj (Except.ok.inj h)
        have hordered : i'.expr.Ordered := interpret_ordered (a := body) ha hbody
        cases capturing <;> exact hordered
  | .concat parts, _, ha, h => by
      rw [interpret] at h
      split at h
      · cases h
      · rename_i is g' hparts
        obtain ⟨rfl, _⟩ := Prod.mk.inj (Except.ok.inj h)
        exact Expr.ofList_ordered (interpretAll_ordered ha hparts)
  | .alternation branches, _, ha, h => by
      rw [interpret] at h
      split at h
      · cases h
      · rename_i is g' hparts
        obtain ⟨rfl, _⟩ := Prod.mk.inj (Except.ok.inj h)
        exact Expr.anyOf_ordered (interpretAll_ordered ha hparts)

theorem interpretAll_ordered {f g : Flags} : ∀ {as : List Ast} {is : List Interpretation},
    Ast.AllOrdered as → interpretAll f as = .ok (is, g) →
      ∀ e ∈ is.map Interpretation.expr, e.Ordered
  | [], _, _, h => by
      obtain ⟨rfl, _⟩ := Prod.mk.inj (Except.ok.inj h)
      exact nofun
  | a :: rest, _, ha, h => by
      rw [interpretAll] at h
      split at h
      · cases h
      · rename_i i' g' hfirst
        split at h
        · cases h
        · rename_i is' h' hrest
          obtain ⟨rfl, _⟩ := Prod.mk.inj (Except.ok.inj h)
          intro e he
          rcases List.mem_cons.mp he with rfl | hmem
          · exact interpret_ordered ha.1 hfirst
          · exact interpretAll_ordered ha.2 hrest e hmem

end

end Meaning

/-- What a pattern that compiles has gone through. -/
theorem compile_ok {pattern : List Char} {options : MatchOptions} {e : Expr}
    (h : compile pattern options = .ok e) :
    ∃ a m g, Ast.parse options.extended pattern = .ok a ∧
      Meaning.interpret (Flags.ofOptions options) a = .ok (m, g) ∧ e = m.expr := by
  rw [compile] at h
  split at h
  · cases h
  · rename_i a hparse
    split at h
    · cases h
    · rename_i m hinterpret
      split at h
      · cases h
      · obtain rfl := Except.ok.inj h
        rw [Ast.interpret] at hinterpret
        cases hmeaning : Meaning.interpret (Flags.ofOptions options) a with
        | error e =>
            rw [hmeaning] at hinterpret
            cases hinterpret
        | ok result =>
            rw [hmeaning] at hinterpret
            obtain rfl := Except.ok.inj hinterpret
            exact ⟨a, result.1, result.2, hparse, hmeaning, rfl⟩

/-- The matcher finds a match of a compiled expression in a text iff there is one. -/
theorem isMatch_iff_accepts {pattern : List Char} {options : MatchOptions} {e : Expr}
    (he : compile pattern options = .ok e) (text : List Char) :
    e.isMatch text = true ↔ e.Accepts text := by
  obtain ⟨a, m, g, hparse, hmeaning, rfl⟩ := compile_ok he
  have hordered := Meaning.interpret_ordered (parse_ordered hparse) hmeaning
  exact ⟨Expr.accepts_of_isMatch hordered, Expr.isMatch_of_accepts⟩

end TrigramSearch.Regex
