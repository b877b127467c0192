import TrigramSearch.Proofs.Search.Accounting
import TrigramSearch.Proofs.Search.Soundness

/-!
# Results are well formed

A result lists positions and documents side by side.  The documents are looked
up after the positions are known, and a position without a document would be
skipped, so that all later documents moved to a wrong place; it has to be shown
that no such position is ever listed.

Whatever the plan, the positions are a selection of the positions of the
collection in their order, and a document that matches stands at each of them
(`Selects`).  Everything else follows from that and from the numbers of
candidates that a plan may carry (`Plan.Bounded`).

## Main results

* `Engine.positionsOf_selects` — the positions under every plan.
* `Plan.make_bounded` — no plan has more candidates than there are documents.
* `Engine.search_wellFormed` — every result of every engine.
-/

namespace TrigramSearch

/-- What can be relied on in a result of searching a field for a pattern. -/
structure SearchResult.WellFormed (r : SearchResult) (c : Collection) (field : String)
    (pattern : List Char) (options : MatchOptions) : Prop where
  increasing : r.positions.Pairwise (· < ·)
  inRange : ∀ position ∈ r.positions, position < c.length
  length_eq : r.documents.length = r.positions.length
  /-- Each document is the one at the position that is listed with it. -/
  paired : r.documents.map some = r.positions.map c.get?
  matching : ∀ document ∈ r.documents, ∃ e text, Regex.compile pattern options = .ok e ∧
    Document.text? document field = some text ∧ e.Accepts text.toList
  accelerated : ∀ n, r.strategy = .accelerated n → r.positions.length ≤ n ∧ n ≤ c.length
  ineffective : ∀ n, r.strategy = .fullScan (.ineffective n) → n ≤ c.length
  invalid : ∀ message, r.strategy = .invalidPattern message → r.documents = [] ∧ r.positions = []

/-! ## Positions -/

/-- Positions in increasing order, at each of which a document that matches stands. -/
structure Selects (v : Verifier) (c : Collection) (positions : List Nat) : Prop where
  increasing : positions.Pairwise (· < ·)
  matching : ∀ position ∈ positions, ∃ document, c.get? position = some document ∧
    v.isMatch document = true

namespace Selects

variable {v : Verifier} {c : Collection} {positions : List Nat}

theorem inRange (h : Selects v c positions) {position : Nat} (hp : position ∈ positions) :
    position < c.length := by
  obtain ⟨document, hd, _⟩ := h.matching position hp
  exact (List.getElem?_eq_some_iff.mp hd).1

/-- No position is skipped when its document is looked up. -/
theorem documents_paired (h : Selects v c positions) :
    (positions.filterMap c.get?).map some = positions.map c.get? := by
  have hall := h.matching
  clear h
  induction positions with
  | nil => rfl
  | cons position rest ih =>
      obtain ⟨document, hd, _⟩ := hall position List.mem_cons_self
      have hrest := ih fun p hp => hall p (List.mem_cons_of_mem position hp)
      rw [List.filterMap_cons_some hd, List.map_cons, List.map_cons, hrest, hd]

/-- Every document that is looked up matches. -/
theorem documents_match (h : Selects v c positions) {document : Json.Value}
    (hd : document ∈ positions.filterMap c.get?) : v.isMatch document = true := by
  obtain ⟨position, hp, hget⟩ := List.mem_filterMap.mp hd
  obtain ⟨other, hother, hmatch⟩ := h.matching position hp
  obtain rfl := Option.some.inj (hget.symm.trans hother)
  exact hmatch

end Selects

theorem Verifier.verifyAll_selects (v : Verifier) (c : Collection) :
    Selects v c (v.verifyAll c) where
  increasing := c.positions_increasing _
  matching position hp := (v.mem_verifyAll c position).mp hp

theorem Verifier.verifyOnly_selects (v : Verifier) (c : Collection) {candidates : List Nat}
    (h : candidates.Pairwise (· < ·)) : Selects v c (v.verifyOnly c candidates) where
  increasing := h.sublist List.filter_sublist
  matching position hp := by
    have hmatch := (List.mem_filter.mp hp).2
    exact (Option.any_eq_true _ _).mp hmatch

/-! ## Plans -/

/-- The candidates of a plan are documents of the collection, in increasing order. -/
structure Plan.Bounded (plan : Plan) (c : Collection) : Prop where
  increasing : ∀ positions, plan = .candidates positions → positions.Pairwise (· < ·)
  candidates_le : ∀ positions, plan = .candidates positions → positions.length ≤ c.length
  ineffective_le : ∀ n, plan = .ineffective n → n ≤ c.length

namespace Plan

/-- A plan that does not carry candidates. -/
theorem bounded_of_unfiltered {plan : Plan} (c : Collection)
    (h : plan = .disabled ∨ ∃ reason, plan = .ineligible reason) : plan.Bounded c := by
  rcases h with rfl | ⟨reason, rfl⟩ <;> constructor <;> (intro _ hplan; cases hplan)

theorem ofCandidates_bounded (bloom : BloomIndex) (c : Collection) (field idField : String)
    (grams : List Trigram) (threshold : Binary64) :
    (ofCandidates (TrigramSearch.candidates bloom c field idField grams) c.length
      threshold).Bounded c := by
  have hle := length_candidates_le bloom c field idField grams
  rw [ofCandidates]
  split
  · constructor
    · intro positions hplan
      cases hplan
    · intro positions hplan
      cases hplan
    · intro n hn
      obtain rfl := ineffective.inj hn
      exact hle
  · constructor
    · intro positions hplan
      obtain rfl := candidates.inj hplan
      exact c.positions_increasing _
    · intro positions hplan
      obtain rfl := candidates.inj hplan
      exact hle
    · intro n hn
      cases hn

theorem make_bounded (settings : SearchSettings) (k : IndexCache) (isLive : CollectionId → Bool)
    (c : Collection) (field : String) (pattern : List Char) (options : MatchOptions) :
    (make settings k isLive c field pattern options).plan.Bounded c := by
  rcases make_cases settings k isLive c field pattern options with
    ⟨_, _, hplan⟩ | ⟨_, _, grams, hplan⟩
  · exact bounded_of_unfiltered c hplan
  · rw [hplan]
    exact ofCandidates_bounded _ c field _ grams _

end Plan

/-! ## Results -/

namespace Engine

/-- Verified positions under a plan: all documents or only the candidates are looked at. -/
theorem positionsOf_selects (v : Verifier) {c : Collection} {plan : Plan} (h : plan.Bounded c) :
    Selects v c (positionsOf v c plan) := by
  cases plan with
  | candidates positions => exact v.verifyOnly_selects c (h.increasing positions rfl)
  | _ => exact v.verifyAll_selects c

/-- The result under a plan is well formed. -/
theorem wellFormed_of_bounded {v : Verifier} {c : Collection} {field : String}
    {pattern : List Char} {options : MatchOptions}
    (hv : Verifier.compile pattern options field = .ok v) {plan : Plan} (h : plan.Bounded c) :
    SearchResult.WellFormed ⟨(positionsOf v c plan).filterMap c.get?, positionsOf v c plan,
      strategyOf plan⟩ c field pattern options := by
  have hselects := positionsOf_selects v h
  have hpaired := hselects.documents_paired
  obtain ⟨hcompile, hfield⟩ := Verifier.compile_ok hv
  refine ⟨hselects.increasing, fun p hp => hselects.inRange hp, ?_, hpaired, ?_, ?_, ?_, ?_⟩
  · simpa using congrArg List.length hpaired
  · intro document hd
    obtain ⟨text, htext, hmatch⟩ := (v.isMatch_iff document).mp (hselects.documents_match hd)
    rw [hfield] at htext
    exact ⟨v.expr, text, hcompile, htext,
      (Regex.isMatch_iff_accepts hcompile text.toList).mp hmatch⟩
  · intro n hn
    cases plan with
    | candidates positions =>
        obtain rfl := Strategy.accelerated.inj hn
        exact ⟨List.length_filter_le _ _, h.candidates_le positions rfl⟩
    | _ => cases hn
  · intro n hn
    cases plan with
    | ineffective count =>
        obtain rfl := FullScanReason.ineffective.inj (Strategy.fullScan.inj hn)
        exact h.ineffective_le count rfl
    | _ => cases hn
  · intro message hinvalid
    cases plan <;> cases hinvalid

/-- **Results.**  Whatever an engine has done before, the result of a search lists the positions
of documents of the collection in increasing order, together with these documents, each of which
has text at the field that the pattern matches.  There are no more of them than candidates, no
more candidates than documents, and nothing for a pattern that does not compile. -/
theorem search_wellFormed (g : Engine) (isLive : CollectionId → Bool) (timing : Timing)
    (c : Collection) (field : String) (pattern options : List Char)
    (overrides : Option Overrides) :
    (g.search isLive timing c field pattern options overrides).1.WellFormed c field pattern
      (MatchOptions.ofChars options) := by
  rw [search, plan]
  cases hv : Verifier.compile pattern (MatchOptions.ofChars options) field with
  | error e =>
      refine ⟨List.Pairwise.nil, ?_, rfl, rfl, ?_, ?_, ?_, ?_⟩
      · intro p hp
        cases hp
      · intro document hd
        cases hd
      · intro n hn
        cases hn
      · intro n hn
        cases hn
      · intro message _
        exact ⟨rfl, rfl⟩
  | ok v => exact wellFormed_of_bounded hv (Plan.make_bounded _ g.cache isLive c field _ _)

end Engine
end TrigramSearch
