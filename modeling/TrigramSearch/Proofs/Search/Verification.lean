import Mathlib.Data.List.Sort
import TrigramSearch.Proofs.Search.Soundness

/-!
# Verifying a selection of positions

A full scan goes through the documents and keeps the positions of those that
match.  With candidates it is the other way round: verification starts from a
list of positions and looks up the document at each of them.  The list may be in
any order, repeat a position or name one behind the end of the collection; what
comes out is always the part of the list that a full scan finds
(`verifyOnly_eq_filter`).

So the work can be shared out between workers, each with a piece of the list
(`verifyOnly_flatten`).  And a list in increasing order that leaves no match out
gives the full scan itself, because such a list is determined by its members.

## Main results

* `Verifier.mem_verifyOnly`: what is found among some positions.
* `Verifier.verifyAll_flatten`, `Verifier.verifyOnly_flatten`: it does not matter
  how the work is divided.
* `Verifier.verifyOnly_covering`: any list of positions, and any that leaves no
  match out.
-/

namespace TrigramSearch.Verifier

variable (v : Verifier) (c : Collection)

/-- The test of a position is whether a full scan finds it. -/
theorem any_isMatch_eq (position : Nat) :
    (c.get? position).any v.isMatch = decide (position ∈ v.verifyAll c) := by
  rw [Bool.eq_iff_iff, decide_eq_true_eq, mem_verifyAll, Option.any_eq_true]

theorem verifyOnly_eq_filter (positions : List Nat) :
    v.verifyOnly c positions = positions.filter (· ∈ v.verifyAll c) := by
  unfold verifyOnly
  apply List.filter_congr
  intro position _
  exact v.any_isMatch_eq c position

theorem mem_verifyOnly {positions : List Nat} {position : Nat} :
    position ∈ v.verifyOnly c positions ↔ position ∈ positions ∧ position ∈ v.verifyAll c := by
  simp [verifyOnly_eq_filter]

theorem verifyAll_increasing : (v.verifyAll c).Pairwise (· < ·) :=
  c.positions_increasing _

/-! ## Divided work -/

/-- Pieces of a list of positions, verified on their own, give what the whole list gives. -/
theorem verifyOnly_flatten (pieces : List (List Nat)) :
    v.verifyOnly c pieces.flatten = (pieces.map (v.verifyOnly c)).flatten :=
  List.filter_flatten

/-- The positions of the documents that match, of some documents with their positions. -/
def verifyPiece (documents : List (Json.Value × Nat)) : List Nat :=
  (documents.filter fun d => v.isMatch d.1).map Prod.snd

/-- Pieces of the collection, scanned on their own, give what the whole collection gives. -/
theorem verifyAll_flatten {pieces : List (List (Json.Value × Nat))}
    (h : pieces.flatten = c.enumerate) :
    v.verifyAll c = (pieces.map v.verifyPiece).flatten := by
  rw [verifyAll, ← h, List.filter_flatten, List.map_flatten, List.map_map]
  rfl

/-! ## Increasing lists -/

/-- A list in increasing order is determined by its members. -/
private theorem eq_of_increasing {xs ys : List Nat} (hx : xs.Pairwise (· < ·))
    (hy : ys.Pairwise (· < ·)) (h : ∀ n, n ∈ xs ↔ n ∈ ys) : xs = ys := by
  have hperm : xs.Perm ys :=
    (List.perm_ext_iff_of_nodup (hx.imp Nat.ne_of_lt) (hy.imp Nat.ne_of_lt)).mpr h
  exact hperm.eq_of_pairwise (fun _ _ _ _ hab hba => absurd hba (Nat.lt_asymm hab)) hx hy

/-- **Verification of a selection.**  Verification of a list of positions keeps, in their order
and as often as they occur, those that a full scan finds, however the list is divided.  If the
list is increasing and leaves out nothing that a full scan finds, it finds exactly the same. -/
theorem verifyOnly_covering (positions : List Nat) :
    v.verifyOnly c positions = positions.filter (· ∈ v.verifyAll c) ∧
      (∀ pieces : List (List Nat), pieces.flatten = positions →
        (pieces.map (v.verifyOnly c)).flatten = v.verifyOnly c positions) ∧
      (positions.Pairwise (· < ·) → (∀ position ∈ v.verifyAll c, position ∈ positions) →
        v.verifyOnly c positions = v.verifyAll c) := by
  refine ⟨v.verifyOnly_eq_filter c positions, ?_, ?_⟩
  · rintro pieces rfl
    exact (v.verifyOnly_flatten c pieces).symm
  · intro hincreasing hcovers
    have hfound : (v.verifyOnly c positions).Pairwise (· < ·) :=
      hincreasing.sublist List.filter_sublist
    apply eq_of_increasing hfound (v.verifyAll_increasing c)
    intro position
    rw [mem_verifyOnly]
    exact ⟨And.right, fun h => ⟨hcovers position h, h⟩⟩

/-- Three of four documents have text and two of these match; the list names a document without
text and a position behind the end. -/
theorem verifyOnly_covering_sparse :
    let v : Verifier := ⟨.chars (.singleton 'o'), "text"⟩
    let documents : List Json.Value := [.object [("text", .string "hello")],
      .object [("text", .string "there")], .object [("text", .null)],
      .object [("text", .string "world")]]
    let c : Collection := ⟨⟨1⟩, 0, documents⟩
    let positions := [0, 2, 3, 99]
    [[0, 2], [], [3, 99]].flatten = positions ∧
      ([[0, 2], [], [3, 99]].map (v.verifyOnly c)).flatten = v.verifyOnly c positions ∧
      positions.Pairwise (· < ·) ∧ (∀ position ∈ v.verifyAll c, position ∈ positions) ∧
      v.verifyOnly c positions = v.verifyAll c ∧ v.verifyAll c = [0, 3] := by
  intro v documents c positions
  have hall : v.verifyAll c = [0, 3] := by decide +kernel
  have hpieces : [[0, 2], [], [3, 99]].flatten = positions := rfl
  have hincreasing : positions.Pairwise (· < ·) := by decide
  have hcovers : ∀ position ∈ v.verifyAll c, position ∈ positions := by
    rw [hall]
    decide
  obtain ⟨_, hdivided, hcovering⟩ := verifyOnly_covering v c positions
  exact ⟨hpieces, hdivided _ hpieces, hincreasing, hcovers, hcovering hincreasing hcovers, hall⟩

/-- Out of order, a position twice and one behind the end. -/
example :
    let v : Verifier := ⟨.chars (.singleton 'o'), "text"⟩
    let c : Collection := ⟨⟨1⟩, 0, [.object [("text", .string "no")], .null,
      .object [("text", .string "so")]]⟩
    v.verifyOnly c [2, 99, 1, 0, 2] = [2, 0, 2] := by
  decide +kernel

end TrigramSearch.Verifier
