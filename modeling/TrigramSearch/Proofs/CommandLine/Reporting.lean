import Mathlib.Data.List.Induction
import TrigramSearch.CommandLine.Report
import TrigramSearch.Proofs.Search.Results

/-!
# What a report says

In JSON a report is an object.  Its members are put in one after the other, each
at its place among the names, so it has to be shown that all of them are there:
of the members of one name the last one is found, and no name hides another
(`get?_ofMembers`).  Then the members of a report can be read off the list from
which it is made, and those of its statistics as well.

In words a report has a summary and a line for each match, with the identity and
the text of the document.  The identity is looked up by the position of the
match; it is that of the document in the same line, because the results of a
search stand side by side.

## Main results

* `Json.Value.get?_ofMembers`: the members of an object that is made of a list.
* `SearchReport.get?_value`, `SearchReport.value_shows`: the members of a report.
* `SearchReport.matchLines_eq`, `SearchReport.summary_eq`: the lines of a report, and its
  summary.
* `strategyValue_injective`: how a search was executed can be told from its report.
-/

namespace TrigramSearch

/-! ## Members of objects -/

namespace Json.Value

/-- The member of an object. -/
def get? (name : String) : Value → Option Value
  | .object members => member? name members
  | _ => none

theorem member?_insertMember (name key : String) (v : Value) (members : List (String × Value)) :
    member? name (insertMember key v members) =
      if key = name then some v else member? name members := by
  induction members with
  | nil => rfl
  | cons m rest ih =>
      obtain ⟨k, w⟩ := m
      rw [insertMember]
      split
      · rfl
      · split
        · rename_i hsame
          subst hsame
          rw [member?, member?]
          by_cases hname : k = name <;> simp [hname]
        · rename_i hother
          rw [member?, member?, ih]
          by_cases hname : k = name
          · have hkey : key ≠ name := fun heq => hother (hname.trans heq.symm)
            rw [if_pos hname, if_neg hkey, if_pos hname]
          · rw [if_neg hname, if_neg hname]

/-- The last member of a name is the one that is found. -/
theorem get?_ofMembers (name : String) (members : List (String × Value)) :
    (ofMembers members).get? name = member? name members.reverse := by
  induction members using List.reverseRecOn with
  | nil => rfl
  | append_singleton members m ih =>
      obtain ⟨key, v⟩ := m
      have hlast : (ofMembers (members ++ [(key, v)])).get? name =
          if key = name then some v else (ofMembers members).get? name := by
        rw [ofMembers, List.foldl_append]
        exact member?_insertMember name key v _
      rw [hlast, ih, List.reverse_append]
      rfl

theorem ofNat_injective {n m : Nat} (h : ofNat n = ofNat m) : n = m :=
  Int.ofNat.inj (Number.integer.inj (number.inj h))

end Json.Value

namespace CommandLine

open Json (Value)

theorem reasonName_injective {r r' : Ineligibility} (h : reasonName r = reasonName r') :
    r = r' := by
  cases r <;> cases r' <;> first | rfl | exact absurd h (by decide)

/-- Searches that were executed in different ways are reported differently. -/
theorem strategyValue_injective {s s' : Strategy} (h : strategyValue s = strategyValue s') :
    s = s' := by
  cases s with
  | accelerated n =>
      cases s' with
      | accelerated n' =>
          simp only [strategyValue, Value.object.injEq, List.cons.injEq, Prod.mk.injEq, true_and,
            and_true] at h
          rw [Value.ofNat_injective h]
      | fullScan reason' => cases reason' <;> simp [strategyValue] at h
      | invalidPattern reason' => simp [strategyValue] at h
  | fullScan reason =>
      cases s' with
      | accelerated n' => cases reason <;> simp [strategyValue] at h
      | fullScan reason' =>
          cases reason <;> cases reason' <;> simp [strategyValue] at h ⊢
          case ineligible => exact reasonName_injective h
          case ineffective => exact Value.ofNat_injective h
      | invalidPattern reason' => cases reason <;> simp [strategyValue] at h
  | invalidPattern reason =>
      cases s' with
      | accelerated n' => simp [strategyValue] at h
      | fullScan reason' => cases reason' <;> simp [strategyValue] at h
      | invalidPattern reason' => simpa [strategyValue] using h

/-! ## Members of a report -/

/-- A value shows a result and, if they are asked for, statistics. -/
structure Shows (v : Value) (result : SearchResult) (limit : Nat) (stats : Option Statistics) :
    Prop where
  total : v.get? "total" = some (Value.ofNat result.documents.length)
  listed : v.get? "matches" = some (.array (result.documents.take limit))
  strategy : v.get? "strategy" = some (strategyValue result.strategy)
  unasked : stats = none → v.get? "stats" = none
  asked : ∀ s, stats = some s → ∃ shown, v.get? "stats" = some shown ∧
    shown.get? "totalQueries" = some (Value.ofNat s.totalQueries.toNat) ∧
    shown.get? "totalMatches" = some (Value.ofNat s.totalMatches.toNat) ∧
    shown.get? "indexBuilds" = some (Value.ofNat s.indexBuilds.toNat)

namespace SearchReport

/-- The moment of the last reset is one more member of statistics, and hides none of them. -/
theorem get?_statsValue (s : Statistics) (lastReset : Moment) (name : String) :
    (statsValue s lastReset).get? name =
      if "lastReset" = name then some (.string lastReset.text) else s.toJson.get? name :=
  Value.member?_insertMember name "lastReset" _ _

/-- The members of a report, the last one first. -/
theorem get?_value (r : SearchReport) (name : String) :
    r.value.get? name = Value.member? name
      ((r.stats.map fun s => ("stats", statsValue s.1 s.2)).toList ++
        [("elapsedMs", .number (.float r.elapsed)),
          ("strategy", strategyValue r.result.strategy),
          ("matches", .array (r.result.documents.take r.limit)),
          ("total", Value.ofNat r.result.documents.length)]) := by
  rw [value, Value.get?_ofMembers]
  cases r.stats <;> rfl

theorem value_shows (r : SearchReport) :
    Shows r.value r.result r.limit (r.stats.map Prod.fst) := by
  constructor
  case total =>
    rw [get?_value]
    cases r.stats <;> rfl
  case listed =>
    rw [get?_value]
    cases r.stats <;> rfl
  case strategy =>
    rw [get?_value]
    cases r.stats <;> rfl
  case unasked =>
    intro hnone
    rw [get?_value, Option.map_eq_none_iff.mp hnone]
    rfl
  case asked =>
    intro _ hs
    obtain ⟨⟨s, lastReset⟩, hstats, rfl⟩ := Option.map_eq_some_iff.mp hs
    refine ⟨statsValue s lastReset, ?_, ?_, ?_, ?_⟩
    · simp [get?_value, hstats, Value.member?]
    · simp [get?_statsValue, Statistics.toJson, Value.get?_ofMembers, Value.member?]
    · simp [get?_statsValue, Statistics.toJson, Value.get?_ofMembers, Value.member?]
    · simp [get?_statsValue, Statistics.toJson, Value.get?_ofMembers, Value.member?]

/-! ## Lines of a report -/

/-- Where documents and positions stand side by side, the document of a pair is at its position. -/
theorem get?_of_mem_zip {c : Collection} {positions : List Nat} {documents : List Value}
    (hpaired : documents.map some = positions.map c.get?) {m : Nat × Value}
    (hm : m ∈ positions.zip documents) : c.get? m.1 = some m.2 := by
  induction positions generalizing documents with
  | nil => cases hm
  | cons position positions ih =>
      cases documents with
      | nil => cases hm
      | cons document documents =>
          rw [List.map_cons, List.map_cons, List.cons.injEq] at hpaired
          rcases List.mem_cons.mp hm with rfl | hrest
          · exact hpaired.1.symm
          · exact ih hpaired.2 hrest

/-- Each line has the identity and the text of one document. -/
theorem matchLines_eq {r : SearchReport}
    (hpaired : r.result.documents.map some = r.result.positions.map r.collection.get?)
    (idField : String) :
    r.matchLines idField =
      String.join (((r.result.positions.zip r.result.documents).take r.limit).map fun m =>
        (DocumentId.resolve m.2 m.1 idField).display ++ "\t" ++ m.2.compact ++ "\n") := by
  rw [matchLines]
  congr 1
  apply List.map_congr_left
  intro m hm
  have hget := get?_of_mem_zip hpaired (List.mem_of_mem_take hm)
  rw [matchLine, Collection.documentId?, hget]
  rfl

/-- The summary tells the number of the matches and of the documents, how the search was executed,
and the statistics if they are asked for. -/
theorem summary_eq (r : SearchReport) :
    r.summary = "\nFound " ++ toString r.result.documents.length ++ " matches in " ++
      toString r.collection.length ++ " documents (" ++ strategyText r.result.strategy ++ ") in " ++
      r.elapsed.toFixed 3 ++ "ms\n" ++ r.stats.elim "" fun s => s.1.display ++ "\n" := by
  obtain ⟨collection, result, limit, elapsed, stats⟩ := r
  cases stats <;> rfl

end SearchReport

private theorem begins_append {start s : String} (t : String) (h : ∃ rest, s = start ++ rest) :
    ∃ rest, s ++ t = start ++ rest := by
  obtain ⟨rest, rfl⟩ := h
  exact ⟨rest ++ t, String.append_assoc⟩

/-- The summary of statistics begins with the number of queries. -/
theorem display_queries (s : Statistics) :
    ∃ rest, s.display = toString s.totalQueries.toNat ++ " queries, " ++ rest := by
  unfold Statistics.display
  -- what stands behind the number and its name
  iterate 16 refine begins_append _ ?_
  exact ⟨"", String.append_empty.symm⟩

end CommandLine
end TrigramSearch
