import TrigramSearch.Proofs.Settings.Changes
import TrigramSearch.Proofs.Toml.Documents
import TrigramSearch.Settings.File

/-!
# Settings files read back

A settings file is a printed document of three sections.  Its values read back
one by one: the truth value, the numbers, as long as they fit a signed word of
64 bits, the identifier field, whatever its characters are, and the threshold,
whatever number it is.  So the document that is read holds the settings that
were written; only a threshold that is a NaN may come back as another NaN, and
settings with such a threshold are refused in either case.

## Main results

* `write_cases` — which settings can be written.
* `ofTable?_text` — the settings in a written text.
* `read_text` — reading a written text.
* `save_load` — saving a file and loading it.
-/

namespace TrigramSearch

/-- Whether a file can be written where this is found. -/
def FileState.IsWritable : FileState → Prop
  | .missing .notFound | .text _ | .unreadable .notText => True
  | .missing _ | .unreadable _ => False

namespace SettingsFile

open Toml

/-- The sizes fit a signed word of 64 bits. The number of hash functions has 32 bits and always
does. -/
structure Fits (f : SettingsFile) : Prop where
  minLiteralLength : f.search.minLiteralLength < 2 ^ 63
  maxPatternComplexity : f.search.maxPatternComplexity < 2 ^ 63
  bloomFilterSizeBytes : f.index.bloomFilterSizeBytes < 2 ^ 63
  parallelThreshold : f.performance.parallelThreshold < 2 ^ 63

variable {f : SettingsFile}

/-! ## Writing -/

theorem isWritable_iff (hword : f.index.hashFunctions < 2 ^ 32) : f.isWritable ↔ f.Fits := by
  have hlimit : integerLimit = 2 ^ 63 - 1 := rfl
  simp only [isWritable, hlimit, Bool.and_eq_true, decide_eq_true_eq]
  constructor
  · rintro ⟨⟨⟨⟨hmin, hmax⟩, hsize⟩, _⟩, hparallel⟩
    exact ⟨by omega, by omega, by omega, by omega⟩
  · rintro ⟨hmin, hmax, hsize, hparallel⟩
    exact ⟨⟨⟨⟨by omega, by omega⟩, by omega⟩, by omega⟩, by omega⟩

/-! ## The document -/

section

variable (f : SettingsFile) (hfits : f.Fits) (hword : f.index.hashFunctions < 2 ^ 32)
  {y : Binary64} (hy : scalar? (floatText f.search.effectivenessThreshold).toList = some (.float y))

/-- The settings that are read: the threshold is the one that its text is read as. -/
def withThreshold (y : Binary64) : SettingsFile :=
  { f with search := { f.search with effectivenessThreshold := y } }

def searchTable : PrintedTable where
  name := "search"
  entries := [
    ⟨"enable_bloom_filter", _, _, .of_all rfl,
      readsValue_booleanText f.search.enableBloomFilter⟩,
    ⟨"min_literal_length", _, _, .of_all rfl,
      readsValue_digitsOf hfits.minLiteralLength⟩,
    ⟨"max_pattern_complexity", _, _, .of_all rfl,
      readsValue_digitsOf hfits.maxPatternComplexity⟩,
    ⟨"effectiveness_threshold", _, _, .of_all rfl, readsValue_floatText hy⟩,
    ⟨"id_field", _, _, .of_all rfl, readsValue_string f.search.idField.toList⟩]
  bare := .of_all rfl
  distinct := show ["enable_bloom_filter", "min_literal_length", "max_pattern_complexity",
    "effectiveness_threshold", "id_field"].Nodup by decide

def indexTable : PrintedTable where
  name := "index"
  entries := [
    ⟨"bloom_filter_size_bytes", _, _, .of_all rfl,
      readsValue_digitsOf hfits.bloomFilterSizeBytes⟩,
    ⟨"hash_functions", _, _, .of_all rfl,
      readsValue_digitsOf (Nat.lt_trans hword (by decide))⟩]
  bare := .of_all rfl
  distinct := show ["bloom_filter_size_bytes", "hash_functions"].Nodup by decide

def performanceTable : PrintedTable where
  name := "performance"
  entries := [
    ⟨"parallel_threshold", _, _, .of_all rfl,
      readsValue_digitsOf hfits.parallelThreshold⟩]
  bare := .of_all rfl
  distinct := show ["parallel_threshold"].Nodup by decide

/-- The sections of a settings file as they are printed. -/
def tables : List PrintedTable :=
  [f.searchTable hfits hy, f.indexTable hfits hword, f.performanceTable hfits]

theorem toList_line (name value : String) :
    (line name value).toList = entryChars name value.toList := by
  simp only [line, entryChars, String.toList_append, List.append_assoc]
  rfl

theorem toList_text : f.text.toList = documentChars (f.tables hfits hword hy) := by
  have hsearch : "[search]\n".toList = headerChars "search" := by decide
  have hindex : "\n[index]\n".toList = '\n' :: headerChars "index" := by decide
  have hperformance : "\n[performance]\n".toList = '\n' :: headerChars "performance" := by decide
  unfold text
  simp only [String.toList_append, toList_line, hsearch, hindex, hperformance, natText,
    stringText, String.toList_ofList, List.append_assoc]
  simp only [tables, searchTable, indexTable, performanceTable, documentChars, PrintedTable.chars,
    PrintedEntry.chars, List.flatMap_cons, List.flatMap_nil, List.append_assoc, List.cons_append,
    List.append_nil]

theorem natBelow?_natCast {limit n : Nat} (h : n < limit) :
    Node.natBelow? limit (.integer n) = some n := by
  have hcondition : (decide (0 ≤ (n : Int)) && decide ((n : Int).toNat < limit)) = true := by
    simp [h]
  exact if_pos hcondition

/-- A natural number that is written is less than the limit of the fields for sizes. -/
theorem natBelow?_size {n : Nat} (h : n < 2 ^ 63) :
    Node.natBelow? (1 <<< 64) (.integer n) = some n :=
  natBelow?_natCast (Nat.lt_trans h (by decide))

theorem searchSection?_table :
    searchSection? (f.searchTable hfits hy).member.2 = some (f.withThreshold y).search := by
  have hmin := natBelow?_size hfits.minLiteralLength
  have hmax := natBelow?_size hfits.maxPatternComplexity
  unfold searchSection?
  simp [-Nat.reduceShiftLeft, searchTable, PrintedTable.member, PrintedEntry.member, Node.fields?,
    Node.Fields.get?, List.lookup_cons, hmin, hmax, Node.bool?, Node.number?, Node.string?,
    withThreshold]

theorem indexSection?_table :
    indexSection? (f.indexTable hfits hword).member.2 = some f.index := by
  have hsize := natBelow?_size hfits.bloomFilterSizeBytes
  have hcount : Node.natBelow? (1 <<< 32) (.integer f.index.hashFunctions) =
      some f.index.hashFunctions := natBelow?_natCast hword
  unfold indexSection?
  simp [-Nat.reduceShiftLeft, indexTable, PrintedTable.member, PrintedEntry.member, Node.fields?,
    Node.Fields.get?, List.lookup_cons, hsize, hcount]

theorem performanceSection?_table :
    performanceSection? (f.performanceTable hfits).member.2 = some f.performance := by
  have hsize := natBelow?_size hfits.parallelThreshold
  unfold performanceSection?
  simp [-Nat.reduceShiftLeft, performanceTable, PrintedTable.member, PrintedEntry.member,
    Node.fields?, Node.Fields.get?, hsize]

/-- **The settings in a written document.** -/
theorem ofTable?_tables :
    ofTable? ⟨false, false, (f.tables hfits hword hy).map (·.member)⟩ =
      some (f.withThreshold y) := by
  have hsearch := f.searchSection?_table hfits hy
  have hindex := f.indexSection?_table hfits hword
  have hperformance := f.performanceSection?_table hfits
  have hmembers : (f.tables hfits hword hy).map (·.member) =
      [("search", (f.searchTable hfits hy).member.2),
        ("index", (f.indexTable hfits hword).member.2),
        ("performance", (f.performanceTable hfits).member.2)] := rfl
  rw [hmembers]
  unfold ofTable?
  simp [Node.Fields.get?, List.lookup_cons, hsearch, hindex, hperformance, withThreshold]

end

/-- What is read from a written text: the settings, with the threshold that its text is read as. -/
theorem ofTable?_text (hfits : f.Fits) (hword : f.index.hashFunctions < 2 ^ 32) :
    ∃ y, ReadsBack f.search.effectivenessThreshold y ∧
      (Toml.read? f.text).bind ofTable? = some (f.withThreshold y) := by
  obtain ⟨y, hy, hback⟩ := scalar?_floatText f.search.effectivenessThreshold
  have htables := f.ofTable?_tables hfits hword hy
  have hdocument : readChars? (documentChars (f.tables hfits hword hy)) =
      some ⟨false, false, (f.tables hfits hword hy).map (·.member)⟩ :=
    readChars?_document (List.cons_ne_nil _ _)
      (show ["search", "index", "performance"].Nodup by decide)
  refine ⟨y, hback, ?_⟩
  rw [Toml.read?, f.toList_text hfits hword hy, hdocument, Option.bind_some, htables]

/-! ## Reading -/

theorem not_check_of_isNaN (h : f.search.effectivenessThreshold.isNaN) : f.check ≠ .ok () := by
  intro hcheck
  have hfaultless := (f.settings.check_eq_ok_iff).mp hcheck
  exact hfaultless (Or.inl (Or.inl h))

/-- What the check refuses is refused with a reason. -/
theorem check_eq_error (h : f.check ≠ .ok ()) :
    ∃ reason, f.check = .error (.configuration reason) := by
  unfold check SearchSettings.check at h ⊢
  cases hfault : f.settings.fault? with
  | some fault => exact ⟨fault.message, rfl⟩
  | none =>
      rw [hfault] at h
      exact absurd rfl h

theorem read_of_document {g : SettingsFile} {text : String}
    (h : (Toml.read? text).bind ofTable? = some g) :
    (g.check = .ok () → read text = .ok g) ∧
      (g.check ≠ .ok () → ∃ reason, read text = .error (.configuration reason)) := by
  constructor
  · intro hcheck
    simp only [read, h, hcheck]
  · intro hcheck
    obtain ⟨reason, hreason⟩ := check_eq_error hcheck
    exact ⟨reason, by simp only [read, h, hreason]⟩

/-- **Reading what has been written.**  It is accepted if and only if the settings are. -/
theorem read_text (hfits : f.Fits) (hword : f.index.hashFunctions < 2 ^ 32) :
    (f.check = .ok () → read f.text = .ok f) ∧
      (f.check ≠ .ok () → ∃ reason, read f.text = .error (.configuration reason)) := by
  obtain ⟨y, hback, hdocument⟩ := ofTable?_text hfits hword
  rcases hback with rfl | ⟨hnan, hnan'⟩
  · exact read_of_document hdocument
  · have hrefused : (f.withThreshold y).check ≠ .ok () := not_check_of_isNaN hnan'
    exact ⟨fun hcheck => absurd hcheck (not_check_of_isNaN hnan),
      fun _ => (read_of_document hdocument).2 hrefused⟩

/-! ## Files -/

theorem save_of_isWritable {old : FileState} {text : String} (h : f.write = .ok text)
    (hold : old.IsWritable) : f.save old = (.ok (), .text text) := by
  rw [save, h]
  unfold FileState.IsWritable at hold
  split at hold
  · rfl
  · rfl
  · rfl
  · exact absurd hold id
  · exact absurd hold id

theorem write_cases (hword : f.index.hashFunctions < 2 ^ 32) :
    (f.Fits ∧ f.write = .ok f.text) ∨ (¬ f.Fits ∧ f.write = .error unwritable) := by
  by_cases hfits : f.Fits
  · exact Or.inl ⟨hfits, if_pos ((isWritable_iff hword).mpr hfits)⟩
  · exact Or.inr ⟨hfits, if_neg fun h => hfits ((isWritable_iff hword).mp h)⟩

/-- **Saving and loading.**  Settings can be written if and only if their sizes fit a signed word of
64 bits.  When they are written to a file, loading it gives them back exactly if they pass the
check, and a configuration error otherwise.  When they cannot be written, the file stays as it
was. -/
theorem save_load (f : SettingsFile) (hword : f.index.hashFunctions < 2 ^ 32) :
    ((∃ text, f.write = .ok text) ↔
      f.index.bloomFilterSizeBytes < 2 ^ 63 ∧ f.search.minLiteralLength < 2 ^ 63 ∧
        f.search.maxPatternComplexity < 2 ^ 63 ∧ f.performance.parallelThreshold < 2 ^ 63) ∧
    (∀ text, f.write = .ok text → ∀ old : FileState, old.IsWritable →
      f.save old = (.ok (), .text text) ∧
      (f.check = .ok () → load (.text text) = .ok f) ∧
      (f.check ≠ .ok () → ∃ reason, load (.text text) = .error (.configuration reason))) ∧
    (∀ e, f.write = .error e → ∀ old, f.save old = (.error e, old)) := by
  refine ⟨?_, ?_, ?_⟩
  · constructor
    · rintro ⟨text, htext⟩
      rcases write_cases hword with ⟨hfits, _⟩ | ⟨_, hwrite⟩
      · exact ⟨hfits.bloomFilterSizeBytes, hfits.minLiteralLength, hfits.maxPatternComplexity,
          hfits.parallelThreshold⟩
      · rw [htext] at hwrite
        cases hwrite
    · rintro ⟨hsize, hmin, hmax, hparallel⟩
      exact ⟨f.text, if_pos ((isWritable_iff hword).mpr ⟨hmin, hmax, hsize, hparallel⟩)⟩
  · intro text htext old hold
    refine ⟨save_of_isWritable htext hold, ?_⟩
    rcases write_cases hword with ⟨hfits, hwrite⟩ | ⟨_, hwrite⟩
    · obtain rfl := Except.ok.inj (hwrite.symm.trans htext)
      exact read_text hfits hword
    · rw [htext] at hwrite
      cases hwrite
  · intro e he old
    rw [save, he]

/-- A field name with quotes, a backslash, a line break and a control character comes back with a
threshold that no decimal fraction gives exactly.  The same with a NaN is refused, and a size of
`2 ^ 63` is not written. -/
theorem save_load_escaped :
    let f : SettingsFile := {
      search := { effectivenessThreshold := ⟨0x3fb999999999999a⟩, idField := "\"\\\n'''\x07" } }
    let refused : SettingsFile := f.withThreshold Binary64.nan
    let large : SettingsFile := { index := { bloomFilterSizeBytes := 2 ^ 63 } }
    f.index.hashFunctions < 2 ^ 32 ∧
      (∃ text, f.save (.missing .notFound) = (.ok (), .text text) ∧ load (.text text) = .ok f) ∧
      (∃ text reason, refused.save (.text "old") = (.ok (), .text text) ∧
        load (.text text) = .error (.configuration reason)) ∧
      ∃ e, large.save (.text "old") = (.error e, .text "old") := by
  intro f refused large
  have hword : f.index.hashFunctions < 2 ^ 32 := by decide
  refine ⟨hword, ?_, ?_, ?_⟩
  · obtain ⟨hwrite, hsaved, _⟩ := save_load f hword
    obtain ⟨text, htext⟩ := hwrite.mpr (by decide)
    obtain ⟨hsave, hload, _⟩ := hsaved text htext (.missing .notFound) trivial
    exact ⟨text, hsave, hload (by decide +kernel)⟩
  · obtain ⟨hwrite, hsaved, _⟩ := save_load refused hword
    obtain ⟨text, htext⟩ := hwrite.mpr (by decide)
    obtain ⟨hsave, _, hload⟩ := hsaved text htext (.text "old") trivial
    obtain ⟨reason, hreason⟩ := hload (not_check_of_isNaN (by decide))
    exact ⟨text, reason, hsave, hreason⟩
  · obtain ⟨_, _, hfailed⟩ := save_load large (by decide)
    exact ⟨unwritable, hfailed unwritable (by decide +kernel) (.text "old")⟩

end SettingsFile
end TrigramSearch
