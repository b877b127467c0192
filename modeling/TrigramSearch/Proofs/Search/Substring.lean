import TrigramSearch.Proofs.Pattern.Quoting
import TrigramSearch.Proofs.Search.Soundness

/-!
# Searching for a text

A search for a quoted text finds the documents that contain the text.  Nothing
that happens on the way shows: the text may be too short or too complex to be
filtered for, its filters may be shared or full of coincidences, the index may
come from the cache, and there may be too many candidates.  All that a search
with filters needs is that the literals of the pattern stand in every text that
it matches, and the only literal of a quoted text is the text.

## Main results

* `Literals.admitsMatches_quote` — filters lose nothing.
* `Engine.answer_positions` — so an answer has the positions of a full scan.
* `SearchSession.search_quote` — after any run, a search for a quoted text gives
  the positions of the documents that contain it, in increasing order.
-/

namespace TrigramSearch

/-! ## Options by letters -/

namespace MatchOptions

/-- An option that is turned on by one letter, and by no other. -/
private theorem foldl_enable {option : MatchOptions → Bool} {letter : Char}
    (h : ∀ o c, option (enable o c) = (option o || c == letter)) (letters : List Char) :
    ∀ o, option (letters.foldl enable o) = (option o || letters.contains letter) := by
  induction letters with
  | nil => simp
  | cons c rest ih =>
      intro o
      rw [List.foldl_cons, ih, h, List.contains_cons, Bool.or_assoc, Bool.beq_comm (a := c)]

theorem ofChars_caseInsensitive (letters : List Char) :
    (ofChars letters).caseInsensitive = letters.contains 'i' := by
  have hletter : ∀ o c, (enable o c).caseInsensitive = (o.caseInsensitive || c == 'i') := by
    intro o c
    rw [enable]
    grind
  rw [ofChars, foldl_enable hletter, Bool.false_or]

theorem ofChars_extended (letters : List Char) :
    (ofChars letters).extended = letters.contains 'x' := by
  have hletter : ∀ o c, (enable o c).extended = (o.extended || c == 'x') := by
    intro o c
    rw [enable]
    grind
  rw [ofChars, foldl_enable hletter, Bool.false_or]

end MatchOptions

/-! ## Filters and quoted text -/

/-- Every trigram that a quoted text is looked for with is a window of the text, and so of each
text that contains it. -/
theorem Literals.admitsMatches_quote {s : List Char} {options : MatchOptions}
    (hcase : options.caseInsensitive = false) (hextended : options.extended = false)
    (settings : SearchSettings) : AdmitsMatches settings (quote s) options := by
  intro e text hcompile hmatch g hg
  have hinfix := (isMatch_quote_iff hcase hextended hcompile text).mp hmatch
  have hliterals : ∀ l ∈ (Eligibility.assess (quote s) options settings).usable,
      l <:+: text := by
    intro l hl
    have hmem : l ∈ (Literals.ofPattern (quote s) options).literals := (List.mem_filter.mp hl).1
    rw [literals_quote s hcase hextended] at hmem
    split at hmem
    · cases hmem
    · rw [List.mem_singleton.mp hmem]
      exact hinfix
  exact DocumentFilter.contains_ofText _ _ (ofTexts_subset_windows hliterals hg)

/-- Where filters lose nothing, an answer has the positions of a full scan. -/
theorem Engine.answer_positions {settings : SearchSettings} {c : Collection} {field : String}
    {pattern options : List Char} {v : Verifier}
    (hv : Verifier.compile pattern (MatchOptions.ofChars options) field = .ok v)
    (h : AdmitsMatches settings pattern (MatchOptions.ofChars options)) :
    (answer settings c field pattern options).positions = v.verifyAll c := by
  have hscan := (answer_sameFindings_iff hv).mp (answer_sameFindings (c := c) fun _ => h)
  rw [answer, hv]
  exact hscan

namespace SearchSession

/-- **Substring search.**  After any run, a search for a quoted text, where case matters and the
syntax is the plain one, gives the positions of the documents whose text at the field contains it,
in increasing order. -/
theorem search_quote (settings : SearchSettings) (actions : List Action) {name : String}
    {c : Collection} (hc : (run settings actions).store.get? name = some c) (timing : Timing)
    (field : String) (s : List Char) {options : List Char} (hcase : 'i' ∉ options)
    (hextended : 'x' ∉ options) (overrides : Option Overrides)
    (hcompile : (Regex.compile (quote s) (MatchOptions.ofChars options)).isOk = true) :
    let found := ((run settings actions).search timing c field (quote s) options
      overrides).1.positions
    found.Pairwise (· < ·) ∧
      ∀ position, position ∈ found ↔ ∃ document text, c.get? position = some document ∧
        Document.text? document field = some text ∧ s <:+: text.toList := by
  intro found
  have hsensitive : (MatchOptions.ofChars options).caseInsensitive = false := by
    rw [MatchOptions.ofChars_caseInsensitive]
    simpa using hcase
  have hplain : (MatchOptions.ofChars options).extended = false := by
    rw [MatchOptions.ofChars_extended]
    simpa using hextended
  cases he : Regex.compile (quote s) (MatchOptions.ofChars options) with
  | error fault =>
      rw [he] at hcompile
      cases hcompile
  | ok e =>
      have hv : Verifier.compile (quote s) (MatchOptions.ofChars options) field =
          .ok ⟨e, field⟩ := by
        rw [Verifier.compile, he]
      have hanswer := Engine.search_answer (run_sound settings actions).cache
        (Store.has_of_get? hc) (run settings actions).store.isLive timing field (quote s) options
        overrides
      have hadmits := Literals.admitsMatches_quote (s := s) hsensitive hplain
      have hfound : found = (⟨e, field⟩ : Verifier).verifyAll c := by
        rw [← Engine.answer_positions hv (hadmits _), ← hanswer]
        rfl
      rw [hfound]
      refine ⟨c.positions_increasing _, ?_⟩
      intro position
      simp only [Verifier.mem_verifyAll, Verifier.isMatch_iff,
        Literals.isMatch_quote_iff hsensitive hplain he]
      constructor
      · rintro ⟨document, hd, text, ht, hinfix⟩
        exact ⟨document, text, hd, ht, hinfix⟩
      · rintro ⟨document, text, hd, ht, hinfix⟩
        exact ⟨document, hd, text, ht, hinfix⟩

/-- A text with metacharacters, in documents of which two share their identity, after an override
that left smaller filters behind. -/
theorem search_quote_shared :
    let first := Json.Value.object [("_id", .string "a"), ("text", .string "f(a+b) = c")]
    let second := Json.Value.object [("_id", .string "a"), ("text", .string "faab = c")]
    let third := Json.Value.object [("text", .string "f(a+b)")]
    let actions : List Action :=
      [.collection (.create "c" [first, second]),
        .search Timing.none "c" "text" ['a', 'b', 'c'] [] (some { filterSizeBytes := some 8 }),
        .collection (.push "c" third)]
    let c : Collection := ⟨⟨1⟩, 1, [first, second, third]⟩
    let s := "(a+b)".toList
    let found := ((run {} actions).search Timing.none c "text" (quote s) ['m'] none).1.positions
    (run {} actions).store.get? "c" = some c ∧ 'i' ∉ ['m'] ∧ 'x' ∉ ['m'] ∧
      (Regex.compile (quote s) (MatchOptions.ofChars ['m'])).isOk = true ∧
      found.Pairwise (· < ·) ∧
      ∀ position, position ∈ found ↔ ∃ document text, c.get? position = some document ∧
        Document.text? document "text" = some text ∧ s <:+: text.toList := by
  intro first second third actions c s found
  have hc : (run {} actions).store.get? "c" = some c := rfl
  have hcase : 'i' ∉ ['m'] := by decide
  have hextended : 'x' ∉ ['m'] := by decide
  have hcompile : (Regex.compile (quote s) (MatchOptions.ofChars ['m'])).isOk = true := by
    decide +kernel
  exact ⟨hc, hcase, hextended, hcompile,
    search_quote {} actions hc Timing.none "text" s hcase hextended none hcompile⟩

end SearchSession
end TrigramSearch
