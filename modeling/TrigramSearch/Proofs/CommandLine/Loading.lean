import TrigramSearch.Proofs.CommandLine.Lines

/-!
# Files of documents

A file of documents is read line by line, or as one array.  Both ways read the same
documents off the same texts, wherever blank lines stand between the lines and however
the lines end; and a line that cannot be read is told by its number.

## Main results

* `firstSign_of_hasLines`: the first sign of a file is that of its first line that is
  not blank, which decides how the file is read.
* `load_lines`: **texts on lines of their own are loaded as the array of these texts
  is, and the first line that cannot be read is named.**
-/

namespace TrigramSearch.CommandLine

/-! ## The first sign -/

/-- The first character that is not white space. -/
def firstSign (text : List Char) : Option Char := text.find? fun c => !Text.isWhiteSpace c

theorem firstSign_append (s t : List Char) : firstSign (s ++ t) = (firstSign s).or (firstSign t) :=
  List.find?_append

theorem firstSign_eq_none_iff {line : List Char} : firstSign line = none ↔ isBlank line := by
  simp only [firstSign, List.find?_eq_none, Bool.not_eq_true, Bool.not_eq_false', isBlank,
    List.all_eq_true]

theorem firstSign_of_hasLines {text : List Char} {lines : List (List Char)}
    (h : HasLines text lines) :
    firstSign text = (lines.filter fun line => !isBlank line).head?.bind firstSign := by
  have hcons : ∀ (line : List Char) (lines : List (List Char)),
      (firstSign line).or ((lines.filter fun line => !isBlank line).head?.bind firstSign) =
        ((line :: lines).filter fun line => !isBlank line).head?.bind firstSign := by
    intro line lines
    cases hblank : isBlank line with
    | true =>
        rw [List.filter_cons_of_neg (by simp [hblank]), firstSign_eq_none_iff.mpr hblank]
        rfl
    | false =>
        rw [List.filter_cons_of_pos (by simp [hblank])]
        cases hsign : firstSign line with
        | none =>
            rw [firstSign_eq_none_iff.mp hsign] at hblank
            exact nomatch hblank
        | some c => exact hsign.symm
  induction h with
  | @last line _ => rw [← hcons line [], List.filter_nil]; exact (Option.or_none).symm
  | feed _ _ ih => rw [← hcons, ← ih, firstSign_append]; rfl
  | returnFeed _ _ ih => rw [← hcons, ← ih, firstSign_append]; rfl

theorem readDocuments_lines {file : String} (h : firstSign file.toList ≠ some '[') :
    readDocuments file = readLines file.toList := by
  rw [firstSign, List.find?_not_eq_head?_dropWhile] at h
  unfold readDocuments
  split
  · rename_i heq
    rw [heq] at h
    exact absurd rfl h
  · rfl

theorem readDocuments_array {text : List Char} {documents : List Json.Value}
    (h : Json.readChars ('[' :: text) = .ok (.array documents)) :
    readDocuments (String.ofList ('[' :: text)) = .ok documents := by
  have hhead : ('[' :: text).dropWhile Text.isWhiteSpace = '[' :: text := rfl
  simp only [readDocuments, Collection.readDocuments, Json.read, String.toList_ofList, hhead, h]

/-! ## Loading -/

theorem exists_forall₂ {α β : Type} {R : α → β → Prop} {l : List α} (h : ∀ a ∈ l, ∃ b, R a b) :
    ∃ l', List.Forall₂ R l l' := by
  induction l with
  | nil => exact ⟨[], .nil⟩
  | cons a l ih =>
      obtain ⟨b, hb⟩ := h a List.mem_cons_self
      obtain ⟨l', hl'⟩ := ih fun x hx => h x (List.mem_cons_of_mem _ hx)
      exact ⟨b :: l', .cons hb hl'⟩

/-- **Both forms of a file hold the same documents.**  Texts on lines of their own, with blank
lines anywhere between them, are loaded as the array of the texts is; the array has one level
more, so each text must be readable with one level less than there may be.  In a file that is
no array, a line that is not blank and cannot be read ends the loading, and the first such line
is named by its number among all lines. -/
theorem load_lines {path file : String} {lines texts : List (List Char)}
    (h : HasLines file.toList lines) (htexts : lines.filter (fun line => !isBlank line) = texts) :
    ((∀ text ∈ texts, ∃ v, Json.readWithin (Json.depthLimit - 1) text = .ok v) →
      (∀ text ∈ texts.head?, firstSign text ≠ some '[') →
      ∃ documents, List.Forall₂ (fun text d => Json.readChars text = .ok d) texts documents ∧
        loadDocuments path (.text file) = .ok documents ∧
        loadDocuments path (.text (String.ofList ('[' :: ([','].intercalate texts ++ [']'])))) =
          .ok documents) ∧
    (firstSign file.toList ≠ some '[' → ∀ k, lines.findIdx? isBroken = some k →
      ∃ e : Json.ReadError, loadDocuments path (.text file) =
        .error ⟨"Failed to parse " ++ path, ["line " ++ toString (k + 1), e.message]⟩) := by
  subst htexts
  constructor
  · intro hvalid hfirst
    obtain ⟨documents, hwithin⟩ := exists_forall₂ hvalid
    have hreads : Reads lines documents :=
      hwithin.imp fun _ _ hd => Json.readWithin_mono (Nat.le_succ _) hd
    have hsign : firstSign file.toList ≠ some '[' := by
      rw [firstSign_of_hasLines h]
      intro heq
      obtain ⟨text, htext, hbracket⟩ := Option.bind_eq_some_iff.mp heq
      exact hfirst text htext hbracket
    have hlines : readLines file.toList = .ok documents := readFrom_of_reads h hreads
    have harray := readDocuments_array (Json.readChars_array hwithin)
    refine ⟨documents, hreads, ?_, ?_⟩
    · simp only [loadDocuments, FileState.read, readDocuments_lines hsign, hlines]
    · simp only [loadDocuments, FileState.read, harray]
  · intro hsign k hk
    obtain ⟨e, he⟩ := readFrom_of_broken (n := 0) h hk
    rw [readFrom_zero, Nat.zero_add] at he
    refine ⟨e, ?_⟩
    simp only [loadDocuments, FileState.read, readDocuments_lines hsign, he]

/-- Two documents on lines that end differently, with a blank line between them; and a line
that cannot be read, after a blank one. -/
theorem load_lines_of_three :
    (∃ documents, List.Forall₂ (fun text d => Json.readChars text = .ok d)
        [['\x7b', '\x7d'], ['[', '2', ']']] documents ∧
      loadDocuments "d" (.text "\x7b\x7d\r\n\t\n[2]") = .ok documents ∧
      loadDocuments "d" (.text "[\x7b\x7d,[2]]") = .ok documents) ∧
    ∃ e : Json.ReadError, loadDocuments "d" (.text "1\n\n\x7b\n2") =
      .error ⟨"Failed to parse d", ["line 3", e.message]⟩ := by
  have hread : HasLines "\x7b\x7d\r\n\t\n[2]".toList [['\x7b', '\x7d'], ['\t'], ['[', '2', ']']] :=
    @HasLines.returnFeed ['\x7b', '\x7d'] _ _ (by decide)
      (@HasLines.feed ['\t'] _ _ (by decide) (.last (by decide)))
  have hbroken : HasLines "1\n\n\x7b\n2".toList [['1'], [], ['\x7b'], ['2']] :=
    @HasLines.feed ['1'] _ _ (by decide) (@HasLines.feed [] _ _ (by decide)
      (@HasLines.feed ['\x7b'] _ _ (by decide) (.last (by decide))))
  have htexts : [['\x7b', '\x7d'], ['\t'], ['[', '2', ']']].filter (fun line => !isBlank line) =
      [['\x7b', '\x7d'], ['[', '2', ']']] := rfl
  constructor
  · refine (load_lines hread htexts).1 ?_ ?_
    · rw [List.forall_mem_cons, List.forall_mem_singleton]
      exact ⟨⟨.object [], rfl⟩, ⟨.array [.number (.integer 2)], rfl⟩⟩
    · rintro text ⟨⟩
      decide
  · exact (load_lines hbroken rfl).2 (by decide) 2 (by decide)

end TrigramSearch.CommandLine
