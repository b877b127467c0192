import TrigramSearch.CommandLine.Documents
import TrigramSearch.Proofs.Json.Texts

/-!
# Lines of a file

A text is written in lines: one after another, each up to a line feed or up to a
carriage return and a line feed, and a last one that nothing ends (`HasLines`).  The
lines that are read are these lines, but for a carriage return at the end of one, which
is taken for a part of its line break; for JSON it makes no difference.

## Main results

* `exists_hasLines`: every text is written in lines.
* `readLines_of_hasLines`: the lines that are not blank are read one after another.
* `readLines_broken`: **the first line that cannot be read is named, with its number
  among all lines.**
-/

namespace TrigramSearch.CommandLine

/-- A text with what stands on its lines; a line ends at a line feed, or at a carriage return
and a line feed. -/
inductive HasLines : List Char → List (List Char) → Prop where
  | last {line : List Char} : '\n' ∉ line → HasLines line [line]
  | feed {line text : List Char} {lines : List (List Char)} : '\n' ∉ line →
      HasLines text lines → HasLines (line ++ '\n' :: text) (line :: lines)
  | returnFeed {line text : List Char} {lines : List (List Char)} : '\n' ∉ line →
      HasLines text lines → HasLines (line ++ '\r' :: '\n' :: text) (line :: lines)

/-- Every text is written in lines. -/
theorem exists_hasLines (text : List Char) : ∃ lines, HasLines text lines := by
  induction text with
  | nil => exact ⟨[[]], .last (List.not_mem_nil)⟩
  | cons c text ih =>
      obtain ⟨lines, h⟩ := ih
      by_cases hc : c = '\n'
      · subst hc
        exact ⟨[] :: lines, .feed List.not_mem_nil h⟩
      · have hcons : ∀ {line : List Char}, '\n' ∉ line → '\n' ∉ c :: line := by
          intro line hline hmem
          rcases List.mem_cons.mp hmem with heq | hmem
          · exact hc heq.symm
          · exact hline hmem
        cases h with
        | last hline => exact ⟨_, .last (hcons hline)⟩
        | feed hline hrest => exact ⟨_, .feed (hcons hline) hrest⟩
        | returnFeed hline hrest => exact ⟨_, .returnFeed (hcons hline) hrest⟩

/-! ## The lines that are found -/

theorem linesOf_cons {c : Char} {rest : List Char} (hc : c ≠ '\n')
    (hreturn : c = '\r' → rest.head? ≠ some '\n') :
    linesOf (c :: rest) = match linesOf rest with
      | [] => [[c]]
      | line :: lines => (c :: line) :: lines := by
  have hbreak : ∀ rest', c = '\r' → rest = '\n' :: rest' → False := by
    rintro rest' rfl rfl
    exact hreturn rfl rfl
  exact (linesOf.eq_3 c rest hbreak).trans (if_neg hc)

/-- What stands before a line that is found, and has no line break of its own, belongs to it. -/
theorem linesOf_append {start rest : List Char} {found : List Char} {lines : List (List Char)}
    (h : linesOf rest = found :: lines) (hstart : '\n' ∉ start)
    (hlast : start.getLast? = some '\r' → rest.head? ≠ some '\n') :
    linesOf (start ++ rest) = (start ++ found) :: lines := by
  induction start with
  | nil => exact h
  | cons c start ih =>
      rw [List.mem_cons, not_or] at hstart
      have hc : c ≠ '\n' := fun heq => hstart.1 heq.symm
      cases start with
      | nil =>
          rw [List.singleton_append, linesOf_cons hc fun heq => hlast (heq ▸ rfl), h]
          rfl
      | cons d start =>
          have hd : (d :: start ++ rest).head? ≠ some '\n' := by
            rintro heq
            exact hstart.2 (Option.some.inj heq ▸ List.mem_cons_self)
          rw [List.cons_append, linesOf_cons hc fun _ => hd, ih hstart.2 hlast]
          rfl

theorem linesOf_feed {line : List Char} (h : '\n' ∉ line) (hlast : line.getLast? ≠ some '\r')
    (text : List Char) : linesOf (line ++ '\n' :: text) = line :: linesOf text := by
  have hfound : linesOf ('\n' :: text) = [] :: linesOf text := rfl
  rw [linesOf_append hfound h fun heq => absurd heq hlast, List.append_nil]

theorem linesOf_returnFeed {line : List Char} (h : '\n' ∉ line) (text : List Char) :
    linesOf (line ++ '\r' :: '\n' :: text) = line :: linesOf text := by
  have hfound : linesOf ('\r' :: '\n' :: text) = [] :: linesOf text := rfl
  rw [linesOf_append hfound h fun _ heq => absurd (Option.some.inj heq) (by decide),
    List.append_nil]

theorem linesOf_last {line : List Char} (h : '\n' ∉ line) (hne : line ≠ []) :
    linesOf line = [line] := by
  have hlast : line.getLast hne ≠ '\n' := fun heq => h (heq ▸ List.getLast_mem hne)
  have hfound : linesOf [line.getLast hne] = [[line.getLast hne]] :=
    linesOf_cons hlast fun _ heq => nomatch heq
  have hstart : '\n' ∉ line.dropLast := fun hmem => h (List.dropLast_subset line hmem)
  have hwhole := linesOf_append hfound hstart fun _ heq => hlast (Option.some.inj heq)
  rwa [List.dropLast_concat_getLast] at hwhole

/-! ## Reading them -/

/-- The line is as blank as the other one, and is read as the same document if it is read. -/
structure ReadsLike (line line' : List Char) : Prop where
  blank : isBlank line = isBlank line'
  reads : ∀ v, Json.readChars line = .ok v ↔ Json.readChars line' = .ok v

theorem ReadsLike.refl (line : List Char) : ReadsLike line line := ⟨rfl, fun _ => Iff.rfl⟩

theorem readsLike_concat (line : List Char) : ReadsLike line (line ++ ['\r']) where
  blank := by
    rw [isBlank, isBlank, List.all_append]
    exact (Bool.and_true _).symm
  reads _ := (Json.readChars_concat rfl).symm

/-- A line feed after a line leaves a line that reads like it. -/
theorem exists_linesOf_feed {line : List Char} (h : '\n' ∉ line) (text : List Char) :
    ∃ line', ReadsLike line' line ∧ linesOf (line ++ '\n' :: text) = line' :: linesOf text := by
  by_cases hlast : line.getLast? = some '\r'
  · obtain ⟨start, rfl⟩ := List.getLast?_eq_some_iff.mp hlast
    refine ⟨start, readsLike_concat start, ?_⟩
    rw [List.append_assoc, List.singleton_append]
    exact linesOf_returnFeed (fun hmem => h (List.mem_append_left _ hmem)) text
  · exact ⟨line, .refl line, linesOf_feed h hlast text⟩

/-- The documents of lines, the first of which has the number `n`, counted from 0. -/
def readFrom (n : Nat) (lines : List (List Char)) : Except Failure (List Json.Value) :=
  ((lines.zipIdx n).filter fun l => !isBlank l.1).mapM fun l =>
    match Json.readChars l.1 with
    | .ok v => .ok v
    | .error e => .error ⟨"line " ++ toString (l.2 + 1), [e.message]⟩

theorem readFrom_zero (text : List Char) : readFrom 0 (linesOf text) = readLines text := rfl

variable {n : Nat} {line : List Char} {lines : List (List Char)}

theorem readFrom_blank (h : isBlank line) :
    readFrom n (line :: lines) = readFrom (n + 1) lines := by
  simp only [readFrom, List.zipIdx_cons, List.filter_cons, h, Bool.not_true, Bool.false_eq_true,
    if_false]

theorem readFrom_value (h : isBlank line = false) {v : Json.Value}
    (hv : Json.readChars line = .ok v) :
    readFrom n (line :: lines) = (readFrom (n + 1) lines).map (v :: ·) := by
  simp only [readFrom, List.zipIdx_cons, List.filter_cons, h, Bool.not_false, if_true,
    List.mapM_cons, hv]
  rfl

theorem readFrom_error (h : isBlank line = false) {e : Json.ReadError}
    (he : Json.readChars line = .error e) :
    readFrom n (line :: lines) = .error ⟨"line " ++ toString (n + 1), [e.message]⟩ := by
  simp only [readFrom, List.zipIdx_cons, List.filter_cons, h, Bool.not_false, if_true,
    List.mapM_cons, he]
  rfl

/-- Reading the last line is reading it as the only one, even if it is empty and none. -/
theorem readFrom_last (h : '\n' ∉ line) : readFrom n (linesOf line) = readFrom n [line] := by
  by_cases hne : line = []
  · subst hne
    have hblank : isBlank [] := rfl
    rw [readFrom_blank hblank]
    rfl
  · rw [linesOf_last h hne]

/-! ### Lines that can be read -/

/-- The documents of the lines that are not blank. -/
def Reads (lines : List (List Char)) (values : List Json.Value) : Prop :=
  List.Forall₂ (fun line v => Json.readChars line = .ok v) (lines.filter fun l => !isBlank l) values

theorem readFrom_cons_of_reads {line' : List Char} {rest : List (List Char)}
    (hlike : ReadsLike line' line) {values : List Json.Value} (h : Reads (line :: lines) values)
    (hrest : ∀ values, Reads lines values → readFrom (n + 1) rest = .ok values) :
    readFrom n (line' :: rest) = .ok values := by
  cases hblank : isBlank line with
  | true =>
      rw [Reads, List.filter_cons_of_neg (by simp [hblank])] at h
      rw [readFrom_blank (hlike.blank.trans hblank)]
      exact hrest values h
  | false =>
      rw [Reads, List.filter_cons_of_pos (by simp [hblank])] at h
      cases h with
      | cons hv hvalues =>
          rw [readFrom_value (hlike.blank.trans hblank) ((hlike.reads _).mpr hv), hrest _ hvalues]
          rfl

/-- The lines that are not blank are read one after another. -/
theorem readFrom_of_reads {text : List Char} (h : HasLines text lines) {values : List Json.Value}
    (hreads : Reads lines values) : readFrom n (linesOf text) = .ok values := by
  induction h generalizing n values with
  | last hline =>
      rw [readFrom_last hline]
      refine readFrom_cons_of_reads (.refl _) hreads fun values h => ?_
      cases h
      rfl
  | feed hline _ ih =>
      obtain ⟨line', hlike, hlines⟩ := exists_linesOf_feed hline _
      rw [hlines]
      exact readFrom_cons_of_reads hlike hreads fun _ => ih
  | returnFeed hline _ ih =>
      rw [linesOf_returnFeed hline]
      exact readFrom_cons_of_reads (.refl _) hreads fun _ => ih

/-! ### Lines that cannot be read -/

/-- A line that should hold a document and holds none. -/
def isBroken (line : List Char) : Bool := !isBlank line && !(Json.readChars line).isOk

theorem readFrom_cons_of_broken {line' : List Char} {rest : List (List Char)}
    (hlike : ReadsLike line' line) {k : Nat} (h : (line :: lines).findIdx? isBroken = some k)
    (hrest : ∀ k, lines.findIdx? isBroken = some k → ∃ e : Json.ReadError,
      readFrom (n + 1) rest = .error ⟨"line " ++ toString (n + 1 + k + 1), [e.message]⟩) :
    ∃ e : Json.ReadError,
      readFrom n (line' :: rest) = .error ⟨"line " ++ toString (n + k + 1), [e.message]⟩ := by
  rw [List.findIdx?_cons] at h
  cases hbroken : isBroken line with
  | true =>
      rw [hbroken, if_pos rfl] at h
      obtain rfl := Option.some.inj h
      simp only [isBroken, Bool.and_eq_true, Bool.not_eq_true'] at hbroken
      cases hread : Json.readChars line' with
      | ok v =>
          rw [(hlike.reads v).mp hread] at hbroken
          exact nomatch hbroken.2
      | error e => exact ⟨e, readFrom_error (hlike.blank.trans hbroken.1) hread⟩
  | false =>
      rw [hbroken, if_neg Bool.false_ne_true] at h
      obtain ⟨j, hj, rfl⟩ := Option.map_eq_some_iff.mp h
      obtain ⟨e, he⟩ := hrest j hj
      have hnumber : n + 1 + j + 1 = n + (j + 1) + 1 := by omega
      rw [hnumber] at he
      refine ⟨e, ?_⟩
      cases hblank : isBlank line with
      | true => rw [readFrom_blank (hlike.blank.trans hblank), he]
      | false =>
          cases hread : Json.readChars line with
          | ok v =>
              rw [readFrom_value (hlike.blank.trans hblank) ((hlike.reads v).mpr hread), he]
              rfl
          | error e' =>
              rw [isBroken, hblank, hread] at hbroken
              exact nomatch hbroken

/-- The first line that cannot be read is named, with its number among all lines. -/
theorem readFrom_of_broken {text : List Char} (h : HasLines text lines) {k : Nat}
    (hbroken : lines.findIdx? isBroken = some k) :
    ∃ e : Json.ReadError,
      readFrom n (linesOf text) = .error ⟨"line " ++ toString (n + k + 1), [e.message]⟩ := by
  induction h generalizing n k with
  | last hline =>
      rw [readFrom_last hline]
      exact readFrom_cons_of_broken (.refl _) hbroken fun _ h => nomatch h
  | feed hline _ ih =>
      obtain ⟨line', hlike, hlines⟩ := exists_linesOf_feed hline _
      rw [hlines]
      exact readFrom_cons_of_broken hlike hbroken fun _ => ih
  | returnFeed hline _ ih =>
      rw [linesOf_returnFeed hline]
      exact readFrom_cons_of_broken (.refl _) hbroken fun _ => ih

end TrigramSearch.CommandLine
