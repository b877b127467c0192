import TrigramSearch.Proofs.Toml.Scalars
import TrigramSearch.Proofs.Toml.Strings

/-!
# Documents read back

A printed document is a sequence of sections: a header, and below it entries,
each with a bare key and a value on a line of its own.  The reader takes one
line after the other.  What a line does to its state is said without counting
the steps (`ReadsTo`), so that lines can be put together: the entries of a
section fill the table that its header has opened, and the table is put into the
document when the next header or the end comes.

## Main results

* `readsValue_token`, `readsValue_string` — values on a line.
* `readsTo_entry`, `readsTo_header`, `readsTo_blank` — lines.
* `readsTo_section` — a section.
* `readChars?_document` — the tables of a document.
-/

namespace TrigramSearch.Toml

/-! ## Values -/

/-- A text that is read as a value, up to the end of its line. -/
structure ReadsValue (text : List Char) (n : Node) : Prop where
  first : ∃ c cs, text = c :: cs ∧ isBlank c = false
  reads : ∀ fuel depth rest, value (fuel + 1) depth (text ++ '\n' :: rest) = some (n, '\n' :: rest)

/-- The characters of a token are neither blanks nor marks of other values. -/
theorem tokenChar_facts {c : Char} (h : isTokenChar c) :
    c ≠ '"' ∧ c ≠ '\'' ∧ c ≠ '[' ∧ c ≠ '\x7b' ∧ isBlank c = false := by
  have hne : ∀ d, isTokenChar d = false → c ≠ d := fun d => ne_of_test h
  refine ⟨hne _ rfl, hne _ rfl, hne _ rfl, hne _ rfl, ?_⟩
  simp only [isBlank, Bool.or_eq_false_iff, decide_eq_false_iff_not]
  exact ⟨hne _ rfl, hne _ rfl⟩

theorem readsValue_token {token : List Char} {n : Node} (hne : token ≠ [])
    (h : ∀ c ∈ token, isTokenChar c) (hn : scalar? token = some n) : ReadsValue token n := by
  obtain ⟨c, cs, rfl⟩ : ∃ c cs, token = c :: cs := List.exists_cons_of_ne_nil hne
  obtain ⟨hdouble, hsingle, hbracket, hbrace, hblank⟩ := tokenChar_facts (h c List.mem_cons_self)
  refine ⟨⟨c, cs, rfl, hblank⟩, ?_⟩
  intro fuel depth rest
  have hsplit := splitToken_append rest h
  have hquote : ¬ (decide (c = '"') || decide (c = '\'')) := by
    simp [hdouble, hsingle]
  rw [List.cons_append] at hsplit ⊢
  rw [value]
  simp only [if_neg hquote, if_neg hbracket, if_neg hbrace, hsplit, hn, Option.map_some]

theorem readsValue_string (s : List Char) :
    ReadsValue (stringChars s) (.string (String.ofList s)) := by
  obtain ⟨c, cs, htext, hc⟩ := stringChars_first s
  refine ⟨⟨c, cs, htext, ?_⟩, ?_⟩
  · rcases hc with rfl | rfl <;> rfl
  · intro fuel depth rest
    have hread := string_stringChars s rest
    have hquote : (decide (c = '"') || decide (c = '\'')) = true := by
      simp only [Bool.or_eq_true, decide_eq_true_eq]
      exact hc
    rw [htext, List.cons_append] at hread ⊢
    rw [value]
    simp only [if_pos hquote, hread, Option.map_some]

theorem readsValue_booleanText (b : Bool) : ReadsValue (booleanText b).toList (.boolean b) := by
  have hne : ∀ b, (booleanText b).toList ≠ [] := by decide
  exact readsValue_token (hne b) (fun _ => isTokenChar_of_mem_booleanText) (scalar?_booleanText b)

theorem readsValue_digitsOf {n : Nat} (h : n < 1 <<< 63) :
    ReadsValue (Decimal.digitsOf n) (.integer n) :=
  readsValue_token Nat.toDigits_ne_nil (fun _ => isTokenChar_of_mem_digitsOf) (scalar?_digitsOf h)

theorem readsValue_floatText {x y : Binary64}
    (h : scalar? (floatText x).toList = some (.float y)) :
    ReadsValue (floatText x).toList (.float y) :=
  readsValue_token (floatText_ne_nil x) (fun _ => isTokenChar_of_mem_floatText) h

/-! ## Keys -/

/-- A name that needs no quotes. -/
def IsBare (name : List Char) : Prop := name ≠ [] ∧ ∀ c ∈ name, isBareChar c

/-- The same as a computation. -/
theorem IsBare.of_all {name : List Char} (h : (!name.isEmpty && name.all isBareChar) = true) :
    IsBare name := by
  obtain ⟨hne, hall⟩ := Bool.and_eq_true_iff.mp h
  refine ⟨?_, List.all_eq_true.mp hall⟩
  rintro rfl
  cases hne

theorem bareChar_facts {c : Char} (h : isBareChar c) :
    c ≠ '"' ∧ c ≠ '\'' ∧ c ≠ '[' ∧ c ≠ '#' ∧ c ≠ '\n' ∧ c ≠ '\r' ∧ isBlank c = false := by
  have hne : ∀ d, isBareChar d = false → c ≠ d := fun d => ne_of_test h
  refine ⟨hne _ rfl, hne _ rfl, hne _ rfl, hne _ rfl, hne _ rfl, hne _ rfl, ?_⟩
  simp only [isBlank, Bool.or_eq_false_iff, decide_eq_false_iff_not]
  exact ⟨hne _ rfl, hne _ rfl⟩

theorem skipBlanks_cons {c : Char} (h : isBlank c = false) (s : List Char) :
    skipBlanks (c :: s) = c :: s :=
  List.dropWhile_cons_of_neg (by rw [h]; exact Bool.false_ne_true)

/-- A bare key ends before the first other character. Blanks may follow. -/
theorem key_bare {name tail rest : List Char} {c : Char} (hname : IsBare name)
    (htail : tail.head?.all (!isBareChar ·)) (hskip : skipBlanks tail = c :: rest) (hc : c ≠ '.') :
    key (name ++ tail) = some (([], String.ofList name), c :: rest) := by
  obtain ⟨hne, hbare⟩ := hname
  have htake : (name ++ tail).takeWhile isBareChar = name := by
    rw [List.takeWhile_append_of_pos hbare]
    cases tail with
    | nil => exact List.append_nil name
    | cons d tail =>
        have hd : ¬ isBareChar d := by simpa using htail
        rw [List.takeWhile_cons_of_neg hd, List.append_nil]
  have hdrop : (name ++ tail).dropWhile isBareChar = tail := by
    rw [List.dropWhile_append_of_pos hbare]
    cases tail with
    | nil => rfl
    | cons d tail =>
        have hd : ¬ isBareChar d := by simpa using htail
        exact List.dropWhile_cons_of_neg hd
  obtain ⟨x, xs, rfl⟩ : ∃ x xs, name = x :: xs := List.exists_cons_of_ne_nil hne
  obtain ⟨hdouble, hsingle, _, _, _, _, hblank⟩ := bareChar_facts (hbare x List.mem_cons_self)
  rw [List.cons_append] at htake hdrop ⊢
  have hpart : keyPart (x :: (xs ++ tail)) = some (String.ofList (x :: xs), tail) := by
    rw [keyPart]
    · rw [htake, hdrop]
      rfl
    · exact fun _ heq => hdouble (List.cons.inj heq).1
    · exact fun _ heq => hsingle (List.cons.inj heq).1
  have hparts : ∀ fuel, keyParts (fuel + 1) [] (x :: (xs ++ tail)) =
      some ([String.ofList (x :: xs)], c :: rest) := by
    intro fuel
    rw [keyParts, skipBlanks_cons hblank, hpart, Option.bind_some]
    simp only [hskip]
    split
    · rename_i heq
      exact absurd (List.cons.inj heq).1 hc
    · rfl
  rw [key, hparts]
  rfl

/-! ## Keys of tables -/

namespace Table

variable {t : Table} {name : String}

theorem get?_eq_none (h : name ∉ t.members.map Prod.fst) : t.get? name = none := by
  rw [get?, List.lookup_eq_none_iff]
  intro m hm
  rw [bne_iff_ne]
  rintro rfl
  exact h (List.mem_map_of_mem hm)

/-- A new key goes to the end. -/
theorem set_eq (h : name ∉ t.members.map Prod.fst) (n : Node) :
    t.set name n = { t with members := t.members ++ [(name, n)] } := by
  have hkept : t.members.filter (fun m => m.1 != name) = t.members := by
    rw [List.filter_eq_self]
    intro m hm
    rw [bne_iff_ne]
    rintro rfl
    exact h (List.mem_map_of_mem hm)
  rw [set, remove, hkept]

end Table

namespace State

variable {st : State} {name : String}

/-- An entry with a new key goes into the table that is being read. -/
theorem addEntry_eq (hdotted : st.current.dotted = false) (hnew : st.current.get? name = none)
    (n : Node) : st.addEntry [] name n = some { st with current := st.current.set name n } := by
  have hadded : st.current.addEntry [] name n = some (st.current.set name n) := by
    show (if st.current.dotted == true then none
      else if (st.current.get? name).isSome then none
      else some (st.current.set name n)) = _
    rw [hdotted, hnew]
    rfl
  rw [addEntry, hadded, Option.map_some]

/-- A header with a new name opens a table. -/
theorem openTable_eq {root : Table} (hfinish : st.finish = some root)
    (hnew : root.get? name = none) :
    st.openTable [] name = some ⟨root, Table.empty, [name], false⟩ := by
  simp only [openTable, hfinish, Option.bind_some, Table.descend, openTable.findTable, hnew,
    List.nil_append]

end State

/-! ## Lines -/

/-- Reading goes on from one state and text to another, whatever fuel there is for the lines. -/
def ReadsTo (st : State) (s : List Char) (st' : State) (s' : List Char) : Prop :=
  ∀ fuel, s.length < fuel → ∃ fuel', s'.length < fuel' ∧ lines fuel st s = lines fuel' st' s'

namespace ReadsTo

variable {st st' st'' : State} {s s' s'' : List Char}

theorem refl (st : State) (s : List Char) : ReadsTo st s st s :=
  fun fuel hfuel => ⟨fuel, hfuel, rfl⟩

theorem trans (h : ReadsTo st s st' s') (h' : ReadsTo st' s' st'' s'') : ReadsTo st s st'' s'' := by
  intro fuel hfuel
  obtain ⟨fuel', hfuel', heq⟩ := h fuel hfuel
  obtain ⟨fuel'', hfuel'', heq'⟩ := h' fuel' hfuel'
  exact ⟨fuel'', hfuel'', heq.trans heq'⟩

/-- One line. -/
theorem line (hlength : s'.length < s.length)
    (h : ∀ fuel, lines (fuel + 1) st s = lines fuel st' s') : ReadsTo st s st' s' := by
  intro fuel hfuel
  obtain ⟨fuel, rfl⟩ : ∃ n, fuel = n + 1 := Nat.exists_eq_add_one_of_ne_zero (by omega)
  exact ⟨fuel, by omega, h fuel⟩

end ReadsTo

/-- The text of an entry. -/
def entryChars (name : String) (text : List Char) : List Char :=
  name.toList ++ ' ' :: '=' :: ' ' :: (text ++ ['\n'])

theorem readsTo_blank (st : State) (s : List Char) : ReadsTo st ('\n' :: s) st s :=
  .line (Nat.lt_succ_self _) fun _ => rfl

/-- A line that begins with a bare key is an entry. -/
private theorem lines_key (fuel : Nat) (st : State) {x : Char} (hx : isBareChar x)
    (xs : List Char) :
    lines (fuel + 1) st (x :: xs) =
      match key (x :: xs) with
      | some ((path, last), '=' :: rest) =>
        match value (2 * rest.length + 2) 0 (skipBlanks rest) with
        | some (n, s) =>
          (st.addEntry path last n).bind fun st => (endOfLine? s).bind fun s => lines fuel st s
        | none => none
      | _ => none := by
  obtain ⟨_, _, hbracket, hcomment, hnewline, hreturn, hblank⟩ := bareChar_facts hx
  have hmark : ¬ (decide (x = '#') || decide (x = '\n') || decide (x = '\r')) := by
    simp [hcomment, hnewline, hreturn]
  rw [lines, skipBlanks_cons hblank]
  split
  · rename_i heq
    cases heq
  · rename_i heq
    exact absurd (List.cons.inj heq).1 hbracket
  · rename_i heq
    exact absurd (List.cons.inj heq).1 hbracket
  · rename_i heq
    obtain ⟨rfl, rfl⟩ := List.cons.inj heq
    exact if_neg hmark

/-- **Entries.**  An entry with a new key is added to the table that is being read. -/
theorem readsTo_entry {name : String} {text : List Char} {n : Node} {st : State}
    (hname : IsBare name.toList) (hvalue : ReadsValue text n) (hdotted : st.current.dotted = false)
    (hnew : st.current.get? name = none) (s : List Char) :
    ReadsTo st (entryChars name text ++ s) { st with current := st.current.set name n } s := by
  have hlength : s.length < (entryChars name text ++ s).length := by
    rw [entryChars, List.length_append, List.length_append, List.length_cons]
    omega
  have hsplit : entryChars name text ++ s =
      name.toList ++ ' ' :: '=' :: ' ' :: (text ++ '\n' :: s) := by
    simp only [entryChars, List.append_assoc, List.cons_append, List.nil_append]
  have hkey : key (name.toList ++ ' ' :: '=' :: ' ' :: (text ++ '\n' :: s)) =
      some (([], name), '=' :: ' ' :: (text ++ '\n' :: s)) := by
    rw [key_bare hname rfl rfl (by decide), String.ofList_toList]
  have hskip : skipBlanks (' ' :: (text ++ '\n' :: s)) = text ++ '\n' :: s := by
    obtain ⟨c, cs, rfl, hc⟩ := hvalue.first
    exact skipBlanks_cons hc _
  obtain ⟨x, xs, hx⟩ : ∃ x xs, name.toList = x :: xs := List.exists_cons_of_ne_nil hname.1
  refine .line hlength fun fuel => ?_
  have hbare : isBareChar x := hname.2 x (hx ▸ List.mem_cons_self)
  rw [hsplit]
  rw [hx, List.cons_append] at hkey ⊢
  rw [lines_key fuel st hbare, hkey]
  simp only [hskip, hvalue.reads, State.addEntry_eq hdotted hnew]
  rfl

/-! ## Sections -/

/-- The text of a header. -/
def headerChars (name : String) : List Char := '[' :: (name.toList ++ [']', '\n'])

/-- **Headers.**  A header with a new name puts the table that has been read into its place, and
opens a table. -/
theorem readsTo_header {name : String} {st : State} {root : Table} (hname : IsBare name.toList)
    (hfinish : st.finish = some root) (hnew : root.get? name = none) (s : List Char) :
    ReadsTo st (headerChars name ++ s) ⟨root, Table.empty, [name], false⟩ s := by
  have hlength : s.length < (headerChars name ++ s).length := by
    rw [headerChars, List.length_append, List.length_cons]
    omega
  have hsplit : headerChars name ++ s = '[' :: (name.toList ++ ']' :: '\n' :: s) := by
    simp only [headerChars, List.append_assoc, List.cons_append, List.nil_append]
  have hkey : key (name.toList ++ ']' :: '\n' :: s) = some (([], name), ']' :: '\n' :: s) := by
    rw [key_bare hname rfl rfl (by decide), String.ofList_toList]
  obtain ⟨x, xs, hx⟩ : ∃ x xs, name.toList = x :: xs := List.exists_cons_of_ne_nil hname.1
  have hbracket : x ≠ '[' := (bareChar_facts (hname.2 x (hx ▸ List.mem_cons_self))).2.2.1
  refine .line hlength fun fuel => ?_
  rw [hsplit, lines, skipBlanks_cons rfl]
  split
  · rename_i heq
    cases heq
  · rename_i heq
    rw [hx] at heq
    exact absurd (List.cons.inj (List.cons.inj heq).2).1 hbracket
  · rename_i heq
    rw [← (List.cons.inj heq).2, hkey]
    show (st.openTable [] name).bind _ = _
    rw [State.openTable_eq hfinish hnew]
    rfl
  · rename_i hnot heq
    exact absurd (List.cons.inj heq).1.symm hnot

/-- An entry as it is printed, and the value that its text is read as. -/
structure PrintedEntry where
  name : String
  text : List Char
  node : Node
  bare : IsBare name.toList
  reads : ReadsValue text node

namespace PrintedEntry

def chars (e : PrintedEntry) : List Char := entryChars e.name e.text

def member (e : PrintedEntry) : String × Node := (e.name, e.node)

end PrintedEntry

/-- A section as it is printed. -/
structure PrintedTable where
  name : String
  entries : List PrintedEntry
  bare : IsBare name.toList
  distinct : (entries.map (·.name)).Nodup

namespace PrintedTable

def chars (t : PrintedTable) : List Char := headerChars t.name ++ t.entries.flatMap (·.chars)

def member (t : PrintedTable) : String × Node :=
  (t.name, .table false false (t.entries.map (·.member)))

end PrintedTable

/-- A document as it is printed, with a blank line between two sections. -/
def documentChars : List PrintedTable → List Char
  | [] => []
  | t :: ts => t.chars ++ ts.flatMap fun t => '\n' :: t.chars

/-- Names that are new stay new when another name is added. -/
private theorem new_append {α : Type} {label : α → String} {xs : List α}
    {members : List (String × Node)} {name : String} (n : Node)
    (hnew : ∀ x ∈ xs, label x ∉ members.map Prod.fst) (hother : name ∉ xs.map label) :
    ∀ x ∈ xs, label x ∉ (members ++ [(name, n)]).map Prod.fst := by
  intro x hx hmem
  rw [List.map_append] at hmem
  rcases List.mem_append.mp hmem with hmem | hmem
  · exact hnew x hx hmem
  · have hsame : label x = name := List.mem_singleton.mp hmem
    exact hother (List.mem_map.mpr ⟨x, hx, hsame⟩)

/-- The entries of a section, from any state: each finds the table that the ones before it left. -/
theorem readsTo_entries (entries : List PrintedEntry) (s : List Char) :
    ∀ st : State, st.current.dotted = false → (entries.map (·.name)).Nodup →
      (∀ e ∈ entries, e.name ∉ st.current.members.map Prod.fst) →
      ReadsTo st (entries.flatMap (·.chars) ++ s)
        { st with current :=
          { st.current with members := st.current.members ++ entries.map (·.member) } } s := by
  induction entries with
  | nil =>
      intro st _ _ _
      rw [List.map_nil, List.append_nil]
      exact .refl st s
  | cons e entries ih =>
      intro st hdotted hdistinct hnew
      have hfresh := hnew e List.mem_cons_self
      obtain ⟨hother, hdistinct⟩ := List.nodup_cons.mp hdistinct
      have hstep := readsTo_entry e.bare e.reads hdotted (Table.get?_eq_none hfresh)
        (entries.flatMap (·.chars) ++ s)
      rw [Table.set_eq hfresh] at hstep
      have hrest := new_append e.node (fun e' he' => hnew e' (List.mem_cons_of_mem e he')) hother
      have hnext := ih { st with current :=
        { st.current with members := st.current.members ++ [e.member] } } hdotted hdistinct hrest
      rw [List.flatMap_cons, List.append_assoc]
      rw [List.append_assoc] at hnext
      exact hstep.trans hnext

/-- **Sections.**  A section with a new name is read into a table of its own. -/
theorem readsTo_section {t : PrintedTable} {st : State} {root : Table}
    (hfinish : st.finish = some root) (hnew : t.name ∉ root.members.map Prod.fst) (s : List Char) :
    ReadsTo st (t.chars ++ s)
      ⟨root, ⟨false, false, t.entries.map (·.member)⟩, [t.name], false⟩ s := by
  have hheader := readsTo_header t.bare hfinish (Table.get?_eq_none hnew)
    (t.entries.flatMap (·.chars) ++ s)
  have hentries := readsTo_entries t.entries s ⟨root, Table.empty, [t.name], false⟩ rfl t.distinct
    (fun _ _ hmem => nomatch hmem)
  rw [PrintedTable.chars, List.append_assoc]
  exact hheader.trans hentries

/-- At the end of a section its table is put into the document. -/
theorem finish_section {t : PrintedTable} {root : Table}
    (hnew : t.name ∉ root.members.map Prod.fst) :
    State.finish ⟨root, ⟨false, false, t.entries.map (·.member)⟩, [t.name], false⟩ =
      some { root with members := root.members ++ [t.member] } := by
  show some (root.set t.name (.table false false (t.entries.map (·.member)))) = _
  rw [Table.set_eq hnew]
  rfl

/-- The sections after the first. -/
theorem readsTo_sections (ts : List PrintedTable) (s : List Char) :
    ∀ {st : State} {root : Table}, st.finish = some root → (ts.map (·.name)).Nodup →
      (∀ t ∈ ts, t.name ∉ root.members.map Prod.fst) →
      ∃ st', ReadsTo st (ts.flatMap (fun t => '\n' :: t.chars) ++ s) st' s ∧
        st'.finish = some { root with members := root.members ++ ts.map (·.member) } := by
  induction ts with
  | nil =>
      intro st root hfinish _ _
      rw [List.map_nil, List.append_nil]
      exact ⟨st, .refl st s, hfinish⟩
  | cons t ts ih =>
      intro st root hfinish hdistinct hnew
      have hfresh := hnew t List.mem_cons_self
      obtain ⟨hother, hdistinct⟩ := List.nodup_cons.mp hdistinct
      have hsection := readsTo_section hfinish hfresh
        (ts.flatMap (fun t => '\n' :: t.chars) ++ s)
      have hlater :=
        new_append t.member.2 (fun t' ht' => hnew t' (List.mem_cons_of_mem t ht')) hother
      obtain ⟨st', hrest, hfinish'⟩ := ih (finish_section hfresh) hdistinct hlater
      rw [List.append_assoc] at hfinish'
      refine ⟨st', ?_, hfinish'⟩
      rw [List.flatMap_cons, List.append_assoc]
      exact (readsTo_blank st _).trans (hsection.trans hrest)

/-- What is read to its end is the document that has been put together. -/
theorem readChars?_of_readsTo {s : List Char} {st : State} (hmark : skipByteOrderMark s = s)
    (h : ReadsTo State.start s st []) : readChars? s = st.finish := by
  obtain ⟨fuel, hfuel, hlines⟩ := h (s.length + 1) (Nat.lt_succ_self _)
  obtain ⟨fuel, rfl⟩ : ∃ n, fuel = n + 1 := Nat.exists_eq_add_one_of_ne_zero (Nat.ne_of_gt hfuel)
  have hend : lines (fuel + 1) st [] = some st := rfl
  rw [readChars?, hmark]
  show (lines (s.length + 1) State.start s).bind State.finish = _
  rw [hlines, hend, Option.bind_some]

/-- **Documents.**  A printed document is read as its sections. -/
theorem readChars?_document {ts : List PrintedTable} (hne : ts ≠ [])
    (hdistinct : (ts.map (·.name)).Nodup) :
    readChars? (documentChars ts) = some ⟨false, false, ts.map (·.member)⟩ := by
  obtain ⟨t, ts, rfl⟩ : ∃ t us, ts = t :: us := List.exists_cons_of_ne_nil hne
  obtain ⟨hother, hdistinct⟩ := List.nodup_cons.mp hdistinct
  have hempty : ∀ name, name ∉ Table.empty.members.map Prod.fst := fun _ => List.not_mem_nil
  have hfresh := hempty t.name
  have hstart : State.start.finish = some Table.empty := rfl
  have hfirst := readsTo_section hstart hfresh (ts.flatMap (fun t => '\n' :: t.chars) ++ [])
  have hlater := new_append t.member.2 (fun t' _ => hempty t'.name) hother
  obtain ⟨st, hrest, hfinish⟩ := readsTo_sections ts [] (finish_section hfresh) hdistinct hlater
  have hread := hfirst.trans hrest
  rw [List.append_nil] at hread
  exact (readChars?_of_readsTo rfl hread).trans hfinish

end TrigramSearch.Toml
