import TrigramSearch.Proofs.Json.Numbers
import TrigramSearch.Proofs.Json.Strings

/-!
# What is read as JSON

The texts that are read as a value are described by their form (`Spells`), with the
number of levels of arrays and objects that they need.  The items of an array and the
members of an object are read with what has been read before them, so each of the three
functions of the reader has a part of its own in the description (`Part`).

## Main results

* `Spells.reads`: **what has the form of a value is read as that value**, before
  everything that does not go on with a number, if steps and levels are enough.
* `readsSpellings`: **what is read has the form of what it is read as**.
-/

namespace TrigramSearch.Json

/-! ## Blanks -/

/-- Nothing but blanks. -/
def Blank (s : List Char) : Prop := ∀ c ∈ s, isSpace c

theorem Blank.nil : Blank [] := fun _ hc => nomatch hc

theorem Blank.append {b b' : List Char} (hb : Blank b) (hb' : Blank b') : Blank (b ++ b') :=
  List.forall_mem_append.mpr ⟨hb, hb'⟩

theorem skipSpace_blank {b s : List Char} (hb : Blank b) (hs : HeadNot isSpace s) :
    skipSpace (b ++ s) = s := dropWhile_append hb hs

theorem skipSpace_cons {b s : List Char} {c : Char} (hb : Blank b) (hc : isSpace c = false) :
    skipSpace (b ++ c :: s) = c :: s := skipSpace_blank hb (headNot_cons_iff.mpr hc)

/-- A text is its blanks and what is left without them. -/
theorem exists_blank (s : List Char) :
    ∃ b, s = b ++ skipSpace s ∧ Blank b ∧ HeadNot isSpace (skipSpace s) :=
  ⟨s.takeWhile isSpace, List.takeWhile_append_dropWhile.symm,
    fun _ hc => List.mem_takeWhile_imp hc, headNot_dropWhile isSpace s⟩

theorem exists_blank_of_cons {s t : List Char} {c : Char} (h : skipSpace s = c :: t) :
    ∃ b, s = b ++ c :: t ∧ Blank b ∧ isSpace c = false := by
  obtain ⟨b, hs, hb, hhead⟩ := exists_blank s
  rw [h] at hs hhead
  exact ⟨b, hs, hb, headNot_cons_iff.mp hhead⟩

/-! ## The form of a value -/

/-- The words that are values. -/
def words : List (List Char × Value) :=
  [("null".toList, .null), ("true".toList, .bool true), ("false".toList, .bool false)]

/-- What is being read: a value, or the rest of an array or of an object, with what has been
read of it. -/
inductive Part where
  | value
  | items (read : List Value)
  | members (read : List (String × Value))

/-- `Spells part levels p v`: `p` stands for `v` and has at most so many levels of arrays and
objects. -/
inductive Spells : Part → Nat → List Char → Value → Prop where
  | word {levels : Nat} {w : List Char} {v : Value} : (w, v) ∈ words → Spells .value levels w v
  | negative {levels : Nat} {p : List Char} {n : Number} : number false p = .ok (n, []) →
      Spells .value levels ('-' :: p) (.number n)
  | number {levels : Nat} {c : Char} {p : List Char} {n : Number} : isDigit c →
      number true (c :: p) = .ok (n, []) → Spells .value levels (c :: p) (.number n)
  | string {levels : Nat} {p : List Char} {text : String} : IsString p text →
      Spells .value levels ('"' :: (p ++ ['"'])) (.string text)
  | noItems {levels : Nat} {b : List Char} : Blank b →
      Spells .value (levels + 1) ('[' :: (b ++ [']'])) (.array [])
  | array {levels : Nat} {b p : List Char} {v : Value} : Blank b →
      Spells (.items []) levels p v → Spells .value (levels + 1) ('[' :: (b ++ p)) v
  | noMembers {levels : Nat} {b : List Char} : Blank b →
      Spells .value (levels + 1) ('\x7b' :: (b ++ ['\x7d'])) (.object [])
  | object {levels : Nat} {b p : List Char} {v : Value} : Blank b →
      Spells (.members []) levels p v → Spells .value (levels + 1) ('\x7b' :: (b ++ p)) v
  | lastItem {levels : Nat} {read : List Value} {p b : List Char} {v : Value} :
      Spells .value levels p v → Blank b →
      Spells (.items read) levels (p ++ (b ++ [']'])) (.array (v :: read).reverse)
  | nextItem {levels : Nat} {read : List Value} {p b b' q : List Char} {v w : Value} :
      Spells .value levels p v → Blank b → Blank b' → Spells (.items (v :: read)) levels q w →
      Spells (.items read) levels (p ++ (b ++ ',' :: (b' ++ q))) w
  | lastMember {levels : Nat} {read : List (String × Value)} {name p b₁ b₂ b₃ : List Char}
      {text : String} {v : Value} : IsString name text → Blank b₁ → Blank b₂ →
      Spells .value levels p v → Blank b₃ →
      Spells (.members read) levels
        ('"' :: (name ++ '"' :: (b₁ ++ ':' :: (b₂ ++ (p ++ (b₃ ++ ['\x7d']))))))
        (.object (Value.insertMember text v read))
  | nextMember {levels : Nat} {read : List (String × Value)} {name p b₁ b₂ b₃ b₄ q : List Char}
      {text : String} {v w : Value} : IsString name text → Blank b₁ → Blank b₂ →
      Spells .value levels p v → Blank b₃ → Blank b₄ →
      Spells (.members (Value.insertMember text v read)) levels q w →
      Spells (.members read) levels
        ('"' :: (name ++ '"' :: (b₁ ++ ':' :: (b₂ ++ (p ++ (b₃ ++ ',' :: (b₄ ++ q))))))) w

/-- No part begins with a blank or with a closing bracket or brace. -/
theorem Spells.head {part : Part} {levels : Nat} {p : List Char} {v : Value}
    (h : Spells part levels p v) :
    ∃ c t, p = c :: t ∧ isSpace c = false ∧ c ≠ ']' ∧ c ≠ '\x7d' := by
  induction h with
  | word h =>
      simp only [words, List.mem_cons, Prod.mk.injEq, List.not_mem_nil, or_false] at h
      rcases h with ⟨rfl, -⟩ | ⟨rfl, -⟩ | ⟨rfl, -⟩ <;> exact ⟨_, _, rfl, by decide⟩
  | @number _ c p _ hc _ =>
      refine ⟨c, p, rfl, not_isSpace_of_isDigit hc, ?_, ?_⟩ <;> (rintro rfl; exact nomatch hc)
  | lastItem _ _ ih | nextItem _ _ _ _ ih _ =>
      obtain ⟨c, t, rfl, hc⟩ := ih
      exact ⟨c, _, rfl, hc⟩
  | _ => exact ⟨_, _, rfl, by decide⟩

theorem Spells.succ {part : Part} {levels : Nat} {p : List Char} {v : Value}
    (h : Spells part levels p v) : Spells part (levels + 1) p v := by
  induction h with
  | word h => exact .word h
  | negative h => exact .negative h
  | number hc h => exact .number hc h
  | string h => exact .string h
  | noItems hb => exact .noItems hb
  | array hb _ ih => exact .array hb ih
  | noMembers hb => exact .noMembers hb
  | object hb _ ih => exact .object hb ih
  | lastItem _ hb ih => exact .lastItem ih hb
  | nextItem _ hb hb' _ ih ihq => exact .nextItem ih hb hb' ihq
  | lastMember hname hb₁ hb₂ _ hb₃ ih => exact .lastMember hname hb₁ hb₂ ih hb₃
  | nextMember hname hb₁ hb₂ _ hb₃ hb₄ _ ih ihq =>
      exact .nextMember hname hb₁ hb₂ ih hb₃ hb₄ ihq

/-- What has the form with some levels has it with more. -/
theorem Spells.mono {part : Part} {levels levels' : Nat} {p : List Char} {v : Value}
    (h : Spells part levels p v) (hlevels : levels ≤ levels') : Spells part levels' p v := by
  induction hlevels with
  | refl => exact h
  | step _ ih => exact ih.succ

theorem Spells.headNot_append {part : Part} {levels : Nat} {p s : List Char} {v : Value}
    (h : Spells part levels p v) : HeadNot isSpace (p ++ s) := by
  obtain ⟨c, t, rfl, hc, -⟩ := h.head
  exact headNot_cons_iff.mpr hc

theorem exists_last {p : List Char} (hne : p ≠ []) (h : ∀ c ∈ p, isSpace c = false) :
    ∃ t c, p = t ++ [c] ∧ isSpace c = false :=
  ⟨p.dropLast, p.getLast hne, (List.dropLast_concat_getLast hne).symm,
    h _ (List.getLast_mem hne)⟩

/-- No part ends with a blank. -/
theorem Spells.last {part : Part} {levels : Nat} {p : List Char} {v : Value}
    (h : Spells part levels p v) : ∃ t c, p = t ++ [c] ∧ isSpace c = false := by
  induction h with
  | word h =>
      simp only [words, List.mem_cons, Prod.mk.injEq, List.not_mem_nil, or_false] at h
      rcases h with ⟨rfl, -⟩ | ⟨rfl, -⟩ | ⟨rfl, -⟩
      · exact ⟨"nul".toList, 'l', rfl, rfl⟩
      · exact ⟨"tru".toList, 'e', rfl, rfl⟩
      · exact ⟨"fals".toList, 'e', rfl, rfl⟩
  | negative hread =>
      refine exists_last (List.cons_ne_nil _ _) (List.forall_mem_cons.mpr ⟨rfl, ?_⟩)
      exact (number_reads hread).solid
  | number _ hread => exact exists_last (List.cons_ne_nil _ _) (number_reads hread).solid
  | @string _ p _ _ => exact ⟨'"' :: p, '"', rfl, rfl⟩
  | @noItems _ b _ => exact ⟨'[' :: b, ']', rfl, rfl⟩
  | @noMembers _ b _ => exact ⟨'\x7b' :: b, '\x7d', rfl, rfl⟩
  | @array _ b _ _ _ _ ih =>
      obtain ⟨t, c, rfl, hc⟩ := ih
      exact ⟨'[' :: (b ++ t), c, by simp only [List.cons_append, List.append_assoc], hc⟩
  | @object _ b _ _ _ _ ih =>
      obtain ⟨t, c, rfl, hc⟩ := ih
      exact ⟨'\x7b' :: (b ++ t), c, by simp only [List.cons_append, List.append_assoc], hc⟩
  | @lastItem _ _ p b _ _ _ _ =>
      exact ⟨p ++ b, ']', (List.append_assoc p b _).symm, rfl⟩
  | @nextItem _ _ p b b' _ _ _ _ _ _ _ _ ihq =>
      obtain ⟨t, c, rfl, hc⟩ := ihq
      exact ⟨p ++ (b ++ ',' :: (b' ++ t)), c,
        by simp only [List.cons_append, List.append_assoc], hc⟩
  | @lastMember _ _ name p b₁ b₂ b₃ _ _ _ _ _ _ _ _ =>
      exact ⟨'"' :: (name ++ '"' :: (b₁ ++ ':' :: (b₂ ++ (p ++ b₃)))), '\x7d',
        by simp only [List.cons_append, List.append_assoc], rfl⟩
  | @nextMember _ _ name p b₁ b₂ b₃ b₄ _ _ _ _ _ _ _ _ _ _ _ _ ihq =>
      obtain ⟨t, c, rfl, hc⟩ := ihq
      exact ⟨'"' :: (name ++ '"' :: (b₁ ++ ':' :: (b₂ ++ (p ++ (b₃ ++ ',' :: (b₄ ++ t)))))), c,
        by simp only [List.cons_append, List.append_assoc], hc⟩

/-! ## What has the form is read -/

/-- How a part is read. -/
def Part.reader : Part → Nat → Nat → List Char → Step Value
  | .value => Json.value
  | .items read => fun fuel depth s => Json.items fuel depth read s
  | .members read => fun fuel depth s => Json.members fuel depth read s

theorem continuesNumber_of_isSpace {c : Char} (h : isSpace c) : continuesNumber c = false := by
  simp only [isSpace, Bool.or_eq_true, decide_eq_true_eq] at h
  rcases h with ((rfl | rfl) | rfl) | rfl <;> rfl

theorem numberEnd_blank {b s : List Char} {c : Char} (hb : Blank b)
    (hc : continuesNumber c = false) : NumberEnd (b ++ c :: s) := by
  cases b with
  | nil => exact headNot_cons_iff.mpr hc
  | cons x b => exact headNot_cons_iff.mpr (continuesNumber_of_isSpace (hb x List.mem_cons_self))

theorem value_skipSpace (fuel depth : Nat) (s : List Char) :
    Json.value fuel depth (skipSpace s) = Json.value fuel depth s := by
  obtain ⟨b, hs, hb, hhead⟩ := exists_blank s
  cases fuel with
  | zero => rfl
  | succ fuel =>
      have hskip : skipSpace (skipSpace s) = skipSpace s := skipSpace_blank .nil hhead
      rw [Json.value, Json.value, hskip]

theorem value_blank {b s : List Char} (hb : Blank b) (hs : HeadNot isSpace s) (fuel depth : Nat) :
    Json.value fuel depth (b ++ s) = Json.value fuel depth s := by
  rw [← value_skipSpace, skipSpace_blank hb hs]

section Steps

variable {fuel depth : Nat} {b b₁ b₂ b₃ b₄ name s t r : List Char} {c : Char} {v : Value}
  {text : String}

theorem value_negative {n : Number} (h : Json.number false s = .ok (n, r)) :
    Json.value (fuel + 1) depth ('-' :: s) = .ok (.number n, r) := by
  have hsign : Json.value (fuel + 1) depth ('-' :: s) = (Json.number false s).map _ := rfl
  rw [hsign, h]
  rfl

theorem value_digit (hc : isDigit c) {n : Number} (h : Json.number true (c :: s) = .ok (n, r)) :
    Json.value (fuel + 1) depth (c :: s) = .ok (.number n, r) := by
  have hne : ∀ x, isDigit x = false → c ≠ x := by
    rintro x hx rfl
    rw [hx] at hc
    exact nomatch hc
  have hskip : skipSpace (c :: s) = c :: s := skipSpace_cons .nil (not_isSpace_of_isDigit hc)
  rw [Json.value, hskip]
  simp only [if_neg (hne 'n' rfl), if_neg (hne 't' rfl), if_neg (hne 'f' rfl),
    if_neg (hne '-' rfl), if_pos hc, h]
  rfl

theorem value_string (h : IsString name text) (hfuel : name.length < fuel) :
    Json.value (fuel + 1) depth ('"' :: (name ++ '"' :: r)) = .ok (.string text, r) := by
  have hquote : Json.value (fuel + 1) depth ('"' :: (name ++ '"' :: r)) =
      (stringBody fuel [] (name ++ '"' :: r)).map _ := rfl
  rw [hquote, h.reads hfuel]
  rfl

theorem value_noItems (hb : Blank b) (hdepth : 1 < depth) :
    Json.value (fuel + 1) depth ('[' :: (b ++ ']' :: r)) = .ok (.array [], r) := by
  show (if depth ≤ 1 then _ else _) = _
  rw [if_neg (Nat.not_le.mpr hdepth), skipSpace_cons hb rfl]
  rfl

theorem value_array (hb : Blank b) (hdepth : 1 < depth) (hc : isSpace c = false) (hne : c ≠ ']') :
    Json.value (fuel + 1) depth ('[' :: (b ++ c :: t)) =
      Json.items fuel (depth - 1) [] (c :: t) := by
  show (if depth ≤ 1 then _ else _) = _
  rw [if_neg (Nat.not_le.mpr hdepth), skipSpace_cons hb hc]
  exact if_neg hne

theorem value_noMembers (hb : Blank b) (hdepth : 1 < depth) :
    Json.value (fuel + 1) depth ('\x7b' :: (b ++ '\x7d' :: r)) = .ok (.object [], r) := by
  show (if depth ≤ 1 then _ else _) = _
  rw [if_neg (Nat.not_le.mpr hdepth), skipSpace_cons hb rfl]
  rfl

theorem value_object (hb : Blank b) (hdepth : 1 < depth) (hc : isSpace c = false)
    (hne : c ≠ '\x7d') :
    Json.value (fuel + 1) depth ('\x7b' :: (b ++ c :: t)) =
      Json.members fuel (depth - 1) [] (c :: t) := by
  show (if depth ≤ 1 then _ else _) = _
  rw [if_neg (Nat.not_le.mpr hdepth), skipSpace_cons hb hc]
  exact if_neg hne

theorem items_last {read : List Value} (hv : Json.value fuel depth s = .ok (v, b ++ ']' :: r))
    (hb : Blank b) :
    Json.items (fuel + 1) depth read s = .ok (.array (v :: read).reverse, r) := by
  have hbracket : skipSpace (b ++ ']' :: r) = ']' :: r := skipSpace_cons hb rfl
  simp only [Json.items, hv, hbracket, if_true]

theorem items_next {read : List Value}
    (hv : Json.value fuel depth s = .ok (v, b₁ ++ ',' :: (b₂ ++ c :: t)))
    (hb₁ : Blank b₁) (hb₂ : Blank b₂) (hc : isSpace c = false) (hne : c ≠ ']') :
    Json.items (fuel + 1) depth read s = Json.items fuel depth (v :: read) (c :: t) := by
  have hcomma : skipSpace (b₁ ++ ',' :: (b₂ ++ c :: t)) = ',' :: (b₂ ++ c :: t) :=
    skipSpace_cons hb₁ rfl
  have hopen : ¬ (',' : Char) = ']' := by decide
  simp only [Json.items, hv, hcomma, if_neg hopen, if_true, skipSpace_cons hb₂ hc, if_neg hne]

theorem members_last {read : List (String × Value)} (hname : IsString name text)
    (hfuel : name.length < fuel) (hb₁ : Blank b₁)
    (hv : Json.value fuel depth s = .ok (v, b₃ ++ '\x7d' :: r)) (hb₃ : Blank b₃) :
    Json.members (fuel + 1) depth read ('"' :: (name ++ '"' :: (b₁ ++ ':' :: s))) =
      .ok (.object (Value.insertMember text v read), r) := by
  have hcolon : skipSpace (b₁ ++ ':' :: s) = ':' :: s := skipSpace_cons hb₁ rfl
  have hbrace : skipSpace (b₃ ++ '\x7d' :: r) = '\x7d' :: r := skipSpace_cons hb₃ rfl
  simp only [Json.members, if_true, hname.reads hfuel, hcolon, hv, hbrace]

theorem members_next {read : List (String × Value)} (hname : IsString name text)
    (hfuel : name.length < fuel) (hb₁ : Blank b₁)
    (hv : Json.value fuel depth s = .ok (v, b₃ ++ ',' :: (b₄ ++ c :: t)))
    (hb₃ : Blank b₃) (hb₄ : Blank b₄) (hc : isSpace c = false) (hne : c ≠ '\x7d') :
    Json.members (fuel + 1) depth read ('"' :: (name ++ '"' :: (b₁ ++ ':' :: s))) =
      Json.members fuel depth (Value.insertMember text v read) (c :: t) := by
  have hcolon : skipSpace (b₁ ++ ':' :: s) = ':' :: s := skipSpace_cons hb₁ rfl
  have hcomma : skipSpace (b₃ ++ ',' :: (b₄ ++ c :: t)) = ',' :: (b₄ ++ c :: t) :=
    skipSpace_cons hb₃ rfl
  have hopen : ¬ (',' : Char) = '\x7d' := by decide
  simp only [Json.members, if_true, hname.reads hfuel, hcolon, hv, hcomma, if_neg hopen,
    skipSpace_cons hb₄ hc, if_neg hne]

end Steps

/-- What has the form of a part is read as it, if there are steps and levels enough. -/
theorem Spells.reads {part : Part} {levels : Nat} {p : List Char} {v : Value}
    (h : Spells part levels p v) {fuel depth : Nat} (hfuel : p.length ≤ fuel)
    (hdepth : levels < depth) {r : List Char} (hr : NumberEnd r) :
    part.reader fuel depth (p ++ r) = .ok (v, r) := by
  induction h generalizing fuel depth r with
  | word h =>
      simp only [words, List.mem_cons, Prod.mk.injEq, List.not_mem_nil, or_false] at h
      cases fuel with
      | zero => rcases h with ⟨rfl, rfl⟩ | ⟨rfl, rfl⟩ | ⟨rfl, rfl⟩ <;> exact nomatch hfuel
      | succ fuel => rcases h with ⟨rfl, rfl⟩ | ⟨rfl, rfl⟩ | ⟨rfl, rfl⟩ <;> rfl
  | @negative _ p n hread =>
      cases fuel with
      | zero => exact nomatch hfuel
      | succ fuel =>
          show Json.value (fuel + 1) depth ('-' :: (p ++ r)) = .ok (.number n, r)
          exact value_negative ((number_reads hread).reads r hr)
  | @number _ c p n hc hread =>
      cases fuel with
      | zero => exact nomatch hfuel
      | succ fuel =>
          exact value_digit hc ((number_reads hread).reads r hr)
  | @string _ p text hstring =>
      cases fuel with
      | zero => exact nomatch hfuel
      | succ fuel =>
          rw [List.length_cons, List.length_append] at hfuel
          show Json.value (fuel + 1) depth ('"' :: (p ++ ['"'] ++ r)) = .ok (.string text, r)
          rw [List.append_assoc]
          exact value_string hstring (Nat.lt_of_succ_le (Nat.le_of_succ_le_succ hfuel))
  | @noItems levels b hb =>
      cases fuel with
      | zero => exact nomatch hfuel
      | succ fuel =>
          rw [List.cons_append, List.append_assoc]
          exact value_noItems hb (by omega)
  | @array levels b p v hb hp ih =>
      obtain ⟨c, t, rfl, hc, hbracket, -⟩ := hp.head
      cases fuel with
      | zero => exact nomatch hfuel
      | succ fuel =>
          rw [List.length_cons, List.length_append] at hfuel
          rw [List.cons_append, List.append_assoc]
          exact (value_array hb (by omega) hc hbracket).trans (ih (by omega) (by omega) hr)
  | @noMembers levels b hb =>
      cases fuel with
      | zero => exact nomatch hfuel
      | succ fuel =>
          rw [List.cons_append, List.append_assoc]
          exact value_noMembers hb (by omega)
  | @object levels b p v hb hp ih =>
      obtain ⟨c, t, rfl, hc, -, hbrace⟩ := hp.head
      cases fuel with
      | zero => exact nomatch hfuel
      | succ fuel =>
          rw [List.length_cons, List.length_append] at hfuel
          rw [List.cons_append, List.append_assoc]
          exact (value_object hb (by omega) hc hbrace).trans (ih (by omega) (by omega) hr)
  | @lastItem levels read p b v hp hb ih =>
      rw [List.length_append, List.length_append, List.length_singleton] at hfuel
      cases fuel with
      | zero => omega
      | succ fuel =>
          simp only [List.append_assoc, List.singleton_append]
          exact items_last (ih (by omega) hdepth (numberEnd_blank hb rfl)) hb
  | @nextItem levels read p b b' q v w hp hb hb' hq ih ihq =>
      obtain ⟨c, t, rfl, hc, hbracket, -⟩ := hq.head
      simp only [List.length_append, List.length_cons] at hfuel
      cases fuel with
      | zero => omega
      | succ fuel =>
          simp only [List.append_assoc, List.cons_append]
          refine (items_next (ih (by omega) hdepth (numberEnd_blank hb rfl)) hb hb' hc
            hbracket).trans ?_
          exact ihq (by simp only [List.length_cons]; omega) hdepth hr
  | @lastMember levels read name p b₁ b₂ b₃ text v hname hb₁ hb₂ hp hb₃ ih =>
      simp only [List.length_append, List.length_cons, List.length_nil] at hfuel
      cases fuel with
      | zero => omega
      | succ fuel =>
          simp only [List.append_assoc, List.cons_append, List.nil_append]
          have hv : Json.value fuel depth (p ++ (b₃ ++ '\x7d' :: r)) = .ok (v, b₃ ++ '\x7d' :: r) :=
            ih (by omega) hdepth (numberEnd_blank hb₃ rfl)
          rw [← value_blank hb₂ hp.headNot_append] at hv
          exact members_last hname (by omega) hb₁ hv hb₃
  | @nextMember levels read name p b₁ b₂ b₃ b₄ q text v w hname hb₁ hb₂ hp hb₃ hb₄ hq ih ihq =>
      obtain ⟨c, t, rfl, hc, -, hbrace⟩ := hq.head
      simp only [List.length_append, List.length_cons] at hfuel
      cases fuel with
      | zero => omega
      | succ fuel =>
          simp only [List.append_assoc, List.cons_append]
          have hv : Json.value fuel depth (p ++ (b₃ ++ ',' :: (b₄ ++ c :: (t ++ r)))) =
              .ok (v, b₃ ++ ',' :: (b₄ ++ c :: (t ++ r))) :=
            ih (by omega) hdepth (numberEnd_blank hb₃ rfl)
          rw [← value_blank hb₂ hp.headNot_append] at hv
          refine (members_next hname (by omega) hb₁ hv hb₃ hb₄ hc hbrace).trans ?_
          exact ihq (by simp only [List.length_cons]; omega) hdepth hr

/-! ## What is read has the form -/

theorem word_eq {v v' : Value} {w s r : List Char} (h : word v w s = .ok (v', r)) :
    v = v' ∧ s = w ++ r := by
  induction w generalizing s with
  | nil => exact Prod.mk.inj (Except.ok.inj h)
  | cons x w ih =>
      cases s with
      | nil => exact nomatch h
      | cons c s =>
          simp only [word] at h
          split_ifs at h with hc
          obtain ⟨hv, rfl⟩ := ih h
          exact ⟨hv, by rw [hc]; rfl⟩

theorem exists_of_map {α β : Type} {x : Except ReadError α} {f : α → β} {b : β}
    (h : x.map f = .ok b) : ∃ a, x = .ok a ∧ f a = b := by
  cases x with
  | error e => exact nomatch h
  | ok a => exact ⟨a, rfl, Except.ok.inj h⟩

/-- What is read in so many steps has the form of what it is read as. -/
def ReadsSpellings (fuel : Nat) : Prop :=
  ∀ (part : Part) {depth : Nat} {s r : List Char} {v : Value},
    part.reader fuel depth s = .ok (v, r) →
      ∃ b p, s = b ++ (p ++ r) ∧ Blank b ∧ Spells part (depth - 1) p v

section Forms

variable {fuel depth : Nat} {s r t : List Char} {c : Char} {v : Value}

theorem exists_spells_word {levels : Nat} {w : List Char} {v' : Value} (hw : (c :: w, v) ∈ words)
    (h : word v w t = .ok (v', r)) : ∃ p, c :: t = p ++ r ∧ Spells .value levels p v' := by
  obtain ⟨rfl, rfl⟩ := word_eq h
  exact ⟨c :: w, rfl, .word hw⟩

/-- After an opening bracket or brace comes the closing one, or what stands between them. -/
theorem exists_spells_after_open (hfuel : ReadsSpellings fuel) (part : Part) {close : Char}
    {none : Value} {e : ReadError}
    (h : (if depth ≤ 1 then .error .tooDeep
      else match skipSpace t with
        | [] => .error e
        | c :: rest =>
          if c = close then .ok (none, rest)
          else part.reader fuel (depth - 1) (c :: rest)) = Except.ok (v, r)) :
    ∃ levels b p, depth = levels + 2 ∧ t = b ++ (p ++ r) ∧ Blank b ∧
      (p = [close] ∧ v = none ∨ Spells part levels p v) := by
  split_ifs at h with hdepth
  obtain ⟨levels, rfl⟩ : ∃ levels, depth = levels + 2 := ⟨depth - 2, by omega⟩
  split at h
  · exact nomatch h
  · rename_i c rest hskip
    obtain ⟨b, rfl, hb, hc⟩ := exists_blank_of_cons hskip
    split_ifs at h with hclose
    · obtain ⟨rfl, rfl⟩ := Prod.mk.inj (Except.ok.inj h)
      exact ⟨levels, b, [close], rfl, by rw [hclose]; rfl, hb, .inl ⟨rfl, rfl⟩⟩
    · obtain ⟨b', p, hrest, hb', hp⟩ := hfuel part h
      exact ⟨levels, b ++ b', p, rfl, by rw [hrest, List.append_assoc], hb.append hb', .inr hp⟩

theorem exists_spells_value (hfuel : ReadsSpellings fuel)
    (h : Json.value (fuel + 1) depth s = .ok (v, r)) :
    ∃ b p, s = b ++ (p ++ r) ∧ Blank b ∧ Spells .value (depth - 1) p v := by
  rw [Json.value] at h
  split at h
  · exact nomatch h
  rename_i c t hskip
  obtain ⟨b, rfl, hb, hc⟩ := exists_blank_of_cons hskip
  suffices hform : ∃ p, c :: t = p ++ r ∧ Spells .value (depth - 1) p v by
    obtain ⟨p, ht, hp⟩ := hform
    exact ⟨b, p, by rw [ht], hb, hp⟩
  by_cases hnull : c = 'n'
  · rw [if_pos hnull] at h
    subst hnull
    exact exists_spells_word (by simp [words]) h
  rw [if_neg hnull] at h
  by_cases htrue : c = 't'
  · rw [if_pos htrue] at h
    subst htrue
    exact exists_spells_word (by simp [words]) h
  rw [if_neg htrue] at h
  by_cases hfalse : c = 'f'
  · rw [if_pos hfalse] at h
    subst hfalse
    exact exists_spells_word (by simp [words]) h
  rw [if_neg hfalse] at h
  by_cases hminus : c = '-'
  · rw [if_pos hminus] at h
    obtain ⟨⟨n, t'⟩, hread, heq⟩ := exists_of_map h
    obtain ⟨rfl, rfl⟩ := Prod.mk.inj heq
    obtain ⟨p, rfl, hp⟩ := exists_number hread
    exact ⟨'-' :: p, by rw [hminus]; rfl, .negative hp⟩
  rw [if_neg hminus] at h
  by_cases hdigit : isDigit c
  · rw [if_pos hdigit] at h
    obtain ⟨⟨n, t'⟩, hread, heq⟩ := exists_of_map h
    obtain ⟨rfl, rfl⟩ := Prod.mk.inj heq
    obtain ⟨p, hs, hp⟩ := exists_number hread
    cases p with
    | nil => exact nomatch hp
    | cons x p =>
        obtain ⟨rfl, rfl⟩ := List.cons.inj hs
        exact ⟨c :: p, rfl, .number hdigit hp⟩
  rw [if_neg hdigit] at h
  by_cases hquote : c = '"'
  · rw [if_pos hquote] at h
    obtain ⟨⟨text, t'⟩, hread, heq⟩ := exists_of_map h
    obtain ⟨rfl, rfl⟩ := Prod.mk.inj heq
    obtain ⟨p, rfl, hp⟩ := exists_isString hread
    refine ⟨'"' :: (p ++ ['"']), ?_, .string hp⟩
    rw [hquote, List.cons_append, List.append_assoc, List.singleton_append]
  rw [if_neg hquote] at h
  by_cases hbracket : c = '['
  · rw [if_pos hbracket] at h
    obtain ⟨levels, b', p, rfl, rfl, hb', hp⟩ :=
      exists_spells_after_open hfuel (.items []) h
    refine ⟨'[' :: (b' ++ p), by rw [hbracket, List.cons_append, List.append_assoc], ?_⟩
    obtain ⟨rfl, rfl⟩ | hp := hp
    · exact .noItems hb'
    · exact .array hb' hp
  rw [if_neg hbracket] at h
  by_cases hbrace : c = '\x7b'
  · rw [if_pos hbrace] at h
    obtain ⟨levels, b', p, rfl, rfl, hb', hp⟩ :=
      exists_spells_after_open hfuel (.members []) h
    refine ⟨'\x7b' :: (b' ++ p), by rw [hbrace, List.cons_append, List.append_assoc], ?_⟩
    obtain ⟨rfl, rfl⟩ | hp := hp
    · exact .noMembers hb'
    · exact .object hb' hp
  rw [if_neg hbrace] at h
  exact nomatch h

/-- After an item or a member comes what closes the list, or a comma and the next one. -/
theorem exists_spells_after_item (hfuel : ReadsSpellings fuel) (part : Part) {close : Char}
    {whole : Value} {e : ReadError} {e' : ReadError}
    (h : (match skipSpace t with
      | [] => .error e
      | c :: rest =>
        if c = close then .ok (whole, rest)
        else if c = ',' then
          match skipSpace rest with
          | [] => .error .endOfValue
          | c :: rest =>
            if c = close then .error .trailingComma
            else part.reader fuel depth (c :: rest)
        else .error e') = Except.ok (v, r)) :
    ∃ b, Blank b ∧ (t = b ++ close :: r ∧ v = whole ∨
      ∃ b' q, t = b ++ ',' :: (b' ++ (q ++ r)) ∧ Blank b' ∧ Spells part (depth - 1) q v) := by
  split at h
  · exact nomatch h
  rename_i c rest hskip
  obtain ⟨b, rfl, hb, hc⟩ := exists_blank_of_cons hskip
  refine ⟨b, hb, ?_⟩
  split_ifs at h with hclose hcomma
  · obtain ⟨rfl, rfl⟩ := Prod.mk.inj (Except.ok.inj h)
    exact .inl ⟨by rw [hclose], rfl⟩
  split at h
  · exact nomatch h
  rename_i c' rest' hskip'
  obtain ⟨b', rfl, hb', hc'⟩ := exists_blank_of_cons hskip'
  split_ifs at h
  obtain ⟨b'', q, hrest, hb'', hq⟩ := hfuel part h
  exact .inr ⟨b' ++ b'', q, by rw [hcomma, hrest, List.append_assoc], hb'.append hb'', hq⟩

theorem exists_spells_items {read : List Value} (hfuel : ReadsSpellings fuel)
    (h : Json.items (fuel + 1) depth read s = .ok (v, r)) :
    ∃ b p, s = b ++ (p ++ r) ∧ Blank b ∧ Spells (.items read) (depth - 1) p v := by
  rw [Json.items] at h
  split at h
  · exact nomatch h
  rename_i w t hread
  obtain ⟨b, p, rfl, hb, hp⟩ := hfuel .value hread
  obtain ⟨b₁, hb₁, ⟨rfl, rfl⟩ | ⟨b₂, q, rfl, hb₂, hq⟩⟩ :=
    exists_spells_after_item hfuel (.items (w :: read)) h
  · refine ⟨b, p ++ (b₁ ++ [']']), ?_, hb, .lastItem hp hb₁⟩
    simp only [List.append_assoc, List.singleton_append]
  · refine ⟨b, p ++ (b₁ ++ ',' :: (b₂ ++ q)), ?_, hb, .nextItem hp hb₁ hb₂ hq⟩
    simp only [List.append_assoc, List.cons_append]

theorem exists_spells_members {read : List (String × Value)} (hfuel : ReadsSpellings fuel)
    (h : Json.members (fuel + 1) depth read s = .ok (v, r)) :
    ∃ b p, s = b ++ (p ++ r) ∧ Blank b ∧ Spells (.members read) (depth - 1) p v := by
  unfold Json.members at h
  split at h
  · exact nomatch h
  rename_i c s'
  split_ifs at h with hquote
  split at h
  · exact nomatch h
  rename_i text t hread
  obtain ⟨name, rfl, hname⟩ := exists_isString hread
  split at h
  · exact nomatch h
  rename_i c' rest hskip
  obtain ⟨b₁, rfl, hb₁, -⟩ := exists_blank_of_cons hskip
  split_ifs at h with hcolon
  split at h
  · exact nomatch h
  rename_i w t' hvalue
  obtain ⟨b₂, p, rfl, hb₂, hp⟩ := hfuel .value hvalue
  subst hquote hcolon
  obtain ⟨b₃, hb₃, ⟨rfl, rfl⟩ | ⟨b₄, q, rfl, hb₄, hq⟩⟩ :=
    exists_spells_after_item hfuel (.members (Value.insertMember text w read)) h
  · refine ⟨[], _, ?_, .nil, .lastMember hname hb₁ hb₂ hp hb₃⟩
    simp only [List.append_assoc, List.cons_append, List.nil_append]
  · refine ⟨[], _, ?_, .nil, .nextMember hname hb₁ hb₂ hp hb₃ hb₄ hq⟩
    simp only [List.append_assoc, List.cons_append, List.nil_append]

end Forms

/-- What is read is, after blanks, a spelling of what it is read as. -/
theorem readsSpellings (fuel : Nat) : ReadsSpellings fuel := by
  induction fuel with
  | zero =>
      intro part _ _ _ _ h
      cases part <;> exact nomatch h
  | succ fuel ih =>
      intro part _ _ _ _ h
      cases part with
      | value => exact exists_spells_value ih h
      | items read => exact exists_spells_items ih h
      | members read => exact exists_spells_members ih h

end TrigramSearch.Json
