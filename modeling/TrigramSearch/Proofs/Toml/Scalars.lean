import Mathlib.Data.List.TakeWhile
import TrigramSearch.Proofs.Number.Positional
import TrigramSearch.Toml.Printer
import TrigramSearch.Toml.Scalar

/-!
# Numbers and words read back

Integers, numbers with a point and the words for truth values are tokens.  A
token is read up to the first character that cannot belong to one, here the end
of its line.  An integer is a numeral, and a number is a numeral with a sign
before it and a point and further digits behind it; neither of them can be
taken for a date or a time, which need a dash after four digits or a colon.

## Main results

* `splitToken_append` — a token ends at the end of its line.
* `scalar?_digitsOf` — an integer reads back.
* `scalar?_floatText` — a number reads back, a NaN as a NaN.
-/

namespace TrigramSearch.Toml

variable {ds whole part : List Char}

/-! ## Tokens -/

theorem splitToken_append {token : List Char} (rest : List Char)
    (h : ∀ c ∈ token, isTokenChar c) :
    splitToken (token ++ '\n' :: rest) = (token, '\n' :: rest) := by
  have htake : (token ++ '\n' :: rest).takeWhile isTokenChar = token := by
    rw [List.takeWhile_append_of_pos h]
    exact List.append_nil token
  have hdrop : (token ++ '\n' :: rest).dropWhile isTokenChar = '\n' :: rest := by
    rw [List.dropWhile_append_of_pos h]
    rfl
  simp only [splitToken, htake, hdrop]
  split
  · rename_i heq
    cases heq
  · rfl

/-- A token without colons, and with a dash at its beginning only, is no date and no time. -/
theorem isDatetime_eq_false {s : List Char} (hcolon : ':' ∉ s) (hdash : '-' ∉ s.tail) :
    isDatetime s = false := by
  have hdate : afterDate? s = none := by
    unfold afterDate?
    split
    · exact absurd (by simp) hdash
    · rfl
  have htime : afterTime? s = none := by
    unfold afterTime?
    split
    · exact absurd (by simp) hcolon
    · rfl
  rw [isDatetime, hdate, htime]
  rfl

/-! ## Digits -/

/-- A test that one character passes and another does not tells them apart. -/
theorem ne_of_test {test : Char → Bool} {c d : Char} (h : test c) (hd : test d = false) :
    c ≠ d := by
  rintro rfl
  rw [h] at hd
  cases hd

theorem isTokenChar_of_isDigit {c : Char} (h : c.isDigit) : isTokenChar c := by
  simp [isTokenChar, Char.isAlphanum, h]

theorem hexDigit?_of_isDigit {c : Char} (h : c.isDigit) :
    Json.hexDigit? c = some (c.toNat - '0'.toNat) :=
  if_pos h

theorem valueOf_eq (h : ∀ c ∈ ds, c.isDigit) : valueOf 10 ds = Nat.ofDigitChars 10 ds 0 := by
  have hfrom : ∀ n, ds.foldl (fun n c => n * 10 + (Json.hexDigit? c).getD 0) n =
      Nat.ofDigitChars 10 ds n := by
    induction ds with
    | nil => exact fun n => rfl
    | cons c ds ih =>
        intro n
        rw [List.foldl_cons, hexDigit?_of_isDigit (h c List.mem_cons_self), Option.getD_some,
          ih fun d hd => h d (List.mem_cons_of_mem c hd), Nat.ofDigitChars_cons, Nat.mul_comm]
  exact hfrom 0

theorem digitsOf?_eq (hne : ds ≠ []) (h : ∀ c ∈ ds, c.isDigit) :
    digitsOf? Char.isDigit ds = some ds := by
  induction ds with
  | nil => exact absurd rfl hne
  | cons c ds ih =>
      have hc : c.isDigit := h c List.mem_cons_self
      have hds : ∀ d ∈ ds, d.isDigit := fun d hd => h d (List.mem_cons_of_mem c hd)
      cases ds with
      | nil => rw [digitsOf?, if_pos hc]
      | cons d ds =>
          have hd : d ≠ '_' := ne_of_test (hds d List.mem_cons_self) rfl
          have hrest := ih (List.cons_ne_nil d ds) hds
          rw [digitsOf?]
          · rw [if_pos hc, hrest, Option.map_some]
          · exact List.cons_ne_nil d ds
          · rintro rest ⟨⟩
            exact hd rfl

theorem decimalDigits?_eq (h : IsNumeral ds) : decimalDigits? ds = some ds := by
  rw [decimalDigits?, digitsOf?_eq h.ne_nil h.digits]
  split
  · rename_i heq
    have hzero := Option.some.inj heq
    have hsingle := h.first (by rw [hzero]; rfl)
    rw [hzero] at hsingle
    cases hsingle
  · rfl

theorem splitSign_digits (hne : ds ≠ []) (h : ∀ c ∈ ds, c.isDigit) (rest : List Char) :
    splitSign (ds ++ rest) = (false, ds ++ rest) := by
  cases ds with
  | nil => exact absurd rfl hne
  | cons c ds =>
      have hc : c.isDigit := h c List.mem_cons_self
      rw [List.cons_append, splitSign]
      · rintro _ ⟨⟩
        exact absurd hc (by decide)
      · rintro _ ⟨⟩
        exact absurd hc (by decide)

/-! ## Integers -/

/-- The mark of another base is no digit. -/
theorem integer?_eq (h : IsNumeral ds) :
    integer? ds = integerNode? false (Nat.ofDigitChars 10 ds 0) := by
  have hsign := splitSign_digits h.ne_nil h.digits []
  rw [List.append_nil] at hsign
  have hmark : ∀ c rest, ds = '0' :: c :: rest → False := by
    rintro c rest rfl
    have hsingle := h.first rfl
    cases hsingle
  unfold integer?
  split
  · exact absurd rfl (hmark _ _)
  · exact absurd rfl (hmark _ _)
  · exact absurd rfl (hmark _ _)
  · rw [hsign]
    show (decimalDigits? ds).bind _ = _
    rw [decimalDigits?_eq h, Option.bind_some, valueOf_eq h.digits]

/-! ## Numbers with a point -/

/-- Digits and points are no word, and have no exponent. -/
theorem float?_plain {s : List Char} {negative : Bool} {c : Char} {cs : List Char}
    (hsign : splitSign s = (negative, c :: cs)) (hc : c.isDigit)
    (h : ∀ d ∈ cs, d.isDigit ∨ d = '.') :
    float? s =
      match decimalDigits? ((c :: cs).takeWhile (· != '.')), (c :: cs).dropWhile (· != '.') with
      | some ws, _ :: ps => (digitsOf? Char.isDigit ps).bind fun ps => floatNode? negative ws ps 0
      | _, _ => none := by
  have hinf : c :: cs ≠ ['i', 'n', 'f'] := fun heq =>
    ne_of_test hc rfl (List.cons.inj heq).1
  have hnan : c :: cs ≠ ['n', 'a', 'n'] := fun heq =>
    ne_of_test hc rfl (List.cons.inj heq).1
  have hplain : ∀ d ∈ c :: cs, (!(decide (d = 'e') || decide (d = 'E'))) = true := by
    intro d hd
    have hd : d.isDigit ∨ d = '.' := (List.mem_cons.mp hd).elim (fun heq => Or.inl (heq ▸ hc)) (h d)
    rcases hd with hdigit | rfl
    · have he := ne_of_test hdigit (show 'e'.isDigit = false from rfl)
      have hE := ne_of_test hdigit (show 'E'.isDigit = false from rfl)
      simp [he, hE]
    · rfl
  have htake : (c :: cs).takeWhile (fun d => !(decide (d = 'e') || decide (d = 'E'))) = c :: cs :=
    List.takeWhile_eq_self_iff.mpr hplain
  have hdrop : (c :: cs).dropWhile (fun d => !(decide (d = 'e') || decide (d = 'E'))) = [] :=
    List.dropWhile_eq_nil_iff.mpr hplain
  simp only [float?, hsign, if_neg hinf, if_neg hnan, htake, hdrop]
  generalize decimalDigits? ((c :: cs).takeWhile (· != '.')) = ws
  cases ws with
  | none => rfl
  | some ws =>
      cases (c :: cs).dropWhile (· != '.') with
      | nil => rfl
      | cons d ps => rfl

/-- A numeral has no point. -/
theorem float?_numeral (h : IsNumeral ds) : float? ds = none := by
  have hsign := splitSign_digits h.ne_nil h.digits []
  have hnoPoint : ∀ c ∈ ds, (c != '.') = true := fun c hc =>
    bne_iff_ne.mpr (ne_of_test (h.digits c hc) rfl)
  rw [List.append_nil] at hsign
  cases ds with
  | nil => exact absurd rfl h.ne_nil
  | cons c cs =>
      have hc : c.isDigit := h.digits c List.mem_cons_self
      rw [float?_plain hsign hc fun d hd => Or.inl (h.digits d (List.mem_cons_of_mem c hd)),
        List.takeWhile_eq_self_iff.mpr hnoPoint, List.dropWhile_eq_nil_iff.mpr hnoPoint,
        decimalDigits?_eq h]

theorem float?_parts {s : List Char} {negative : Bool}
    (hsign : splitSign s = (negative, whole ++ '.' :: part)) (hwhole : IsNumeral whole)
    (hne : part ≠ []) (hpart : ∀ c ∈ part, c.isDigit) :
    float? s = floatNode? negative whole part 0 := by
  have hnoPoint : ∀ c ∈ whole, (c != '.') = true := fun c hc =>
    bne_iff_ne.mpr (ne_of_test (hwhole.digits c hc) rfl)
  have htake : (whole ++ '.' :: part).takeWhile (· != '.') = whole := by
    rw [List.takeWhile_append_of_pos hnoPoint]
    exact List.append_nil whole
  have hdrop : (whole ++ '.' :: part).dropWhile (· != '.') = '.' :: part := by
    rw [List.dropWhile_append_of_pos hnoPoint]
    rfl
  obtain ⟨c, cs, rfl⟩ : ∃ c cs, whole = c :: cs := List.exists_cons_of_ne_nil hwhole.ne_nil
  have hplain : ∀ d ∈ cs ++ '.' :: part, d.isDigit ∨ d = '.' := by
    intro d hd
    rcases List.mem_append.mp hd with hd | hd
    · exact Or.inl (hwhole.digits d (List.mem_cons_of_mem c hd))
    · exact (List.mem_cons.mp hd).elim Or.inr fun hd => Or.inl (hpart d hd)
  rw [List.cons_append] at hsign htake hdrop
  rw [float?_plain hsign (hwhole.digits c List.mem_cons_self) hplain, htake, hdrop,
    decimalDigits?_eq hwhole]
  show (digitsOf? Char.isDigit part).bind _ = _
  rw [digitsOf?_eq hne hpart, Option.bind_some]

/-! ## Values -/

/-- What begins with a digit or a sign is no truth value. -/
theorem scalar?_number {c : Char} {cs : List Char} (hc : c.isDigit ∨ c = '-') (hcolon : ':' ∉ cs)
    (hdash : '-' ∉ cs) :
    scalar? (c :: cs) =
      match float? (c :: cs) with
      | some n => some n
      | none => integer? (c :: cs) := by
  have hword : ∀ {d : Char} {word : List Char}, d.isDigit = false → d ≠ '-' →
      c :: cs ≠ d :: word := by
    rintro d word hd hdash heq
    have hsame := (List.cons.inj heq).1
    exact hc.elim (fun hdigit => ne_of_test hdigit hd hsame) fun hsign =>
      hdash (hsame.symm.trans hsign)
  have hfirst : ':' ≠ c := by
    rintro rfl
    exact hc.elim (by decide) (by decide)
  have hdatetime : isDatetime (c :: cs) = false :=
    isDatetime_eq_false (List.not_mem_cons_of_ne_of_not_mem hfirst hcolon) hdash
  rw [scalar?, if_neg (hword rfl (by decide)), if_neg (hword rfl (by decide)), hdatetime]
  rfl

/-- **Integers read back.** -/
theorem scalar?_digitsOf {n : Nat} (h : n < 1 <<< 63) :
    scalar? (Decimal.digitsOf n) = some (.integer n) := by
  have hnumeral := Decimal.isNumeral_digitsOf n
  have hvalue := Decimal.ofDigitChars_digitsOf n
  generalize Decimal.digitsOf n = ds at hnumeral hvalue
  have hfloat := float?_numeral hnumeral
  have hinteger := integer?_eq hnumeral
  cases ds with
  | nil => exact absurd rfl hnumeral.ne_nil
  | cons c cs =>
      have hcs : ∀ d ∈ cs, d.isDigit := fun d hd => hnumeral.digits d (List.mem_cons_of_mem c hd)
      rw [scalar?_number (Or.inl (hnumeral.digits c List.mem_cons_self))
        (fun hmem => absurd (hcs _ hmem) (by decide)) (fun hmem => absurd (hcs _ hmem) (by decide)),
        hfloat, hinteger, hvalue]
      exact if_pos h

/-! ## Floating-point numbers -/

variable {x : Binary64}

theorem toList_signText (x : Binary64) :
    x.signText.toList = if x.signBit then ['-'] else [] := by
  rw [Binary64.signText]
  cases x.signBit <;> rfl

theorem toList_toPositional (hfinite : x.isFinite) :
    x.toPositional.toList = x.signText.toList ++
      if x.shortest.split.2.isEmpty then x.shortest.split.1
      else x.shortest.split.1 ++ '.' :: x.shortest.split.2 := by
  rw [Binary64.toPositional, if_neg (Binary64.not_isNaN hfinite),
    if_neg (Binary64.not_isInfinite hfinite), String.toList_append]
  simp only [String.toList_ofList]

/-- The text of a finite number always has a point with digits behind it. -/
theorem toList_floatText (hfinite : x.isFinite) :
    (floatText x).toList = x.signText.toList ++
      (x.shortest.split.1 ++ '.' :: Decimal.fraction x.shortest.split.2) := by
  have htext := toList_toPositional hfinite
  have hwhole := (Binary64.shortest_isNumeral hfinite).1
  rw [floatText, if_neg (Binary64.not_isNaN hfinite), if_neg (Binary64.not_isInfinite hfinite)]
  by_cases hpart : x.shortest.split.2.isEmpty
  · rw [if_pos hpart] at htext
    have hpoint : ¬ x.toPositional.toList.contains '.' := by
      intro hmem
      rw [htext, toList_signText, List.contains_iff_mem] at hmem
      rcases List.mem_append.mp hmem with hsign | hdigit
      · split at hsign <;> simp at hsign
      · exact absurd (hwhole.digits _ hdigit) (by decide)
    have hfraction : Decimal.fraction x.shortest.split.2 = ['0'] := if_pos hpart
    show (if x.toPositional.toList.contains '.' then x.toPositional
      else x.toPositional ++ ".0").toList = _
    rw [if_neg hpoint, String.toList_append, htext, hfraction, List.append_assoc]
    rfl
  · rw [if_neg hpart] at htext
    have hpoint : x.toPositional.toList.contains '.' := by
      rw [htext, List.contains_iff_mem]
      simp
    have hfraction : Decimal.fraction x.shortest.split.2 = x.shortest.split.2 := if_neg hpart
    show (if x.toPositional.toList.contains '.' then x.toPositional
      else x.toPositional ++ ".0").toList = _
    rw [if_pos hpoint, htext, hfraction]

/-- The text of a number that is not finite is a word. -/
theorem toList_floatText_word (h : ¬ x.isFinite) :
    (x.isNaN ∧ (floatText x).toList = (if x.signBit then "-nan" else "nan").toList) ∨
      (x.body = Binary64.infinityBody ∧
        (floatText x).toList = x.signText.toList ++ "inf".toList) := by
  have hbody : ¬ x.body < Binary64.infinityBody := fun hlt => h (decide_eq_true hlt)
  by_cases hnan : x.isNaN
  · rw [floatText, if_pos hnan]
    exact Or.inl ⟨hnan, rfl⟩
  · have hinfinite : x.body = Binary64.infinityBody := by
      have hle : ¬ Binary64.infinityBody < x.body := fun hlt => hnan (decide_eq_true hlt)
      omega
    have hisInfinite : x.isInfinite := beq_iff_eq.mpr hinfinite
    rw [floatText, if_neg hnan, if_pos hisInfinite, Binary64.toPositional, if_neg hnan,
      if_pos hisInfinite, String.toList_append]
    exact Or.inr ⟨hinfinite, rfl⟩

/-- What a number is read back as: itself, and any NaN for a NaN. -/
def ReadsBack (x y : Binary64) : Prop := y = x ∨ (x.isNaN ∧ y.isNaN)

theorem fraction_ne_nil (part : List Char) : Decimal.fraction part ≠ [] := by
  rw [Decimal.fraction]
  split
  · exact List.cons_ne_nil _ _
  · rename_i h
    rwa [List.isEmpty_iff] at h

theorem isDigit_of_mem_fraction (h : ∀ c ∈ part, c.isDigit) :
    ∀ c ∈ Decimal.fraction part, c.isDigit := by
  intro c hc
  rw [Decimal.fraction] at hc
  split at hc
  · rw [List.mem_singleton.mp hc]
    rfl
  · exact h c hc

theorem floatNode?_eq (hfinite : x.isFinite) :
    floatNode? x.signBit x.shortest.split.1 (Decimal.fraction x.shortest.split.2) 0 =
      some (.float x) := by
  obtain ⟨hwhole, hpart⟩ := Binary64.shortest_isNumeral hfinite
  have hdigits : ∀ c ∈ x.shortest.split.1 ++ Decimal.fraction x.shortest.split.2, c.isDigit :=
    fun c hc => (List.mem_append.mp hc).elim (hwhole.digits c) (isDigit_of_mem_fraction hpart c)
  have hread : Binary64.ofDecimal x.signBit
      (Nat.ofDigitChars 10 (x.shortest.split.1 ++ Decimal.fraction x.shortest.split.2) 0)
      (-(Decimal.fraction x.shortest.split.2).length) = x := Binary64.ofDecimal_split hfinite
  have hne : x ≠ Binary64.infinity := by
    rintro rfl
    exact absurd hfinite (by decide)
  simp only [floatNode?, valueOf_eq hdigits, Int.zero_sub, hread, if_neg hne]

/-- A number with a point, with a sign before it or not. -/
theorem scalar?_parts (negative : Bool) (hwhole : IsNumeral whole) (hne : part ≠ [])
    (hpart : ∀ c ∈ part, c.isDigit) {n : Node} (hn : floatNode? negative whole part 0 = some n) :
    scalar? ((if negative then ['-'] else []) ++ (whole ++ '.' :: part)) = some n := by
  have hplain : ∀ c ∈ whole ++ '.' :: part, c ≠ ':' ∧ c ≠ '-' := by
    intro c hc
    rcases List.mem_append.mp hc with hc | hc
    · exact ⟨ne_of_test (hwhole.digits c hc) rfl, ne_of_test (hwhole.digits c hc) rfl⟩
    · rcases List.mem_cons.mp hc with rfl | hc
      · decide
      · exact ⟨ne_of_test (hpart c hc) rfl, ne_of_test (hpart c hc) rfl⟩
  cases negative with
  | true =>
      have hfloat : float? ('-' :: (whole ++ '.' :: part)) = some n :=
        (float?_parts rfl hwhole hne hpart).trans hn
      show scalar? ('-' :: (whole ++ '.' :: part)) = some n
      rw [scalar?_number (Or.inr rfl) (fun h => (hplain _ h).1 rfl) (fun h => (hplain _ h).2 rfl),
        hfloat]
  | false =>
      have hsign := splitSign_digits hwhole.ne_nil hwhole.digits ('.' :: part)
      have hfloat : float? (whole ++ '.' :: part) = some n :=
        (float?_parts hsign hwhole hne hpart).trans hn
      obtain ⟨c, cs, rfl⟩ : ∃ c cs, whole = c :: cs := List.exists_cons_of_ne_nil hwhole.ne_nil
      show scalar? (c :: (cs ++ '.' :: part)) = some n
      rw [List.cons_append] at hfloat hplain
      rw [scalar?_number (Or.inl (hwhole.digits c List.mem_cons_self))
        (fun h => (hplain _ (List.mem_cons_of_mem c h)).1 rfl)
        (fun h => (hplain _ (List.mem_cons_of_mem c h)).2 rfl), hfloat]

/-- **Numbers read back.** -/
theorem scalar?_floatText (x : Binary64) :
    ∃ y, scalar? (floatText x).toList = some (.float y) ∧ ReadsBack x y := by
  by_cases hfinite : x.isFinite
  · obtain ⟨hwhole, hpart⟩ := Binary64.shortest_isNumeral hfinite
    refine ⟨x, ?_, Or.inl rfl⟩
    rw [toList_floatText hfinite, toList_signText]
    exact scalar?_parts x.signBit hwhole (fraction_ne_nil _) (isDigit_of_mem_fraction hpart)
      (floatNode?_eq hfinite)
  · have hself := x.ofBody_self
    rcases toList_floatText_word hfinite with ⟨hnan, htext⟩ | ⟨hinfinite, htext⟩
    · rw [htext]
      cases x.signBit with
      | true => exact ⟨Binary64.nan.neg, rfl, Or.inr ⟨hnan, rfl⟩⟩
      | false => exact ⟨Binary64.nan, rfl, Or.inr ⟨hnan, rfl⟩⟩
    · refine ⟨x, ?_, Or.inl rfl⟩
      rw [htext, toList_signText]
      rw [hinfinite] at hself
      cases hsign : x.signBit with
      | true =>
          rw [hsign] at hself
          rw [← hself]
          rfl
      | false =>
          rw [hsign] at hself
          rw [← hself]
          rfl

/-! ## The characters of tokens -/

theorem scalar?_booleanText (b : Bool) :
    scalar? (booleanText b).toList = some (.boolean b) := by
  cases b <;> rfl

theorem isTokenChar_of_mem_digitsOf {n : Nat} {c : Char} (h : c ∈ Decimal.digitsOf n) :
    isTokenChar c :=
  isTokenChar_of_isDigit (Decimal.isDigit_of_mem_digitsOf h)

theorem isTokenChar_of_mem_booleanText {b : Bool} {c : Char} (h : c ∈ (booleanText b).toList) :
    isTokenChar c := by
  have hall : (booleanText b).toList.all isTokenChar := by cases b <;> rfl
  exact List.all_eq_true.mp hall c h

theorem isTokenChar_of_mem_signText {c : Char} (h : c ∈ x.signText.toList) : isTokenChar c := by
  rw [toList_signText] at h
  cases hsign : x.signBit with
  | true =>
      rw [hsign] at h
      rw [List.mem_singleton.mp h]
      rfl
  | false =>
      rw [hsign] at h
      cases h

theorem isTokenChar_of_mem_floatText {c : Char} (h : c ∈ (floatText x).toList) :
    isTokenChar c := by
  by_cases hfinite : x.isFinite
  · obtain ⟨hwhole, hpart⟩ := Binary64.shortest_isNumeral hfinite
    rw [toList_floatText hfinite] at h
    rcases List.mem_append.mp h with hsign | h
    · exact isTokenChar_of_mem_signText hsign
    · rcases List.mem_append.mp h with hdigit | h
      · exact isTokenChar_of_isDigit (hwhole.digits c hdigit)
      · rcases List.mem_cons.mp h with rfl | hdigit
        · rfl
        · exact isTokenChar_of_isDigit (isDigit_of_mem_fraction hpart c hdigit)
  · rcases toList_floatText_word hfinite with ⟨_, htext⟩ | ⟨_, htext⟩
    · have hword : (if x.signBit then "-nan" else "nan").toList.all isTokenChar := by
        cases x.signBit <;> rfl
      rw [htext] at h
      exact List.all_eq_true.mp hword c h
    · have hword : "inf".toList.all isTokenChar := rfl
      rw [htext] at h
      exact (List.mem_append.mp h).elim isTokenChar_of_mem_signText (List.all_eq_true.mp hword c)

theorem floatText_ne_nil (x : Binary64) : (floatText x).toList ≠ [] := by
  by_cases hfinite : x.isFinite
  · rw [toList_floatText hfinite]
    exact List.append_ne_nil_of_right_ne_nil _
      (List.append_ne_nil_of_right_ne_nil _ (List.cons_ne_nil _ _))
  · rcases toList_floatText_word hfinite with ⟨_, htext⟩ | ⟨_, htext⟩
    · rw [htext]
      cases x.signBit <;> decide
    · rw [htext]
      exact List.append_ne_nil_of_right_ne_nil _ (by decide)

end TrigramSearch.Toml
