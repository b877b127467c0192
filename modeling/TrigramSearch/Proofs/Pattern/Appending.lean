import TrigramSearch.Proofs.Pattern.Legible
import TrigramSearch.Proofs.Pattern.Quoting

/-!
# Skipping with text behind

What stands behind a class or a group has no influence on where its skip ends,
for a skip looks no further than the bracket at which it ends.  And if the text
behind has no brackets of its own, a skip cannot end in it.

## Main results

* `crosses_of_skipClass`, `crosses_of_skipGroup` — the functions skip nothing but
  what the moves lead over.
* `skipClass_append`, `skipGroup_append` — a skip goes the same way with any text
  behind.
* `skipClass_ends`, `skipGroup_ends` — in front of a text without brackets, a
  skip ends before that text, if it ends.
* `literals_of_skipClass`, `literals_of_skipGroup` — the literals of a pattern
  whose skip ends before a word.
-/

namespace TrigramSearch.Literals

/-! ## The functions follow the moves -/

theorem classMove_leave {s r : List Char} (h : classMove s = some (.leave, r)) : s = ']' :: r := by
  cases s with
  | nil => cases h
  | cons c s =>
      rw [classMove.eq_def] at h
      dsimp only at h
      repeat' split at h
      all_goals cases h
      rename_i hclose
      rw [hclose]

theorem groupMove_leave {s r : List Char} (h : groupMove s = some (.leave, r)) : s = ')' :: r := by
  cases s with
  | nil => cases h
  | cons c s =>
      rw [groupMove.eq_def] at h
      dsimp only at h
      by_cases hclass : c = '['
      · subst hclass
        obtain ⟨_, _, ht⟩ := Option.map_eq_some_iff.mp h
        cases ht
      rw [if_neg hclass] at h
      repeat' split at h
      all_goals cases h
      rename_i hclose
      rw [hclose]

/-- The skip of a class ends where the moves lead to. -/
theorem crosses_of_skipClassBody {fuel : Nat} {s t : List Char}
    (h : skipClassBody fuel s = some t) : SkipsClass 0 s t := by
  induction fuel generalizing s t with
  | zero => cases h
  | succ fuel ih =>
      rw [skipClassBody_succ] at h
      cases hmove : classMove s with
      | none =>
          rw [hmove] at h
          cases h
      | some next =>
          obtain ⟨m, r⟩ := next
          rw [hmove] at h
          cases m with
          | pass => exact .pass hmove (ih h)
          | enter =>
              obtain ⟨inner, hinner, houter⟩ := Option.bind_eq_some_iff.mp h
              -- the inner class ends at a bracket, and the outer one goes on behind it
              have hleave : Crosses classMove 1 (']' :: inner) (']' :: t) :=
                .leave rfl (ih houter)
              exact .enter hmove ((ih hinner).trans hleave)
          | leave =>
              obtain rfl := Option.some.inj h
              rw [classMove_leave hmove]
              exact .done _

theorem crosses_of_skipClass {s t : List Char} (h : skipClass s = some t) :
    SkipsClass 0 (skipClassHead s) t :=
  crosses_of_skipClassBody h

/-- The skip of a group ends where the moves lead to. -/
theorem crosses_of_skipGroupBody {fuel depth : Nat} {s t : List Char}
    (h : skipGroupBody fuel depth s = some t) : SkipsGroup depth s t := by
  induction fuel generalizing depth s t with
  | zero => cases h
  | succ fuel ih =>
      rw [skipGroupBody_succ] at h
      cases hmove : groupMove s with
      | none =>
          rw [hmove] at h
          cases h
      | some next =>
          obtain ⟨m, r⟩ := next
          rw [hmove] at h
          cases m with
          | pass => exact .pass hmove (ih h)
          | enter => exact .enter hmove (ih h)
          | leave =>
              cases depth with
              | zero =>
                  obtain rfl := Option.some.inj h
                  rw [groupMove_leave hmove]
                  exact .done _
              | succ depth => exact .leave hmove (ih h)

theorem crosses_of_skipGroup {s t : List Char} (h : skipGroup s = some t) : SkipsGroup 0 s t := by
  rw [skipGroup] at h
  split at h
  · cases h
  · exact crosses_of_skipGroupBody h

/-! ## Text behind -/

theorem skipPast_behind {stop : Char} {s : List Char} (h : skipPast stop s ≠ []) (w : List Char) :
    skipPast stop (s ++ w) = skipPast stop s ++ w := by
  induction s with
  | nil => exact absurd rfl h
  | cons c s ih =>
      rw [skipPast] at h ⊢
      rw [List.cons_append, skipPast]
      split
      · rfl
      · rename_i hc
        rw [if_neg hc] at h
        exact ih h

theorem skipClassHead_behind {s : List Char} (h : skipClassHead s ≠ []) (w : List Char) :
    skipClassHead (s ++ w) = skipClassHead s ++ w := by
  cases s with
  | nil => exact absurd rfl h
  | cons c s =>
      by_cases hcaret : c = '^'
      · subst hcaret
        cases s with
        | nil => exact absurd rfl h
        | cons d s =>
            by_cases hd : d = ']'
            · subst hd
              rfl
            · simp [skipClassHead, hd]
      · by_cases hc : c = ']'
        · subst hc
          rfl
        · simp [skipClassHead, hcaret, hc]

/-- A move in a class that does not come to the end is the same with text behind. -/
theorem classMove_behind {s r : List Char} {m : Move} (h : classMove s = some (m, r)) (hr : r ≠ [])
    (w : List Char) : classMove (s ++ w) = some (m, r ++ w) := by
  cases s with
  | nil => cases h
  | cons c s =>
      rw [classMove.eq_def] at h
      dsimp only at h
      rw [List.cons_append, classMove.eq_def]
      dsimp only
      by_cases hslash : c = '\\'
      · rw [if_pos hslash] at h ⊢
        cases s with
        | nil => cases h
        | cons e s =>
            obtain ⟨rfl, rfl⟩ := Prod.mk.inj (Option.some.inj h)
            rfl
      rw [if_neg hslash] at h ⊢
      by_cases hopen : c = '['
      · rw [if_pos hopen] at h ⊢
        cases s with
        | nil =>
            obtain ⟨_, rfl⟩ := Prod.mk.inj (Option.some.inj h)
            exact absurd rfl hr
        | cons d s =>
            rw [List.head?_cons] at h
            rw [List.cons_append, List.head?_cons, ← List.cons_append]
            split at h
            · obtain ⟨rfl, rfl⟩ := Prod.mk.inj (Option.some.inj h)
              rw [if_pos ‹_›, skipPast_behind hr]
            · obtain ⟨rfl, rfl⟩ := Prod.mk.inj (Option.some.inj h)
              rw [if_neg ‹_›, skipClassHead_behind hr]
      rw [if_neg hopen] at h ⊢
      split at h
      · obtain ⟨rfl, rfl⟩ := Prod.mk.inj (Option.some.inj h)
        rw [if_pos ‹_›]
      · obtain ⟨rfl, rfl⟩ := Prod.mk.inj (Option.some.inj h)
        rw [if_neg ‹_›]

section
variable {move : List Char → Option (Move × List Char)}

/-- Nothing can be crossed from the end. -/
theorem Crosses.ne_nil (hnil : move [] = none) {depth : Nat} {s t : List Char}
    (h : Crosses move depth s t) (ht : t ≠ []) : s ≠ [] := by
  rintro rfl
  cases h with
  | done => exact ht rfl
  | pass hmove => cases hnil.symm.trans hmove
  | enter hmove => cases hnil.symm.trans hmove
  | leave hmove => cases hnil.symm.trans hmove

/-- A way that does not lead to the end is the same with text behind. -/
theorem Crosses.behind (hnil : move [] = none)
    (hbehind : ∀ {s r : List Char} {m : Move}, move s = some (m, r) → r ≠ [] → ∀ w,
      move (s ++ w) = some (m, r ++ w))
    {depth : Nat} {s t : List Char} (h : Crosses move depth s t) (ht : t ≠ []) (w : List Char) :
    Crosses move depth (s ++ w) (t ++ w) := by
  induction h with
  | done => exact .done _
  | pass hmove hrest ih => exact .pass (hbehind hmove (hrest.ne_nil hnil ht) w) (ih ht)
  | enter hmove hrest ih => exact .enter (hbehind hmove (hrest.ne_nil hnil ht) w) (ih ht)
  | leave hmove hrest ih => exact .leave (hbehind hmove (hrest.ne_nil hnil ht) w) (ih ht)

end

/-- The skip of a class goes the same way with any text behind. -/
theorem skipClass_append {s t : List Char} (h : skipClass s = some t) (w : List Char) :
    skipClass (s ++ w) = some (t ++ w) := by
  have hskips := crosses_of_skipClass h
  have hhead : skipClassHead s ≠ [] := hskips.ne_nil rfl (List.cons_ne_nil _ _)
  apply skipClass_of_crosses
  rw [skipClassHead_behind hhead]
  exact hskips.behind rfl classMove_behind (List.cons_ne_nil _ _) w

/-- A move in a group that does not come to the end is the same with text behind. -/
theorem groupMove_behind {s r : List Char} {m : Move} (h : groupMove s = some (m, r)) (_ : r ≠ [])
    (w : List Char) : groupMove (s ++ w) = some (m, r ++ w) := by
  cases s with
  | nil => cases h
  | cons c s =>
      rw [groupMove.eq_def] at h
      dsimp only at h
      by_cases hclass : c = '['
      · subst hclass
        obtain ⟨t, hskip, ht⟩ := Option.map_eq_some_iff.mp h
        obtain ⟨rfl, rfl⟩ := Prod.mk.inj ht
        exact groupMove_class (skipClass_append hskip w)
      rw [if_neg hclass] at h
      rw [List.cons_append, groupMove.eq_def]
      dsimp only
      rw [if_neg hclass]
      by_cases hslash : c = '\\'
      · rw [if_pos hslash] at h ⊢
        cases s with
        | nil => cases h
        | cons e s =>
            obtain ⟨rfl, rfl⟩ := Prod.mk.inj (Option.some.inj h)
            rfl
      rw [if_neg hslash] at h ⊢
      repeat' split at h
      all_goals
        obtain ⟨rfl, rfl⟩ := Prod.mk.inj (Option.some.inj h)
        simp [*]

/-- A group that starts harmlessly does so with any text behind. -/
theorem groupIsUncertain_behind {s : List Char} (h : groupIsUncertain s = false) (hs : s ≠ [])
    (w : List Char) : groupIsUncertain (s ++ w) = false := by
  cases s with
  | nil => exact absurd rfl hs
  | cons c s =>
      by_cases hc : c = '?'
      · subst hc
        cases s with
        | nil => cases h
        | cons flag s =>
            by_cases hname : flag = 'P'
            · subst hname
              cases s with
              | nil => cases h
              | cons d s =>
                  by_cases hd : d = '<'
                  · subst hd
                    rfl
                  · simp [groupIsUncertain, hd] at h
                    exact absurd h (by decide)
            · simpa [groupIsUncertain, hname] using h
      · simp [groupIsUncertain, hc]

/-- The skip of a group goes the same way with any text behind. -/
theorem skipGroup_append {s t : List Char} (h : skipGroup s = some t) (w : List Char) :
    skipGroup (s ++ w) = some (t ++ w) := by
  have hskips := crosses_of_skipGroup h
  have hne : s ≠ [] := hskips.ne_nil rfl (List.cons_ne_nil _ _)
  rw [skipGroup] at h
  split at h
  · cases h
  · rename_i hcertain
    have hcertain' := groupIsUncertain_behind (Bool.eq_false_iff.mpr hcertain) hne w
    rw [skipGroup, hcertain', if_neg Bool.false_ne_true]
    exact skipGroupBody_of_crosses (Nat.le_refl _)
      (hskips.behind rfl groupMove_behind (List.cons_ne_nil _ _) w)

/-! ## Where a skip may end -/

section
variable {move : List Char → Option (Move × List Char)}

theorem Crosses.suffix
    (hmove : ∀ {s r : List Char} {m : Move}, move s = some (m, r) → r <:+ s)
    {depth : Nat} {s t : List Char} (h : Crosses move depth s t) : t <:+ s := by
  induction h with
  | done => exact List.suffix_refl _
  | pass hs _ ih => exact ih.trans (hmove hs)
  | enter hs _ ih => exact ih.trans (hmove hs)
  | leave hs _ ih => exact ih.trans (hmove hs)

end

theorem classMove_suffix {s r : List Char} {m : Move} (h : classMove s = some (m, r)) :
    r <:+ s := by
  cases s with
  | nil => cases h
  | cons c s =>
      rw [classMove.eq_def] at h
      dsimp only at h
      repeat' split at h
      all_goals cases h
      · exact (List.suffix_cons _ _).trans (List.suffix_cons _ _)
      · exact (skipPast_suffix ']' _).trans (List.suffix_cons _ _)
      · exact (skipClassHead_suffix _).trans (List.suffix_cons _ _)
      · exact List.suffix_cons _ _
      · exact List.suffix_cons _ _

theorem skipClass_suffix {s t : List Char} (h : skipClass s = some t) : ']' :: t <:+ s :=
  ((crosses_of_skipClass h).suffix classMove_suffix).trans (skipClassHead_suffix s)

theorem groupMove_suffix {s r : List Char} {m : Move} (h : groupMove s = some (m, r)) :
    r <:+ s := by
  cases s with
  | nil => cases h
  | cons c s =>
      rw [groupMove.eq_def] at h
      dsimp only at h
      by_cases hclass : c = '['
      · subst hclass
        obtain ⟨t, hskip, ht⟩ := Option.map_eq_some_iff.mp h
        obtain ⟨_, rfl⟩ := Prod.mk.inj ht
        exact (List.suffix_cons _ _).trans ((skipClass_suffix hskip).trans (List.suffix_cons _ _))
      rw [if_neg hclass] at h
      repeat' split at h
      all_goals cases h
      · exact (List.suffix_cons _ _).trans (List.suffix_cons _ _)
      all_goals exact List.suffix_cons _ _

theorem skipGroup_suffix {s t : List Char} (h : skipGroup s = some t) : ')' :: t <:+ s :=
  (crosses_of_skipGroup h).suffix groupMove_suffix

/-- What begins with a character that a text does not contain begins in front of that text. -/
private theorem exists_of_suffix {c : Char} {s t w : List Char} (hc : c ∉ w)
    (h : c :: t <:+ s ++ w) : ∃ u r, s = u ++ c :: r ∧ t = r ++ w := by
  obtain ⟨u, hu⟩ := h
  rcases List.append_eq_append_iff.mp hu with ⟨v, rfl, hv⟩ | ⟨v, rfl, hv⟩
  · cases v with
    | nil =>
        have hw : w = c :: t := hv.symm
        exact absurd (hw ▸ List.mem_cons_self) hc
    | cons d v =>
        obtain ⟨rfl, rfl⟩ := List.cons.inj hv
        exact ⟨u, v, rfl, rfl⟩
  · exact absurd (hv ▸ List.mem_append_right v List.mem_cons_self) hc

/-- In front of a text without brackets, the skip of a class ends in the class, if it ends. -/
theorem skipClass_ends {s t w : List Char} (hw : ']' ∉ w) (h : skipClass (s ++ w) = some t) :
    ∃ u r, s = u ++ ']' :: r ∧ t = r ++ w :=
  exists_of_suffix hw (skipClass_suffix h)

/-- In front of a text without parentheses, the skip of a group ends in the group, if it ends. -/
theorem skipGroup_ends {s t w : List Char} (hw : ')' ∉ w) (h : skipGroup (s ++ w) = some t) :
    ∃ u r, s = u ++ ')' :: r ∧ t = r ++ w :=
  exists_of_suffix hw (skipGroup_suffix h)

/-! ## Words -/

/-- A word is read as text, from its first to its last character. -/
structure IsWord (w : List Char) : Prop where
  nonempty : w ≠ []
  plain : ∀ c ∈ w, c ∉ metacharacters

instance (w : List Char) : Decidable (IsWord w) :=
  have : Decidable (∀ c ∈ w, c ∉ metacharacters) :=
    List.decidableBAll (fun c => c ∉ metacharacters) w
  decidable_of_iff (w ≠ [] ∧ ∀ c ∈ w, c ∉ metacharacters)
    ⟨fun h => ⟨h.1, h.2⟩, fun h => ⟨h.nonempty, h.plain⟩⟩

theorem IsWord.not_mem {w : List Char} (h : IsWord w) {c : Char} (hc : c ∈ metacharacters) :
    c ∉ w :=
  fun hmem => h.plain c hmem hc

/-- A word needs no escapes. -/
theorem IsWord.quote_eq {w : List Char} (h : IsWord w) : quote w = w := by
  have hplain : ∀ s : List Char, (∀ c ∈ s, c ∉ metacharacters) → quote s = s := by
    intro s
    induction s with
    | nil => exact fun _ => rfl
    | cons c s ih =>
        intro hs
        have hc : metacharacters.contains c = false := by
          simpa using hs c List.mem_cons_self
        rw [quote_cons, hc, if_neg Bool.false_ne_true,
          ih fun d hd => hs d (List.mem_cons_of_mem c hd)]
  exact hplain w h.plain

/-- Where case matters, a word is one run. -/
theorem scanFrom_word {w : List Char} (h : IsWord w) {fuel : Nat} (hfuel : w.length ≤ fuel) :
    scanFrom false fuel Runs.none w = some [w] := by
  have hscan := scanFrom_quote false hfuel Runs.none
  rw [h.quote_eq, foldl_push] at hscan
  rw [hscan]
  simp [Runs.none, Runs.toList, Runs.flush, h.nonempty]

section
variable {s t w : List Char} {options : MatchOptions}

theorem scan?_class (asciiOnly : Bool) (s : List Char) :
    scan? asciiOnly ('[' :: s) = (skipClass s).bind (scanFrom asciiOnly s.length Runs.none) := by
  rw [scan?, List.length_cons, scanFrom.eq_def]
  cases hskip : skipClass s <;> simp [hskip, Runs.none, Runs.flush]

theorem scan?_group (asciiOnly : Bool) (s : List Char) :
    scan? asciiOnly ('(' :: s) = (skipGroup s).bind (scanFrom asciiOnly s.length Runs.none) := by
  rw [scan?, List.length_cons, scanFrom.eq_def]
  cases hskip : skipGroup s <;> simp [hskip, Runs.none, Runs.flush]

/-- The literals of a pattern from the runs of the pass. -/
theorem literals_eq (hcase : options.caseInsensitive = false) (hplain : options.extended = false)
    (pattern : List Char) :
    (ofPattern pattern options).literals = ((scan? false pattern).getD []).eraseDups := by
  rw [ofPattern, hplain, hcase]
  rfl

/-- A class that is skipped up to a word leaves that word. -/
theorem literals_of_skipClass (hcase : options.caseInsensitive = false)
    (hplain : options.extended = false) (hw : IsWord w) (h : skipClass s = some w) :
    (ofPattern ('[' :: s) options).literals = [w] := by
  have hlength : w.length ≤ s.length := Nat.le_of_lt (skipClass_length h)
  rw [literals_eq hcase hplain, scan?_class, h, Option.bind_some, scanFrom_word hw hlength]
  rfl

/-- A group that is skipped up to a word leaves that word. -/
theorem literals_of_skipGroup (hcase : options.caseInsensitive = false)
    (hplain : options.extended = false) (hw : IsWord w) (h : skipGroup s = some w) :
    (ofPattern ('(' :: s) options).literals = [w] := by
  have hlength : w.length ≤ s.length :=
    ((List.suffix_cons ')' w).trans (skipGroup_suffix h)).length_le
  rw [literals_eq hcase hplain, scan?_group, h, Option.bind_some, scanFrom_word hw hlength]
  rfl

end

end TrigramSearch.Literals
