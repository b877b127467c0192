import TrigramSearch.Proofs.Pattern.Hazards
import TrigramSearch.Proofs.Regex.Single

/-!
# Classes and groups in front of a word

A pattern that is one class or one group, followed by a word, has that word for
its only literal, if the pass leaves the class or the group where the parser
does.  It does so if the class or the group is legible, which it is unless there
is a hazard in its text.  Whatever is in it, the pass never runs past its end
into the word, so a literal of another form comes from a skip that ends too
early.

## Main results

* `literals_of_class` — the literals of a class in front of a word.
* `literals_of_group` — the literals of a group in front of a word.
-/

namespace TrigramSearch.Literals

open Regex Regex.Parser

theorem isLegibleFrom_start {s : List Char} {options : MatchOptions}
    (hplain : options.extended = false) (h : isLegible s options = true) :
    isLegibleFrom options.caseInsensitive s.length .other (State.start false) s = true := by
  rwa [isLegible, hplain, Bool.false_or] at h

/-- If a skip ends before a word at the latest, then there is no literal, or the word is the only
one, or the skip has ended too early. -/
theorem literals_or {skip : List Char → Option (List Char)} {stop : Char} {s w : List Char}
    {literals : List (List Char)} (hnone : skip (s ++ w) = none → literals = [])
    (hends : ∀ {t}, skip (s ++ w) = some t → ∃ u r, s = u ++ stop :: r ∧ t = r ++ w)
    (hword : skip (s ++ w) = some w → literals = [w]) :
    literals = [] ∨ literals = [w] ∨
      ∃ u r, r ≠ [] ∧ s = u ++ stop :: r ∧ skip (s ++ w) = some (r ++ w) := by
  cases hskip : skip (s ++ w) with
  | none => exact Or.inl (hnone hskip)
  | some t =>
      right
      obtain ⟨u, r, hs, rfl⟩ := hends hskip
      by_cases hr : r = []
      · left
        subst hr
        exact hword hskip
      · exact Or.inr ⟨u, r, hr, hs, rfl⟩

/-! ## Classes -/

section
variable {s rest w : List Char} {options : MatchOptions}

/-- The pass leaves a legible class where the parser does. -/
theorem skipClass_of_isLegible {a : Ast} (hplain : options.extended = false)
    (hclass : bracketedClass false ('[' :: rest) = .ok (a, []))
    (hlegible : isLegible ('[' :: rest) options = true) : skipClass rest = some [] := by
  have hstep : (State.start false).step '[' rest = .ok ((State.start false).push a, []) := by
    show (bracketedClass false ('[' :: rest)).map _ = _
    rw [hclass]
    rfl
  obtain ⟨_, hpart, _⟩ := isLegibleFrom_step (isLegibleFrom_start hplain hlegible) rfl hstep
  exact skipClass_of_bracketedClass hclass hpart

/-- **A class in front of a word.**  If the class is legible, the pass leaves it where the parser
does, and the word is the only literal. Without hazards it is legible. With them, the pass may
find no end of the class, or leave it at an earlier bracket. -/
theorem literals_of_class {negated : Bool} {set : ClassSet}
    (hparse : Ast.parse false s = .ok (.charClass negated set))
    (hcase : options.caseInsensitive = false) (hplain : options.extended = false)
    (hw : IsWord w) :
    (hasHazard s = false → isLegible s options = true) ∧
    (isLegible s options = true →
      skipClass (s.tail ++ w) = some w ∧ (ofPattern (s ++ w) options).literals = [w]) ∧
    ((ofPattern (s ++ w) options).literals = [] ∨
      (ofPattern (s ++ w) options).literals = [w] ∨
      ∃ u r, r ≠ [] ∧ s.tail = u ++ ']' :: r ∧ skipClass (s.tail ++ w) = some (r ++ w)) := by
  obtain ⟨rest, rfl, hclass⟩ := bracketedClass_of_parse hparse
  refine ⟨isLegible_of_hazardFree options, ?_, ?_⟩
  · intro hlegible
    have hskip := skipClass_append (skipClass_of_isLegible hplain hclass hlegible) w
    exact ⟨hskip, literals_of_skipClass hcase hplain hw hskip⟩
  · refine literals_or ?_ (skipClass_ends (hw.not_mem (by decide)))
      (literals_of_skipClass hcase hplain hw)
    intro hskip
    rw [List.tail_cons] at hskip
    rw [List.cons_append, literals_eq hcase hplain, scan?_class, hskip]
    rfl

/-- A bracket that stands for itself, ranges, a class with a name, operators and a nested class. -/
theorem literals_of_class_nested :
    let s := "[^][:alpha:]\\]+-z&&[^\\x5B-~[x]]&&[\\pL]]".toList
    let w := "word".toList
    (∃ set, Ast.parse false s = .ok (.charClass true set)) ∧ hasHazard s = false ∧ IsWord w ∧
      skipClass (s.tail ++ w) = some w ∧ (ofPattern (s ++ w) {}).literals = [w] := by
  intro s w
  have hfree : hasHazard s = false := by decide +kernel
  have hw : IsWord w := by decide +kernel
  have hparse : ∃ set, Ast.parse false s = .ok (.charClass true set) := ⟨_, rfl⟩
  obtain ⟨set, hset⟩ := hparse
  have hskipped : (hasHazard s = false → isLegible s {} = true) ∧ _ :=
    literals_of_class hset rfl rfl hw
  obtain ⟨hlegible, hliterals, _⟩ := hskipped
  exact ⟨⟨set, hset⟩, hfree, hw, hliterals (hlegible hfree)⟩

/-- A class inside of a class begins with `[:` but has no name. The pass takes the next bracket for
its end, though it is escaped, and a bracket of the class becomes text. -/
theorem class_left_too_early :
    let s := "[[:\\]]]".toList
    let w := "word".toList
    (∃ set, Ast.parse false s = .ok (.charClass false set)) ∧ IsWord w ∧
      (ofPattern (s ++ w) {}).literals = ["]word".toList] := by
  intro s w
  exact ⟨⟨_, rfl⟩, by decide +kernel, by decide +kernel⟩

end

/-! ## Groups -/

/-- Flags are read behind those that have been read before. -/
theorem flags_extend {items items' : List FlagItem} {last : Char} {s rest : List Char}
    (h : flags items s = .ok ((items', last), rest)) : items <+: items' := by
  induction s generalizing items with
  | nil => cases h
  | cons c s ih =>
      rw [flags] at h
      repeat' split at h
      all_goals first | cases h | skip
      · exact List.prefix_refl _
      · exact (List.prefix_append _ _).trans (ih h)
      · exact (List.prefix_append _ _).trans (ih h)

/-- A group without flags has its colon right after the question mark. -/
theorem flags_none {s rest : List Char} (h : flags [] s = .ok (([], ':'), rest)) :
    s = ':' :: rest := by
  cases s with
  | nil => cases h
  | cons c s =>
      rw [flags] at h
      repeat' split at h
      all_goals first | cases h | skip
      · rfl
      · exact absurd (List.prefix_nil.mp (flags_extend h)) (List.cons_ne_nil _ _)
      · exact absurd (List.prefix_nil.mp (flags_extend h)) (List.cons_ne_nil _ _)

/-- A group that opens without flags and without setting any starts harmlessly. -/
theorem certain_of_groupStart {rest rest' : List Char} {start : GroupStart}
    (h : groupStart false rest = .ok (start, rest')) (hgroup : ∀ items, start ≠ .setFlags items)
    (hflags : ∀ items, start = .plain items → items = []) : groupIsUncertain rest = false := by
  have hblank : skipBlanks false rest = rest := rfl
  rw [groupStart, hblank] at h
  dsimp only at h
  split at h
  all_goals first | cases h | skip
  · rfl
  · rfl
  · split at h
    · cases h
    rename_i items last after hread
    split at h
    · rename_i hcolon
      obtain ⟨rfl, rfl⟩ := Prod.mk.inj (Except.ok.inj h)
      rw [hflags items rfl, hcolon] at hread
      rw [flags_none hread]
      rfl
    · split at h
      · cases h
      · obtain ⟨rfl, _⟩ := Prod.mk.inj (Except.ok.inj h)
        exact absurd rfl (hgroup items)
  · rename_i hquestion
    rw [groupIsUncertain.eq_def]
    split
    · exact absurd rfl (hquestion _)
    · exact absurd rfl (hquestion _)
    · exact absurd rfl (hquestion _)
    · rfl

section
variable {s rest w : List Char} {options : MatchOptions}

/-- The pass leaves a legible group where the parser does. -/
theorem skipGroup_of_isLegible {capturing : Bool} {body : Ast} (hplain : options.extended = false)
    (hparse : Ast.parse false ('(' :: rest) = .ok (.group capturing [] body))
    (hlegible : isLegible ('(' :: rest) options = true) : skipGroup rest = some [] := by
  obtain ⟨rest₀, start, names, rest', hrest, hstart, hgroup, hflags, hstep, hrun⟩ :=
    openGroup_of_parse hparse
  obtain rfl := (List.cons.inj hrest).2
  obtain ⟨_, hpart, _, hlater⟩ :=
    isLegibleFrom_step (isLegibleFrom_start hplain hlegible) rfl hstep
  have hopened : Crosses groupMove 0 rest rest' := by
    have hdeeper : (State.start false).groups.length <
        ((State.start false).enter capturing [] names).groups.length := Nat.lt_succ_self _
    rw [partIsLegible, if_neg (by decide), if_pos hdeeper] at hpart
    exact crosses_sound hpart
  obtain ⟨fuel, st, t, _, hafter, hskips, hclosed⟩ :=
    group_skipped ⟨hrun, hlater⟩ (List.nil_append _).symm
  -- the tree is this group alone, so nothing is left of the pattern
  obtain ⟨body', hparts⟩ := hclosed.parts
  obtain ⟨hend, _⟩ := rest_of_single hafter.run rfl hclosed.groups hclosed.branches hparts
  have hnil : t = [] := by
    rw [hclosed.extended] at hend
    exact hend
  subst hnil
  rw [skipGroup, certain_of_groupStart hstart hgroup hflags, if_neg Bool.false_ne_true]
  exact skipGroupBody_of_crosses (Nat.le_refl _) (hopened.trans hskips)

/-- **A group in front of a word.**  If the group is legible, the pass leaves it where the parser
does, and the word is the only literal. Without hazards it is legible. With them, the pass may
find no end of the group, or leave it at an earlier parenthesis. -/
theorem literals_of_group {capturing : Bool} {body : Ast}
    (hparse : Ast.parse false s = .ok (.group capturing [] body))
    (hcase : options.caseInsensitive = false) (hplain : options.extended = false)
    (hw : IsWord w) :
    (hasHazard s = false → isLegible s options = true) ∧
    (isLegible s options = true →
      skipGroup (s.tail ++ w) = some w ∧ (ofPattern (s ++ w) options).literals = [w]) ∧
    ((ofPattern (s ++ w) options).literals = [] ∨
      (ofPattern (s ++ w) options).literals = [w] ∨
      ∃ u r, r ≠ [] ∧ s.tail = u ++ ')' :: r ∧ skipGroup (s.tail ++ w) = some (r ++ w)) := by
  obtain ⟨rest, _, _, _, rfl, _⟩ := openGroup_of_parse hparse
  refine ⟨isLegible_of_hazardFree options, ?_, ?_⟩
  · intro hlegible
    have hskip := skipGroup_append (skipGroup_of_isLegible hplain hparse hlegible) w
    exact ⟨hskip, literals_of_skipGroup hcase hplain hw hskip⟩
  · refine literals_or ?_ (skipGroup_ends (hw.not_mem (by decide)))
      (literals_of_skipGroup hcase hplain hw)
    intro hskip
    rw [List.tail_cons] at hskip
    rw [List.cons_append, literals_eq hcase hplain, scan?_group, hskip]
    rfl

/-- Groups in a group, with a name, flags, a class and escaped parentheses. -/
theorem literals_of_group_nested :
    let s := "(?P<n>a|(?i-s:[)(]\\(b)*(?m)\\)(?<k>c+?))".toList
    let w := "word".toList
    (∃ body, Ast.parse false s = .ok (.group true [] body)) ∧ hasHazard s = false ∧ IsWord w ∧
      skipGroup (s.tail ++ w) = some w ∧ (ofPattern (s ++ w) {}).literals = [w] := by
  intro s w
  have hfree : hasHazard s = false := by decide +kernel
  have hw : IsWord w := by decide +kernel
  have hparse : ∃ body, Ast.parse false s = .ok (.group true [] body) := ⟨_, rfl⟩
  obtain ⟨body, hbody⟩ := hparse
  have hskipped : (hasHazard s = false → isLegible s {} = true) ∧ _ :=
    literals_of_group hbody rfl rfl hw
  obtain ⟨hlegible, hliterals, _⟩ := hskipped
  exact ⟨⟨body, hbody⟩, hfree, hw, hliterals (hlegible hfree)⟩

/-- In the extended syntax inside of a group, a comment hides a parenthesis from the parser only.
The pass leaves the group there, and what follows in the comment becomes text. -/
theorem group_left_too_early :
    let s := "((?x)#)\nabc #(\n)".toList
    let w := "word".toList
    (∃ body, Ast.parse false s = .ok (.group true [] body)) ∧ IsWord w ∧
      (ofPattern (s ++ w) {}).literals = ["\nabc #".toList, w] := by
  intro s w
  exact ⟨⟨_, rfl⟩, by decide +kernel, by decide +kernel⟩

end

end TrigramSearch.Literals
