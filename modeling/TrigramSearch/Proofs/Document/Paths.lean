import Mathlib.Data.List.Basic
import TrigramSearch.Document.Id

/-!
# Paths into documents

A path is split at its dots and followed one member at a time.  So the path `p.q`
leads where `q` leads from the place that `p` leads to, and nowhere if one of the
two leads nowhere (`field?_dotted`).

What a path finds is described without its text by `Leads`: there are members of
objects within objects, under names that a path can speak of, and the value is
that of the last of them.  A name is spoken of if it is not empty and has no dot
(`IsSegment`); a member under any other name could be taken out of its object
and no path would notice.

## Main results

* `field?_dotted`, `text?_dotted`, `resolve_dotted`: fields, texts and identities
  at a path with a dot in it.
* `field?_eq_some_iff`: what a path finds.
* `field?_hidden`: members that no path finds.
* `fields_compose`: paths compose, and what they find lies as deep in the document
  as the path has segments.
-/

namespace TrigramSearch.Document

open Json

/-! ## Segments -/

theorem segments_eq_splitOn (path : List Char) : segments path = path.splitOn '.' := by
  induction path with
  | nil => rfl
  | cons c rest ih =>
      rw [segments, List.splitOn_cons_eq_if_modifyHead, ih]
      by_cases hc : c = '.'
      · rw [if_pos hc, if_pos (beq_iff_eq.mpr hc)]
      · rw [if_neg hc, if_neg (by simpa using hc)]
        cases hrest : rest.splitOn '.' with
        | nil => exact absurd hrest (List.splitOn_ne_nil '.' rest)
        | cons s more => rfl

theorem segments_ne_nil (path : List Char) : segments path ≠ [] := by
  rw [segments_eq_splitOn]
  exact List.splitOn_ne_nil '.' path

theorem segments_dotted (p q : List Char) :
    segments (p ++ '.' :: q) = segments p ++ segments q := by
  simp only [segments_eq_splitOn]
  exact List.splitOn_append_cons_self p q

theorem length_segments (path : List Char) : (segments path).length = path.count '.' + 1 := by
  induction path with
  | nil => rfl
  | cons c rest ih =>
      rw [segments_eq_splitOn, List.splitOn_cons_eq_if_modifyHead, ← segments_eq_splitOn]
      by_cases hc : c = '.' <;> simp [hc, ih]

theorem dot_not_mem_of_mem_segments {path segment : List Char} (h : segment ∈ segments path) :
    '.' ∉ segment := by
  induction path generalizing segment with
  | nil =>
      rw [List.mem_singleton.mp h]
      exact List.not_mem_nil
  | cons c rest ih =>
      rw [segments] at h
      split at h
      · rcases List.mem_cons.mp h with rfl | hrest
        · exact List.not_mem_nil
        · exact ih hrest
      · rename_i hc
        split at h
        · rename_i s more hrest
          rw [hrest] at ih
          rcases List.mem_cons.mp h with rfl | hmore
          · rw [List.mem_cons, not_or]
            exact ⟨Ne.symm hc, ih List.mem_cons_self⟩
          · exact ih (List.mem_cons_of_mem s hmore)
        · rename_i hrest
          exact absurd hrest (segments_ne_nil rest)

/-! ## Paths with a dot in them -/

theorem atPath?_dotted (d : Value) (p q : List Char) :
    atPath? d (p ++ '.' :: q) = (atPath? d p).bind fun w => atPath? w q := by
  rw [atPath?, segments_dotted, List.foldlM_append]
  rfl

/-- The path `p.q` leads where `q` leads from the place that `p` leads to. -/
theorem field?_dotted (d : Value) (p q : String) :
    field? d (p ++ "." ++ q) = (field? d p).bind fun w => field? w q := by
  have htext : (p ++ "." ++ q).toList = p.toList ++ '.' :: q.toList := by simp
  rw [field?, htext]
  exact atPath?_dotted d p.toList q.toList

theorem text?_dotted (d : Value) (p q : String) :
    text? d (p ++ "." ++ q) = (field? d p).bind fun w => text? w q := by
  rw [text?, field?_dotted]
  cases field? d p <;> rfl

/-- An identity at `p.q` is one at `q` in the value at `p`, if there is such a value. -/
theorem resolve_dotted (d : Value) (position : Nat) (p q : String) :
    DocumentId.resolve d position (p ++ "." ++ q) =
      ((field? d p).map fun w => DocumentId.resolve w position q).getD (.position position) := by
  rw [DocumentId.resolve, field?_dotted]
  cases field? d p <;> rfl

/-! ## What a path finds -/

/-- A name that can stand between the dots of a path. -/
def IsSegment (name : String) : Prop := name ≠ "" ∧ '.' ∉ name.toList

/-- Members of these names, each in the object that the one before has for its value, lead from
one value to another. -/
inductive Leads : Value → List String → Value → Prop
  | here (v : Value) : Leads v [] v
  | into {members : List (String × Value)} {name : String} {names : List String} {w v : Value}
      (hmember : Value.member? name members = some w) (hrest : Leads w names v) :
      Leads (.object members) (name :: names) v

theorem child?_eq_some_iff {d v : Value} {name : String} :
    child? d name.toList = some v ↔ name ≠ "" ∧ Leads d [name] v := by
  unfold child?
  by_cases hname : name = ""
  · simp [hname]
  · have hsome : ¬ name.toList.isEmpty = true := by simpa using hname
    rw [if_neg hsome]
    constructor
    · intro h
      split at h
      · rw [String.ofList_toList] at h
        exact ⟨hname, .into h (.here v)⟩
      · cases h
    · rintro ⟨_, hleads⟩
      cases hleads with
      | into hmember hrest =>
          cases hrest
          rwa [← String.ofList_toList (s := name)] at hmember

theorem leads_cons_iff {d v : Value} {name : String} {names : List String} :
    Leads d (name :: names) v ↔ ∃ w, Leads d [name] w ∧ Leads w names v := by
  constructor
  · rintro ⟨⟩
    rename_i members w hmember hrest
    exact ⟨w, .into hmember (.here w), hrest⟩
  · rintro ⟨w, hfirst, hrest⟩
    cases hfirst with
    | into hmember hhere =>
        cases hhere
        exact .into hmember hrest

theorem foldlM_child?_eq_some_iff {names : List String} {d v : Value} :
    (names.map String.toList).foldlM child? d = some v ↔ "" ∉ names ∧ Leads d names v := by
  induction names generalizing d with
  | nil =>
      simp only [List.map_nil, List.foldlM_nil, List.not_mem_nil, not_false_eq_true, true_and]
      constructor
      · rintro ⟨⟩
        exact .here v
      · rintro ⟨⟩
        rfl
  | cons name names ih =>
      rw [List.map_cons, List.foldlM_cons, leads_cons_iff, List.mem_cons, not_or]
      change (child? d name.toList).bind _ = some v ↔ _
      simp only [Option.bind_eq_some_iff, child?_eq_some_iff, ih]
      constructor
      · rintro ⟨w, ⟨hname, hfirst⟩, hnames, hrest⟩
        exact ⟨⟨Ne.symm hname, hnames⟩, w, hfirst, hrest⟩
      · rintro ⟨⟨hname, hnames⟩, w, hfirst, hrest⟩
        exact ⟨w, ⟨Ne.symm hname, hfirst⟩, hnames, hrest⟩

/-- A path is made of at least one segment, and of no other names than its segments. -/
theorem segments_eq_map_iff {path : String} {names : List String} :
    segments path.toList = names.map String.toList ↔
      names ≠ [] ∧ (∀ name ∈ names, '.' ∉ name.toList) ∧ ".".intercalate names = path := by
  have hchars : ".".intercalate names = path ↔
      ['.'].intercalate (names.map String.toList) = path.toList := by
    rw [← String.toList_inj, String.toList_intercalate]
    rfl
  rw [segments_eq_splitOn, hchars]
  constructor
  · intro h
    refine ⟨?_, ?_, ?_⟩
    · rintro rfl
      exact List.splitOn_ne_nil '.' path.toList h
    · intro name hname hdot
      have hmem : name.toList ∈ segments path.toList := by
        rw [segments_eq_splitOn, h]
        exact List.mem_map_of_mem hname
      exact absurd hdot (dot_not_mem_of_mem_segments hmem)
    · rw [← h, List.intercalate_splitOn]
  · rintro ⟨hne, hdots, hpath⟩
    rw [← hpath]
    apply List.splitOn_intercalate
    · simpa using hdots
    · simpa using hne

/-- A path finds what the members named by its segments lead to. -/
theorem field?_eq_some_iff {d v : Value} {path : String} :
    field? d path = some v ↔
      ∃ names, names ≠ [] ∧ (∀ name ∈ names, IsSegment name) ∧
        ".".intercalate names = path ∧ Leads d names v := by
  constructor
  · intro h
    obtain ⟨names, hnames⟩ : ∃ names : List String,
        segments path.toList = names.map String.toList := by
      refine ⟨(segments path.toList).map String.ofList, ?_⟩
      simp [Function.comp_def]
    rw [field?, atPath?, hnames, foldlM_child?_eq_some_iff] at h
    obtain ⟨hne, hdots, hpath⟩ := segments_eq_map_iff.mp hnames
    refine ⟨names, hne, ?_, hpath, h.2⟩
    intro name hname
    refine ⟨?_, hdots name hname⟩
    rintro rfl
    exact h.1 hname
  · rintro ⟨names, hne, hsegments, hpath, hleads⟩
    have hnames := segments_eq_map_iff.mpr ⟨hne, fun name hname => (hsegments name hname).2, hpath⟩
    rw [field?, atPath?, hnames, foldlM_child?_eq_some_iff]
    exact ⟨fun hempty => (hsegments "" hempty).1 rfl, hleads⟩

/-! ## Members that no path finds -/

section
variable {front back : List (String × Value)} {hidden : String × Value}

theorem member?_of_ne {name : String} (h : hidden.1 ≠ name) :
    Value.member? name (front ++ hidden :: back) = Value.member? name (front ++ back) := by
  induction front with
  | nil =>
      rw [List.nil_append, List.nil_append, Value.member?, if_neg h]
  | cons first front ih =>
      rw [List.cons_append, List.cons_append, Value.member?, Value.member?, ih]

theorem child?_hidden (h : ¬ IsSegment hidden.1) {segment : List Char} (hdot : '.' ∉ segment) :
    child? (.object (front ++ hidden :: back)) segment =
      child? (.object (front ++ back)) segment := by
  unfold child?
  by_cases hempty : segment.isEmpty = true
  · rw [if_pos hempty, if_pos hempty]
  · rw [if_neg hempty, if_neg hempty]
    have hne : hidden.1 ≠ String.ofList segment := by
      intro hname
      apply h
      rw [hname]
      exact ⟨by simpa using hempty, by simpa using hdot⟩
    exact member?_of_ne hne

/-- No path notices whether a member is there whose name is empty or has a dot. -/
theorem field?_hidden (h : ¬ IsSegment hidden.1) (path : String) :
    field? (.object (front ++ hidden :: back)) path = field? (.object (front ++ back)) path := by
  have hdots : ∀ segment ∈ segments path.toList, '.' ∉ segment := by
    intro segment hsegment
    exact dot_not_mem_of_mem_segments hsegment
  rw [field?, field?, atPath?, atPath?]
  cases hpath : segments path.toList with
  | nil => exact absurd hpath (segments_ne_nil path.toList)
  | cons segment rest =>
      rw [hpath] at hdots
      rw [List.foldlM_cons, List.foldlM_cons, child?_hidden h (hdots segment List.mem_cons_self)]

end

/-! ## How deep a path leads -/

/-- A value stands a number of levels inside of another, each level an object or an array. -/
inductive LiesAt : Nat → Value → Value → Prop
  | here (v : Value) : LiesAt 0 v v
  | member {levels : Nat} {members : List (String × Value)} {name : String} {w v : Value}
      (hmem : (name, w) ∈ members) (hrest : LiesAt levels w v) :
      LiesAt (levels + 1) (.object members) v
  | item {levels : Nat} {items : List Value} {w v : Value}
      (hmem : w ∈ items) (hrest : LiesAt levels w v) : LiesAt (levels + 1) (.array items) v

/-- Each level makes a value smaller. -/
theorem LiesAt.sizeOf_le {levels : Nat} {d v : Value} (h : LiesAt levels d v) :
    sizeOf v + levels ≤ sizeOf d := by
  induction h with
  | here v => exact Nat.le_refl _
  | member hmem _ ih =>
      have hsize := List.sizeOf_lt_of_mem hmem
      simp only [Prod.mk.sizeOf_spec, Value.object.sizeOf_spec] at hsize ⊢
      omega
  | item hmem _ ih =>
      have hsize := List.sizeOf_lt_of_mem hmem
      simp only [Value.array.sizeOf_spec]
      omega

theorem LiesAt.ne {levels : Nat} {d v : Value} (h : LiesAt (levels + 1) d v) : v ≠ d := by
  rintro rfl
  have hsize := h.sizeOf_le
  omega

theorem mem_of_member? {name : String} {members : List (String × Value)} {w : Value}
    (h : Value.member? name members = some w) : (name, w) ∈ members := by
  induction members with
  | nil => cases h
  | cons first rest ih =>
      rw [Value.member?] at h
      split at h
      · rename_i hname
        obtain rfl := Option.some.inj h
        rw [← hname]
        exact List.mem_cons_self
      · exact List.mem_cons_of_mem first (ih h)

theorem Leads.liesAt {d v : Value} {names : List String} (h : Leads d names v) :
    LiesAt names.length d v := by
  induction h with
  | here v => exact .here v
  | into hmember _ ih => exact .member (mem_of_member? hmember) ih

/-- A path leads as deep into a document as it has segments, one more than it has dots. -/
theorem liesAt_of_field? {d v : Value} {path : String} (h : field? d path = some v) :
    LiesAt (path.toList.count '.' + 1) d v := by
  obtain ⟨names, hne, hsegments, hpath, hleads⟩ := field?_eq_some_iff.mp h
  have hnames := segments_eq_map_iff.mpr ⟨hne, fun name hname => (hsegments name hname).2, hpath⟩
  rw [← length_segments, hnames, List.length_map]
  exact hleads.liesAt

/-- **Paths compose.**  The path `p.q` finds what `q` finds in what `p` finds, and nothing if one
of the two finds nothing.  What a path finds are the members named by its segments; so a member
whose name is empty or has a dot is out of reach, wherever it stands.  All that is found lies
inside of the document, as deep as the path has segments. -/
theorem fields_compose :
    (∀ (d : Value) (p q : String),
      field? d (p ++ "." ++ q) = (field? d p).bind fun w => field? w q) ∧
    (∀ (d : Value) (p q : String), field? d (p ++ "." ++ q) = none ↔
      field? d p = none ∨ ∃ w, field? d p = some w ∧ field? w q = none) ∧
    (∀ (d : Value) (path : String) (v : Value), field? d path = some v ↔
      ∃ names, names ≠ [] ∧ (∀ name ∈ names, IsSegment name) ∧
        ".".intercalate names = path ∧ Leads d names v) ∧
    (∀ (front back : List (String × Value)) (hidden : String × Value), ¬ IsSegment hidden.1 →
      (∀ path, field? (.object (front ++ hidden :: back)) path =
        field? (.object (front ++ back)) path) ∧
      ∀ (d : Value) (p q : String), field? d p = some (.object (front ++ hidden :: back)) →
        field? d (p ++ "." ++ q) = field? (.object (front ++ back)) q) ∧
    (∀ (d : Value) (path : String) (v : Value), field? d path = some v →
      LiesAt (path.toList.count '.' + 1) d v ∧ v ≠ d) := by
  refine ⟨field?_dotted, ?_, fun d path v => field?_eq_some_iff, ?_, ?_⟩
  · intro d p q
    rw [field?_dotted]
    cases field? d p <;> simp
  · intro front back hidden h
    refine ⟨field?_hidden h, ?_⟩
    intro d p q hp
    rw [field?_dotted, hp, Option.bind_some, field?_hidden h]
  · intro d path v h
    have hlies := liesAt_of_field? h
    exact ⟨hlies, hlies.ne⟩

/-- A path of two segments through an object with a member `""` and a member `"c.d"`, neither of
which it can find; and another path through an empty segment. -/
theorem fields_compose_hidden :
    let inner : List (String × Value) := [("c", .bool true)]
    let d : Value := .object [("a", .object (("", .null) :: inner)), ("a.c", .null)]
    (field? d "a" = some (.object ([] ++ ("", .null) :: inner)) ∧ ¬ IsSegment "" ∧
        field? d ("a" ++ "." ++ "c") = field? (.object ([] ++ inner)) "c") ∧
      field? d "a.c" = some (.bool true) ∧ LiesAt 2 d (.bool true) ∧ .bool true ≠ d ∧
      field? d ("a." ++ "." ++ "c") = none := by
  intro inner d
  obtain ⟨_, hnone, _, hhidden, hdepth⟩ := fields_compose
  have hempty : ¬ IsSegment "" := fun h => h.1 rfl
  have ha : field? d "a" = some (.object ([] ++ ("", .null) :: inner)) := by cbv
  have hac : field? d "a.c" = some (.bool true) := by cbv
  have hout := (hhidden [] inner ("", .null) hempty).2 d "a" "c" ha
  have hfound := hdepth d "a.c" (.bool true) hac
  have hgap : field? d "a." = none := by cbv
  exact ⟨⟨ha, hempty, hout⟩, hac, hfound.1, hfound.2, (hnone d "a." "c").mpr (.inl hgap)⟩

end TrigramSearch.Document
