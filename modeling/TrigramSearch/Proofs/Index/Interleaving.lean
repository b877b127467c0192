import Mathlib.Algebra.GroupWithZero.Nat
import TrigramSearch.Proofs.Bloom.Answers
import TrigramSearch.Proofs.Bloom.Updates
import TrigramSearch.Proofs.Index.Build

/-!
# Building an index with several workers

Documents may be added by workers at the same time.  A worker looks for the
filter of its document, puts an empty one there if it finds none, and sets the
bits of its text one by one; between any two of these turns others may take
theirs, and several of them may work on one filter.  A `Team` takes its turns in
the order of a schedule, and nothing is assumed about the schedule.

No turn takes anything back, and what it adds does not depend on what the others
have added.  So at any moment the identities are those of the workers that have
their filter, and the set bits are those that the workers have set (`Reflects`);
when all have finished, the index holds what it would hold after adding the
documents one after the other.

## Main results

* `Worker.advance_adds`: what one turn adds to the index is what the worker does.
* `Team.turn_reflects`, `Team.run_reflects`: what one turn and what all turns of a
  schedule preserve.
* `Team.exists_finished`: no schedule leads to a dead end.
* `Team.finished_holds`: what the index of a finished team holds.
* `build_any_order`: what a built index contains, and that neither the order of
  the documents nor the schedule of a team matters.
-/

namespace TrigramSearch

/-! ## Workers -/

/-- How far a worker has come with its document. -/
inductive Stage where
  | waiting
  /-- No filter was there when the worker looked for it. -/
  | missing
  /-- The worker has the filter, and has set this many of its bits. -/
  | writing (count : Nat)
  | finished
deriving DecidableEq

/-- A worker with its document, that is the text it has to add under an identity.  There is nothing
to add for a document without text. -/
structure Worker where
  job : Option (DocumentId × List Char)
  stage : Stage

namespace Worker

/-- One turn of a worker.  Each turn reads the index once, or changes one entry or one bit. -/
def advance (x : BloomIndex) (w : Worker) : BloomIndex × Worker :=
  match w.job with
  | none => (x, { w with stage := .finished })
  | some (id, text) =>
    match w.stage with
    | .waiting => (x, { w with stage := if x.contains id then .writing 0 else .missing })
    | .missing => (x.register id, { w with stage := .writing 0 })
    | .writing n =>
      match (DocumentFilter.bitsOf x.sizeBytes x.hashCount text)[n]? with
      | some i => (x.setBit id i, { w with stage := .writing (n + 1) })
      | none => (x, { w with stage := .finished })
    | .finished => (x, w)

/-- What a worker adds to the number of indexed documents. -/
def result (w : Worker) : Nat := if w.job.isSome then 1 else 0

/-- The worker has made sure that there is a filter for the identity. -/
def Knows (w : Worker) (id : DocumentId) : Prop :=
  (∃ text, w.job = some (id, text)) ∧ ((∃ n, w.stage = .writing n) ∨ w.stage = .finished)

/-- The worker has set the bit in the filter of the identity. -/
def Wrote (sizeBytes hashCount : Nat) (w : Worker) (id : DocumentId) (i : Nat) : Prop :=
  ∃ text, w.job = some (id, text) ∧
    ((∃ n, w.stage = .writing n ∧ i ∈ (DocumentFilter.bitsOf sizeBytes hashCount text).take n) ∨
      (w.stage = .finished ∧ i ∈ DocumentFilter.bitsOf sizeBytes hashCount text))

/-- What a turn of a worker has added to the index is what the worker has done since. -/
structure Adds (sizeBytes hashCount : Nat) (x : BloomIndex) (w : Worker) (x' : BloomIndex)
    (w' : Worker) : Prop where
  job : w'.job = w.job
  uniform : x'.Uniform sizeBytes hashCount
  known : ∀ id, x'.contains id = true ↔ x.contains id = true ∨ w'.Knows id
  bits : ∀ id j, x'.HasBit id j ↔ x.HasBit id j ∨ w'.Wrote sizeBytes hashCount id j
  knows : ∀ id, w.Knows id → w'.Knows id
  wrote : ∀ id j, w.Wrote sizeBytes hashCount id j → w'.Wrote sizeBytes hashCount id j

section
variable {x : BloomIndex} {sizeBytes hashCount : Nat} {id : DocumentId} {text : List Char}

theorem knows_iff {stage : Stage} {k : DocumentId} :
    Knows ⟨some (id, text), stage⟩ k ↔
      k = id ∧ ((∃ n, stage = .writing n) ∨ stage = .finished) := by
  simp [Knows, eq_comm]

theorem wrote_iff {stage : Stage} {k : DocumentId} {j : Nat} :
    Wrote sizeBytes hashCount ⟨some (id, text), stage⟩ k j ↔
      k = id ∧ ((∃ n, stage = .writing n ∧
          j ∈ (DocumentFilter.bitsOf sizeBytes hashCount text).take n) ∨
        (stage = .finished ∧ j ∈ DocumentFilter.bitsOf sizeBytes hashCount text)) := by
  simp [Wrote, eq_comm]

/-- A turn that leaves the index alone adds nothing that the index does not show. -/
theorem adds_nothing (h : x.Uniform sizeBytes hashCount) {w w' : Worker} (hjob : w'.job = w.job)
    (hknows : ∀ id, w.Knows id → w'.Knows id)
    (hwrote : ∀ id j, w.Wrote sizeBytes hashCount id j → w'.Wrote sizeBytes hashCount id j)
    (hknown : ∀ id, w'.Knows id → x.contains id = true)
    (hbits : ∀ id j, w'.Wrote sizeBytes hashCount id j → x.HasBit id j) :
    Adds sizeBytes hashCount x w x w' where
  job := hjob
  uniform := h
  known id := ⟨.inl, fun hid => hid.elim (fun hx => hx) (hknown id)⟩
  bits id j := ⟨.inl, fun hj => hj.elim (fun hx => hx) (hbits id j)⟩
  knows := hknows
  wrote := hwrote

/-- The next bit of a text is set in a filter that is there. -/
theorem writes_bit (h : x.Uniform sizeBytes hashCount) {n i : Nat} (hid : x.contains id = true)
    (hbits : ∀ j ∈ (DocumentFilter.bitsOf sizeBytes hashCount text).take n, x.HasBit id j)
    (hbit : (DocumentFilter.bitsOf sizeBytes hashCount text)[n]? = some i) :
    Adds sizeBytes hashCount x ⟨some (id, text), .writing n⟩ (x.setBit id i)
      ⟨some (id, text), .writing (n + 1)⟩ := by
  have hmem := List.mem_of_getElem? hbit
  have hi : i < (DocumentFilter.empty sizeBytes hashCount).bitCount := by
    obtain ⟨g, _, hg⟩ := List.mem_flatMap.mp hmem
    exact DocumentFilter.positions_lt (DocumentFilter.empty_sized sizeBytes hashCount) g i hg
  have hnext : ∀ j, j ∈ (DocumentFilter.bitsOf sizeBytes hashCount text).take (n + 1) ↔
      j ∈ (DocumentFilter.bitsOf sizeBytes hashCount text).take n ∨ j = i := by
    intro j
    rw [List.take_add_one, hbit, Option.toList_some, List.mem_append, List.mem_singleton]
  refine ⟨rfl, h.setBit id hi, ?_, ?_, ?_, ?_⟩
  · intro k
    rw [BloomIndex.contains_setBit, knows_iff]
    refine ⟨.inl, ?_⟩
    rintro (hk | ⟨rfl, _⟩)
    · exact hk
    · exact hid
  · intro k j
    rw [BloomIndex.hasBit_setBit h id k hi, wrote_iff]
    constructor
    · rintro (hj | ⟨_, hk, rfl⟩)
      · exact .inl hj
      · exact .inr ⟨hk, .inl ⟨n + 1, rfl, (hnext j).mpr (.inr rfl)⟩⟩
    · rintro (hj | ⟨rfl, ⟨m, hm, hj⟩ | ⟨hm, _⟩⟩)
      · exact .inl hj
      · cases hm
        rcases (hnext j).mp hj with hold | hnew
        · exact .inl (hbits j hold)
        · exact .inr ⟨hid, rfl, hnew⟩
      · cases hm
  · simp [knows_iff]
  · intro k j
    simp only [wrote_iff]
    rintro ⟨hk, ⟨m, hm, hj⟩ | ⟨hm, _⟩⟩
    · cases hm
      exact ⟨hk, .inl ⟨n + 1, rfl, (hnext j).mpr (.inl hj)⟩⟩
    · cases hm

/-- A turn adds to the index what it adds to the work done, provided that the index shows the work
done before. -/
theorem advance_adds (h : x.Uniform sizeBytes hashCount) (w : Worker)
    (hknown : ∀ id, w.Knows id → x.contains id = true)
    (hbits : ∀ id j, w.Wrote sizeBytes hashCount id j → x.HasBit id j) :
    Adds sizeBytes hashCount x w (w.advance x).1 (w.advance x).2 := by
  obtain ⟨job, stage⟩ := w
  cases job with
  | none =>
      simp only [advance]
      refine adds_nothing h rfl ?_ ?_ ?_ ?_
      · simp [Knows]
      · simp [Wrote]
      · simp [Knows]
      · simp [Wrote]
  | some entry =>
      obtain ⟨id, text⟩ := entry
      have hsize : DocumentFilter.bitsOf x.sizeBytes x.hashCount text =
          DocumentFilter.bitsOf sizeBytes hashCount text := by
        rw [h.bytes, h.hashes, DocumentFilter.bitsOf_max]
      cases stage with
      | waiting =>
          simp only [advance]
          refine adds_nothing h rfl ?_ ?_ ?_ ?_
          · simp [knows_iff]
          · simp [wrote_iff]
          · intro k hk
            obtain ⟨rfl, hstage⟩ := knows_iff.mp hk
            by_cases hid : x.contains k = true
            · exact hid
            · simp [hid] at hstage
          · intro k j hj
            obtain ⟨_, hstage⟩ := wrote_iff.mp hj
            by_cases hid : x.contains id = true <;> simp [hid] at hstage
      | missing =>
          exact ⟨rfl, h.register id, by simp [advance, BloomIndex.contains_register, knows_iff],
            by simp [advance, BloomIndex.hasBit_register, wrote_iff], by simp [knows_iff],
            by simp [wrote_iff]⟩
      | writing n =>
          have hid : x.contains id = true := hknown id (by simp [knows_iff])
          have hset : ∀ j ∈ (DocumentFilter.bitsOf sizeBytes hashCount text).take n,
              x.HasBit id j := fun j hj => hbits id j (wrote_iff.mpr ⟨rfl, .inl ⟨n, rfl, hj⟩⟩)
          simp only [advance, hsize]
          cases hbit : (DocumentFilter.bitsOf sizeBytes hashCount text)[n]? with
          | some i => exact writes_bit h hid hset hbit
          | none =>
              -- there is no further bit: those that are set are all
              rw [List.take_of_length_le (List.getElem?_eq_none_iff.mp hbit)] at hset
              refine adds_nothing h rfl ?_ ?_ ?_ ?_
              · simp [knows_iff]
              · intro k j hj
                obtain ⟨hk, ⟨m, _, hj⟩ | ⟨hm, _⟩⟩ := wrote_iff.mp hj
                · exact wrote_iff.mpr ⟨hk, .inr ⟨rfl, List.mem_of_mem_take hj⟩⟩
                · cases hm
              · intro k hk
                rw [(knows_iff.mp hk).1]
                exact hid
              · intro k j hj
                obtain ⟨rfl, ⟨m, hm, _⟩ | ⟨_, hj⟩⟩ := wrote_iff.mp hj
                · cases hm
                · exact hset j hj
      | finished => exact adds_nothing h rfl (fun _ hk => hk) (fun _ _ hj => hj) hknown hbits

/-- How many turns a worker has left. -/
def left (sizeBytes hashCount : Nat) (w : Worker) : Nat :=
  let bits := (w.job.map fun entry =>
    (DocumentFilter.bitsOf sizeBytes hashCount entry.2).length).getD 0
  match w.stage with
  | .waiting => bits + 3
  | .missing => bits + 2
  | .writing n => bits - n + 1
  | .finished => 0

theorem left_pos {w : Worker} (hw : w.stage ≠ .finished) : 0 < w.left sizeBytes hashCount := by
  rw [left]
  cases hstage : w.stage with
  | finished => exact absurd hstage hw
  | _ => exact Nat.succ_pos _

/-- Every turn brings a worker nearer to its end. -/
theorem advance_left (h : x.Uniform sizeBytes hashCount) {w : Worker} (hw : w.stage ≠ .finished) :
    (w.advance x).2.left sizeBytes hashCount < w.left sizeBytes hashCount := by
  have hpos : 0 < w.left sizeBytes hashCount := left_pos hw
  obtain ⟨job, stage⟩ := w
  cases job with
  | none => exact hpos
  | some entry =>
      obtain ⟨id, text⟩ := entry
      have hsize : DocumentFilter.bitsOf x.sizeBytes x.hashCount text =
          DocumentFilter.bitsOf sizeBytes hashCount text := by
        rw [h.bytes, h.hashes, DocumentFilter.bitsOf_max]
      cases stage with
      | waiting =>
          by_cases hid : x.contains id = true <;>
            simp only [advance, left, hid, if_true, Bool.false_eq_true, if_false,
              Option.map_some, Option.getD_some] <;>
            omega
      | missing =>
          simp only [advance, left, Option.map_some, Option.getD_some]
          omega
      | writing n =>
          simp only [advance, hsize]
          cases hbit : (DocumentFilter.bitsOf sizeBytes hashCount text)[n]? with
          | none => exact hpos
          | some i =>
              obtain ⟨hlt, _⟩ := List.getElem?_eq_some_iff.mp hbit
              simp only [left, Option.map_some, Option.getD_some]
              omega
      | finished => exact absurd rfl hw

end

end Worker

/-! ## Teams -/

/-- An index that several workers fill. -/
structure Team where
  index : BloomIndex
  workers : List Worker

namespace BuiltIndex

/-- What there is to insert for a document. -/
def insertion? (field idField : String) (d : Json.Value × Nat) :
    Option (DocumentId × List Char) :=
  (Document.text? d.1 field).map fun text => (DocumentId.resolve d.1 d.2 idField, text.toList)

end BuiltIndex

namespace Team

/-- A worker for each document, and no document added yet. -/
def start (c : Collection) (field idField : String) (sizing : Sizing) : Team :=
  ⟨BloomIndex.empty sizing.sizeBytes sizing.hashFunctions,
    c.enumerate.map fun d => ⟨BuiltIndex.insertion? field idField d, .waiting⟩⟩

/-- The turn of the worker at a place; where nobody stands, nothing happens. -/
def turn (t : Team) (place : Nat) : Team :=
  match t.workers[place]? with
  | some w => ⟨(w.advance t.index).1, t.workers.set place (w.advance t.index).2⟩
  | none => t

/-- The turns of a schedule, one after the other. -/
def run (t : Team) (schedule : List Nat) : Team := schedule.foldl turn t

def isFinished (t : Team) : Bool := t.workers.all fun w => w.stage = .finished

/-- The index shows the work of all workers and nothing else. -/
structure Reflects (t : Team) (sizeBytes hashCount : Nat) : Prop where
  uniform : t.index.Uniform sizeBytes hashCount
  known : ∀ id, t.index.contains id = true ↔ ∃ w ∈ t.workers, w.Knows id
  bits : ∀ id j, t.index.HasBit id j ↔ ∃ w ∈ t.workers, w.Wrote sizeBytes hashCount id j

/-- The turn of a worker changes the index and this worker only. -/
theorem turn_eq {t : Team} {place : Nat} {w : Worker} (hw : t.workers[place]? = some w) :
    ∃ before after, t.workers = before ++ w :: after ∧
      t.turn place = ⟨(w.advance t.index).1, before ++ (w.advance t.index).2 :: after⟩ := by
  obtain ⟨hlt, hget⟩ := List.getElem?_eq_some_iff.mp hw
  obtain ⟨before, after, hsplit, _, hset⟩ : ∃ before after,
      t.workers = before ++ t.workers[place] :: after ∧ before.length = place ∧
        t.workers.set place (w.advance t.index).2 = before ++ (w.advance t.index).2 :: after :=
    List.exists_of_set hlt
  rw [hget] at hsplit
  refine ⟨before, after, hsplit, ?_⟩
  simp only [turn, hw, hset]

/-- What some worker has done, after one of them has done more. -/
theorem shown_by_replaced {P : Worker → Prop} {before after : List Worker} {w w' : Worker}
    {shown shown' : Prop} (hkept : P w → P w') (hnew : shown' ↔ shown ∨ P w')
    (h : shown ↔ ∃ v ∈ before ++ w :: after, P v) :
    shown' ↔ ∃ v ∈ before ++ w' :: after, P v := by
  rw [hnew, h]
  simp only [List.mem_append, List.mem_cons, or_and_right, exists_or, exists_eq_left]
  constructor
  · rintro ((hbefore | hw | hafter) | hw')
    · exact .inl hbefore
    · exact .inr (.inl (hkept hw))
    · exact .inr (.inr hafter)
    · exact .inr (.inl hw')
  · rintro (hbefore | hw' | hafter)
    · exact .inl (.inl hbefore)
    · exact .inr hw'
    · exact .inl (.inr (.inr hafter))

section
variable {t : Team} {sizeBytes hashCount : Nat}

/-- Each turn keeps the index and the work done together. -/
theorem turn_reflects (h : t.Reflects sizeBytes hashCount) (place : Nat) :
    (t.turn place).Reflects sizeBytes hashCount ∧
      (t.turn place).workers.map Worker.job = t.workers.map Worker.job := by
  cases hw : t.workers[place]? with
  | none =>
    have hsame : t.turn place = t := by simp only [turn, hw]
    rw [hsame]
    exact ⟨h, rfl⟩
  | some w =>
    obtain ⟨before, after, hsplit, hturn⟩ := turn_eq hw
    have hmem := List.mem_of_getElem? hw
    have hadds := Worker.advance_adds h.uniform w (fun id hid => (h.known id).mpr ⟨w, hmem, hid⟩)
      (fun id j hj => (h.bits id j).mpr ⟨w, hmem, hj⟩)
    rw [hturn]
    refine ⟨⟨hadds.uniform, fun id => ?_, fun id j => ?_⟩, ?_⟩
    · have hbefore := h.known id
      rw [hsplit] at hbefore
      exact shown_by_replaced (hadds.knows id) (hadds.known id) hbefore
    · have hbefore := h.bits id j
      rw [hsplit] at hbefore
      exact shown_by_replaced (hadds.wrote id j) (hadds.bits id j) hbefore
    · rw [hsplit, List.map_append, List.map_append, List.map_cons, List.map_cons, hadds.job]

/-- Whatever the schedule, the index shows the work done, and nobody changes documents. -/
theorem run_reflects (schedule : List Nat) (h : t.Reflects sizeBytes hashCount) :
    (t.run schedule).Reflects sizeBytes hashCount ∧
      (t.run schedule).workers.map Worker.job = t.workers.map Worker.job := by
  induction schedule generalizing t with
  | nil => exact ⟨h, rfl⟩
  | cons place schedule ih =>
      obtain ⟨hturn, hjobs⟩ := turn_reflects h place
      obtain ⟨hrun, hjobs'⟩ := ih hturn
      exact ⟨hrun, hjobs'.trans hjobs⟩

end

theorem start_reflects (c : Collection) (field idField : String) (sizing : Sizing) :
    (start c field idField sizing).Reflects sizing.sizeBytes sizing.hashFunctions where
  uniform := BloomIndex.empty_uniform sizing.sizeBytes sizing.hashFunctions
  known := by
    intro id
    simp [start, BloomIndex.contains, BloomIndex.filter?, BloomIndex.empty, Worker.Knows]
  bits := by
    intro id j
    simp [start, BloomIndex.HasBit, BloomIndex.filter?, BloomIndex.empty, Worker.Wrote]

theorem isFinished_iff (t : Team) :
    t.isFinished = true ↔ ∀ w ∈ t.workers, w.stage = .finished := by
  simp [isFinished]

/-- However far a team has come, there are turns with which it finishes. -/
theorem exists_finished {t : Team} {sizeBytes hashCount : Nat}
    (h : t.Reflects sizeBytes hashCount) : ∃ more, (t.run more).isFinished = true := by
  generalize htotal : (t.workers.map (Worker.left sizeBytes hashCount)).sum = total
  induction total using Nat.strongRecOn generalizing t with
  | ind total ih =>
      by_cases hfinished : t.isFinished = true
      · exact ⟨[], hfinished⟩
      · rw [isFinished_iff] at hfinished
        push Not at hfinished
        obtain ⟨w, hmem, hw⟩ := hfinished
        obtain ⟨place, hplace⟩ := List.mem_iff_getElem?.mp hmem
        obtain ⟨hreflects, _⟩ := turn_reflects h place
        have hleft := Worker.advance_left h.uniform hw
        have hless :
            ((t.turn place).workers.map (Worker.left sizeBytes hashCount)).sum < total := by
          obtain ⟨before, after, hsplit, hturn⟩ := turn_eq hplace
          rw [hturn, ← htotal, hsplit]
          simp only [List.map_append, List.map_cons, List.sum_append, List.sum_cons]
          omega
        obtain ⟨more, hmore⟩ := ih _ hless hreflects rfl
        exact ⟨place :: more, hmore⟩

section
variable {t : Team} {sizeBytes hashCount : Nat}

theorem contains_of_finished (h : t.Reflects sizeBytes hashCount) (hfinished : t.isFinished = true)
    (id : DocumentId) :
    t.index.contains id = true ↔ ∃ text, (id, text) ∈ t.workers.filterMap Worker.job := by
  rw [isFinished_iff] at hfinished
  simp only [h.known, List.mem_filterMap, Worker.Knows]
  constructor
  · rintro ⟨w, hw, ⟨text, hjob⟩, _⟩
    exact ⟨text, w, hw, hjob⟩
  · rintro ⟨text, w, hw, hjob⟩
    exact ⟨w, hw, ⟨text, hjob⟩, .inr (hfinished w hw)⟩

theorem hasBit_of_finished (h : t.Reflects sizeBytes hashCount) (hfinished : t.isFinished = true)
    (id : DocumentId) (j : Nat) :
    t.index.HasBit id j ↔ ∃ text, (id, text) ∈ t.workers.filterMap Worker.job ∧
      DocumentFilter.UsesBit sizeBytes hashCount text j := by
  rw [isFinished_iff] at hfinished
  simp only [h.bits, List.mem_filterMap, Worker.Wrote, DocumentFilter.mem_bitsOf_iff]
  constructor
  · rintro ⟨w, hw, text, hjob, ⟨n, hstage, _⟩ | ⟨_, hj⟩⟩
    · rw [hfinished w hw] at hstage
      cases hstage
    · exact ⟨text, ⟨w, hw, hjob⟩, hj⟩
  · rintro ⟨text, ⟨w, hw, hjob⟩, hj⟩
    exact ⟨w, hw, text, hjob, .inr ⟨hfinished w hw, hj⟩⟩

/-- The index of a finished team holds what there was to insert. -/
theorem finished_holds (h : t.Reflects sizeBytes hashCount) (hfinished : t.isFinished = true) :
    t.index.Holds sizeBytes hashCount (t.workers.filterMap Worker.job) where
  bytes := h.uniform.bytes
  hashes := h.uniform.hashes
  distinct := h.uniform.distinct
  filter := by
    intro id
    have hcontains := contains_of_finished h hfinished id
    have hbits := hasBit_of_finished h hfinished id
    simp only [← BloomIndex.mem_textsOf] at hcontains hbits
    generalize BloomIndex.textsOf _ id = texts at hcontains hbits ⊢
    cases hf : t.index.filter? id with
    | none =>
        rw [if_pos]
        by_contra hne
        have hsome := hcontains.mpr (List.exists_mem_of_ne_nil texts hne)
        simp [BloomIndex.contains, hf] at hsome
    | some f =>
        have hne : texts ≠ [] := by
          obtain ⟨text, htext⟩ := hcontains.mp (by simp [BloomIndex.contains, hf])
          exact List.ne_nil_of_mem htext
        rw [if_neg hne, ← hf]
        exact h.uniform.filter?_eq hf hbits

end

/-- The index that a team has built. -/
def built (t : Team) (c : Collection) (field idField : String) : BuiltIndex where
  bloom := t.index
  generation := c.generation
  field := field
  idField := idField
  indexedDocuments := (t.workers.map Worker.result).sum
  owner := c.id

end Team

/-! ## The order does not matter -/

namespace BuiltIndex

/-- Two indexes have the same identities, each with the same filter word by word, and count the
same documents. -/
structure SameContents (x x' : BuiltIndex) : Prop where
  agree : ∀ id, x.bloom.AgreeOn x'.bloom id
  size : x'.bloom.size = x.bloom.size
  indexedDocuments : x'.indexedDocuments = x.indexedDocuments

theorem sameContents_of_perm {x x' : BuiltIndex} {sizeBytes hashCount : Nat}
    {entries entries' : List (DocumentId × List Char)} (hperm : entries'.Perm entries)
    (h : x.bloom.Holds sizeBytes hashCount entries) (hcount : x.indexedDocuments = entries.length)
    (h' : x'.bloom.Holds sizeBytes hashCount entries')
    (hcount' : x'.indexedDocuments = entries'.length) : x.SameContents x' where
  agree id := BloomIndex.agreeOn_of_filter?_eq
    (BloomIndex.filter?_congr h h' fun _ => hperm.mem_iff)
  size := BloomIndex.size_congr h h' fun _ => (hperm.map Prod.fst).mem_iff
  indexedDocuments := by rw [hcount, hcount', hperm.length_eq]

theorem insertionsOf_perm {field idField : String} {ds ds' : List (Json.Value × Nat)}
    (h : ds'.Perm ds) : (insertionsOf field idField ds').Perm (insertionsOf field idField ds) :=
  h.filterMap _

/-- The identities of the documents with text at the field, one for each of them. -/
def textIdentities (c : Collection) (field idField : String) : List DocumentId :=
  (c.enumerate.filter fun d => (Document.text? d.1 field).isSome).map fun d =>
    DocumentId.resolve d.1 d.2 idField

theorem insertionsOf_map_fst (c : Collection) (field idField : String) :
    (insertionsOf field idField c.enumerate).map Prod.fst = textIdentities c field idField := by
  rw [insertionsOf, textIdentities]
  induction c.enumerate with
  | nil => rfl
  | cons d ds ih => cases htext : Document.text? d.1 field <;> simp [htext, ih]

theorem length_textIdentities (c : Collection) (field idField : String) :
    (textIdentities c field idField).length =
      c.documents.countP fun d => (Document.text? d field).isSome := by
  have hdocuments : c.documents = c.enumerate.map Prod.fst := by
    rw [Collection.enumerate, List.zipIdx_map_fst]
  rw [hdocuments, List.countP_map, textIdentities, List.length_map, List.countP_eq_length_filter]
  rfl

theorem mem_textIdentities_iff {c : Collection} {field idField : String} {id : DocumentId} :
    id ∈ textIdentities c field idField ↔
      ∃ text, (id, text) ∈ insertionsOf field idField c.enumerate := by
  simp [← insertionsOf_map_fst]

/-- A finished team has built what adding the documents in their order builds. -/
theorem sameContents_of_finished (c : Collection) (field idField : String) (sizing : Sizing)
    {schedule : List Nat}
    (h : ((Team.start c field idField sizing).run schedule).isFinished = true) :
    (build c field idField sizing).SameContents
      (((Team.start c field idField sizing).run schedule).built c field idField) := by
  obtain ⟨hreflects, hjobs⟩ :=
    Team.run_reflects schedule (Team.start_reflects c field idField sizing)
  have hstart : (Team.start c field idField sizing).workers.map Worker.job =
      c.enumerate.map (insertion? field idField) := by
    simp [Team.start, Function.comp_def]
  generalize (Team.start c field idField sizing).run schedule = t at h hreflects hjobs ⊢
  rw [hstart] at hjobs
  have hentries : t.workers.filterMap Worker.job = insertionsOf field idField c.enumerate := by
    have hids := congrArg (List.filterMap id) hjobs
    rwa [List.filterMap_map, List.filterMap_map] at hids
  have hresults : (t.workers.map Worker.result).sum =
      (insertionsOf field idField c.enumerate).length := by
    rw [← hentries, List.length_filterMap_eq_countP]
    induction t.workers with
    | nil => rfl
    | cons w ws ih =>
        rw [List.map_cons, List.sum_cons, ih, List.countP_cons, Nat.add_comm]
        rfl
  have hholds := Team.finished_holds hreflects h
  rw [hentries] at hholds
  exact sameContents_of_perm (.refl _) (build_holds c field idField sizing)
    (buildFrom_indexedDocuments c c.enumerate field idField sizing) hholds hresults

/-- **A build in any order.**  The built index has the identities of the documents with text at the
field, counts these documents, and has one filter for each distinct identity, whose positions are
those that are computed in words.  It has the same contents if the documents are added in another
order, and also if a team of workers adds them whose turns follow some schedule; and whatever turns
a team has taken, it can finish. -/
theorem build_any_order (c : Collection) (field idField : String) {sizing : Sizing}
    (hfits : DocumentFilter.Fits sizing.sizeBytes) :
    let x := build c field idField sizing
    let team := Team.start c field idField sizing
    (∀ id, x.bloom.contains id = true ↔ id ∈ textIdentities c field idField) ∧
      (∀ id f, x.bloom.filter? id = some f → ∀ g seed,
        f.position g seed = (DocumentFilter.place sizing.sizeBytes g seed).toNat) ∧
      x.indexedDocuments = (c.documents.countP fun d => (Document.text? d field).isSome) ∧
      x.bloom.size = (textIdentities c field idField).dedup.length ∧
      (∀ ds, ds.Perm c.enumerate → x.SameContents (buildFrom c ds field idField sizing)) ∧
      (∀ schedule, (team.run schedule).isFinished = true →
        x.SameContents ((team.run schedule).built c field idField)) ∧
      ∀ schedule, ∃ more, (team.run (schedule ++ more)).isFinished = true := by
  intro x team
  have hholds := build_holds c field idField sizing
  have hcount : x.indexedDocuments = (insertionsOf field idField c.enumerate).length :=
    buildFrom_indexedDocuments c c.enumerate field idField sizing
  refine ⟨?_, ?_, ?_, ?_, ?_, ?_, ?_⟩
  · intro id
    rw [hholds.contains_iff, mem_textIdentities_iff]
  · intro id f hf g seed
    rw [hholds.position_eq hf, DocumentFilter.toNat_place hfits]
  · rw [hcount, ← length_textIdentities c field idField, ← insertionsOf_map_fst, List.length_map]
  · rw [hholds.size_eq, insertionsOf_map_fst]
  · intro ds hperm
    exact sameContents_of_perm (insertionsOf_perm hperm) hholds hcount
      (buildFrom_holds c ds field idField sizing)
      (buildFrom_indexedDocuments c ds field idField sizing)
  · intro schedule hfinished
    exact sameContents_of_finished c field idField sizing hfinished
  · intro schedule
    have hstart := Team.start_reflects c field idField sizing
    obtain ⟨more, hmore⟩ := Team.exists_finished (Team.run_reflects schedule hstart).1
    refine ⟨more, ?_⟩
    rwa [Team.run, List.foldl_append]

/-- Two documents share an identity; both workers find no filter for it before one of them puts it
there, and they set their bits in turn. -/
theorem build_any_order_shared :
    let document (text : String) : Json.Value :=
      .object [("_id", .string "a"), ("text", .string text)]
    let c : Collection := ⟨⟨1⟩, 0, [document "abc", .object [("_id", .string "b")], document "xyz"]⟩
    let sizing : Sizing := ⟨0, 2⟩
    let x := build c "text" "_id" sizing
    let team := Team.start c "text" "_id" sizing
    let schedule := [0, 2, 2, 0, 2, 0, 1, 0, 2, 0, 2]
    DocumentFilter.Fits 0 ∧
      (c.enumerate.reverse.Perm c.enumerate ∧
        x.SameContents (buildFrom c c.enumerate.reverse "text" "_id" sizing)) ∧
      (team.run schedule).isFinished = true ∧
        x.SameContents ((team.run schedule).built c "text" "_id") := by
  intro document c sizing x team schedule
  have hfits : DocumentFilter.Fits sizing.sizeBytes := by decide
  obtain ⟨_, _, _, _, horder, hschedule, _⟩ := build_any_order c "text" "_id" hfits
  have hfinished : (team.run schedule).isFinished = true := by decide +kernel
  have hperm := c.enumerate.reverse_perm
  exact ⟨hfits, ⟨hperm, horder _ hperm⟩, hfinished, hschedule schedule hfinished⟩

end BuiltIndex
end TrigramSearch
