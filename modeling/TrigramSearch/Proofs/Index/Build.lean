import TrigramSearch.Index.Cache
import TrigramSearch.Proofs.Bloom.Contents

/-!
# What a built index contains

An index is built by adding the documents of a collection one after the other.
Adding a document adds its text at the field, if it has one, under its identity;
so the built index holds these texts and nothing else, whatever identities the
documents share (`build_holds`).  In particular it covers every document with
text at the field.
-/

namespace TrigramSearch

theorem Collection.mem_enumerate {c : Collection} {d : Json.Value × Nat} :
    d ∈ c.enumerate ↔ c.get? d.2 = some d.1 :=
  List.mem_zipIdx_iff_getElem?

/-- A position is the identity of no document but the one that stands there. -/
theorem DocumentId.eq_of_resolve_eq_position {document : Json.Value} {position i : Nat}
    {idField : String} (h : resolve document position idField = .position i) : position = i := by
  rw [resolve] at h
  split at h
  all_goals
    cases h
  rfl

namespace BuiltIndex

/-- What an index remembers about its origin, and that its filters have the shape asked for. -/
structure Built (x : BuiltIndex) (c : Collection) (field idField : String) (sizing : Sizing) :
    Prop where
  generation : x.generation = c.generation
  field : x.field = field
  idField : x.idField = idField
  owner : x.owner = c.id
  sizeBytes : x.bloom.sizeBytes = max sizing.sizeBytes 1
  hashCount : x.bloom.hashCount = max sizing.hashFunctions 1
  sized : x.bloom.Sized

section
variable {c : Collection} {field idField : String} {sizing : Sizing}

theorem addDocument_built {x : BuiltIndex} (h : x.Built c field idField sizing)
    (document : Json.Value) (position : Nat) :
    (x.addDocument document position).Built c field idField sizing := by
  rw [addDocument]
  split
  · exact { h with sized := BloomIndex.insert_sized h.sized _ _ }
  · exact h

private theorem addAll_built (ds : List (Json.Value × Nat)) :
    ∀ {x : BuiltIndex}, x.Built c field idField sizing →
      (ds.foldl (fun x d => x.addDocument d.1 d.2) x).Built c field idField sizing := by
  induction ds with
  | nil =>
      intro x h
      exact h
  | cons d ds ih =>
      intro x h
      exact ih (addDocument_built h d.1 d.2)

end

private theorem start_built (c : Collection) (field idField : String) (sizing : Sizing) :
    Built ⟨BloomIndex.empty sizing.sizeBytes sizing.hashFunctions, c.generation, field, idField, 0,
      c.id⟩ c field idField sizing :=
  ⟨rfl, rfl, rfl, rfl, rfl, rfl, BloomIndex.empty_sized _ _⟩

/-- Documents without text at the field leave no trace. -/
theorem addAll_of_no_text {x : BuiltIndex} {ds : List (Json.Value × Nat)}
    (h : ∀ d ∈ ds, Document.text? d.1 x.field = none) :
    ds.foldl (fun x d => x.addDocument d.1 d.2) x = x := by
  induction ds with
  | nil => rfl
  | cons d ds ih =>
      have hd := h d List.mem_cons_self
      rw [List.foldl_cons, addDocument]
      simp only [hd]
      exact ih fun e he => h e (List.mem_cons_of_mem d he)

/-- An index remembers what it was built from. -/
theorem build_built (c : Collection) (field idField : String) (sizing : Sizing) :
    (build c field idField sizing).Built c field idField sizing :=
  addAll_built c.enumerate (start_built c field idField sizing)

/-! ## Exact contents -/

/-- The insertions that some documents lead to: the texts at the field, each under the identity
of its document. -/
def insertionsOf (field idField : String) (ds : List (Json.Value × Nat)) :
    List (DocumentId × List Char) :=
  ds.filterMap fun d => (Document.text? d.1 field).map fun text =>
    (DocumentId.resolve d.1 d.2 idField, text.toList)

theorem addDocument_holds {x : BuiltIndex} {sizeBytes hashCount : Nat}
    {entries : List (DocumentId × List Char)} (h : x.bloom.Holds sizeBytes hashCount entries)
    (document : Json.Value) (position : Nat) :
    (x.addDocument document position).bloom.Holds sizeBytes hashCount
      (entries ++ insertionsOf x.field x.idField [(document, position)]) := by
  rw [addDocument, insertionsOf]
  split
  · rename_i text htext
    simp only [List.filterMap_cons, htext, Option.map_some, List.filterMap_nil]
    exact h.insert _ _
  · rename_i hnone
    simp only [List.filterMap_cons, hnone, Option.map_none, List.filterMap_nil, List.append_nil]
    exact h

private theorem addAll_holds {c : Collection} {field idField : String} {sizing : Sizing}
    {sizeBytes hashCount : Nat} (ds : List (Json.Value × Nat)) :
    ∀ {x : BuiltIndex} {entries : List (DocumentId × List Char)},
      x.Built c field idField sizing → x.bloom.Holds sizeBytes hashCount entries →
        (ds.foldl (fun x d => x.addDocument d.1 d.2) x).bloom.Holds sizeBytes hashCount
          (entries ++ insertionsOf field idField ds) := by
  induction ds with
  | nil =>
      intro x entries _ h
      simpa [insertionsOf] using h
  | cons d ds ih =>
      intro x entries hbuilt h
      have hsplit : insertionsOf field idField (d :: ds) =
          insertionsOf field idField [d] ++ insertionsOf field idField ds :=
        List.filterMap_append (l := [d])
      have hstep := addDocument_holds h d.1 d.2
      rw [hbuilt.field, hbuilt.idField] at hstep
      rw [List.foldl_cons, hsplit, ← List.append_assoc]
      exact ih (addDocument_built hbuilt d.1 d.2) hstep

/-- Each document with text at the field is counted. -/
private theorem addAll_indexedDocuments {c : Collection} {field idField : String} {sizing : Sizing}
    (ds : List (Json.Value × Nat)) :
    ∀ {x : BuiltIndex}, x.Built c field idField sizing →
      (ds.foldl (fun x d => x.addDocument d.1 d.2) x).indexedDocuments =
        x.indexedDocuments + (insertionsOf field idField ds).length := by
  induction ds with
  | nil =>
      intro x _
      rfl
  | cons d ds ih =>
      intro x hbuilt
      rw [List.foldl_cons, ih (addDocument_built hbuilt d.1 d.2), addDocument, hbuilt.field,
        insertionsOf, insertionsOf, List.filterMap_cons]
      cases Document.text? d.1 field with
      | none => rfl
      | some text =>
          simp only [Option.map_some, List.length_cons]
          omega

/-- The index of documents of a collection that are added in this order. -/
def buildFrom (c : Collection) (ds : List (Json.Value × Nat)) (field idField : String)
    (sizing : Sizing) : BuiltIndex :=
  ds.foldl (fun x d => x.addDocument d.1 d.2)
    ⟨BloomIndex.empty sizing.sizeBytes sizing.hashFunctions, c.generation, field, idField, 0, c.id⟩

/-- In whatever order documents are added, the index holds their texts at the field, each under
the identity of its document. -/
theorem buildFrom_holds (c : Collection) (ds : List (Json.Value × Nat)) (field idField : String)
    (sizing : Sizing) :
    (buildFrom c ds field idField sizing).bloom.Holds sizing.sizeBytes sizing.hashFunctions
      (insertionsOf field idField ds) := by
  have hstart := BloomIndex.empty_holds sizing.sizeBytes sizing.hashFunctions
  rw [buildFrom, ← List.nil_append (insertionsOf field idField ds)]
  exact addAll_holds ds (start_built c field idField sizing) hstart

theorem buildFrom_indexedDocuments (c : Collection) (ds : List (Json.Value × Nat))
    (field idField : String) (sizing : Sizing) :
    (buildFrom c ds field idField sizing).indexedDocuments =
      (insertionsOf field idField ds).length := by
  have hstart := start_built c field idField sizing
  rw [buildFrom, addAll_indexedDocuments ds hstart]
  exact Nat.zero_add _

/-- The built index holds the texts at the field, each under the identity of its document. -/
theorem build_holds (c : Collection) (field idField : String) (sizing : Sizing) :
    (build c field idField sizing).bloom.Holds sizing.sizeBytes sizing.hashFunctions
      (insertionsOf field idField c.enumerate) :=
  buildFrom_holds c c.enumerate field idField sizing

/-- A document of the collection has this text at the field and goes by this identity. -/
def HasText (c : Collection) (field idField : String) (id : DocumentId) (text : String) : Prop :=
  ∃ position document, c.get? position = some document ∧
    Document.text? document field = some text ∧
    DocumentId.resolve document position idField = id

theorem mem_insertionsOf {c : Collection} {field idField : String} {id : DocumentId}
    {text : List Char} :
    (id, text) ∈ insertionsOf field idField c.enumerate ↔
      ∃ t, HasText c field idField id t ∧ t.toList = text := by
  simp only [insertionsOf, List.mem_filterMap, Collection.mem_enumerate, Option.map_eq_some_iff,
    Prod.mk.injEq]
  constructor
  · rintro ⟨⟨document, position⟩, hget, t, ht, hid, rfl⟩
    exact ⟨t, ⟨position, document, hget, ht, hid⟩, rfl⟩
  · rintro ⟨t, ⟨position, document, hget, ht, hid⟩, rfl⟩
    exact ⟨(document, position), hget, t, ht, hid, rfl⟩

/-- The built index covers every document that has text at the field. -/
theorem build_covers {c : Collection} (field idField : String) (sizing : Sizing) {position : Nat}
    {document : Json.Value} {text : String} (hd : c.get? position = some document)
    (ht : Document.text? document field = some text) :
    (build c field idField sizing).bloom.Covers
      (DocumentId.resolve document position idField) text.toList := by
  have hentry : HasText c field idField (DocumentId.resolve document position idField) text :=
    ⟨position, document, hd, ht, rfl⟩
  exact (build_holds c field idField sizing).covers (mem_insertionsOf.mpr ⟨text, hentry, rfl⟩)

end BuiltIndex
end TrigramSearch
