import Mathlib
import RecordStore.Proofs.Json.RoundTrip
import RecordStore.Schema.Reader

/-!
A schema that is written is read back as it was, so the text of a schema names it.
-/
namespace RecordStore
open Document

namespace Json

theorem documents_eq_map (vs : List Json) : documents vs = vs.map document := by
  induction vs with
  | nil => rfl
  | cons v vs ih => rw [documents, ih]; rfl

end Json

namespace Document

/-- Items are read one by one. -/
theorem list?_map {α : Type} {read : Document → Option α} {write : α → Json} {xs : List α}
    (h : ∀ x ∈ xs, read (Json.document (write x)) = some x) :
    list? read (Json.document (.array (xs.map write))) = some xs := by
  simp only [Json.document, Json.documents_eq_map, list?]
  induction xs with
  | nil => rfl
  | cons x xs ih =>
    have hx := h x (by simp)
    have hxs := ih fun y hy => h y (by simp [hy])
    simp only [List.map_cons, List.mapM_cons, hx, hxs]
    rfl

end Document

theorem AttributeType.choice?_word (t : AttributeType) :
    choice? AttributeType.all AttributeType.word (.string (some t.word)) = some t := by
  cases t <;> rfl

theorem Transform.ofDocument?_word (t : Transform) :
    Transform.ofDocument? (.string (some t.word)) = some t := by
  cases t <;> rfl

theorem Direction.choice?_word (d : Direction) :
    choice? Direction.all Direction.word (.string (some d.word)) = some d := by
  cases d <;> rfl

theorem Attribute.ofDocument?_toJson (a : Attribute) :
    Attribute.ofDocument? (Json.document a.toJson) = some a := by
  obtain ⟨name, type, values, nullable, transform⟩ := a
  cases values with
  | none =>
    simp [toJson, Json.document, Json.memberDocuments, Attribute.ofDocument?, fields?,
      soleMember?, required, Document.optional, withDefault, string?, bool?,
      AttributeType.choice?_word, Transform.ofDocument?_word]
  | some vs =>
    have hvs : list? string? (.array (Json.documents (vs.map .string))) = some vs :=
      list?_map fun _ _ => rfl
    simp [toJson, Json.document, Json.memberDocuments, Attribute.ofDocument?, fields?,
      soleMember?, required, Document.optional, withDefault, string?, bool?, hvs,
      AttributeType.choice?_word, Transform.ofDocument?_word]

theorem IndexColumn.ofDocument?_toJson (c : IndexColumn) :
    IndexColumn.ofDocument? (Json.document c.toJson) = some c := by
  simp [toJson, Json.document, Json.memberDocuments, IndexColumn.ofDocument?, fields?,
    soleMember?, required, withDefault, string?, Direction.choice?_word,
    Transform.ofDocument?_word]

theorem IndexDefinition.ofDocument?_toJson (ix : IndexDefinition) :
    IndexDefinition.ofDocument? (Json.document ix.toJson) = some ix := by
  have hcols : list? IndexColumn.ofDocument?
      (.array (Json.documents (ix.columns.map (·.toJson)))) = some ix.columns :=
    list?_map fun c _ => c.ofDocument?_toJson
  simp [toJson, Json.document, Json.memberDocuments, IndexDefinition.ofDocument?, fields?,
    soleMember?, required, withDefault, string?, bool?, hcols]

namespace Schema

theorem ofParts_self (s : Schema) : ofParts s.attributes s.indexes = .ok s := by
  unfold ofParts
  split
  · rfl
  · next d h => rw [s.sound] at h; cases h

theorem ofDocument_toJson (s : Schema) : ofDocument (Json.document s.toJson) = .ok s := by
  have hattributes : list? Attribute.ofDocument?
      (.array (Json.documents (s.attributes.map (·.toJson)))) = some s.attributes :=
    list?_map fun a _ => a.ofDocument?_toJson
  have hindexes : list? IndexDefinition.ofDocument?
      (.array (Json.documents (s.indexes.map (·.toJson)))) = some s.indexes :=
    list?_map fun ix _ => ix.ofDocument?_toJson
  have hparts : partsOfDocument? (Json.document s.toJson) = some (s.attributes, s.indexes) := by
    simp [toJson, Json.document, Json.memberDocuments, partsOfDocument?, fields?, soleMember?,
      required, withDefault, hattributes, hindexes]
  simp only [ofDocument, hparts, ofParts_self]

theorem parse_text (s : Schema) : parse s.text = .ok s := by
  have hd : s.toJson.depth ≤ s.text.length := by
    simpa [text, Json.text] using Json.depth_le s.toJson
  unfold parse
  rw [text] at hd ⊢
  rw [Json.readSome_text s.toJson hd]
  simp [ofDocument_toJson, skipSpace]

theorem text_injective {s t : Schema} (h : s.text = t.text) : s = t := by
  have hs := parse_text s
  rw [h, parse_text] at hs
  exact (Except.ok.inj hs).symm

end Schema

end RecordStore
