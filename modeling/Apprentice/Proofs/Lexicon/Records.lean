import Apprentice.Lexicon.Records
import Apprentice.Proofs.Json.RoundTrip

/-!
# Records in a file

The text that is written for a list of records holds these records.
-/

namespace Apprentice

theorem WordType.ofLabel?_label (wordType : WordType) :
    ofLabel? wordType.label = some wordType := by
  cases wordType <;> decide

namespace WordRecord

theorem ofJson?_toJson (r : WordRecord) : ofJson? r.toJson = some r := by
  have hlabel : wordType? (.string (some r.wordType.label)) = some r.wordType :=
    WordType.ofLabel?_label r.wordType
  -- The names of the members are fixed, so all that is left to be read is the label.
  change (wordType? (.string (some r.wordType.label))).bind _ = _
  rw [hlabel]
  rfl

theorem writable_toJson (r : WordRecord) : r.toJson.Writable := by
  refine .object ?_ ?_
  · simp
  · simp only [List.forall_mem_cons]
    exact ⟨.string _, .string _, .string _, List.forall_mem_nil _⟩

theorem mapM_ofJson?_toJson (records : List WordRecord) :
    (records.map toJson).mapM ofJson? = some records := by
  induction records with
  | nil => rfl
  | cons r records ih =>
      rw [List.map_cons, List.mapM_cons, ofJson?_toJson, ih]
      rfl

/-- Records are read back from what is written for them. -/
theorem decode?_encode (records : List WordRecord) : decode? (encode records) = some records := by
  have hwritable : (Json.array (records.map toJson)).Writable := by
    refine .array fun item hitem => ?_
    obtain ⟨r, -, rfl⟩ := List.mem_map.mp hitem
    exact r.writable_toJson
  rw [decode?, encode, Json.parse?_pretty hwritable]
  exact mapM_ofJson?_toJson records

end WordRecord

end Apprentice
