/-!
# UTF-8

Text as bytes, in both directions. Bytes are a list here, since streams and wire messages take
them from the front.

* `ofBytes?_eq_some_iff`: exactly the bytes of texts are accepted, each as its text.
-/

namespace SqlAccess.Utf8

/-- The bytes of a text. -/
def toBytes (s : String) : List UInt8 := s.toByteArray.data.toList

/-- The text with these bytes, if they are well formed. -/
def ofBytes? (bytes : List UInt8) : Option String := String.fromUTF8? ⟨bytes.toArray⟩

theorem ofBytes?_eq_some_iff {bytes : List UInt8} {s : String} :
    ofBytes? bytes = some s ↔ bytes = toBytes s := by
  unfold ofBytes? String.fromUTF8? toBytes
  constructor
  · intro h
    split at h
    · simp only [Option.some.injEq] at h
      rw [← h]
      simp [String.fromUTF8]
    · simp at h
  · rintro rfl
    have valid : (⟨s.toByteArray.data.toList.toArray⟩ : ByteArray).IsValidUTF8 := by
      simpa using s.isValidUTF8
    rw [dif_pos valid]
    simp [String.fromUTF8]

end SqlAccess.Utf8
