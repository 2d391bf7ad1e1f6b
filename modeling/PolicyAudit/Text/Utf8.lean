/-! # Texts and bytes

A text has one list of bytes in UTF-8, and bytes that are not UTF-8 are those of no text. -/

namespace PolicyAudit.Text

/-- The bytes of a text. -/
def bytes (s : String) : List UInt8 := s.toUTF8.data.toList

/-- The text of the bytes, if they are UTF-8. -/
def ofBytes? (bs : List UInt8) : Option String := String.fromUTF8? ⟨bs.toArray⟩

theorem ofBytes?_eq_some_iff {bs : List UInt8} {s : String} :
    ofBytes? bs = some s ↔ bytes s = bs := by
  constructor
  · intro h
    rw [ofBytes?, String.fromUTF8?] at h
    split at h
    · obtain rfl := Option.some.inj h
      exact bs.toList_toArray
    · cases h
  · rintro rfl
    have hbytes : ByteArray.mk (bytes s).toArray = s.toUTF8 := by
      rw [bytes, Array.toArray_toList]
    rw [ofBytes?, hbytes, String.fromUTF8?, String.toUTF8_eq_toByteArray, dif_pos s.isValidUTF8]
    rfl

theorem ofBytes?_eq_none_iff {bs : List UInt8} :
    ofBytes? bs = none ↔ ∀ s : String, bytes s ≠ bs := by
  rw [Option.eq_none_iff_forall_ne_some]
  exact forall_congr' fun s => not_congr ofBytes?_eq_some_iff

end PolicyAudit.Text
