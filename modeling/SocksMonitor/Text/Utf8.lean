/-!
# UTF-8

Host names, credentials and request bodies travel as bytes, while error texts and records are
strings. `utf8` and `ofUtf8?` join the two; the main statement `ofUtf8?_utf8` says that nothing is
lost on the way. The wire codec counts lengths through `utf8`, the record reader decodes string
literals through `ofUtf8?`.
-/

namespace SocksMonitor

/-- Bytes as they travel: on a connection, in a request body, in a file. -/
abbrev Bytes := List UInt8

namespace Text

def utf8 (s : String) : Bytes := s.toList.flatMap String.utf8EncodeChar

/-- The string that well-formed UTF-8 bytes stand for. -/
def ofUtf8? (bytes : Bytes) : Option String := String.fromUTF8? bytes.toByteArray

/-- A length in UTF-8 bytes, the unit of every length byte on the wire. -/
def byteLength (s : String) : Nat := (utf8 s).length

theorem utf8_ofList (cs : List Char) :
    utf8 (String.ofList cs) = cs.flatMap String.utf8EncodeChar := by
  simp [utf8]

theorem toByteArray_utf8 (s : String) : (utf8 s).toByteArray = s.toByteArray := by
  have h : s.toList.utf8Encode = s.toByteArray := by
    simp
  rw [← h]
  rfl

theorem ofUtf8?_utf8 (s : String) : ofUtf8? (utf8 s) = some s := by
  have valid : s.toByteArray.IsValidUTF8 := s.isValidUTF8
  simp only [ofUtf8?, toByteArray_utf8, String.fromUTF8?, valid, dite_true]
  rfl

theorem utf8_injective {s t : String} (h : utf8 s = utf8 t) : s = t := by
  have := ofUtf8?_utf8 s
  rw [h, ofUtf8?_utf8 t] at this
  exact (Option.some.inj this).symm

end Text

end SocksMonitor
