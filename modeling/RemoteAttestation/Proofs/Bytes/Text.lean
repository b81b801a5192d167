import RemoteAttestation.Bytes.Basic

/-!
# Texts as Octets

The UTF-8 form of a text is that of its characters, and it is the form of no other text.

## Main results

* `Bytes.toText?_ofText`: a text is read back from its UTF-8 form.
-/

namespace RemoteAttestation.Bytes

/-- The UTF-8 form of a text is that of its **characters**, one after the other. -/
theorem ofText_ofList (cs : List Char) :
    ofText (String.ofList cs) = cs.flatMap String.utf8EncodeChar := by
  simp [ofText, String.ofList, List.utf8Encode]

/-- A text is **read back** from its UTF-8 form. -/
@[simp] theorem toText?_ofText (text : String) : (ofText text).toText? = some text := by
  have hBytes : (⟨(ofText text).toArray⟩ : ByteArray) = text.toUTF8 := by simp [ofText]
  rw [toText?, hBytes]
  exact dif_pos text.isValidUTF8

end RemoteAttestation.Bytes
