import Mathlib.Data.List.TakeWhile
import SchemaCompiler.Project.Clean
import SchemaCompiler.Proofs.Text.Encoding

/-!
# The bytes of a text

A text is read back from its bytes, and its first line ends where the first newline
stands: no other character has the byte of a newline in its encoding.
-/

namespace SchemaCompiler.Content

open Text

-- ---------------------------------------------------------------------------
-- Bytes
-- ---------------------------------------------------------------------------

theorem newline_mem_utf8EncodeChar {c : Char} : 10 ∈ String.utf8EncodeChar c ↔ c = '\n' :=
  mem_utf8EncodeChar_iff (c := '\n') (by decide) c

theorem ofText_eq (text : String) : ofText text = encoded text.toList := by
  conv => lhs; rw [← String.ofList_toList (s := text)]
  exact List.toList_data_toByteArray

@[simp] theorem text?_ofText (text : String) : (ofText text).text? = some text := by
  have hvalid : (⟨(ofText text).toArray⟩ : ByteArray).IsValidUTF8 := text.isValidUTF8
  rw [text?, String.fromUTF8?, dif_pos hvalid]
  rfl

-- ---------------------------------------------------------------------------
-- The first line
-- ---------------------------------------------------------------------------

theorem takeWhile_encoded (cs : List Char) :
    (encoded cs).takeWhile (· ≠ 10) = encoded (cs.takeWhile (· ≠ '\n')) := by
  induction cs with
  | nil => rfl
  | cons c cs ih =>
    by_cases hc : c = '\n'
    · subst hc
      rfl
    · have hbytes : ∀ byte ∈ String.utf8EncodeChar c, decide (byte ≠ 10) = true :=
        fun byte hm => decide_eq_true fun he => hc (newline_mem_utf8EncodeChar.mp (he ▸ hm))
      rw [encoded_cons, List.takeWhile_append_of_pos hbytes, ih,
        List.takeWhile_cons_of_pos (by simpa using hc), encoded_cons]

theorem firstLine_ofText (text : String) :
    (ofText text).firstLine = ofText (String.ofList (text.toList.takeWhile (· ≠ '\n'))) := by
  rw [ofText_eq, ofText_eq, String.toList_ofList]
  exact takeWhile_encoded _

theorem isGenerated_ofText (text : String) :
    (ofText text).isGenerated =
      .ok (Text.trimEnd (text.toList.takeWhile (· ≠ '\n')) = Template.marker.toList) := by
  rw [isGenerated, firstLine_ofText, text?_ofText]
  simp only [String.toList_ofList]

end SchemaCompiler.Content
