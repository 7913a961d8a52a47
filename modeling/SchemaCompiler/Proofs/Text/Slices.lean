import SchemaCompiler.Proofs.Text.Encoding

/-!
# Slices

The part of a text between two offsets in its bytes, which there is only if the bytes are whole
characters. It is what stands between two parts of the text that have these offsets.
-/

namespace SchemaCompiler.Text

/-- The bytes from `start` up to `stop` stand within a text and are whole characters of it. -/
structure IsRange (cs : List Char) (start stop : Nat) : Prop where
  ordered : start ≤ stop
  within : stop ≤ (encoded cs).length
  starts : String.Pos.Raw.IsValid (.ofList cs) ⟨start⟩
  ends : String.Pos.Raw.IsValid (.ofList cs) ⟨stop⟩

variable {cs before piece after : List Char} {start stop : Nat}

theorem isRange_iff : IsRange cs start stop ↔ start ≤ stop ∧ stop ≤ (encoded cs).length ∧
    String.Pos.Raw.IsValid (.ofList cs) ⟨start⟩ ∧ String.Pos.Raw.IsValid (.ofList cs) ⟨stop⟩ :=
  ⟨fun ⟨ho, hw, hs, he⟩ => ⟨ho, hw, hs, he⟩, fun ⟨ho, hw, hs, he⟩ => ⟨ho, hw, hs, he⟩⟩

instance : Decidable (IsRange cs start stop) :=
  decidable_of_iff _ isRange_iff.symm

/-- The result of steps that fail where a text lacks what they ask for. -/
abbrev Checked (α : Type) := Option α

/-- The text at the bytes from `start` up to `stop`. -/
def slice (cs : List Char) (start stop : Nat) : Checked (List Char) :=
  if h : IsRange cs start stop then
    some ((String.ofList cs).slice ⟨⟨start⟩, h.starts⟩ ⟨⟨stop⟩, h.ends⟩ h.ordered).copy.toList
  else none

theorem utf8ByteSize_eq (text : String) : text.utf8ByteSize = (encoded text.toList).length := by
  conv => lhs; rw [← String.ofList_toList (s := text)]
  rw [← String.size_toByteArray, String.toByteArray_ofList, ByteArray.size, ← Array.length_toList]
  exact congrArg List.length List.toList_data_toByteArray

theorem rawEndPos_ofList (cs : List Char) :
    (String.ofList cs).rawEndPos = ⟨(encoded cs).length⟩ := by
  rw [String.Pos.Raw.ext_iff, String.byteIdx_rawEndPos, utf8ByteSize_eq, String.toList_ofList]

theorem isValid_of_append (h : cs = before ++ after) :
    String.Pos.Raw.IsValid (.ofList cs) ⟨(encoded before).length⟩ :=
  String.Pos.Raw.isValid_iff_exists_append.mpr
    ⟨.ofList before, .ofList after, by rw [h, String.ofList_append], (rawEndPos_ofList _).symm⟩

theorem splits_of_append (h : cs = before ++ after) :
    String.Pos.Splits ⟨_, isValid_of_append h⟩ (.ofList before) (.ofList after) where
  eq_append := by rw [h, String.ofList_append]
  offset_eq_rawEndPos := (rawEndPos_ofList before).symm

theorem slice_eq_some_iff : slice cs start stop = some piece ↔
    ∃ before after, cs = before ++ (piece ++ after) ∧ start = (encoded before).length ∧
      stop = (encoded (before ++ piece)).length := by
  rw [slice, Option.dite_none_right_eq_some]
  constructor
  · rintro ⟨h, hpiece⟩
    obtain ⟨before, after, hb, ha⟩ := String.copy_slice_eq_iff_splits.mp
      ⟨show (⟨⟨start⟩, h.starts⟩ : String.Pos _) ≤ ⟨⟨stop⟩, h.ends⟩ from h.ordered, rfl⟩
    have hcs := congrArg String.toList hb.eq_append
    have hstart := congrArg String.Pos.Raw.byteIdx hb.offset_eq_rawEndPos
    have hstop := congrArg String.Pos.Raw.byteIdx ha.offset_eq_rawEndPos
    rw [String.toList_ofList, String.toList_append, String.toList_append] at hcs
    rw [String.byteIdx_rawEndPos, utf8ByteSize_eq] at hstart hstop
    rw [String.toList_append] at hstop
    rw [Option.some.injEq] at hpiece
    rw [hpiece] at hcs hstop
    exact ⟨before.toList, after.toList, hcs, hstart, hstop⟩
  · rintro ⟨before, after, hcs, rfl, rfl⟩
    have hcs' : cs = before ++ piece ++ after := by rw [hcs, List.append_assoc]
    have hb := splits_of_append hcs
    have ha := splits_of_append hcs'
    rw [String.ofList_append] at hb ha
    obtain ⟨hle, hcopy⟩ := String.copy_slice_eq_iff_splits.mpr ⟨_, _, hb, ha⟩
    have hrange : IsRange cs (encoded before).length (encoded (before ++ piece)).length :=
      ⟨hle, by simp [hcs], isValid_of_append hcs, isValid_of_append hcs'⟩
    exact ⟨hrange, congrArg some ((congrArg String.toList hcopy).trans String.toList_ofList)⟩

/-- The bytes of a character have to be taken together. -/
example : slice "añb".toList 1 3 = some ['ñ'] ∧ slice "añb".toList 1 2 = none := by decide +kernel

theorem slice_left : slice (before ++ after) 0 (encoded before).length = some before :=
  slice_eq_some_iff.mpr ⟨[], after, rfl, rfl, rfl⟩

theorem slice_right : slice (before ++ after) (encoded before).length
    (encoded (before ++ after)).length = some after :=
  slice_eq_some_iff.mpr ⟨before, [], by rw [List.append_nil], rfl, rfl⟩

end SchemaCompiler.Text
