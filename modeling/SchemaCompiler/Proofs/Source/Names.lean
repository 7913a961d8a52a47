import SchemaCompiler.Project.Scan
import SchemaCompiler.Proofs.Naming.Spelling
import SchemaCompiler.Proofs.Sequence

/-!
# Names in source text

The names of scanned records and fields are words of the source text, as they are
written there. So a name has only the characters of words, and the mark of a raw one.
-/

namespace SchemaCompiler

open Text

-- ---------------------------------------------------------------------------
-- Characters of words
-- ---------------------------------------------------------------------------

namespace Source

namespace Word

theorem continuesIdentifier_of_mem {word : Word} {c : Char} (h : c ∈ word.first :: word.rest) :
    continuesIdentifier c = true := by
  rcases List.mem_cons.mp h with rfl | h
  · exact continuesIdentifier_of_startsIdentifier word.starts
  · exact List.all_eq_true.mp word.continues c h

theorem toList_text (word : Word) :
    word.text.toList =
      if word.isRaw then 'r' :: '#' :: word.first :: word.rest else word.first :: word.rest := by
  rw [text, name]
  split <;> simp

theorem continuesIdentifier_of_mem_text {word : Word} {c : Char} (h : c ∈ word.text.toList) :
    continuesIdentifier c = true ∨ c = '#' := by
  rw [toList_text] at h
  split at h
  · rcases List.mem_cons.mp h with rfl | h
    · exact .inl (by decide)
    · exact (List.mem_cons.mp h).symm.imp_left continuesIdentifier_of_mem
  · exact .inl (continuesIdentifier_of_mem h)

end Word

def IsName (name : String) : Prop :=
  ∃ word : Word, name = word.text

theorem IsName.spelled {name : String} (h : IsName name) : Naming.Spelled name.toList := by
  obtain ⟨word, rfl⟩ := h
  intro c hc
  exact word.continuesIdentifier_of_mem_text hc

theorem IsName.noSlash {name : String} (h : IsName name) : '/' ∉ name.toList := by
  intro hm
  rcases h.spelled _ hm with hc | hc
  · exact absurd hc (by decide)
  · exact absurd hc (by decide)

-- ---------------------------------------------------------------------------
-- Declarations
-- ---------------------------------------------------------------------------

theorem RecordField.name_of_declare {field : RecordField} {declared : Field}
    (h : field.declare = .ok declared) : declared.name = field.name.text := by
  simp only [declare, bind_ok_iff, pure_ok_iff] at h
  obtain ⟨_, -, _, -, _, -, rfl⟩ := h
  rfl

end Source

open Source

structure Declaration.Named (declaration : Declaration) : Prop where
  name : IsName declaration.name
  fields : ∀ field ∈ declaration.fields, IsName field.name

namespace Source

theorem Record.named_of_declare {record : Record} {file : String} {declaration : Declaration}
    (h : record.declare file = .ok declaration) : declaration.Named := by
  simp only [declare, bind_ok_iff, pure_ok_iff] at h
  obtain ⟨table, -, fields, hf, rfl⟩ := h
  refine ⟨⟨record.name, rfl⟩, fun field hm => ?_⟩
  obtain ⟨declared, -, hd⟩ := (mem_mapM_iff hf).mp hm
  exact ⟨declared.name, declared.name_of_declare (mapError_ok_iff.mp hd)⟩

theorem named_of_declarations {text file : String}
    {parse : String → Except SyntaxError Items} {found : List (Except Failure Declaration)}
    (h : declarations text file parse = .ok found) {declaration : Declaration}
    (hm : .ok declaration ∈ found) : declaration.Named := by
  simp only [declarations, bind_ok_iff, pure_ok_iff] at h
  obtain ⟨items, -, rfl⟩ := h
  obtain ⟨record, -, hd⟩ := List.mem_map.mp hm
  exact record.named_of_declare (mapError_ok_iff.mp hd)

end Source

-- ---------------------------------------------------------------------------
-- Scans
-- ---------------------------------------------------------------------------

namespace ScanResult

def Named (result : ScanResult) : Prop :=
  ∀ declaration ∈ result.declarations, declaration.Named

theorem named_empty : ({} : ScanResult).Named :=
  fun _ hm => absurd hm List.not_mem_nil

variable {result : ScanResult}

theorem Named.addDeclaration (h : result.Named) {declared : Except Failure Declaration}
    (hd : ∀ declaration, declared = .ok declaration → declaration.Named) :
    (result.addDeclaration declared).Named := by
  cases declared with
  | error failure => exact h
  | ok declaration =>
    rw [ScanResult.addDeclaration]
    split
    · intro other hm
      rcases List.mem_append.mp hm with hm | hm
      · exact h other hm
      · exact List.mem_singleton.mp hm ▸ hd declaration rfl
    · exact h

theorem Named.addDeclarations (h : result.Named) {found : List (Except Failure Declaration)}
    (hf : ∀ declaration, .ok declaration ∈ found → declaration.Named) :
    (found.foldl ScanResult.addDeclaration result).Named := by
  induction found generalizing result with
  | nil => exact h
  | cons declared rest ih =>
    have hfirst := h.addDeclaration fun declaration hd => hf declaration (hd ▸ List.mem_cons_self)
    exact ih hfirst fun declaration hm => hf declaration (List.mem_cons_of_mem declared hm)

theorem Named.addText (h : result.Named) (reader : Reader) (path text : String) :
    (result.addText reader path text).Named := by
  rw [ScanResult.addText]
  split
  · exact h
  · rename_i found hf
    exact h.addDeclarations fun declaration hm => named_of_declarations hf hm

theorem Named.addFile (h : result.Named) (reader : Reader) (path : String) (content : Content) :
    (result.addFile reader path content).Named := by
  have hcount : result.count.Named := h
  rw [ScanResult.addFile]
  split
  · exact hcount
  · exact hcount.addText reader path _

theorem named_ofText (path text : String) (reader : Reader) : (ofText path text reader).Named :=
  named_empty.addText reader path text

end ScanResult

theorem Folder.named_of_scan {root : Folder} {directory : String} {options : ScanOptions}
    {reader : Reader} {result : ScanResult}
    (h : root.scan directory options reader = .ok result) : result.Named := by
  simp only [scan, bind_ok_iff, pure_ok_iff] at h
  obtain ⟨inner, -, patterns, -, rfl⟩ := h
  refine List.foldlRecOn _ _ ScanResult.named_empty fun result hr file _ => ?_
  exact hr.addFile reader _ file.2

end SchemaCompiler
