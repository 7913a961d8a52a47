import SchemaCompiler.Proofs.Sql.ByteSearch
import SchemaCompiler.Proofs.Sql.Check
import SchemaCompiler.Sql.ColumnType
import SchemaCompiler.Sql.Reference

/-!
# Reading by offsets

The readers of checks, column types and indexes as they work on bytes: they look for offsets
and take the slices between them. No slice fails on any text, and the readers give what those
that work on characters give.
-/

namespace SchemaCompiler.Sql.Bytewise

open Text

-- ---------------------------------------------------------------------------
-- Readers
-- ---------------------------------------------------------------------------

def find (c : Char) (cs : List Char) : Option Nat :=
  (cs.idxOf? c).map (offsetOf cs)

def baseName (type : String) (cs : List Char) :
    Checked (Except ColumnTypeError (List Char)) :=
  match find '(' cs with
  | none => some (.ok cs)
  | some position =>
    if cs.getLast? ≠ some ')' then some (.error (.unterminated type))
    else do
      let parameters ← slice cs (position + 1) ((encoded cs).length - 1)
      if isBlankText parameters then return .error (.noParameters type)
      else
        let name ← slice cs 0 position
        return .ok (trim name)

def validateColumnType (type : String) : Checked (Except ColumnTypeError Unit) :=
  let lowered := (trim type.toList).map Char.toLower
  if lowered.isEmpty then some (.error .empty)
  else do
    let base ← baseName type (withoutEnding "unsigned" (withoutEnding "[]" lowered))
    return (match base with
      | .error e => .error e
      | .ok base =>
        if baseTypes.contains (.ofList base) then .ok () else .error (.unsupported type))

def parseIndexSpec (value : String) : Checked (Except IndexSpecError IndexSpec) :=
  let text := trim value.toList
  let shown := String.ofList text
  match (find '(' text).filter fun _ => text.getLast? = some ')' with
  | none => some (.error (.noList shown))
  | some position => do
    let before ← slice text 0 position
    let inner ← slice text (position + 1) ((encoded text).length - 1)
    let name := String.ofList (trim before)
    let columns := listItems inner
    return (if columns.isEmpty then .error (.noColumns shown)
      else match columns.find? (!isIdentifier ·) with
        | some column => .error (.badColumn shown column)
        | none =>
          if name = "" then .ok ⟨none, columns⟩
          else if isIdentifier name then .ok ⟨some name, columns⟩
          else .error (.badName name))

/-- The pieces of `cs` from `start` on, where `rest` is what is left of it at the offset `i`. -/
def piecesFrom (separator : Char) (cs : List Char) (inQuotes : Bool) (start i : Nat) :
    List Char → Checked (List (List Char))
  | [] => do
    let piece ← slice cs start (encoded cs).length
    return [piece]
  | c :: rest =>
    if c = quote then piecesFrom separator cs (!inQuotes) start (i + c.utf8Size) rest
    else if c = separator ∧ inQuotes = false then do
      let piece ← slice cs start i
      let more ← piecesFrom separator cs inQuotes (i + c.utf8Size) (i + c.utf8Size) rest
      return piece :: more
    else piecesFrom separator cs inQuotes start (i + c.utf8Size) rest

def unquotedPieces (separator : Char) (cs : List Char) : Checked (List (List Char)) :=
  piecesFrom separator cs false 0 0 cs

def parenthesized : List Char → Checked (Option (List Char))
  | '(' :: rest =>
    match find ')' rest with
    | none => some none
    | some stop => (slice rest 0 stop).map some
  | _ => some none

def checkList (cs : List Char) : Checked (Except CheckError Unit) := do
  let expression := String.ofList cs
  match ← findWord "IN".toList cs with
  | none => return .ok ()
  | some position =>
    let rest ← slice cs (position + 2) (encoded cs).length
    match ← parenthesized (trimStart rest) with
    | none => return .error (.listExpected expression)
    | some inner =>
      if isBlankText inner then return .error (.emptyList expression)
      else
        let items ← unquotedPieces ',' inner
        return (match (items.map trim).find? (!isNumericLiteral ·) with
          | some item => .error (.badItem (.ofList item) expression)
          | none => .ok ())

def checkRange (cs : List Char) : Checked (Except CheckError Unit) := do
  match ← findWord "BETWEEN".toList cs with
  | none => return .ok ()
  | some _ =>
    match ← findWord "AND".toList cs with
    | none => return .error (.missingAnd (.ofList cs))
    | some _ => return .ok ()

def validateCheck (expression : String) : Checked (Except CheckError Unit) :=
  let cs := trim expression.toList
  if cs.isEmpty then some (.error .empty)
  else if !isBalanced cs then some (.error (.unbalanced (.ofList cs)))
  else do
    match ← checkList cs with
    | .error e => return .error e
    | .ok () =>
      match ← checkRange cs with
      | .error e => return .error e
      | .ok () => return checkLength cs

variable {cs before after rest : List Char} {c separator : Char} {inQuotes : Bool} {n : Nat}

-- ---------------------------------------------------------------------------
-- Offsets
-- ---------------------------------------------------------------------------

theorem offsetOf_succ (c : Char) (cs : List Char) (n : Nat) :
    offsetOf (c :: cs) (n + 1) = c.utf8Size + offsetOf cs n := by
  rw [offsetOf, List.take_succ_cons, encoded_cons, List.length_append,
    String.length_utf8EncodeChar, offsetOf]

theorem find_eq (c : Char) (cs : List Char) :
    find c cs = (cut? c cs).map fun parts => (encoded parts.1).length := by
  induction cs with
  | nil => rfl
  | cons d rest ih =>
    rw [find, List.idxOf?_cons, cut?]
    by_cases hd : d = c
    · simp [hd, offsetOf]
    · rw [if_neg (by simpa using hd), if_neg hd]
      have hsucc : offsetOf (d :: rest) ∘ (· + 1) = (d.utf8Size + ·) ∘ offsetOf rest :=
        funext (offsetOf_succ d rest)
      rw [Option.map_map, hsucc, ← Option.map_map, ← find, ih, Option.map_map, Option.map_map]
      congr 1
      funext parts
      simp

theorem slices_of_cut (hcut : cut? '(' cs = some (before, after))
    (hlast : after.getLast? = some ')') :
    slice cs 0 (encoded before).length = some before ∧
      slice cs ((encoded before).length + 1) ((encoded cs).length - 1) = some after.dropLast := by
  obtain ⟨rfl, -⟩ := cut?_eq_some_iff.mp hcut
  obtain ⟨inner, rfl⟩ := List.getLast?_eq_some_iff.mp hlast
  have hopen : encoded ['('] = [40] := rfl
  have hclose : encoded [')'] = [41] := rfl
  refine ⟨slice_left, slice_eq_some_iff.mpr ⟨before ++ ['('], [')'], by simp, ?_, ?_⟩⟩
  · rw [encoded_append, hopen, List.length_append, List.length_singleton]
  · rw [List.dropLast_concat, ← List.singleton_append, ← List.append_assoc, ← List.append_assoc,
      encoded_append (before ++ ['('] ++ inner), hclose, List.length_append, List.length_singleton,
      Nat.add_sub_cancel]

theorem getLast?_of_cut (hcut : cut? '(' cs = some (before, after)) :
    cs.getLast? = some ')' ↔ after.getLast? = some ')' := by
  obtain ⟨rfl, -⟩ := cut?_eq_some_iff.mp hcut
  rw [List.getLast?_append, List.getLast?_cons]
  cases after.getLast? <;> simp

-- ---------------------------------------------------------------------------
-- Column types and indexes
-- ---------------------------------------------------------------------------

theorem baseName_eq (type : String) (cs : List Char) :
    baseName type cs = some (Sql.baseName type cs) := by
  rw [baseName, Sql.baseName, find_eq]
  cases hcut : cut? '(' cs with
  | none => rfl
  | some parts =>
    obtain ⟨before, after⟩ := parts
    rw [Option.map_some]
    simp only [ne_eq, getLast?_of_cut hcut]
    by_cases hlast : after.getLast? = some ')'
    · obtain ⟨hname, hparameters⟩ := slices_of_cut hcut hlast
      rw [if_neg (not_not_intro hlast), if_neg (not_not_intro hlast), hname, hparameters]
      by_cases hblank : isBlankText after.dropLast = true <;> simp [hblank]
    · rw [if_pos hlast, if_pos hlast]

theorem validateColumnType_eq (type : String) :
    validateColumnType type = some (Sql.validateColumnType type) := by
  simp only [validateColumnType, Sql.validateColumnType, baseName_eq]
  by_cases hempty : ((trim type.toList).map Char.toLower).isEmpty = true
  · rw [if_pos hempty, if_pos hempty]
  · rw [if_neg hempty, if_neg hempty, Option.bind_eq_bind, Option.bind_some]
    cases Sql.baseName type _ <;> rfl

theorem parseIndexSpec_eq (value : String) :
    parseIndexSpec value = some (IndexSpec.parse value) := by
  rw [parseIndexSpec, IndexSpec.parse]
  simp only [find_eq]
  cases hcut : cut? '(' (trim value.toList) with
  | none => rfl
  | some parts =>
    obtain ⟨before, after⟩ := parts
    simp only [getLast?_of_cut hcut]
    by_cases hlast : after.getLast? = some ')'
    · obtain ⟨hname, hcolumns⟩ := slices_of_cut hcut hlast
      rw [Option.map_some, Option.filter_some, if_pos (by simpa using hlast),
        if_neg (not_not_intro hlast)]
      simp only [hname, hcolumns]
      rfl
    · rw [Option.map_some, Option.filter_some, if_neg (by simpa using hlast), if_pos hlast]

-- ---------------------------------------------------------------------------
-- Pieces
-- ---------------------------------------------------------------------------

/-- Before the rest stands what is read already and the beginning of the piece that is read. -/
theorem piecesFrom_eq (separator : Char) (inQuotes : Bool) (before piece rest : List Char) :
    piecesFrom separator (before ++ (piece ++ rest)) inQuotes (encoded before).length
        (encoded (before ++ piece)).length rest =
      some ((unquotedPiecesFrom separator inQuotes rest).modifyHead (piece ++ ·)) := by
  induction rest generalizing inQuotes before piece with
  | nil =>
    rw [piecesFrom, slice_right]
    simp [unquotedPiecesFrom]
  | cons c rest ih =>
    have hnext (ds : List Char) :
        (encoded ds).length + c.utf8Size = (encoded (ds ++ [c])).length := by
      simp
    have hcons (inQuotes : Bool) :
        piecesFrom separator (before ++ (piece ++ c :: rest)) inQuotes (encoded before).length
          (encoded (before ++ (piece ++ [c]))).length rest =
        some (((unquotedPiecesFrom separator inQuotes rest).modifyHead (c :: ·)).modifyHead
          (piece ++ ·)) := by
      have hrest := ih inQuotes before (piece ++ [c])
      rw [List.append_assoc piece, List.singleton_append] at hrest
      rw [hrest, List.modifyHead_modifyHead]
      simp [Function.comp_def]
    rw [piecesFrom, hnext, List.append_assoc before]
    by_cases hc : c = quote
    · rw [if_pos hc, hcons, unquotedPiecesFrom_cons (fun h => h.1 hc), if_pos hc]
    · rw [if_neg hc]
      by_cases hsep : c = separator ∧ inQuotes = false
      · obtain ⟨rfl, rfl⟩ := hsep
        have hpiece : slice (before ++ (piece ++ c :: rest)) (encoded before).length
            (encoded (before ++ piece)).length = some piece :=
          slice_eq_some_iff.mpr ⟨before, c :: rest, rfl, rfl, rfl⟩
        have hmore : piecesFrom c (before ++ (piece ++ c :: rest)) false
            (encoded (before ++ (piece ++ [c]))).length
            (encoded (before ++ (piece ++ [c]))).length rest =
              some (unquotedPiecesFrom c false rest) := by
          have hrest := ih false (before ++ (piece ++ [c])) []
          rw [List.append_nil, List.append_assoc, List.append_assoc, List.nil_append,
            List.singleton_append] at hrest
          exact hrest.trans (congrArg some (congrFun List.modifyHead_id _))
        rw [if_pos ⟨rfl, rfl⟩, hpiece, hmore, unquotedPiecesFrom_separator hc,
          List.modifyHead_cons, List.append_nil]
        rfl
      · rw [if_neg hsep, hcons, unquotedPiecesFrom_cons (fun h => hsep h.2), if_neg hc]

theorem unquotedPieces_eq (separator : Char) (cs : List Char) :
    unquotedPieces separator cs = some (Sql.unquotedPieces separator cs) := by
  have hall := piecesFrom_eq separator false [] [] cs
  exact hall.trans (congrArg some (congrFun List.modifyHead_id _))

-- ---------------------------------------------------------------------------
-- Checks
-- ---------------------------------------------------------------------------

theorem parenthesized_eq (cs : List Char) : parenthesized cs = some (parenthesized? cs) := by
  fun_cases parenthesized? cs with
  | case1 rest =>
    rw [parenthesized, find_eq]
    cases hcut : cut? ')' rest with
    | none => rfl
    | some parts =>
      obtain ⟨before, after⟩ := parts
      obtain ⟨rfl, -⟩ := cut?_eq_some_iff.mp hcut
      simp only [Option.map_some, slice_left]
  | case2 _ hother => exact parenthesized.eq_2 cs hother

theorem offsetOf_add_length {word : List Char} (ha : ∀ c ∈ word, c.toNat < 128)
    (h : StandsAt word cs n) : offsetOf cs (n + word.length) = offsetOf cs n + word.length := by
  obtain ⟨matched, ⟨rest, hrest⟩, hm⟩ := List.prefix_map_iff.mp h.found
  have hlength : matched.length = word.length := by
    simpa [foldCase] using (congrArg List.length hm).symm
  change foldCase word = foldCase matched at hm
  have hmatched : ∀ c ∈ matched, c.toNat < 128 :=
    ascii_foldCase_iff.mp (hm ▸ ascii_foldCase_iff.mpr ha)
  have htake : cs.take (n + word.length) = cs.take n ++ matched := by
    rw [List.take_add, ← hrest, ← hlength, List.take_left]
  rw [offsetOf, htake, encoded_append, List.length_append, length_encoded_of_ascii hmatched,
    hlength, offsetOf]

theorem slice_offsetOf (cs : List Char) (n : Nat) :
    slice cs (offsetOf cs n) (encoded cs).length = some (cs.drop n) := by
  have hright := @slice_right (cs.take n) (cs.drop n)
  rwa [List.take_append_drop] at hright

theorem checkList_eq (cs : List Char) : checkList cs = some (Sql.checkList cs) := by
  have hk : IsKeyword "IN" := ⟨by decide, by decide⟩
  rw [checkList, Sql.checkList, findWord_eq_some hk.isWord hk.ascii]
  cases hfind : Sql.findWord "IN".toList cs with
  | none => rfl
  | some n =>
    have hn := ((findWord_eq_some_iff hk.isWord).mp hfind).1
    have hrest : slice cs (offsetOf cs n + 2) (encoded cs).length = some (cs.drop (n + 2)) := by
      have hoffset : offsetOf cs (n + 2) = offsetOf cs n + 2 := offsetOf_add_length hk.ascii hn
      rw [← hoffset, slice_offsetOf]
    simp only [Option.map_some, Option.bind_eq_bind, Option.bind_some, hrest, parenthesized_eq]
    cases parenthesized? (trimStart (cs.drop (n + 2))) with
    | none => rfl
    | some inner =>
      simp only [unquotedPieces_eq]
      by_cases hblank : isBlankText inner = true
      · rw [if_pos hblank, if_pos hblank]
        rfl
      · rw [if_neg hblank, if_neg hblank]
        rfl

theorem checkRange_eq (cs : List Char) : checkRange cs = some (Sql.checkRange cs) := by
  have hbetween : IsKeyword "BETWEEN" := ⟨by decide, by decide⟩
  have hand : IsKeyword "AND" := ⟨by decide, by decide⟩
  rw [checkRange, Sql.checkRange, hasWord, hasWord,
    findWord_eq_some hbetween.isWord hbetween.ascii, findWord_eq_some hand.isWord hand.ascii]
  cases Sql.findWord "BETWEEN".toList cs with
  | none => rfl
  | some n => cases Sql.findWord "AND".toList cs <;> rfl

theorem validateCheck_eq (expression : String) :
    validateCheck expression = some (Sql.validateCheck expression) := by
  simp only [validateCheck, Sql.validateCheck, checkList_eq, checkRange_eq]
  by_cases hempty : (trim expression.toList).isEmpty = true
  · rw [if_pos hempty, if_pos hempty]
  · rw [if_neg hempty, if_neg hempty]
    by_cases hbalanced : (!isBalanced (trim expression.toList)) = true
    · rw [if_pos hbalanced, if_pos hbalanced]
    · rw [if_neg hbalanced, if_neg hbalanced]
      cases Sql.checkList (trim expression.toList) with
      | error e => rfl
      | ok u =>
        cases Sql.checkRange (trim expression.toList) with
        | error e => rfl
        | ok u => rfl

-- ---------------------------------------------------------------------------
-- All readers
-- ---------------------------------------------------------------------------

/-- On any text every slice that the readers take is a range of whole characters of the text it
is taken of, and what they give is what the readers of characters give. -/
theorem slices_whole (text : String) (separator : Char) :
    validateCheck text = some (Sql.validateCheck text) ∧
      validateColumnType text = some (Sql.validateColumnType text) ∧
      parseIndexSpec text = some (IndexSpec.parse text) ∧
      unquotedPieces separator text.toList = some (Sql.unquotedPieces separator text.toList) :=
  ⟨validateCheck_eq text, validateColumnType_eq text, parseIndexSpec_eq text,
    unquotedPieces_eq separator text.toList⟩

end SchemaCompiler.Sql.Bytewise
