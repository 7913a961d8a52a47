import Mathlib.Data.List.Basic
import SchemaCompiler.Sql.Statement

/-!
# Parameters of statements

The text of a statement is read back: the numbers after its dollar signs are its
parameters in their order. This needs names and conditions without dollar signs, since a
statement takes them over as they are. A column that is inserted, assigned or compared is
bound to a parameter.
-/

namespace SchemaCompiler.Sql

open Text

-- ---------------------------------------------------------------------------
-- Reading texts
-- ---------------------------------------------------------------------------

/-- The numbers after the dollar signs of a text, from left to right. -/
def parametersIn : List Char → List Nat
  | [] => []
  | c :: rest =>
    if c = '$' then Nat.ofDigitChars 10 (rest.takeWhile Char.isDigit) 0 :: parametersIn rest
    else parametersIn rest

/-- Does not go on with the digits of a number before it. -/
def EndsNumber (cs : List Char) : Prop :=
  ∀ c ∈ cs.head?, c.isDigit = false

/-- The parameters of a part of a text, whatever ends the part. -/
def Reads (cs : List Char) (ns : List Nat) : Prop :=
  ∀ rest, EndsNumber rest → parametersIn (cs ++ rest) = ns ++ parametersIn rest

/-- A text that parts parameters and has none of its own. -/
structure PartsNumbers (separator : List Char) : Prop where
  nonempty : separator ≠ []
  ends : EndsNumber separator
  words : '$' ∉ separator

section

variable {cs ds rest : List Char} {ns ms : List Nat} {n : Nat}

theorem endsNumber_nil : EndsNumber [] := fun _ h => nomatch h

theorem endsNumber_cons {c : Char} (h : c.isDigit = false) : EndsNumber (c :: rest) := by
  intro d hd
  cases hd
  exact h

theorem EndsNumber.append (h : EndsNumber cs) (hr : EndsNumber rest) :
    EndsNumber (cs ++ rest) := by
  cases cs with
  | nil => exact hr
  | cons c more => exact endsNumber_cons (h c rfl)

theorem PartsNumbers.append (h : PartsNumbers cs) (rest : List Char) :
    EndsNumber (cs ++ rest) := by
  cases cs with
  | nil => exact absurd rfl h.nonempty
  | cons c more => exact endsNumber_cons (h.ends c rfl)

theorem parametersIn_append_of_notMem (h : '$' ∉ cs) :
    parametersIn (cs ++ rest) = parametersIn rest := by
  induction cs with
  | nil => rfl
  | cons c more ih =>
    obtain ⟨hc, hmore⟩ := not_or.mp (List.mem_cons.not.mp h)
    rw [List.cons_append, parametersIn, if_neg (Ne.symm hc), ih hmore]

theorem isDigit_of_mem_toString {c : Char} (h : c ∈ (toString n).toList) : c.isDigit = true := by
  rw [Nat.toString_eq_ofList_toDigits, String.toList_ofList] at h
  exact Nat.isDigit_of_mem_toDigits (by decide) (by decide) h

theorem takeWhile_isDigit_toString (h : EndsNumber rest) :
    ((toString n).toList ++ rest).takeWhile Char.isDigit = (toString n).toList := by
  have hrest : rest.takeWhile Char.isDigit = [] := by
    cases rest with
    | nil => rfl
    | cons c more => rw [List.takeWhile_cons, h c rfl, if_neg Bool.false_ne_true]
  rw [List.takeWhile_append_of_pos fun c hc => isDigit_of_mem_toString hc, hrest,
    List.append_nil]

theorem Reads.parametersIn_eq (h : Reads cs ns) : parametersIn cs = ns := by
  have hend := h [] endsNumber_nil
  rwa [List.append_nil, parametersIn, List.append_nil] at hend

theorem reads_words (h : '$' ∉ cs) : Reads cs [] :=
  fun _ _ => parametersIn_append_of_notMem h

theorem reads_parameterText : Reads (parameterText n).toList [n] := by
  intro rest hrest
  have hwords : '$' ∉ (toString n).toList := fun hm =>
    absurd (isDigit_of_mem_toString hm) (by decide)
  have htext : (parameterText n).toList = '$' :: (toString n).toList := by
    simp [parameterText]
  rw [htext, List.cons_append, parametersIn, if_pos rfl, takeWhile_isDigit_toString hrest,
    parametersIn_append_of_notMem hwords]
  simp

theorem Reads.append (hc : Reads cs ns) (hd : Reads ds ms) (hends : EndsNumber ds) :
    Reads (cs ++ ds) (ns ++ ms) := by
  intro rest hrest
  rw [List.append_assoc, hc _ (hends.append hrest), hd rest hrest, List.append_assoc]

theorem Reads.words_append (h : '$' ∉ cs) (hd : Reads ds ms) : Reads (cs ++ ds) ms := by
  intro rest hrest
  rw [List.append_assoc, parametersIn_append_of_notMem h, hd rest hrest]

theorem Reads.append_words (hc : Reads cs ns) (hends : EndsNumber ds) (h : '$' ∉ ds) :
    Reads (cs ++ ds) ns := by
  simpa using hc.append (reads_words h) hends

theorem reads_join {separator : String} (hs : PartsNumbers separator.toList) {items : List α}
    {text : α → String} {numbers : α → List Nat}
    (h : ∀ item ∈ items, Reads (text item).toList (numbers item)) :
    Reads (join separator (items.map text)).toList (items.flatMap numbers) := by
  induction items with
  | nil => exact reads_words List.not_mem_nil
  | cons item rest ih =>
    obtain ⟨hitem, hrest⟩ := List.forall_mem_cons.mp h
    cases rest with
    | nil => simpa [join] using hitem
    | cons next more =>
      have hmore := (ih hrest).words_append hs.words
      have hjoin : (join separator ((item :: next :: more).map text)).toList =
          (text item).toList ++
            (separator.toList ++ (join separator ((next :: more).map text)).toList) := by
        simp [join]
      rw [hjoin]
      exact hitem.append hmore (hs.append _)

end

-- ---------------------------------------------------------------------------
-- Texts of statements
-- ---------------------------------------------------------------------------

/-- What a condition takes over as it is. -/
def Condition.words : Condition → List String
  | equals column _ => [column]
  | equalsText column text => [column, text]
  | verbatim text => [text]

def Assignment.words : Assignment → List String
  | parameter column _ | null column => [column]

def Statement.words : Statement → List String
  | select columns source conditions order _ =>
    columns ++ source :: conditions.flatMap Condition.words ++ order.toList
  | count table conditions | delete table conditions =>
    table :: conditions.flatMap Condition.words
  | insert table columns returning => table :: columns ++ returning
  | update table assignments conditions =>
    table :: assignments.flatMap Assignment.words ++ conditions.flatMap Condition.words

theorem PartsNumbers.append_text {text : String} (h : PartsNumbers text.toList) (rest : String) :
    EndsNumber (text ++ rest).toList := by
  rw [String.toList_append]
  exact h.append rest.toList

theorem partsNumbers_returning : PartsNumbers ") RETURNING ".toList :=
  ⟨by decide, endsNumber_cons (by decide), by decide⟩

theorem partsNumbers_order : PartsNumbers " ORDER BY ".toList :=
  ⟨by decide, endsNumber_cons (by decide), by decide⟩

theorem partsNumbers_comma : PartsNumbers ", ".toList :=
  ⟨by decide, endsNumber_cons (by decide), by decide⟩

theorem partsNumbers_and : PartsNumbers " AND ".toList :=
  ⟨by decide, endsNumber_cons (by decide), by decide⟩

theorem dollar_notMem_join {items : List String} (h : ∀ item ∈ items, '$' ∉ item.toList) :
    '$' ∉ (join ", " items).toList := by
  induction items with
  | nil => exact List.not_mem_nil
  | cons item rest ih =>
    obtain ⟨hitem, hrest⟩ := List.forall_mem_cons.mp h
    cases rest with
    | nil => exact hitem
    | cons next more => simpa [join] using ⟨hitem, ih hrest⟩

theorem Condition.reads_text {condition : Condition}
    (h : ∀ word ∈ condition.words, '$' ∉ word.toList) :
    Reads condition.text.toList condition.parameter?.toList := by
  cases condition with
  | equals column n =>
    rw [text, String.toList_append]
    refine reads_parameterText.words_append ?_
    simpa using h column List.mem_cons_self
  | equalsText column text =>
    refine reads_words ?_
    simpa [Condition.text, Condition.words] using h
  | verbatim text =>
    refine reads_words ?_
    simpa [Condition.text, Condition.words] using h

theorem Assignment.reads_text {assignment : Assignment}
    (h : ∀ word ∈ assignment.words, '$' ∉ word.toList) :
    Reads assignment.text.toList assignment.parameter?.toList := by
  cases assignment with
  | parameter column n =>
    rw [text, String.toList_append]
    refine reads_parameterText.words_append ?_
    simpa using h column List.mem_cons_self
  | null column =>
    refine reads_words ?_
    simpa [Assignment.text, Assignment.words] using h

theorem text_equals (column : String) (n : Nat) :
    (Condition.equals column n).text = column ++ " = $" ++ toString n := by
  rw [Condition.text, parameterText, ← String.append_assoc, @String.append_assoc column]
  rfl

theorem text_equals_one (column : String) :
    (Condition.equals column 1).text = column ++ " = $1" :=
  (text_equals column 1).trans (String.append_assoc ..)

theorem whereText_cons (condition : Condition) (rest : List Condition) :
    whereText (condition :: rest) =
      " WHERE " ++ join " AND " ((condition :: rest).map Condition.text) := rfl

theorem reads_whereText {conditions : List Condition}
    (h : ∀ word ∈ conditions.flatMap Condition.words, '$' ∉ word.toList) :
    Reads (whereText conditions).toList (conditions.filterMap Condition.parameter?) := by
  cases conditions with
  | nil => exact reads_words List.not_mem_nil
  | cons condition rest =>
    rw [whereText_cons, String.toList_append, List.filterMap_eq_flatMap_toList]
    refine (reads_join partsNumbers_and fun condition hc => ?_).words_append (by decide)
    exact Condition.reads_text fun word hw => h word (List.mem_flatMap.mpr ⟨condition, hc, hw⟩)

theorem endsNumber_whereText (conditions : List Condition) :
    EndsNumber (whereText conditions).toList := by
  cases conditions with
  | nil => exact endsNumber_nil
  | cons condition rest =>
    rw [whereText_cons, String.toList_append]
    exact endsNumber_cons (by decide)

namespace Statement

variable {statement : Statement}

theorem reads_values (columns : List String) :
    Reads (join ", " ((columns.zipIdx 1).map fun (_, n) => parameterText n)).toList
      ((columns.zipIdx 1).map (·.2)) := by
  have hnumbers : (columns.zipIdx 1).map (·.2) = (columns.zipIdx 1).flatMap fun (_, n) => [n] :=
    List.map_eq_flatMap
  rw [hnumbers]
  exact reads_join partsNumbers_comma fun _ _ => reads_parameterText

theorem text_select {columns : List String} {source : String} {conditions : List Condition}
    {order : Option String} {single : Bool} :
    (select columns source conditions order single).text =
      "SELECT " ++ join ", " columns ++ " FROM " ++ source ++ whereText conditions ++
        order.elim "" (" ORDER BY " ++ ·) ++ (if single then " LIMIT 1" else "") := by
  cases order <;> rfl

theorem reads_select {columns : List String} {source : String} {conditions : List Condition}
    {order : Option String} {single : Bool} (hc : ∀ word ∈ columns, '$' ∉ word.toList)
    (hs : '$' ∉ source.toList)
    (hw : ∀ word ∈ conditions.flatMap Condition.words, '$' ∉ word.toList)
    (ho : ∀ word, order = some word → '$' ∉ word.toList) :
    Reads (select columns source conditions order single).text.toList
      (conditions.filterMap Condition.parameter?) := by
  have hhead : '$' ∉ ("SELECT " ++ join ", " columns ++ " FROM " ++ source).toList := by
    simpa using ⟨dollar_notMem_join hc, hs⟩
  have horder : Reads ("SELECT " ++ join ", " columns ++ " FROM " ++ source ++
      whereText conditions ++ order.elim "" (" ORDER BY " ++ ·)).toList
        (conditions.filterMap Condition.parameter?) := by
    rw [String.toList_append, String.toList_append]
    refine ((reads_whereText hw).words_append hhead).append_words ?_ ?_
    · cases order with
      | none => exact endsNumber_nil
      | some order => exact partsNumbers_order.append_text order
    · cases order with
      | none => exact List.not_mem_nil
      | some order => simpa using ho order rfl
  rw [text_select, String.toList_append]
  refine horder.append_words ?_ ?_
  · cases single with
    | false => exact endsNumber_nil
    | true => exact endsNumber_cons (by decide)
  · cases single <;> decide

theorem text_insert_nil {table : String} {returning : List String} :
    (insert table [] returning).text =
      "INSERT INTO " ++ table ++ " DEFAULT VALUES RETURNING " ++ join ", " returning := rfl

theorem text_insert {table : String} {columns returning : List String} (h : columns ≠ []) :
    (insert table columns returning).text =
      "INSERT INTO " ++ table ++ " (" ++ join ", " columns ++ ") VALUES (" ++
        join ", " ((columns.zipIdx 1).map fun (_, n) => parameterText n) ++
          (") RETURNING " ++ join ", " returning) := by
  cases columns with
  | nil => exact absurd rfl h
  | cons column rest => rw [← String.append_assoc]; rfl

theorem reads_insert {table : String} {columns returning : List String}
    (ht : '$' ∉ table.toList) (hc : ∀ word ∈ columns, '$' ∉ word.toList)
    (hr : ∀ word ∈ returning, '$' ∉ word.toList) :
    Reads (insert table columns returning).text.toList ((columns.zipIdx 1).map (·.2)) := by
  have hreturning := dollar_notMem_join hr
  cases columns with
  | nil =>
    refine reads_words ?_
    rw [text_insert_nil]
    simpa using ⟨ht, hreturning⟩
  | cons column rest =>
    have hhead : '$' ∉ ("INSERT INTO " ++ table ++ " (" ++ join ", " (column :: rest) ++
        ") VALUES (").toList := by
      simpa using ⟨ht, dollar_notMem_join hc⟩
    rw [text_insert (List.cons_ne_nil column rest), String.toList_append, String.toList_append]
    refine ((reads_values (column :: rest)).words_append hhead).append_words ?_ ?_
    · exact partsNumbers_returning.append_text _
    · simpa using hreturning

theorem text_update {table : String} {assignments : List Assignment}
    {conditions : List Condition} :
    (update table assignments conditions).text =
      "UPDATE " ++ table ++ " SET " ++ join ", " (assignments.map Assignment.text) ++
        whereText conditions := rfl

theorem reads_update {table : String} {assignments : List Assignment}
    {conditions : List Condition} (ht : '$' ∉ table.toList)
    (ha : ∀ word ∈ assignments.flatMap Assignment.words, '$' ∉ word.toList)
    (hw : ∀ word ∈ conditions.flatMap Condition.words, '$' ∉ word.toList) :
    Reads (update table assignments conditions).text.toList
      (assignments.filterMap Assignment.parameter? ++
        conditions.filterMap Condition.parameter?) := by
  have hhead : '$' ∉ ("UPDATE " ++ table ++ " SET ").toList := by simpa using ht
  have hset : Reads (join ", " (assignments.map Assignment.text)).toList
      (assignments.filterMap Assignment.parameter?) := by
    rw [List.filterMap_eq_flatMap_toList]
    refine reads_join partsNumbers_comma fun assignment hm => ?_
    exact Assignment.reads_text fun word hword =>
      ha word (List.mem_flatMap.mpr ⟨assignment, hm, hword⟩)
  rw [text_update, String.toList_append, String.toList_append]
  exact (hset.words_append hhead).append (reads_whereText hw) (endsNumber_whereText conditions)

theorem text_count {table : String} {conditions : List Condition} :
    (count table conditions).text = "SELECT COUNT(*) FROM " ++ table ++ whereText conditions := rfl

theorem text_delete {table : String} {conditions : List Condition} :
    (delete table conditions).text = "DELETE FROM " ++ table ++ whereText conditions := rfl

theorem parametersIn_text {statement : Statement}
    (h : ∀ word ∈ statement.words, '$' ∉ word.toList) :
    parametersIn statement.text.toList = statement.parameters := by
  refine Reads.parametersIn_eq ?_
  cases statement with
  | select columns source conditions order single =>
    simp only [words, List.forall_mem_append, List.forall_mem_cons, Option.mem_toList] at h
    exact reads_select h.1.1 h.1.2.1 h.1.2.2 h.2
  | count table conditions =>
    obtain ⟨ht, hw⟩ := List.forall_mem_cons.mp h
    rw [text_count, String.toList_append]
    exact (reads_whereText hw).words_append (by simpa using ht)
  | insert table columns returning =>
    simp only [words, List.forall_mem_append, List.forall_mem_cons] at h
    exact reads_insert h.1.1 h.1.2 h.2
  | update table assignments conditions =>
    simp only [words, List.forall_mem_append, List.forall_mem_cons] at h
    exact reads_update h.1.1 h.1.2 h.2
  | delete table conditions =>
    obtain ⟨ht, hw⟩ := List.forall_mem_cons.mp h
    rw [text_delete, String.toList_append]
    exact (reads_whereText hw).words_append (by simpa using ht)

end Statement

-- ---------------------------------------------------------------------------
-- Bound columns
-- ---------------------------------------------------------------------------

def Condition.column? : Condition → Option String
  | equals column _ | equalsText column _ => some column
  | verbatim _ => none

def Assignment.column : Assignment → String
  | parameter column _ | null column => column

/-- The columns that are inserted, assigned or compared, from left to right. -/
def Statement.targets : Statement → List String
  | select _ _ conditions _ _ | count _ conditions | delete _ conditions =>
    conditions.filterMap Condition.column?
  | insert _ columns _ => columns
  | update _ assignments conditions =>
    assignments.map Assignment.column ++ conditions.filterMap Condition.column?

section

variable (columns : List String) (start : Nat)

@[simp] theorem words_equalities :
    (equalities columns start).flatMap Condition.words = columns := by
  simp [equalities, List.flatMap_map, Condition.words, ← List.map_eq_flatMap]

@[simp] theorem words_assignments : (assignments columns).flatMap Assignment.words = columns := by
  simp [assignments, List.flatMap_map, Assignment.words, ← List.map_eq_flatMap]

end

end SchemaCompiler.Sql
