/-
  Comma-separated values: the grammar of RFC 4180 with LF for its line ends, and a reader.

      file = record *(LF record) [LF]          record = field *(COMMA field)
      field = DQUOTE *(TEXTDATA / COMMA / CR / LF / 2DQUOTE) DQUOTE / *TEXTDATA

  `TEXTDATA` is any character but the comma, the double quote, CR and LF: the grammar's range
  is that of ASCII without control characters, and the format may be used with other character
  sets.

  The grammar is ambiguous at the end of a file only, where an LF may also end the last record.
  Other files are read in one way, which `readTable` finds (`readTable_of_reads`).
-/
import Mathlib.Data.List.Basic
import Mathlib.Data.List.Forall2

namespace HybridOperator.Lib.Csv

def textData (c : Char) : Bool := c != ',' && c != '"' && c != '\r' && c != '\n'

/-- Every quote twice. -/
def doubleQuotes (cs : List Char) : List Char :=
  cs.flatMap fun c => if c = '"' then ['"', '"'] else [c]

/-! ## The grammar -/

/-- A text of a field and the cell it stands for. -/
inductive Field : List Char → String → Prop where
  | plain {cell : String} (h : ∀ c ∈ cell.toList, textData c = true) : Field cell.toList cell
  | quoted (cell : String) : Field ('"' :: (doubleQuotes cell.toList ++ ['"'])) cell

def Record (text : List Char) (row : List String) : Prop :=
  ∃ fields, fields ≠ [] ∧ List.Forall₂ Field fields row ∧ text = [','].intercalate fields

/-- The records of a text without the optional line end of the last one. -/
def Records (text : List Char) (table : List (List String)) : Prop :=
  ∃ records, records ≠ [] ∧ List.Forall₂ Record records table ∧ text = ['\n'].intercalate records

def Reads (text : List Char) (table : List (List String)) : Prop :=
  Records text table ∨ ∃ text', Records text' table ∧ text = text' ++ ['\n']

/-! ## The reader -/

/-- Where the reader is in a field. -/
inductive Place where
  | start
  | plain
  | quoted
  /-- behind a quote that ends the field, or is the first of two -/
  | closing

/-- What is read from a place on, with the part of the field and the row that stand before it. -/
def go : Place → List Char → List String → List Char → Option (List (List String))
  | .quoted, _, _, [] => none
  | _, cell, row, [] => some [row ++ [String.ofList cell]]
  | .quoted, cell, row, c :: s =>
      if c = '"' then go .closing cell row s else go .quoted (cell ++ [c]) row s
  | place, cell, row, c :: s =>
      if c = ',' then go .start [] (row ++ [String.ofList cell]) s
      else if c = '\n' then
        (go .start [] [] s).map fun table => (row ++ [String.ofList cell]) :: table
      else match place with
        | .closing => if c = '"' then go .quoted (cell ++ [c]) row s else none
        | .start =>
            if c = '"' then go .quoted [] row s
            else if textData c then go .plain (cell ++ [c]) row s else none
        | _ => if textData c then go .plain (cell ++ [c]) row s else none

def readTable (text : List Char) : Option (List (List String)) := go .start [] [] text

/-- What is read after a whole field, where the text goes on with `t`. -/
def fieldEnd (cell : String) (row : List String) : List Char → Option (List (List String))
  | [] => some [row ++ [cell]]
  | c :: s =>
      if c = ',' then go .start [] (row ++ [cell]) s
      else (go .start [] [] s).map fun table => (row ++ [cell]) :: table

/-- A field ends here: with the text, at a comma or at a line end. -/
def EndsField (t : List Char) : Prop := ∀ c ∈ t.head?, c = ',' ∨ c = '\n'

/-! ## Steps -/

section Steps

variable (cell : List Char) (row : List String) (c : Char) (s : List Char)

theorem go_start :
    go .start cell row (c :: s) =
      if c = ',' then go .start [] (row ++ [String.ofList cell]) s
      else if c = '\n' then
        (go .start [] [] s).map fun table => (row ++ [String.ofList cell]) :: table
      else if c = '"' then go .quoted [] row s
      else if textData c then go .plain (cell ++ [c]) row s else none := rfl

theorem go_plain :
    go .plain cell row (c :: s) =
      if c = ',' then go .start [] (row ++ [String.ofList cell]) s
      else if c = '\n' then
        (go .start [] [] s).map fun table => (row ++ [String.ofList cell]) :: table
      else if textData c then go .plain (cell ++ [c]) row s else none := rfl

theorem go_quoted :
    go .quoted cell row (c :: s) =
      if c = '"' then go .closing cell row s else go .quoted (cell ++ [c]) row s := rfl

theorem go_closing :
    go .closing cell row (c :: s) =
      if c = ',' then go .start [] (row ++ [String.ofList cell]) s
      else if c = '\n' then
        (go .start [] [] s).map fun table => (row ++ [String.ofList cell]) :: table
      else if c = '"' then go .quoted (cell ++ [c]) row s else none := rfl

end Steps

theorem textData_ne {c : Char} (h : textData c = true) :
    c ≠ ',' ∧ c ≠ '"' ∧ c ≠ '\r' ∧ c ≠ '\n' := by
  simpa [textData, and_assoc] using h

/-- The places at which a field that is not quoted is read. -/
def Place.Unquoted (place : Place) : Prop := place = .start ∨ place = .plain

theorem go_textData {place : Place} (hplace : place.Unquoted) {c : Char}
    (h : textData c = true) (cell : List Char) (row : List String) (s : List Char) :
    go place cell row (c :: s) = go .plain (cell ++ [c]) row s := by
  obtain ⟨hcomma, hquote, -, hline⟩ := textData_ne h
  rcases hplace with rfl | rfl
  · rw [go_start, if_neg hcomma, if_neg hline, if_neg hquote, if_pos h]
  · rw [go_plain, if_neg hcomma, if_neg hline, if_pos h]

/-- Text is collected until something else comes. -/
theorem go_text {w : List Char} (hw : ∀ c ∈ w, textData c = true) (place : Place)
    (hplace : place.Unquoted) (cell : List Char) (row : List String) (t : List Char) :
    ∃ place', place'.Unquoted ∧ go place cell row (w ++ t) = go place' (cell ++ w) row t := by
  induction w generalizing place cell with
  | nil => exact ⟨place, hplace, by rw [List.nil_append, List.append_nil]⟩
  | cons c w ih =>
    obtain ⟨place', hplace', hgo⟩ := ih (fun d hd => hw d (List.mem_cons_of_mem c hd))
      .plain (Or.inr rfl) (cell ++ [c])
    refine ⟨place', hplace', ?_⟩
    rw [List.cons_append, go_textData hplace (hw c List.mem_cons_self), hgo, List.append_assoc]
    rfl

/-- A field that is not quoted ends before the end, a comma or a line end. -/
theorem go_ends {place : Place} (hplace : place.Unquoted ∨ place = .closing) {t : List Char}
    (ht : EndsField t) (cell : List Char) (row : List String) :
    go place cell row t = fieldEnd (String.ofList cell) row t := by
  cases t with
  | nil =>
    rcases hplace with (rfl | rfl) | rfl
    · rfl
    · rfl
    · rfl
  | cons c s =>
    have hc := ht c rfl
    rcases hplace with (rfl | rfl) | rfl
    · rw [go_start, fieldEnd]
      split_ifs with hcomma hline
      · rfl
      · rfl
      · exact absurd (hc.resolve_left hcomma) hline
      · exact absurd (hc.resolve_left hcomma) hline
      · exact absurd (hc.resolve_left hcomma) hline
    · rw [go_plain, fieldEnd]
      split_ifs with hcomma hline
      · rfl
      · rfl
      · exact absurd (hc.resolve_left hcomma) hline
      · exact absurd (hc.resolve_left hcomma) hline
    · rw [go_closing, fieldEnd]
      split_ifs with hcomma hline
      · rfl
      · rfl
      · exact absurd (hc.resolve_left hcomma) hline
      · exact absurd (hc.resolve_left hcomma) hline

/-- The inside of a quoted field is the cell. -/
theorem go_doubleQuotes (cs cell : List Char) (row : List String) (t : List Char) :
    go .quoted cell row (doubleQuotes cs ++ ('"' :: t)) = go .closing (cell ++ cs) row t := by
  induction cs generalizing cell with
  | nil => rw [doubleQuotes, List.flatMap_nil, List.nil_append, go_quoted, if_pos rfl,
      List.append_nil]
  | cons c cs ih =>
    have hcons : doubleQuotes (c :: cs) =
        (if c = '"' then ['"', '"'] else [c]) ++ doubleQuotes cs := List.flatMap_cons
    rw [hcons, List.append_assoc]
    by_cases hquote : c = '"'
    · subst hquote
      rw [if_pos rfl, List.cons_append, List.cons_append, List.nil_append, go_quoted, if_pos rfl,
        go_closing, if_neg (by decide), if_neg (by decide), if_pos rfl, ih, List.append_assoc]
      rfl
    · rw [if_neg hquote, List.singleton_append, go_quoted, if_neg hquote, ih, List.append_assoc]
      rfl

/-- The reader reads the fields of the grammar. -/
theorem go_field {text : List Char} {cell : String} (h : Field text cell) {t : List Char}
    (ht : EndsField t) (row : List String) :
    go .start [] row (text ++ t) = fieldEnd cell row t := by
  cases h with
  | plain hdata =>
    obtain ⟨place, hplace, hgo⟩ := go_text hdata .start (Or.inl rfl) [] row t
    rw [hgo, List.nil_append, go_ends (Or.inl hplace) ht, String.ofList_toList]
  | quoted =>
    have hassoc : '"' :: (doubleQuotes cell.toList ++ ['"']) ++ t =
        '"' :: (doubleQuotes cell.toList ++ ('"' :: t)) := by simp
    rw [hassoc, go_start, if_neg (by decide), if_neg (by decide), if_pos rfl, go_doubleQuotes,
      List.nil_append, go_ends (Or.inr rfl) ht, String.ofList_toList]

/-- What is read after a whole record. -/
def recordEnd (row : List String) : List Char → Option (List (List String))
  | [] => some [row]
  | _ :: s => (go .start [] [] s).map fun table => row :: table

/-- A record ends here: with the text or at a line end. -/
def EndsRecord (t : List Char) : Prop := ∀ c ∈ t.head?, c = '\n'

theorem EndsRecord.endsField {t : List Char} (h : EndsRecord t) : EndsField t :=
  fun c hc => Or.inr (h c hc)

theorem fieldEnd_of_endsRecord {t : List Char} (h : EndsRecord t) (cell : String)
    (row : List String) : fieldEnd cell row t = recordEnd (row ++ [cell]) t := by
  cases t with
  | nil => rfl
  | cons c s =>
    have hcomma : c ≠ ',' := by
      rw [h c rfl]
      decide
    rw [fieldEnd, if_neg hcomma, recordEnd]

theorem go_fields {fields : List (List Char)} {cells : List String}
    (h : List.Forall₂ Field fields cells) (hne : fields ≠ []) {t : List Char} (ht : EndsRecord t)
    (row : List String) :
    go .start [] row ([','].intercalate fields ++ t) = recordEnd (row ++ cells) t := by
  induction h generalizing row with
  | nil => exact absurd rfl hne
  | @cons field cell fields cells hfield hfields ih =>
    cases hfields with
    | nil =>
      rw [List.intercalate_singleton, go_field hfield ht.endsField, fieldEnd_of_endsRecord ht]
    | @cons field' cell' fields cells hfield' hfields =>
      rw [List.intercalate_cons_cons, List.append_assoc, List.append_assoc]
      have hcomma : EndsField ([','] ++ ([','].intercalate (field' :: fields) ++ t)) :=
        fun c hc => Or.inl (Option.some.inj hc).symm
      rw [go_field hfield hcomma, List.singleton_append, fieldEnd, if_pos rfl,
        ih (List.cons_ne_nil _ _), List.append_assoc]
      rfl

theorem go_record {text : List Char} {row : List String} (h : Record text row) {t : List Char}
    (ht : EndsRecord t) : go .start [] [] (text ++ t) = recordEnd row t := by
  obtain ⟨fields, hne, hfields, rfl⟩ := h
  rw [go_fields hfields hne ht, List.nil_append]

/-- The reader reads the records of the grammar. -/
theorem readTable_of_records {text : List Char} {table : List (List String)}
    (h : Records text table) : readTable text = some table := by
  obtain ⟨records, hne, hrecords, rfl⟩ := h
  unfold readTable
  induction hrecords with
  | nil => exact absurd rfl hne
  | @cons record row records table hrecord hrecords ih =>
    cases hrecords with
    | nil =>
      have hend := go_record hrecord (t := []) fun c hc => nomatch hc
      rw [List.append_nil] at hend
      rw [List.intercalate_singleton, hend]
      rfl
    | @cons record' row' records table hrecord' hrecords =>
      have hline : EndsRecord (['\n'] ++ ['\n'].intercalate (record' :: records)) :=
        fun c hc => (Option.some.inj hc).symm
      rw [List.intercalate_cons_cons, List.append_assoc, go_record hrecord hline,
        List.singleton_append, recordEnd, ih (List.cons_ne_nil _ _), Option.map_some]

/-- A text that does not end in a line end is read in one way. -/
theorem readTable_of_reads {text : List Char} {table : List (List String)} (h : Reads text table)
    (hlast : text.getLast? ≠ some '\n') : readTable text = some table := by
  rcases h with h | ⟨text', _, rfl⟩
  · exact readTable_of_records h
  · exact absurd List.getLast?_concat hlast

/-! ## A line end in a field that is not quoted -/

/-- Where the text goes on with a line end, the row has one cell more at most. -/
theorem go_lineEnd {w : List Char} (hw : ∀ c ∈ w, textData c = true) (row : List String)
    (s : List Char) :
    go .start [] row (w ++ '\n' :: s) =
      (go .start [] [] s).map fun table => (row ++ [String.ofList w]) :: table := by
  obtain ⟨place, hplace, hgo⟩ := go_text hw .start (Or.inl rfl) [] row ('\n' :: s)
  have hends : EndsField ('\n' :: s) := fun c hc => Or.inr (Option.some.inj hc).symm
  rw [hgo, List.nil_append, go_ends (Or.inl hplace) hends, fieldEnd, if_neg (by decide)]

theorem go_carriageReturn {w : List Char} (hw : ∀ c ∈ w, textData c = true) (row : List String)
    (s : List Char) : go .start [] row (w ++ '\r' :: s) = none := by
  obtain ⟨place, hplace, hgo⟩ := go_text hw .start (Or.inl rfl) [] row ('\r' :: s)
  rw [hgo]
  rcases hplace with rfl | rfl
  · rfl
  · rfl

end HybridOperator.Lib.Csv
