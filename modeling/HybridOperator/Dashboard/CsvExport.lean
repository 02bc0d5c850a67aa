/-
  `exportAsCSV` of static/app.js: the operators as comma-separated values.

  A cell is quoted when it has a comma or a double quote. The grammar also gives CR and LF a
  meaning outside of quotes, so a cell with a line break and neither of the two breaks its row: a
  reader takes what stands before the break for the last cell of the row (`go_unquotedBreak`).

  Proved: `exportAsCSV_reads_iff`, the text is read as the header and one row for each operator,
  and as nothing else, exactly when every cell with a CR or LF has a comma or a quote too.
-/
import HybridOperator.Dashboard.UpgradeCard
import HybridOperator.Lib.Csv

namespace HybridOperator.Dashboard

open HybridOperator.Lib HybridOperator.Lib.Csv HybridOperator.Collector

def headers : List String :=
  ["Name", "Package", "Namespace", "Channel", "Version", "Target Version", "Phase", "Can Upgrade",
    "Upgrade Type", "Risk Score", "Health Score", "Active CRs", "CRDs", "Is Idle",
    "Exposed Routes"]

def yesNo (b : Bool) : String := if b then "Yes" else "No"

/-- The cells of one operator as `String(cell)` gives them. -/
def exportRow (op : OperatorInfo) : List String :=
  [orElse op.name "", orElse op.package "", orElse op.nameSpace "", orElse op.channel "",
    orElse op.version "", orElse op.targetVersion "", orElse op.phase "", yesNo op.canUpgrade,
    orElse op.upgradeType.text "N/A", toString op.riskScore, toString op.healthScore,
    toString op.activeCRs, toString op.crds.length, yesNo op.isIdle,
    toString op.exposedRoutes.length]

/-- `str.includes(',') || str.includes('"')` -/
def NeedsQuotes (str : String) : Prop := ',' ∈ str.toList ∨ '"' ∈ str.toList

instance : DecidablePred NeedsQuotes := fun _ => inferInstanceAs (Decidable (_ ∨ _))

def quoteCell (str : String) : List Char :=
  if NeedsQuotes str then '"' :: (doubleQuotes str.toList ++ ['"']) else str.toList

def rowText (row : List String) : List Char := [','].intercalate (row.map quoteCell)

def exportAsCSV (operators : List OperatorInfo) : List Char :=
  ['\n'].intercalate ([','].intercalate (headers.map String.toList) ::
    operators.map fun op => rowText (exportRow op))

/-- The table that is exported. -/
def exportTable (operators : List OperatorInfo) : List (List String) :=
  headers :: operators.map exportRow

def BreaksLine (str : String) : Prop := '\r' ∈ str.toList ∨ '\n' ∈ str.toList

/-- The cell is quoted if it has a line break. -/
def Guarded (str : String) : Prop := BreaksLine str → NeedsQuotes str

/-! ## Guarded cells -/

theorem textData_iff {c : Char} :
    textData c = true ↔ ¬ (c = ',' ∨ c = '"') ∧ ¬ (c = '\r' ∨ c = '\n') := by
  simp [textData, and_assoc]

theorem field_quoteCell {str : String} (h : Guarded str) : Field (quoteCell str) str := by
  unfold quoteCell
  split
  · exact .quoted str
  · rename_i hquotes
    have hbreak : ¬ BreaksLine str := fun hbreak => hquotes (h hbreak)
    refine .plain fun c hc => textData_iff.mpr ⟨?_, ?_⟩
    · rintro (rfl | rfl)
      · exact hquotes (Or.inl hc)
      · exact hquotes (Or.inr hc)
    · rintro (rfl | rfl)
      · exact hbreak (Or.inl hc)
      · exact hbreak (Or.inr hc)

theorem record_rowText {row : List String} (hne : row ≠ []) (h : ∀ cell ∈ row, Guarded cell) :
    Record (rowText row) row := by
  refine ⟨row.map quoteCell, by simpa using hne, ?_, rfl⟩
  rw [List.forall₂_map_left_iff, List.forall₂_same]
  exact fun cell hcell => field_quoteCell (h cell hcell)

theorem guarded_headers : ∀ cell ∈ headers, ¬ NeedsQuotes cell ∧ Guarded cell := by
  have hplain : ∀ cell ∈ headers, cell.toList.all textData = true := by decide +kernel
  intro cell hcell
  have hdata : ∀ c ∈ cell.toList, textData c = true := List.all_eq_true.mp (hplain cell hcell)
  have hnot : ∀ c, ¬ textData c = true → c ∉ cell.toList := fun c hc hmem => hc (hdata c hmem)
  refine ⟨?_, ?_⟩
  · rintro (hcomma | hquote)
    · exact hnot ',' (by decide) hcomma
    · exact hnot '"' (by decide) hquote
  · rintro (hcr | hlf)
    · exact absurd hcr (hnot '\r' (by decide))
    · exact absurd hlf (hnot '\n' (by decide))

/-- The header is written without quotes, as a row would be. -/
theorem exportAsCSV_eq (operators : List OperatorInfo) :
    exportAsCSV operators = ['\n'].intercalate ((exportTable operators).map rowText) := by
  have hheaders : headers.map quoteCell = headers.map String.toList :=
    List.map_congr_left fun cell hcell => if_neg (guarded_headers cell hcell).1
  rw [exportAsCSV, exportTable, List.map_cons, List.map_map, rowText, hheaders]
  rfl

/-! ## The last cell of a row -/

/-- The last cell is a number. -/
theorem exportRow_eq (op : OperatorInfo) :
    ∃ cells, cells ≠ [] ∧ exportRow op = cells ++ [toString op.exposedRoutes.length] :=
  ⟨(exportRow op).dropLast, List.cons_ne_nil _ _, rfl⟩

theorem digits_toString (n : Nat) : ∀ c ∈ (toString n).toList, c.isDigit = true := by
  rw [Nat.toString_eq_ofList_toDigits, String.toList_ofList]
  exact fun c hc => Nat.isDigit_of_mem_toDigits (by decide) (by decide) hc

theorem not_mem_toString {c : Char} (h : c.isDigit = false) (n : Nat) :
    c ∉ (toString n).toList := by
  intro hc
  rw [digits_toString n c hc] at h
  exact Bool.noConfusion h

theorem plain_toString (n : Nat) : ¬ NeedsQuotes (toString n) :=
  fun h => h.elim (not_mem_toString (by decide) n) (not_mem_toString (by decide) n)

theorem guarded_toString (n : Nat) : Guarded (toString n) :=
  fun h => (h.elim (not_mem_toString (by decide) n) (not_mem_toString (by decide) n)).elim

/-- The text of a list that ends in `y` ends in `y`. -/
theorem intercalate_concat {α : Type} (sep : List α) (xs : List (List α)) (y : List α) :
    ∃ before, sep.intercalate (xs ++ [y]) = before ++ y := by
  induction xs with
  | nil => exact ⟨[], by rw [List.nil_append, List.intercalate_singleton, List.nil_append]⟩
  | cons x xs ih =>
    obtain ⟨before, hbefore⟩ := ih
    refine ⟨x ++ sep ++ before, ?_⟩
    rw [List.cons_append, List.intercalate_cons_of_ne_nil (by simp), hbefore, ← List.append_assoc]

/-- A row of several cells, the last of which is a text that needs no quotes. -/
structure EndsPlain (row : List String) (cells : List String) (last : String) : Prop where
  row_eq : row = cells ++ [last]
  cells_ne : cells ≠ []
  last_ne : last.toList ≠ []
  plain : ¬ NeedsQuotes last
  guarded : Guarded last

theorem endsPlain_of_mem {operators : List OperatorInfo} {row : List String}
    (h : row ∈ exportTable operators) : ∃ cells last, EndsPlain row cells last := by
  rcases List.mem_cons.mp h with rfl | hrow
  · obtain ⟨hplain, hguarded⟩ := guarded_headers "Exposed Routes" (by decide)
    exact ⟨headers.dropLast, "Exposed Routes", rfl, List.cons_ne_nil _ _, by decide, hplain,
      hguarded⟩
  · obtain ⟨op, _, rfl⟩ := List.mem_map.mp hrow
    obtain ⟨cells, hne, hcells⟩ := exportRow_eq op
    refine ⟨cells, _, hcells, hne, ?_, plain_toString _, guarded_toString _⟩
    rw [Nat.toString_eq_ofList_toDigits, String.toList_ofList]
    exact Nat.toDigits_ne_nil

theorem rowText_ends {row cells : List String} {last : String} (h : EndsPlain row cells last) :
    ∃ before c, rowText row = before ++ [c] ∧ c ≠ '\n' := by
  obtain ⟨rfl, _, hne, hplain, hguarded⟩ := h
  obtain ⟨before, hbefore⟩ := intercalate_concat [','] (cells.map quoteCell) (quoteCell last)
  have hquote : quoteCell last = last.toList := if_neg hplain
  refine ⟨before ++ last.toList.dropLast, last.toList.getLast hne, ?_, fun hline => ?_⟩
  · rw [rowText, List.map_append, List.map_singleton, hbefore, hquote, List.append_assoc,
      List.dropLast_append_getLast]
  · have hmem := List.getLast_mem hne
    rw [hline] at hmem
    exact hplain (hguarded (Or.inr hmem))

/-- The text does not end in a line end. -/
theorem getLast_exportAsCSV (operators : List OperatorInfo) :
    (exportAsCSV operators).getLast? ≠ some '\n' := by
  have hne : exportTable operators ≠ [] := List.cons_ne_nil _ _
  obtain ⟨cells, last, hlast⟩ := endsPlain_of_mem (List.getLast_mem hne)
  obtain ⟨line, c, hline, hc⟩ := rowText_ends hlast
  have hrows : (exportTable operators).map rowText =
      (exportTable operators).dropLast.map rowText ++
        [rowText ((exportTable operators).getLast hne)] := by
    rw [← List.map_singleton, ← List.map_append, List.dropLast_append_getLast]
  obtain ⟨before, hbefore⟩ := intercalate_concat ['\n']
    ((exportTable operators).dropLast.map rowText)
    (rowText ((exportTable operators).getLast hne))
  rw [exportAsCSV_eq, hrows, hbefore, hline, ← List.append_assoc, List.getLast?_concat]
  exact fun heq => hc (Option.some.inj heq)

/-! ## A break without quotes -/

/-- A cell that is not guarded is written as it is, up to a CR or LF and on. -/
theorem quoteCell_unguarded {str : String} (h : ¬ Guarded str) :
    ∃ w c s, (∀ d ∈ w, textData d = true) ∧ (c = '\r' ∨ c = '\n') ∧
      quoteCell str = w ++ c :: s := by
  obtain ⟨hbreak, hplain⟩ := Classical.not_imp.mp h
  have hsplit := List.takeWhile_append_dropWhile (p := textData) (l := str.toList)
  cases hdrop : str.toList.dropWhile textData with
  | nil =>
    have hall : ∀ c ∈ str.toList, textData c = true := List.dropWhile_eq_nil_iff.mp hdrop
    rcases hbreak with hcr | hlf
    · exact absurd (hall _ hcr) (by decide)
    · exact absurd (hall _ hlf) (by decide)
  | cons c s =>
    rw [hdrop] at hsplit
    have hmem : c ∈ str.toList := by
      rw [← hsplit]
      exact List.mem_append_right _ List.mem_cons_self
    have hc : textData c ≠ true := by
      have hhead := List.head_dropWhile_not textData (l := str.toList) (by rw [hdrop]; simp)
      simpa [hdrop] using hhead
    refine ⟨str.toList.takeWhile textData, c, s, fun d hd => List.mem_takeWhile_imp hd, ?_, ?_⟩
    · rw [Ne, textData_iff, not_and_or, not_not, not_not] at hc
      rcases hc with (rfl | rfl) | hc
      · exact absurd (Or.inl hmem) hplain
      · exact absurd (Or.inr hmem) hplain
      · exact hc
    · rw [quoteCell, if_neg hplain, hsplit]

/-- A row with such a cell is read as a shorter one, if at all. -/
theorem go_unquotedBreak {cells : List String} {last : String}
    (hbad : ∃ cell ∈ cells, ¬ Guarded cell) {t : List Char} {row : List String}
    {table : List (List String)}
    (h : go .start [] row ([','].intercalate ((cells ++ [last]).map quoteCell) ++ t) = some table) :
    ∃ first rest, table = first :: rest ∧ first.length < row.length + (cells.length + 1) := by
  induction cells generalizing row with
  | nil =>
    obtain ⟨_, hmem, _⟩ := hbad
    exact absurd hmem List.not_mem_nil
  | cons cell cells ih =>
    rw [List.cons_append, List.map_cons, List.intercalate_cons_of_ne_nil (by simp),
      List.append_assoc, List.append_assoc] at h
    by_cases hcell : Guarded cell
    · have hcells : ∃ cell' ∈ cells, ¬ Guarded cell' := by
        obtain ⟨cell', hmem, hnot⟩ := hbad
        rcases List.mem_cons.mp hmem with rfl | hmem
        · exact absurd hcell hnot
        · exact ⟨cell', hmem, hnot⟩
      have hcomma : EndsField ([','] ++
          ([','].intercalate ((cells ++ [last]).map quoteCell) ++ t)) :=
        fun c hc => Or.inl (Option.some.inj hc).symm
      rw [go_field (field_quoteCell hcell) hcomma, List.singleton_append, fieldEnd,
        if_pos rfl] at h
      obtain ⟨first, rest, htable, hlength⟩ := ih hcells h
      refine ⟨first, rest, htable, ?_⟩
      rw [List.length_append, List.length_singleton] at hlength
      rw [List.length_cons]
      omega
    · obtain ⟨w, c, s, hw, hc, hquote⟩ := quoteCell_unguarded hcell
      rw [hquote, List.append_assoc, List.cons_append] at h
      rcases hc with rfl | rfl
      · rw [go_carriageReturn hw] at h
        exact absurd h.symm (Option.some_ne_none _)
      · rw [go_lineEnd hw] at h
        obtain ⟨rest, _, rfl⟩ := Option.map_eq_some_iff.mp h
        refine ⟨_, rest, rfl, ?_⟩
        rw [List.length_append, List.length_singleton, List.length_cons]
        omega

/-- When the table is read back, all its cells are guarded. -/
theorem guarded_of_read {table : List (List String)} (hne : table ≠ [])
    (hends : ∀ row ∈ table, ∃ cells last, EndsPlain row cells last)
    (h : readTable (['\n'].intercalate (table.map rowText)) = some table) :
    ∀ row ∈ table, ∀ cell ∈ row, Guarded cell := by
  have hrow : ∀ row t rest, (∃ cells last, EndsPlain row cells last) →
      go .start [] [] (rowText row ++ t) = some (row :: rest) → ∀ cell ∈ row, Guarded cell := by
    intro row t rest ⟨cells, last, hlast⟩ hgo cell hcell
    refine Classical.byContradiction fun hnot => ?_
    rw [hlast.row_eq] at hcell
    have hcells : cell ∈ cells := by
      rcases List.mem_append.mp hcell with hmem | hmem
      · exact hmem
      · rw [List.mem_singleton.mp hmem] at hnot
        exact absurd hlast.guarded hnot
    rw [rowText, hlast.row_eq] at hgo
    obtain ⟨first, _, htable, hlength⟩ := go_unquotedBreak ⟨cell, hcells, hnot⟩ hgo
    rw [← (List.cons.inj htable).1, List.length_append, List.length_singleton,
      List.length_nil] at hlength
    omega
  unfold readTable at h
  induction table with
  | nil => exact absurd rfl hne
  | cons row table ih =>
    have hrowEnds := hends row List.mem_cons_self
    by_cases htable : table = []
    · subst htable
      rw [List.map_singleton, List.intercalate_singleton, ← List.append_nil (rowText row)] at h
      intro row' hrow'
      rw [List.mem_singleton.mp hrow']
      exact hrow row [] [] hrowEnds h
    · have hmap : table.map rowText ≠ [] := by simpa using htable
      rw [List.map_cons, List.intercalate_cons_of_ne_nil hmap, List.append_assoc] at h
      have hguarded := hrow row _ table hrowEnds h
      obtain ⟨cells, last, hlast⟩ := hrowEnds
      have hrowNe : row ≠ [] := by
        rw [hlast.row_eq]
        exact List.append_ne_nil_of_right_ne_nil _ (List.cons_ne_nil _ _)
      have hline : EndsRecord (['\n'] ++ ['\n'].intercalate (table.map rowText)) :=
        fun c hc => (Option.some.inj hc).symm
      rw [go_record (record_rowText hrowNe hguarded) hline, List.singleton_append,
        recordEnd] at h
      obtain ⟨rest, hrest, heq⟩ := Option.map_eq_some_iff.mp h
      rw [(List.cons.inj heq).2] at hrest
      have htail := ih htable (fun r hr => hends r (List.mem_cons_of_mem row hr)) hrest
      intro row' hrow'
      rcases List.mem_cons.mp hrow' with rfl | hrow'
      · exact hguarded
      · exact htail row' hrow'

theorem exportAsCSV_reads_iff (operators : List OperatorInfo) :
    (∀ table, Reads (exportAsCSV operators) table ↔ table = exportTable operators) ↔
      ∀ op ∈ operators, ∀ cell ∈ exportRow op, BreaksLine cell → NeedsQuotes cell := by
  have hends : ∀ row ∈ exportTable operators, ∃ cells last, EndsPlain row cells last :=
    fun row hrow => endsPlain_of_mem hrow
  have hne : exportTable operators ≠ [] := List.cons_ne_nil _ _
  constructor
  · intro h op hop
    have hread := readTable_of_reads ((h _).mpr rfl) (getLast_exportAsCSV operators)
    rw [exportAsCSV_eq] at hread
    exact guarded_of_read hne hends hread (exportRow op)
      (List.mem_cons_of_mem _ (List.mem_map_of_mem hop))
  · intro h
    have hrecord : ∀ row ∈ exportTable operators, Record (rowText row) row := by
      intro row hrow
      rcases List.mem_cons.mp hrow with rfl | hrow
      · exact record_rowText (List.cons_ne_nil _ _) fun cell hcell =>
          (guarded_headers cell hcell).2
      · obtain ⟨op, hop, rfl⟩ := List.mem_map.mp hrow
        exact record_rowText (List.cons_ne_nil _ _) (h op hop)
    have hreads : Reads (exportAsCSV operators) (exportTable operators) := by
      refine Or.inl ⟨(exportTable operators).map rowText, by simp [exportTable], ?_,
        exportAsCSV_eq operators⟩
      rw [List.forall₂_map_left_iff, List.forall₂_same]
      exact hrecord
    have hlast := getLast_exportAsCSV operators
    intro table
    constructor
    · intro htable
      exact Option.some.inj
        ((readTable_of_reads htable hlast).symm.trans (readTable_of_reads hreads hlast))
    · intro htable
      rw [htable]
      exact hreads

/-- A Subscription whose channel has a line break. -/
def foldedChannel : OperatorInfo :=
  newOperator ⟨[metadata "team-a" "etcd", ("spec", .obj [("channel", .str "alpha\nbeta")])]⟩

/-- The operator is read as two rows, neither of which is its own. -/
theorem foldedChannel_two_rows :
    readTable (exportAsCSV [foldedChannel]) = some [headers, ["etcd", "etcd", "team-a", "alpha"],
      ["beta", "", "0.0.0", "Unknown", "No", "NONE", "0", "0", "0", "0", "No", "0"]] ∧
    ¬ ∀ table, Reads (exportAsCSV [foldedChannel]) table ↔
      table = exportTable [foldedChannel] := by
  have hread : readTable (exportAsCSV [foldedChannel]) ≠ some (exportTable [foldedChannel]) := by
    decide +kernel
  refine ⟨by decide +kernel, fun h => hread ?_⟩
  exact readTable_of_reads ((h _).mpr rfl) (getLast_exportAsCSV _)

end HybridOperator.Dashboard
