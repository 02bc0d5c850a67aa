/-
  The governance viewer: `LOG_PATTERN` and the loop of `stream_logs`, on the lines that
  `collectOperators` logs.

  A line for an operator is a row of labelled cells: all but the last are padded and followed by
  a bar. The pattern is the same row with `\S+` for the text of a cell, so it wants a text in
  every cell. An empty cell leaves only blanks between its label and the next bar; `\S+` then
  takes the bar and the pattern finds a label where it wants a bar.

  Proved:
  * `search_inventoryLine`: what the pattern finds in the line of an operator, all its seven
    fields or nothing.
  * `viewer_shows_iff`: an operator's line gives back its fields, and the viewer shows the
    operators of a sweep, exactly when the printed fields are not empty.
-/
import HybridOperator.Lib.Regex
import HybridOperator.Server.InventoryLog

namespace HybridOperator.Brain

open HybridOperator.Lib HybridOperator.Lib.Regex
open HybridOperator.Collector HybridOperator.Server

/-! ## The viewer -/

/-- `\s` of Python's `re` on a `str`. -/
def isSpace (c : Char) : Bool :=
  let n := c.toNat
  (9 ≤ n && n ≤ 13) || (28 ≤ n && n ≤ 32) || n = 133 || n = 160 || n = 5760 ||
    (8192 ≤ n && n ≤ 8202) || n = 8232 || n = 8233 || n = 8239 || n = 8287 || n = 12288

/-- `\S`. -/
def notSpace (c : Char) : Bool := !isSpace c

/-- `label\s+(?P<group>\S+)`. -/
def column (label group : String) : List Item :=
  lits label ++ [.plus isSpace, .named group notSpace]

/-- `\s+\|\s+`. -/
def bar : List Item := [.plus isSpace, .lit '|', .plus isSpace]

/-- `LOG_PATTERN`. -/
def logPattern : List Item :=
  lits "->" ++ [.plus isSpace] ++ column "Sub:" "sub" ++ bar ++ column "Pkg:" "pkg" ++ bar ++
    column "NS:" "ns" ++ bar ++ column "Channel:" "channel" ++ bar ++ column "CSV:" "csv" ++
    bar ++ column "Version:" "version" ++ bar ++ column "Phase:" "phase"

/-- `text in line`: the search for a pattern of plain characters. -/
def occurs (text line : String) : Bool := (search (lits text) line.toList).isSome

/-- The body of the loop over the lines, on `current_operators`. -/
def readLine (currentOperators : List Groups) (line : String) : List Groups :=
  let currentOperators :=
    if occurs "Running OLM operator inventory sweep..." line then [] else currentOperators
  match search logPattern line.toList with
  | some groups => currentOperators ++ [groups]
  | none => currentOperators

def streamLogs (currentOperators : List Groups) (lines : List String) : List Groups :=
  lines.foldl readLine currentOperators

/-! ## Rows of cells -/

structure Cell where
  label : String
  group : String
  width : Nat
  text : String

/-- A row as it is printed, its last cell not padded. -/
def rowText : List Cell → Cell → List Char
  | [], last => last.label.toList ++ ' ' :: (last.text.toList ++ ['\n'])
  | c :: cs, last =>
      c.label.toList ++ ' ' :: ((padRight c.width c.text).toList ++
        ' ' :: '|' :: ' ' :: rowText cs last)

/-- The pattern for a row. -/
def rowPattern : List Cell → Cell → List Item
  | [], last => column last.label last.group
  | c :: cs, last => column c.label c.group ++ (bar ++ rowPattern cs last)

/-- The groups that stand for a row. -/
def rowGroups (cells : List Cell) (last : Cell) : Groups :=
  (cells ++ [last]).map fun c => (c.group, c.text)

/-- A label is some text that starts with neither whitespace nor a bar. -/
def Cell.Labelled (c : Cell) : Prop :=
  ∃ h l, c.label.toList = h :: l ∧ isSpace h = false ∧ h ≠ '|'

/-- The text of a field has neither whitespace nor a bar. -/
def CleanText (s : String) : Prop := ∀ c ∈ s.toList, isSpace c = false ∧ c ≠ '|'

instance (s : String) : Decidable (CleanText s) :=
  List.decidableBAll (fun c => isSpace c = false ∧ c ≠ '|') s.toList

theorem notSpace_of_clean {s : String} (h : CleanText s) :
    ∀ c ∈ s.toList, notSpace c = true := by
  intro c hc
  rw [notSpace, (h c hc).1]
  rfl

theorem toList_ne_nil {s : String} (h : s ≠ "") : s.toList ≠ [] :=
  fun hnil => h (String.toList_eq_nil_iff.mp hnil)

theorem isSpace_blank : isSpace ' ' = true := by decide

theorem notSpace_blank : notSpace ' ' = false := by decide

theorem notSpace_bar : notSpace '|' = true := by decide

theorem isSpace_bar : isSpace '|' = false := by decide

/-- Blanks, and one more. -/
theorem isSpace_blanks (n : Nat) : ∀ c ∈ List.replicate n ' ' ++ [' '], isSpace c = true := by
  intro c hc
  rw [← List.replicate_succ'] at hc
  rw [List.eq_of_mem_replicate hc]
  exact isSpace_blank

/-- Blanks before a blank start with one. -/
theorem blanks_eq_cons (n : Nat) (t : List Char) :
    ∃ s, List.replicate n ' ' ++ ' ' :: t = ' ' :: s := by
  cases n with
  | zero => exact ⟨t, rfl⟩
  | succ n => exact ⟨List.replicate n ' ' ++ ' ' :: t, rfl⟩

theorem toList_padRight (width : Nat) (s : String) :
    (padRight width s).toList = s.toList ++ List.replicate (width - s.length) ' ' := by
  rw [padRight, String.toList_append, String.toList_ofList]

theorem refuses_named_space (group : String) (r : List Item) :
    Refuses (.named group notSpace :: r) isSpace := by
  refine refuses_named ?_ group r
  intro c hc
  rw [notSpace, hc]
  rfl

theorem refuses_plus_notSpace (r : List Item) : Refuses (.plus isSpace :: r) notSpace := by
  refine refuses_plus ?_ r
  intro c hc
  rw [notSpace, Bool.not_eq_true'] at hc
  exact hc

/-- A pattern for a row starts with a label. -/
theorem rowPattern_head {cells : List Cell} {last : Cell}
    (hl : ∀ c ∈ cells ++ [last], c.Labelled) :
    ∃ h r, rowPattern cells last = .lit h :: r ∧ isSpace h = false ∧ h ≠ '|' := by
  cases cells with
  | nil =>
    obtain ⟨h, l, hlabel, hspace, hbar⟩ := hl last (by simp)
    exact ⟨h, _, by rw [rowPattern, column, lits, hlabel]; rfl, hspace, hbar⟩
  | cons c cs =>
    obtain ⟨h, l, hlabel, hspace, hbar⟩ := hl c (by simp)
    exact ⟨h, _, by rw [rowPattern, column, lits, hlabel]; rfl, hspace, hbar⟩

theorem refuses_row {cells : List Cell} {last : Cell} (hl : ∀ c ∈ cells ++ [last], c.Labelled) :
    Refuses (rowPattern cells last) isSpace := by
  obtain ⟨h, r, hr, hspace, -⟩ := rowPattern_head hl
  rw [hr]
  exact refuses_lit hspace r

/-- It matches neither at the end nor at a bar. -/
theorem matchAt_row_none {cells : List Cell} {last : Cell}
    (hl : ∀ c ∈ cells ++ [last], c.Labelled) {t : List Char} (ht : ∀ d ∈ t.head?, d = '|') :
    matchAt (rowPattern cells last) t = none := by
  obtain ⟨h, r, hr, -, hbar⟩ := rowPattern_head hl
  rw [hr]
  cases t with
  | nil => rfl
  | cons d t =>
    rw [ht d rfl, matchAt_lit, if_neg hbar]

/-- A row does not start with whitespace or a bar. -/
theorem rowText_head {cells : List Cell} {last : Cell}
    (hl : ∀ c ∈ cells ++ [last], c.Labelled) :
    ∃ h t, rowText cells last = h :: t ∧ isSpace h = false ∧ h ≠ '|' := by
  cases cells with
  | nil =>
    obtain ⟨h, l, hlabel, hspace, hbar⟩ := hl last (by simp)
    exact ⟨h, _, by rw [rowText, hlabel]; rfl, hspace, hbar⟩
  | cons c cs =>
    obtain ⟨h, l, hlabel, hspace, hbar⟩ := hl c (by simp)
    exact ⟨h, _, by rw [rowText, hlabel]; rfl, hspace, hbar⟩

/-! ### Matching a row -/

theorem matchAt_column (label group : String) (r : List Item) (t : List Char) :
    matchAt (column label group ++ r) (label.toList ++ t) =
      matchAt (.plus isSpace :: .named group notSpace :: r) t := by
  rw [column, List.append_assoc]
  exact matchAt_lits label.toList _ t

/-- A blank, then a group that takes a text. -/
theorem matchAt_blank (group : String) {r : List Item} {c : Char} {t : List Char}
    (hc : isSpace c = false) :
    matchAt (.plus isSpace :: .named group notSpace :: r) (' ' :: c :: t) =
      matchAt (.named group notSpace :: r) (c :: t) :=
  matchAt_plus_run (refuses_named_space group r) (List.cons_ne_nil ' ' []) (isSpace_blanks 0)
    (ends_cons hc t)

theorem matchAt_bar {r : List Item} (hr : Refuses r isSpace) (n : Nat) {h : Char}
    {t : List Char} (hspace : isSpace h = false) :
    matchAt (bar ++ r) (List.replicate n ' ' ++ ' ' :: '|' :: ' ' :: h :: t) =
      matchAt r (h :: t) := by
  have hgap := matchAt_plus_run (refuses_lit isSpace_bar (.plus isSpace :: r))
    (List.append_ne_nil_of_right_ne_nil _ (List.cons_ne_nil ' ' []))
    (isSpace_blanks n) (ends_cons isSpace_bar (' ' :: h :: t))
  have hblank := matchAt_plus_run hr (List.cons_ne_nil ' ' []) (isSpace_blanks 0)
    (ends_cons hspace t)
  rw [List.append_assoc] at hgap
  refine hgap.trans ?_
  rw [matchAt_lit, if_pos rfl]
  exact hblank

theorem exists_cons_of_clean {s : String} (hclean : CleanText s) (hne : s ≠ "") :
    ∃ d w, s.toList = d :: w ∧ isSpace d = false := by
  obtain ⟨d, w, hw⟩ := List.exists_cons_of_ne_nil (toList_ne_nil hne)
  refine ⟨d, w, hw, (hclean d ?_).1⟩
  rw [hw]
  exact List.mem_cons_self

/-- A cell with a text gives the text, and the match goes on after its bar. -/
theorem matchAt_cell {c : Cell} (hclean : CleanText c.text) (hne : c.text ≠ "")
    {r : List Item} (hr : Refuses r isSpace) {h : Char} {t : List Char}
    (hspace : isSpace h = false) :
    matchAt (column c.label c.group ++ (bar ++ r))
        (c.label.toList ++ ' ' :: ((padRight c.width c.text).toList ++
          ' ' :: '|' :: ' ' :: h :: t)) =
      (matchAt r (h :: t)).map fun groups => (c.group, c.text) :: groups := by
  obtain ⟨d, w, hw, hd⟩ := exists_cons_of_clean hclean hne
  have hends : Ends notSpace (List.replicate (c.width - c.text.length) ' ' ++
      ' ' :: '|' :: ' ' :: h :: t) := by
    obtain ⟨s, hs⟩ := blanks_eq_cons (c.width - c.text.length) ('|' :: ' ' :: h :: t)
    rw [hs]
    exact ends_cons notSpace_blank s
  have htext := matchAt_named_run (refuses_plus_notSpace (.lit '|' :: .plus isSpace :: r))
    c.group (toList_ne_nil hne) (notSpace_of_clean hclean) hends
  rw [String.ofList_toList] at htext
  have hstart : ∀ t', matchAt (.plus isSpace :: .named c.group notSpace :: (bar ++ r))
      (' ' :: (c.text.toList ++ t')) =
        matchAt (.named c.group notSpace :: (bar ++ r)) (c.text.toList ++ t') := by
    intro t'
    rw [hw]
    exact matchAt_blank c.group hd
  rw [matchAt_column, toList_padRight, List.append_assoc, hstart]
  exact htext.trans (congrArg (Option.map _) (matchAt_bar hr _ hspace))

/-- In an empty cell the group takes the bar, and there is no other bar before the next label. -/
theorem matchAt_cell_empty {c : Cell} (hempty : c.text = "") (r : List Item) {h : Char}
    {t : List Char} (hspace : isSpace h = false) (hbar : h ≠ '|') :
    matchAt (column c.label c.group ++ (bar ++ r))
        (c.label.toList ++ ' ' :: ((padRight c.width c.text).toList ++
          ' ' :: '|' :: ' ' :: h :: t)) = none := by
  have hblanks : ' ' :: ((padRight c.width c.text).toList ++ ' ' :: '|' :: ' ' :: h :: t) =
      (List.replicate (c.width + 1) ' ' ++ [' ']) ++ ('|' :: ' ' :: h :: t) := by
    have hlength : "".length = 0 := rfl
    rw [toList_padRight, hempty, hlength, Nat.sub_zero, List.replicate_succ]
    simp
  have hgap := matchAt_plus_run
    (refuses_named_space c.group (.plus isSpace :: .lit '|' :: .plus isSpace :: r))
    (List.append_ne_nil_of_right_ne_nil _ (List.cons_ne_nil ' ' []))
    (isSpace_blanks (c.width + 1)) (ends_cons isSpace_bar (' ' :: h :: t))
  have htaken := matchAt_named_run (refuses_plus_notSpace (.lit '|' :: .plus isSpace :: r))
    c.group (List.cons_ne_nil '|' []) (List.forall_mem_singleton.mpr notSpace_bar)
    (ends_cons notSpace_blank (h :: t))
  have hafter := matchAt_plus_run (refuses_lit isSpace_bar (.plus isSpace :: r))
    (List.cons_ne_nil ' ' []) (isSpace_blanks 0) (ends_cons hspace t)
  have hlabel : matchAt (.lit '|' :: .plus isSpace :: r) (h :: t) = none := by
    rw [matchAt_lit, if_neg (Ne.symm hbar)]
  rw [hlabel] at hafter
  rw [matchAt_column, hblanks]
  refine hgap.trans (htaken.trans ?_)
  exact congrArg (Option.map _) hafter

/-- The last cell of a row. -/
theorem matchAt_last {c : Cell} (hclean : CleanText c.text) :
    matchAt (column c.label c.group) (c.label.toList ++ ' ' :: (c.text.toList ++ ['\n'])) =
      if c.text ≠ "" then some [(c.group, c.text)] else none := by
  have hcolumn := matchAt_column c.label c.group []
  rw [List.append_nil] at hcolumn
  rw [hcolumn]
  split
  · rename_i hne
    obtain ⟨d, w, hw, hd⟩ := exists_cons_of_clean hclean hne
    have hnewline : notSpace '\n' = false := by decide
    have hlast := matchAt_named_last c.group (toList_ne_nil hne) (notSpace_of_clean hclean)
      (ends_cons hnewline [])
    rw [String.ofList_toList, hw, List.cons_append] at hlast
    rw [hw, List.cons_append, matchAt_blank c.group hd]
    exact hlast
  · rename_i hempty
    rw [not_not.mp hempty]
    have hblanks : ∀ d ∈ [' ', '\n'], isSpace d = true := List.all_eq_true.mp (by decide)
    have hgap := matchAt_plus_run (refuses_named_space c.group []) (List.cons_ne_nil ' ' ['\n'])
      hblanks (ends_nil isSpace)
    refine hgap.trans ?_
    exact matchAt_named_ends (ends_nil notSpace) c.group []

/-- A row with a text in every cell gives all of them, and any other nothing. -/
theorem matchAt_row {cells : List Cell} {last : Cell}
    (hl : ∀ c ∈ cells ++ [last], c.Labelled) (hclean : ∀ c ∈ cells ++ [last], CleanText c.text) :
    matchAt (rowPattern cells last) (rowText cells last) =
      if ∀ c ∈ cells ++ [last], c.text ≠ "" then some (rowGroups cells last) else none := by
  induction cells with
  | nil =>
    have hlast := matchAt_last (hclean last (by simp))
    rw [rowPattern, rowText, hlast]
    simp [rowGroups]
  | cons c cs ih =>
    have hl' : ∀ d ∈ cs ++ [last], d.Labelled := fun d hd => hl d (List.mem_cons_of_mem c hd)
    have hrow := ih hl' fun d hd => hclean d (List.mem_cons_of_mem c hd)
    obtain ⟨h, t, ht, hspace, hbar⟩ := rowText_head hl'
    rw [rowPattern, rowText]
    rw [ht] at hrow ⊢
    by_cases hempty : c.text = ""
    · have hsome : ¬ ∀ d ∈ c :: cs ++ [last], d.text ≠ "" :=
        fun hall => hall c List.mem_cons_self hempty
      rw [if_neg hsome]
      exact matchAt_cell_empty hempty _ hspace hbar
    · rw [matchAt_cell (hclean c List.mem_cons_self) hempty (refuses_row hl') hspace, hrow]
      by_cases hall : ∀ d ∈ cs ++ [last], d.text ≠ ""
      · have hall' : ∀ d ∈ c :: cs ++ [last], d.text ≠ "" :=
          List.forall_mem_cons.mpr ⟨hempty, hall⟩
        rw [if_pos hall, if_pos hall']
        rfl
      · have hall' : ¬ ∀ d ∈ c :: cs ++ [last], d.text ≠ "" :=
          fun h => hall fun d hd => h d (List.mem_cons_of_mem c hd)
        rw [if_neg hall, if_neg hall']
        rfl

/-! ### Searching a row -/

/-- A pattern that starts with a word and then wants what neither a bar nor the end of a line
    gives. -/
structure WordFirst (r : List Item) : Prop where
  refuses : Refuses r notSpace
  gap : ∀ n t, matchAt r (List.replicate n ' ' ++ ' ' :: '|' :: t) = none
  last : matchAt r ['\n'] = none

theorem search_cell {r : List Item} (hr : WordFirst r) {c : Char} {a : List Char}
    (ha : ∀ d ∈ c :: a, notSpace d = true) {s : String} (hclean : CleanText s) (n : Nat)
    (t : List Char) :
    search ((c :: a).map .lit ++ r) ((padRight n s).toList ++ ' ' :: '|' :: ' ' :: t) =
      search ((c :: a).map .lit ++ r)
        (List.replicate (n - s.length) ' ' ++ ' ' :: '|' :: ' ' :: t) := by
  obtain ⟨s', hs'⟩ := blanks_eq_cons (n - s.length) ('|' :: ' ' :: t)
  have hends : Ends notSpace (List.replicate (n - s.length) ' ' ++ ' ' :: '|' :: ' ' :: t) := by
    rw [hs']
    exact ends_cons notSpace_blank s'
  rw [toList_padRight, List.append_assoc]
  exact search_word hr.refuses (hr.gap _ _) hends ha (notSpace_of_clean hclean)

theorem ne_of_notSpace {c d : Char} (hc : notSpace c = true) (hd : notSpace d = false) :
    c ≠ d := by
  rintro rfl
  rw [hc] at hd
  cases hd

theorem search_last {r : List Item} (hr : WordFirst r) {c : Char} {a : List Char}
    (ha : ∀ d ∈ c :: a, notSpace d = true) {last : Cell}
    (hlabel : c ∉ last.label.toList) (hclean : CleanText last.text) :
    search ((c :: a).map .lit ++ r)
      (last.label.toList ++ ' ' :: (last.text.toList ++ ['\n'])) = none := by
  have hc : notSpace c = true := ha c List.mem_cons_self
  have hnewline : notSpace '\n' = false := by decide
  have hskip := search_skip (r := a.map .lit ++ r) hlabel (' ' :: (last.text.toList ++ ['\n']))
  have hspace := search_skip (r := a.map .lit ++ r)
    (mt List.mem_singleton.mp (ne_of_notSpace hc notSpace_blank)) (last.text.toList ++ ['\n'])
  have hword := search_word hr.refuses hr.last (ends_cons hnewline []) ha
    (notSpace_of_clean hclean)
  have hend := search_skip (r := a.map .lit ++ r)
    (mt List.mem_singleton.mp (ne_of_notSpace hc hnewline)) []
  exact hskip.trans (hspace.trans (hword.trans hend))

/-- Such a pattern is not found in a row, when its first character is in no label. -/
theorem search_row {r : List Item} (hr : WordFirst r) {c : Char} {a : List Char}
    (ha : ∀ d ∈ c :: a, notSpace d = true) (hbar : c ≠ '|') {cells : List Cell} {last : Cell}
    (hlabel : ∀ cell ∈ cells ++ [last], c ∉ cell.label.toList)
    (hclean : ∀ cell ∈ cells ++ [last], CleanText cell.text) :
    search ((c :: a).map .lit ++ r) (rowText cells last) = none := by
  have hblank : c ≠ ' ' := ne_of_notSpace (ha c List.mem_cons_self) notSpace_blank
  have hblanks : ∀ n, c ∉ List.replicate n ' ' ++ [' ', '|', ' '] := by
    intro n hc
    rcases List.mem_append.mp hc with hc | hc
    · exact hblank (List.eq_of_mem_replicate hc)
    · simp only [List.mem_cons, List.not_mem_nil, or_false] at hc
      rcases hc with rfl | rfl | rfl
      · exact hblank rfl
      · exact hbar rfl
      · exact hblank rfl
  induction cells with
  | nil => exact search_last hr ha (hlabel last (by simp)) (hclean last (by simp))
  | cons cell cells ih =>
    have hrow := ih (fun d hd => hlabel d (List.mem_cons_of_mem cell hd))
      fun d hd => hclean d (List.mem_cons_of_mem cell hd)
    have hskip := search_skip (r := a.map .lit ++ r) (hlabel cell List.mem_cons_self)
      (' ' :: ((padRight cell.width cell.text).toList ++ ' ' :: '|' :: ' ' ::
        rowText cells last))
    have hspace := search_skip (r := a.map .lit ++ r) (mt List.mem_singleton.mp hblank)
      ((padRight cell.width cell.text).toList ++ ' ' :: '|' :: ' ' :: rowText cells last)
    have hcell := search_cell hr ha (hclean cell List.mem_cons_self) cell.width
      (rowText cells last)
    have hgap := search_skip (r := a.map .lit ++ r)
      (hblanks (cell.width - cell.text.length)) (rowText cells last)
    rw [List.append_assoc] at hgap
    exact hskip.trans (hspace.trans (hcell.trans (hgap.trans hrow)))

/-! ## The line of an operator -/

/-- The cells of a line, all but the last one. -/
def inventoryCells (op : OperatorInfo) : List Cell :=
  [⟨"Sub:", "sub", 25, op.name⟩, ⟨"Pkg:", "pkg", 20, op.package⟩, ⟨"NS:", "ns", 15, op.nameSpace⟩,
    ⟨"Channel:", "channel", 10, op.channel⟩, ⟨"CSV:", "csv", 30, op.installedCSV⟩,
    ⟨"Version:", "version", 10, op.version⟩]

def phaseCell (op : OperatorInfo) : Cell := ⟨"Phase:", "phase", 0, op.phase⟩

/-- The fields that a line prints. -/
def printed (op : OperatorInfo) : List String :=
  [op.name, op.package, op.nameSpace, op.channel, op.installedCSV, op.version, op.phase]

/-- No printed field has whitespace or a bar in it. -/
def CleanFields (op : OperatorInfo) : Prop := ∀ s ∈ printed op, CleanText s

/-- What `match.groupdict()` is when every field is recovered. -/
def groupdict (op : OperatorInfo) : Groups :=
  [("sub", op.name), ("pkg", op.package), ("ns", op.nameSpace), ("channel", op.channel),
    ("csv", op.installedCSV), ("version", op.version), ("phase", op.phase)]

theorem rowGroups_inventory (op : OperatorInfo) :
    rowGroups (inventoryCells op) (phaseCell op) = groupdict op := rfl

theorem texts_inventory (op : OperatorInfo) :
    (inventoryCells op ++ [phaseCell op]).map Cell.text = printed op := rfl

theorem logPattern_eq (op : OperatorInfo) :
    logPattern = lits "->" ++
      (.plus isSpace :: rowPattern (inventoryCells op) (phaseCell op)) := by
  simp only [logPattern, rowPattern, inventoryCells, phaseCell, List.append_assoc,
    List.cons_append, List.nil_append]

def labels : List String := ["Sub:", "Pkg:", "NS:", "Channel:", "CSV:", "Version:", "Phase:"]

theorem mem_labels {op : OperatorInfo} {c : Cell}
    (h : c ∈ inventoryCells op ++ [phaseCell op]) : c.label ∈ labels :=
  List.mem_map_of_mem h

theorem labelled_inventory (op : OperatorInfo) :
    ∀ c ∈ inventoryCells op ++ [phaseCell op], c.Labelled := by
  have hheads : ∀ label ∈ labels,
      (label.toList.head?.any fun h => !isSpace h && h != '|') = true := by decide
  intro c hc
  obtain ⟨h, hhead, hfirst⟩ := (Option.any_eq_true _ _).mp (hheads c.label (mem_labels hc))
  obtain ⟨l, hl⟩ := List.head?_eq_some_iff.mp hhead
  rw [Bool.and_eq_true, Bool.not_eq_true', bne_iff_ne] at hfirst
  exact ⟨h, l, hl, hfirst.1, hfirst.2⟩

theorem clean_inventory {op : OperatorInfo} (h : CleanFields op) :
    ∀ c ∈ inventoryCells op ++ [phaseCell op], CleanText c.text := by
  intro c hc
  refine h c.text ?_
  rw [← texts_inventory]
  exact List.mem_map_of_mem hc

theorem toList_inventoryText (op : OperatorInfo) :
    (inventoryText op).toList ++ ['\n'] =
      ' ' :: ' ' :: '-' :: '>' :: ' ' :: rowText (inventoryCells op) (phaseCell op) := by
  have hsub : "  -> Sub: ".toList = [' ', ' ', '-', '>', ' '] ++ ("Sub:".toList ++ [' ']) := by
    decide
  have hpkg : " | Pkg: ".toList = [' ', '|', ' '] ++ ("Pkg:".toList ++ [' ']) := by decide
  have hns : " | NS: ".toList = [' ', '|', ' '] ++ ("NS:".toList ++ [' ']) := by decide
  have hchannel : " | Channel: ".toList = [' ', '|', ' '] ++ ("Channel:".toList ++ [' ']) := by
    decide
  have hcsv : " | CSV: ".toList = [' ', '|', ' '] ++ ("CSV:".toList ++ [' ']) := by decide
  have hversion : " | Version: ".toList = [' ', '|', ' '] ++ ("Version:".toList ++ [' ']) := by
    decide
  have hphase : " | Phase: ".toList = [' ', '|', ' '] ++ ("Phase:".toList ++ [' ']) := by decide
  unfold inventoryText
  simp only [String.toList_append, List.append_assoc]
  rw [hsub, hpkg, hns, hchannel, hcsv, hversion, hphase]
  unfold inventoryCells phaseCell
  simp only [rowText, List.append_assoc, List.cons_append, List.nil_append]


/-- A clean text does not end in a newline, so the logger adds it. -/
theorem getLast_inventoryText {op : OperatorInfo} (h : CleanFields op) :
    (inventoryText op).toList.getLast? ≠ some '\n' := by
  have hphase : CleanText op.phase := h op.phase (by simp [printed])
  unfold inventoryText
  rw [String.toList_append, List.getLast?_append]
  cases hlast : op.phase.toList.getLast? with
  | none =>
    rw [Option.none_or, String.toList_append, List.getLast?_append]
    have hlabel : " | Phase: ".toList.getLast? = some ' ' := rfl
    rw [hlabel, Option.some_or]
    decide
  | some c =>
    rw [Option.some_or]
    rintro hc
    have hmem : c ∈ op.phase.toList := List.mem_of_getLast? hlast
    have hspace := (hphase c hmem).1
    rw [Option.some.inj hc] at hspace
    exact absurd hspace (by decide)

theorem toList_inventoryLine {op : OperatorInfo} (h : CleanFields op) (t : LogTime) :
    (logLine t (inventoryText op)).toList = (logHeader t).toList ++
      ' ' :: ' ' :: '-' :: '>' :: ' ' :: rowText (inventoryCells op) (phaseCell op) := by
  rw [toList_logLine (getLast_inventoryText h), toList_inventoryText op]

/-! ### Finding the pattern -/

/-- What comes after the arrow of the pattern: blanks, then a label. -/
theorem wordFirst_logPattern (op : OperatorInfo) :
    WordFirst (.plus isSpace :: rowPattern (inventoryCells op) (phaseCell op)) where
  refuses := refuses_plus_notSpace _
  gap := by
    intro n t
    have hgap := matchAt_plus_run (refuses_row (labelled_inventory op))
      (List.append_ne_nil_of_right_ne_nil _ (List.cons_ne_nil ' ' [])) (isSpace_blanks n)
      (ends_cons isSpace_bar t)
    rw [List.append_assoc] at hgap
    exact hgap.trans (matchAt_row_none (labelled_inventory op) (by simp))
  last := by
    have hnewline : ∀ d ∈ ['\n'], isSpace d = true := List.forall_mem_singleton.mpr (by decide)
    have hrun := matchAt_plus_run (refuses_row (labelled_inventory op))
      (List.cons_ne_nil '\n' []) hnewline (ends_nil isSpace)
    exact hrun.trans (matchAt_row_none (labelled_inventory op) (by simp))

/-- Every character of a header, or of a text between the lines of operators, is passed over. -/
theorem search_logPattern_skip {p : List Char} (hp : '-' ∉ p) (t : List Char) :
    search logPattern (p ++ t) = search logPattern t :=
  search_skip hp t

theorem not_mem_header {c : Char} (hc : isHeaderChar c = false) (t : LogTime) :
    c ∉ (logHeader t).toList := by
  intro hmem
  rw [headerText_logHeader t c hmem] at hc
  cases hc

theorem not_mem_label {c : Char} (hc : ∀ label ∈ labels, c ∉ label.toList) (op : OperatorInfo) :
    ∀ cell ∈ inventoryCells op ++ [phaseCell op], c ∉ cell.label.toList :=
  fun cell hcell => hc cell.label (mem_labels hcell)

/-- The pattern finds all the fields of an operator in its line, or nothing. -/
theorem search_inventoryLine {op : OperatorInfo} (h : CleanFields op) (t : LogTime) :
    search logPattern (logLine t (inventoryText op)).toList =
      if ∀ s ∈ printed op, s ≠ "" then some (groupdict op) else none := by
  have hrow := matchAt_row (labelled_inventory op) (clean_inventory h)
  have hall : (∀ c ∈ inventoryCells op ++ [phaseCell op], c.text ≠ "") ↔
      ∀ s ∈ printed op, s ≠ "" := by
    rw [← texts_inventory, List.forall_mem_map]
  simp only [hall, rowGroups_inventory] at hrow
  have hblank : matchAt (.plus isSpace :: rowPattern (inventoryCells op) (phaseCell op))
      (' ' :: rowText (inventoryCells op) (phaseCell op)) =
        matchAt (rowPattern (inventoryCells op) (phaseCell op))
          (rowText (inventoryCells op) (phaseCell op)) := by
    obtain ⟨d, u, hu, hspace, -⟩ := rowText_head (labelled_inventory op)
    rw [hu]
    exact matchAt_plus_run (refuses_row (labelled_inventory op)) (List.cons_ne_nil ' ' [])
      (isSpace_blanks 0) (ends_cons hspace u)
  have harrow : matchAt logPattern
      ('-' :: '>' :: ' ' :: rowText (inventoryCells op) (phaseCell op)) =
        if ∀ s ∈ printed op, s ≠ "" then some (groupdict op) else none := by
    rw [logPattern_eq op]
    exact (matchAt_lits ['-', '>'] _ _).trans (hblank.trans hrow)
  have hheader := search_logPattern_skip (not_mem_header (c := '-') (by decide) t)
    (' ' :: ' ' :: '-' :: '>' :: ' ' :: rowText (inventoryCells op) (phaseCell op))
  have hindent := search_logPattern_skip (p := [' ', ' ']) (by decide)
    ('-' :: '>' :: ' ' :: rowText (inventoryCells op) (phaseCell op))
  rw [toList_inventoryLine h t]
  refine hheader.trans (hindent.trans ?_)
  by_cases hsome : ∀ s ∈ printed op, s ≠ ""
  · rw [if_pos hsome] at harrow ⊢
    exact search_of_match harrow
  · rw [if_neg hsome] at harrow ⊢
    -- no later place of the line starts a match: the arrow is not followed by a label there
    have hrest := search_logPattern_skip (p := ['>', ' ']) (by decide)
      (rowText (inventoryCells op) (phaseCell op))
    have hword : ∀ d ∈ ['-', '>'], notSpace d = true := List.all_eq_true.mp (by decide)
    have hnone := search_row (wordFirst_logPattern op) hword (by decide)
      (not_mem_label (by decide) op) (clean_inventory h)
    rw [search_of_no_match harrow]
    refine hrest.trans ?_
    rw [logPattern_eq op]
    exact hnone

/-! ### The lines of a sweep -/

/-- The words that start a new table, after the first one. -/
theorem wordFirst_running :
    WordFirst (lits " OLM operator inventory sweep...") where
  refuses := refuses_lit notSpace_blank _
  gap := by
    intro n t
    cases n with
    | zero => rfl
    | succ n =>
      cases n with
      | zero => rfl
      | succ n => rfl
  last := rfl

theorem lits_running :
    lits "Running OLM operator inventory sweep..." =
      ('R' :: "unning".toList).map .lit ++ lits " OLM operator inventory sweep..." := by
  have hwords : "Running OLM operator inventory sweep...".toList =
      ('R' :: "unning".toList) ++ " OLM operator inventory sweep...".toList := by decide
  rw [lits, hwords, List.map_append]
  rfl

theorem search_running_skip {p : List Char} (hp : 'R' ∉ p) (t : List Char) :
    search (lits "Running OLM operator inventory sweep...") (p ++ t) =
      search (lits "Running OLM operator inventory sweep...") t := by
  rw [lits_running]
  exact search_skip hp t

/-- The line of an operator does not start a new table. -/
theorem occurs_inventoryLine {op : OperatorInfo} (h : CleanFields op) (t : LogTime) :
    occurs "Running OLM operator inventory sweep..." (logLine t (inventoryText op)) = false := by
  have hword : ∀ d ∈ 'R' :: "unning".toList, notSpace d = true :=
    List.all_eq_true.mp (by decide)
  have hnone := search_row wordFirst_running hword (by decide) (not_mem_label (by decide) op)
    (clean_inventory h)
  rw [← lits_running] at hnone
  have hheader := search_running_skip (not_mem_header (c := 'R') (by decide) t)
    (' ' :: ' ' :: '-' :: '>' :: ' ' :: rowText (inventoryCells op) (phaseCell op))
  have hindent := search_running_skip (p := [' ', ' ', '-', '>', ' ']) (by decide)
    (rowText (inventoryCells op) (phaseCell op))
  rw [occurs, toList_inventoryLine h t, hheader.trans (hindent.trans hnone)]
  rfl

/-- A line with no `-` in its text shows no operator. -/
theorem search_plainLine {text : String} (hlast : text.toList.getLast? ≠ some '\n')
    (htext : '-' ∉ text.toList) (t : LogTime) :
    search logPattern (logLine t text).toList = none := by
  have hplain : '-' ∉ text.toList ++ ['\n'] := by
    intro hmem
    rcases List.mem_append.mp hmem with hmem | hmem
    · exact htext hmem
    · exact absurd hmem (by decide)
  have hheader := search_logPattern_skip (not_mem_header (c := '-') (by decide) t)
    (text.toList ++ ['\n'])
  have hskip := search_logPattern_skip hplain []
  rw [List.append_nil] at hskip
  rw [toList_logLine hlast]
  exact hheader.trans hskip

theorem readLine_sweep (shown : List Groups) (t : LogTime) :
    readLine shown (logLine t sweepText) = [] := by
  have hlast : sweepText.toList.getLast? ≠ some '\n' := by decide
  have hnone := search_plainLine hlast (by decide) t
  have hheader := search_running_skip (not_mem_header (c := 'R') (by decide) t)
    (sweepText.toList ++ ['\n'])
  have hfound : (search (lits "Running OLM operator inventory sweep...")
      (sweepText.toList ++ ['\n'])).isSome = true := by decide
  have hoccurs : occurs "Running OLM operator inventory sweep..." (logLine t sweepText) = true := by
    rw [occurs, toList_logLine hlast, hheader]
    exact hfound
  rw [readLine, hnone, if_pos hoccurs]

/-- What is printed after the `R` of `[GOVERNANCE]` when the operators have been counted. -/
def discoveredRest (n : Nat) : List Char :=
  "NANCE] Discovered ".toList ++ (Nat.toDigits 10 n ++ " operator(s) on cluster:".toList)

theorem toList_discoveredText (n : Nat) :
    (discoveredText n).toList = "[GOVE".toList ++ 'R' :: discoveredRest n := by
  have hrepr : (toString n).toList = Nat.toDigits 10 n := Nat.toList_repr
  have htag : "[GOVERNANCE] Discovered ".toList =
      "[GOVE".toList ++ 'R' :: "NANCE] Discovered ".toList := by decide
  unfold discoveredText discoveredRest
  simp only [String.toList_append, hrepr, htag, List.append_assoc, List.cons_append]

theorem not_mem_discoveredRest {c : Char} (hdigit : c.isDigit = false)
    (htag : c ∉ "NANCE] Discovered ".toList) (hrest : c ∉ " operator(s) on cluster:".toList)
    (n : Nat) : c ∉ discoveredRest n := by
  intro hc
  unfold discoveredRest at hc
  simp only [List.mem_append] at hc
  rcases hc with hc | hc | hc
  · exact htag hc
  · rw [Nat.isDigit_of_mem_toDigits (by omega) (by omega) hc] at hdigit
    cases hdigit
  · exact hrest hc

theorem not_mem_discoveredText {c : Char} (hR : c ≠ 'R') (hdigit : c.isDigit = false)
    (htag : c ∉ "[GOVE".toList ++ "NANCE] Discovered ".toList)
    (hrest : c ∉ " operator(s) on cluster:".toList) (n : Nat) :
    c ∉ (discoveredText n).toList := by
  intro hc
  rw [toList_discoveredText, List.mem_append, List.mem_cons] at hc
  rcases hc with hc | hc | hc
  · exact htag (List.mem_append_left _ hc)
  · exact hR hc
  · exact not_mem_discoveredRest hdigit (mt (List.mem_append_right _) htag) hrest n hc

theorem readLine_discovered (shown : List Groups) (t : LogTime) (n : Nat) :
    readLine shown (logLine t (discoveredText n)) = shown := by
  have hlast : (discoveredText n).toList.getLast? ≠ some '\n' := by
    intro hlast
    exact not_mem_discoveredText (by decide) (by decide) (by decide) (by decide) n
      (List.mem_of_getLast? hlast)
  have hdash : '-' ∉ (discoveredText n).toList :=
    not_mem_discoveredText (by decide) (by decide) (by decide) (by decide) n
  have hrest : 'R' ∉ discoveredRest n ++ ['\n'] := by
    intro hmem
    rcases List.mem_append.mp hmem with hmem | hmem
    · exact not_mem_discoveredRest (by decide) (by decide) (by decide) n hmem
    · exact absurd hmem (by decide)
  have hheader := search_running_skip (not_mem_header (c := 'R') (by decide) t)
    ("[GOVE".toList ++ ('R' :: (discoveredRest n ++ ['\n'])))
  have htag := search_running_skip (p := "[GOVE".toList) (by decide)
    ('R' :: (discoveredRest n ++ ['\n']))
  -- the tag has an `R`, and an `N` after it
  have hR : matchAt (lits "Running OLM operator inventory sweep...")
      ('R' :: (discoveredRest n ++ ['\n'])) = none := by
    rw [lits_running]
    rfl
  have hskip := search_running_skip hrest []
  rw [List.append_nil] at hskip
  have hoccurs : occurs "Running OLM operator inventory sweep..."
      (logLine t (discoveredText n)) = false := by
    rw [occurs, toList_logLine hlast, toList_discoveredText, List.append_assoc, List.cons_append,
      hheader, htag, search_of_no_match hR, hskip]
    rfl
  rw [readLine, search_plainLine hlast hdash, hoccurs]
  rfl

theorem readLine_inventory {op : OperatorInfo} (h : CleanFields op) (shown : List Groups)
    (t : LogTime) :
    readLine shown (logLine t (inventoryText op)) =
      if ∀ s ∈ printed op, s ≠ "" then shown ++ [groupdict op] else shown := by
  rw [readLine, occurs_inventoryLine h t, search_inventoryLine h t]
  by_cases hall : ∀ s ∈ printed op, s ≠ ""
  · rw [if_pos hall, if_pos hall]
    rfl
  · rw [if_neg hall, if_neg hall]
    rfl

/-- The lines of the operators add those with all fields to the table. -/
theorem streamLogs_inventory (clock : Nat → LogTime) {operators : List OperatorInfo}
    (h : ∀ op ∈ operators, CleanFields op) (shown : List Groups) (i : Nat) :
    streamLogs shown ((operators.zipIdx i).map fun input =>
        logLine (clock (input.2 + 2)) (inventoryText input.1)) =
      shown ++ (operators.filter fun op => ∀ s ∈ printed op, s ≠ "").map groupdict := by
  induction operators generalizing shown i with
  | nil => rw [List.filter_nil, List.map_nil, List.append_nil]; rfl
  | cons op operators ih =>
    have hop := readLine_inventory (h op List.mem_cons_self) shown (clock (i + 2))
    have hrest := fun shown' =>
      ih (fun o ho => h o (List.mem_cons_of_mem op ho)) shown' (i + 1)
    unfold streamLogs at hrest ⊢
    rw [List.zipIdx_cons, List.map_cons, List.foldl_cons, hop, hrest, List.filter_cons]
    by_cases hall : ∀ s ∈ printed op, s ≠ ""
    · rw [if_pos hall, if_pos (decide_eq_true hall), List.map_cons, List.append_assoc]
      rfl
    · rw [if_neg hall, if_neg (by simpa using hall)]

/-- After a sweep the viewer shows the operators whose lines it could read. -/
theorem streamLogs_sweep {sweep : Sweep} {resp : ClusterGovernanceResponse}
    (hresp : getClusterGovernance sweep = .ok resp)
    (h : ∀ op ∈ resp.operators, CleanFields op) (clock : Nat → LogTime)
    (opCache : Option ClusterGovernanceResponse) (shown : List Groups) :
    streamLogs shown (collectOperators clock opCache sweep).2 =
      (resp.operators.filter fun op => ∀ s ∈ printed op, s ≠ "").map groupdict := by
  have hlines := streamLogs_inventory clock h [] 0
  rw [List.nil_append] at hlines
  unfold streamLogs at hlines ⊢
  rw [collectOperators_ok hresp, List.foldl_cons, List.foldl_cons, readLine_sweep,
    readLine_discovered]
  exact hlines

/-! ## What the viewer shows -/

/-- The line of an operator of a sweep gives back its fields exactly when it has no empty one,
    and no operator of the sweep is missing exactly when that holds of all of them. -/
theorem viewer_shows_iff (sweep : Sweep) (resp : ClusterGovernanceResponse)
    (hresp : getClusterGovernance sweep = .ok resp) :
    (∀ op ∈ resp.operators, CleanFields op → ∀ t,
      (search logPattern (logLine t (inventoryText op)).toList = some (groupdict op) ↔
        ∀ s ∈ printed op, s ≠ "")) ∧
    ((∀ op ∈ resp.operators, CleanFields op) → ∀ clock opCache shown,
      (streamLogs shown (collectOperators clock opCache sweep).2 =
          resp.operators.map groupdict ↔
        ∀ op ∈ resp.operators, ∀ s ∈ printed op, s ≠ "")) := by
  constructor
  · intro op _ hclean t
    rw [search_inventoryLine hclean t]
    by_cases hall : ∀ s ∈ printed op, s ≠ ""
    · rw [if_pos hall]
      exact iff_of_true rfl hall
    · rw [if_neg hall]
      refine iff_of_false ?_ hall
      intro h
      cases h
  · intro hclean clock opCache shown
    rw [streamLogs_sweep hresp hclean]
    constructor
    · intro h op hop
      have hlength := congrArg List.length h
      rw [List.length_map, List.length_map, List.length_filter_eq_length_iff] at hlength
      exact of_decide_eq_true (hlength op hop)
    · intro h
      have hfilter : (resp.operators.filter fun op => ∀ s ∈ printed op, s ≠ "") =
          resp.operators := List.filter_eq_self.mpr fun op hop => decide_eq_true (h op hop)
      rw [hfilter]

/-! ### A Subscription without a channel -/

/-- etcd is subscribed to on the default channel and not installed yet; prometheus is. -/
def pendingObjects (gvr : GroupVersionResource) : List Unstructured :=
  if gvr = subscriptionGVR then
    [⟨[metadata "operators" "etcd",
        ("spec", .obj [("name", .str "etcd"), ("source", .str "community-operators")])]⟩,
      ⟨[metadata "monitoring" "prometheus", ("spec", .obj [("channel", .str "beta")]),
        ("status", .obj [("installedCSV", .str "prometheusoperator.0.65.1")])]⟩]
  else if gvr = csvGVR then
    [⟨[metadata "monitoring" "prometheusoperator.0.65.1",
      ("spec", .obj [("version", .str "0.65.1")]),
      ("status", .obj [("phase", .str "Succeeded")])]⟩]
  else []

def pendingSweep : Sweep := Sweep.ofClient (snapshotClient pendingObjects)

theorem pending_response : ∃ resp etcd prometheus,
    getClusterGovernance pendingSweep = .ok resp ∧ resp.operators = [etcd, prometheus] ∧
    printed etcd = ["etcd", "etcd", "operators", "", "", "0.0.0", "Failed"] ∧
    printed prometheus = ["prometheus", "prometheus", "monitoring", "beta",
      "prometheusoperator.0.65.1", "0.65.1", "Succeeded"] :=
  ⟨_, _, _, rfl, rfl, rfl, rfl⟩

/-- The line of the pending operator is not read, and the table shows the other one alone. -/
theorem pending_operator_missing : ∃ resp etcd prometheus,
    getClusterGovernance pendingSweep = .ok resp ∧ resp.operators = [etcd, prometheus] ∧
    CleanFields etcd ∧
    (∀ t, search logPattern (logLine t (inventoryText etcd)).toList = none) ∧
    ∀ clock shown, streamLogs shown (collectOperators clock none pendingSweep).2 =
      [groupdict prometheus] := by
  obtain ⟨resp, etcd, prometheus, hresp, hops, hetcd, hprometheus⟩ := pending_response
  have hcleanE : CleanFields etcd := by
    unfold CleanFields
    rw [hetcd]
    decide
  have hcleanP : CleanFields prometheus := by
    unfold CleanFields
    rw [hprometheus]
    decide
  have hemptyE : ¬ ∀ s ∈ printed etcd, s ≠ "" := by
    rw [hetcd]
    decide
  have hfullP : ∀ s ∈ printed prometheus, s ≠ "" := by
    rw [hprometheus]
    decide
  refine ⟨resp, etcd, prometheus, hresp, hops, hcleanE, ?_, ?_⟩
  · intro t
    rw [search_inventoryLine hcleanE t, if_neg hemptyE]
  · intro clock shown
    have hclean : ∀ op ∈ resp.operators, CleanFields op := by
      rw [hops]
      exact List.forall_mem_cons.mpr ⟨hcleanE, List.forall_mem_singleton.mpr hcleanP⟩
    rw [streamLogs_sweep hresp hclean, hops, List.filter_cons_of_neg (by simpa using hemptyE),
      List.filter_cons_of_pos (by simpa using hfullP)]
    rfl

/-- In the sweep with that Subscription, each of the two lines is read as the theorem says. -/
theorem viewer_shows_iff_pending : ∃ resp prometheus,
    getClusterGovernance pendingSweep = .ok resp ∧ prometheus ∈ resp.operators ∧
    ∀ t, search logPattern (logLine t (inventoryText prometheus)).toList =
      some (groupdict prometheus) := by
  obtain ⟨resp, etcd, prometheus, hresp, hops, -, hprometheus⟩ := pending_response
  have hmem : prometheus ∈ resp.operators := by
    rw [hops]
    exact List.mem_cons_of_mem etcd (List.mem_singleton_self prometheus)
  have hclean : CleanFields prometheus := by
    unfold CleanFields
    rw [hprometheus]
    decide
  have hfull : ∀ s ∈ printed prometheus, s ≠ "" := by
    rw [hprometheus]
    decide
  exact ⟨resp, prometheus, hresp, hmem, fun t =>
    ((viewer_shows_iff pendingSweep resp hresp).1 prometheus hmem hclean t).mpr hfull⟩

end HybridOperator.Brain
