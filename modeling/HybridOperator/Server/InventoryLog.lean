/-
  The inventory lines of main.go's `collectOperators`, as the standard logger writes them.

  A line is the date and the time, the formatted text and a newline. `%-25s` pads on the right to
  25 characters and cuts nothing off, so a longer field moves the rest of its line.

  `collectOperators` writes a line when it starts, and then either the error or the number of
  operators and one line for each of them. `clock` gives the time of each of its lines.
-/
import HybridOperator.Collector.Governance

namespace HybridOperator.Server

open HybridOperator.Lib HybridOperator.Collector

/-- What the logger reads off the clock. -/
structure LogTime where
  year : Nat
  month : Nat
  day : Nat
  hour : Nat
  minute : Nat
  second : Nat

/-- `itoa(i, wid)` of the log package: decimal, with zeros up to the width. -/
def itoa (width i : Nat) : String :=
  let ds := Nat.toDigits 10 i
  String.ofList (List.replicate (width - ds.length) '0' ++ ds)

/-- The header with the flags `Ldate | Ltime`. -/
def logHeader (t : LogTime) : String :=
  itoa 4 t.year ++ "/" ++ itoa 2 t.month ++ "/" ++ itoa 2 t.day ++ " " ++
    itoa 2 t.hour ++ ":" ++ itoa 2 t.minute ++ ":" ++ itoa 2 t.second ++ " "

/-- The line of one call of the logger: a newline is added to a text that does not end in one. -/
def logLine (t : LogTime) (text : String) : String :=
  logHeader t ++ (if text.toList.getLast? = some '\n' then text else text ++ "\n")

theorem toList_logLine {text : String} (h : text.toList.getLast? ≠ some '\n') (t : LogTime) :
    (logLine t text).toList = (logHeader t).toList ++ (text.toList ++ ['\n']) := by
  have hnewline : "\n".toList = ['\n'] := by decide
  rw [logLine, if_neg h, String.toList_append, String.toList_append, hnewline]

/-- `%-Ns` with `N` the width. -/
def padRight (width : Nat) (s : String) : String :=
  s ++ String.ofList (List.replicate (width - s.length) ' ')

/-- The text for one operator. -/
def inventoryText (op : OperatorInfo) : String :=
  "  -> Sub: " ++ padRight 25 op.name ++ " | Pkg: " ++ padRight 20 op.package ++
    " | NS: " ++ padRight 15 op.nameSpace ++ " | Channel: " ++ padRight 10 op.channel ++
    " | CSV: " ++ padRight 30 op.installedCSV ++ " | Version: " ++ padRight 10 op.version ++
    " | Phase: " ++ op.phase

def sweepText : String := "[GOVERNANCE] Running OLM operator inventory sweep..."

def discoveredText (n : Nat) : String :=
  "[GOVERNANCE] Discovered " ++ toString n ++ " operator(s) on cluster:"

def errorText (err : String) : String :=
  "[GOVERNANCE ERROR] Failed to query OLM resources: " ++ err

/-- The new `opCache` and the lines that were logged. -/
def collectOperators (clock : Nat → LogTime) (opCache : Option ClusterGovernanceResponse)
    (sweep : Sweep) : Option ClusterGovernanceResponse × List String :=
  match getClusterGovernance sweep with
  | .error err => (opCache, [logLine (clock 0) sweepText, logLine (clock 1) (errorText err)])
  | .ok govResp =>
      (some govResp,
        logLine (clock 0) sweepText ::
          logLine (clock 1) (discoveredText govResp.operators.length) ::
          govResp.operators.zipIdx.map fun input =>
            logLine (clock (input.2 + 2)) (inventoryText input.1))

theorem collectOperators_error {sweep : Sweep} {err : String}
    (h : getClusterGovernance sweep = .error err) (clock : Nat → LogTime)
    (opCache : Option ClusterGovernanceResponse) :
    collectOperators clock opCache sweep =
      (opCache, [logLine (clock 0) sweepText, logLine (clock 1) (errorText err)]) := by
  rw [collectOperators, h]

theorem collectOperators_ok {sweep : Sweep} {resp : ClusterGovernanceResponse}
    (h : getClusterGovernance sweep = .ok resp) (clock : Nat → LogTime)
    (opCache : Option ClusterGovernanceResponse) :
    collectOperators clock opCache sweep =
      (some resp, logLine (clock 0) sweepText ::
        logLine (clock 1) (discoveredText resp.operators.length) ::
        resp.operators.zipIdx.map fun input =>
          logLine (clock (input.2 + 2)) (inventoryText input.1)) := by
  rw [collectOperators, h]

/-! ## The header -/

/-- A character of a header. -/
def isHeaderChar (c : Char) : Bool := c.isDigit || c = '/' || c = ':' || c = ' '

def HeaderText (s : String) : Prop := ∀ c ∈ s.toList, isHeaderChar c = true

theorem headerText_append {s t : String} (hs : HeaderText s) (ht : HeaderText t) :
    HeaderText (s ++ t) := by
  intro c hc
  rw [String.toList_append, List.mem_append] at hc
  exact hc.elim (hs c) (ht c)

theorem headerText_itoa (width i : Nat) : HeaderText (itoa width i) := by
  intro c hc
  unfold itoa at hc
  rw [String.toList_ofList, List.mem_append] at hc
  have hdigit : c.isDigit = true := by
    rcases hc with hzero | hdigits
    · rw [List.eq_of_mem_replicate hzero]
      rfl
    · exact Nat.isDigit_of_mem_toDigits (by omega) (by omega) hdigits
  rw [isHeaderChar, hdigit]
  rfl

theorem headerText_logHeader (t : LogTime) : HeaderText (logHeader t) := by
  have hslash : HeaderText "/" := List.all_eq_true.mp (by decide)
  have hcolon : HeaderText ":" := List.all_eq_true.mp (by decide)
  have hspace : HeaderText " " := List.all_eq_true.mp (by decide)
  unfold logHeader
  refine headerText_append (headerText_append (headerText_append (headerText_append
    (headerText_append (headerText_append (headerText_append (headerText_append
    (headerText_append (headerText_append (headerText_append ?_ hslash) ?_) hslash) ?_)
    hspace) ?_) hcolon) ?_) hcolon) ?_) hspace
  all_goals exact headerText_itoa _ _

end HybridOperator.Server
