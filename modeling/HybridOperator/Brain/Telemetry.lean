/-
  The telemetry endpoint of the brain service: `receive_telemetry`, its state `pod_history`, and
  the decision it makes from a pod's recent readings.

  A request is the decoded JSON body, or `none` where `get_json(silent=True)` gives `None`. The
  checks are `checkPayload`: they let a payload through on Python's own terms (truthiness of
  `pod_name`, `memory_mb` other than `None`), so a name may be any hashable value and a reading
  may be anything. The reading is stored, and only then used.

  numpy is the parameter `Numpy F`, with `F` for its floating-point numbers: the least squares
  line and the few operations the code does on its slope. The structure carries what the code
  relies on: a line through numbers is found, and an array with a string in it raises.

  Proved: `history_run`: after every run the history of a key is the window of five on
  everything stored under it.
-/
import Mathlib.Data.List.AList
import Mathlib.Algebra.Order.Ring.Abs
import Mathlib.Algebra.Order.Ring.Rat
import HybridOperator.Lib.Json
import HybridOperator.Lib.Reactive
import HybridOperator.Lib.Window

namespace HybridOperator.Brain

open HybridOperator.Lib

/-! ## Python values -/

/-- `bool(v)` of a decoded JSON value. -/
def truthy : Json → Bool
  | .null => false
  | .bool b => b
  | .int n => n ≠ 0
  | .float q => q ≠ 0
  | .str s => s ≠ ""
  | .arr items => !items.isEmpty
  | .obj fields => !fields.isEmpty

/-- A key of a dict: numbers that are equal are one key, and `True` is `1`. -/
inductive DictKey where
  | str (s : String)
  | num (q : ℚ)
deriving DecidableEq

/-- The key a value is; lists and dicts are unhashable, and `None` is turned away before. -/
def dictKey : Json → Option DictKey
  | .str s => some (.str s)
  | .bool b => some (.num (if b then 1 else 0))
  | .int n => some (.num n)
  | .float q => some (.num q)
  | .null | .arr _ | .obj _ => none

/-- `data.get(k)`. -/
def getItem (data : JMap) (k : String) : Json := (data.lookup k).getD .null

/-- `v is None`. -/
def isNone : Json → Bool
  | .null => true
  | _ => false

/-- An `int`, a `float` or a `bool`, which is an `int`. -/
def isNumber : Json → Bool
  | .bool _ | .int _ | .float _ => true
  | .null | .str _ | .arr _ | .obj _ => false

/-- A number that an array of machine numbers holds: a 64-bit integer, signed or not, or a finite
    double. A literal from `2^1024 - 2^970` on is read as infinity. -/
def machineNumber : Json → Bool
  | .bool _ => true
  | .int n => -9223372036854775808 ≤ n && n ≤ 18446744073709551615
  | .float q => |q| < 2 ^ 1024 - 2 ^ 970
  | .null | .str _ | .arr _ | .obj _ => false

theorem isNumber_of_machineNumber {m : Json} (h : machineNumber m = true) :
    isNumber m = true := by
  cases m <;> first | rfl | cases h

/-! ## numpy -/

/-- What the code uses of numpy; `none` is a raised exception. -/
structure Numpy (F : Type) where
  /-- the slope of `np.polyfit(np.arange(len(history)), np.array(history), 1)` -/
  polyfit : List Json → Option F
  /-- `slope > 0` -/
  positive : F → Bool
  /-- `history[-1] + slope` -/
  add : Json → F → F
  /-- `projected_mem > limit` -/
  exceeds : F → Nat → Bool
  /-- `f"{projected_mem:.1f}"` -/
  fixed1 : F → String
  /-- a line is fitted through two or more machine numbers -/
  polyfit_numbers : ∀ history, 2 ≤ history.length → (∀ m ∈ history, machineNumber m = true) →
    (polyfit history).isSome = true
  /-- an array with a string in it is not one of numbers, and the fit raises -/
  polyfit_str : ∀ history s, .str s ∈ history → polyfit history = none

/-! ## The endpoint -/

abbrev PodHistory := AList fun _ : DictKey => List Json

/-- `MEMORY_LIMIT_MB`. -/
def memoryLimitMB : Nat := 512

structure Decision where
  action : String
  reason : String
deriving DecidableEq

inductive ResponseBody where
  | decision (d : Decision)
  | error (text : String)
  /-- the page for an exception that no handler caught -/
  | internalServerError
deriving DecidableEq

structure Response where
  status : Nat
  body : ResponseBody
deriving DecidableEq

def raised : Response := ⟨500, .internalServerError⟩

/-- `request.get_json(silent=True) or {}`. -/
def getJson : Option Json → Json
  | some j => if truthy j then j else .obj []
  | none => .obj []

/-- What comes before the reading is stored: the key and the reading, or the answer of a
    request that does not get there. -/
def checkPayload (request : Option Json) : Except Response (DictKey × Json) :=
  match getJson request with
  | .obj data =>
      let podName := getItem data "pod_name"
      let currentMem := getItem data "memory_mb"
      if !truthy podName || isNone currentMem then
        .error ⟨400, .error "Invalid telemetry payload"⟩
      else
        match dictKey podName with
        | some k => .ok (k, currentMem)
        -- `pod_name not in pod_history` hashes the name
        | none => .error raised
  -- a list, a string, a number has no `get`
  | _ => .error raised

section Endpoint

variable {F : Type} (np : Numpy F)

/-- The action and the reason for a pod's history, or an exception. -/
def decision (history : List Json) : Option Decision :=
  let normal : Decision := ⟨"NONE", "Normal operating parameters"⟩
  if history.length ≥ 3 then
    match np.polyfit history with
    | none => none
    | some slope =>
        if np.positive slope then
          let projectedMem := np.add (history.getLastD .null) slope
          if np.exceeds projectedMem memoryLimitMB then
            some ⟨"RESTART_PROACTIVE", "Memory leak projected (" ++ np.fixed1 projectedMem ++
              "MB exceeds limit of " ++ toString memoryLimitMB ++ "MB)."⟩
          else some normal
        else some normal
  else some normal

def respond : Option Decision → Response
  | some d => ⟨200, .decision d⟩
  | none => raised

/-- The history of a key after one more reading. -/
def appended (podHistory : PodHistory) (k : DictKey) (currentMem : Json) : List Json :=
  Window.shift 5 ((podHistory.lookup k).getD []) currentMem

def receiveTelemetry (podHistory : PodHistory) (request : Option Json) : PodHistory × Response :=
  match checkPayload request with
  | .error response => (podHistory, response)
  | .ok (k, currentMem) =>
      let history := appended podHistory k currentMem
      (podHistory.insert k history, respond (decision np history))

theorem receiveTelemetry_error {request : Option Json} {response : Response}
    (h : checkPayload request = .error response) (podHistory : PodHistory) :
    receiveTelemetry np podHistory request = (podHistory, response) := by
  rw [receiveTelemetry, h]

theorem receiveTelemetry_ok {request : Option Json} {k : DictKey} {currentMem : Json}
    (h : checkPayload request = .ok (k, currentMem)) (podHistory : PodHistory) :
    receiveTelemetry np podHistory request =
      (podHistory.insert k (appended podHistory k currentMem),
        respond (decision np (appended podHistory k currentMem))) := by
  rw [receiveTelemetry, h]

/-- A decision is made from fewer than three readings, and from numbers. -/
theorem decision_isSome {history : List Json} (h : ∀ m ∈ history, machineNumber m = true) :
    ∃ d, decision np history = some d := by
  unfold decision
  dsimp only
  split
  · rename_i hlen
    obtain ⟨slope, hslope⟩ := Option.isSome_iff_exists.mp
      (np.polyfit_numbers history (by omega) h)
    rw [hslope]
    dsimp only
    split
    · split
      · exact ⟨_, rfl⟩
      · exact ⟨_, rfl⟩
    · exact ⟨_, rfl⟩
  · exact ⟨_, rfl⟩

/-! ## Runs -/

/-- The run of the endpoint from the empty `pod_history`. -/
def serve (requests : List (Option Json)) : PodHistory × List Response :=
  Reactive.run (receiveTelemetry np) ∅ requests

/-- What a request stores under a key. -/
def storedUnder (k : DictKey) (request : Option Json) : Option Json :=
  match checkPayload request with
  | .ok (k', currentMem) => if k' = k then some currentMem else none
  | .error _ => none

/-- The history of every key is the window on all that was stored under it. -/
def Tracks (past : List (Option Json)) (podHistory : PodHistory) : Prop :=
  ∀ k, (podHistory.lookup k).getD [] = (past.filterMap (storedUnder k)).rtake 5

theorem tracks_receive {past : List (Option Json)} {podHistory : PodHistory}
    (h : Tracks past podHistory) (request : Option Json) :
    Tracks (past ++ [request]) (receiveTelemetry np podHistory request).1 := by
  intro k
  rw [List.filterMap_append]
  cases hcheck : checkPayload request with
  | error response =>
    have hnone : storedUnder k request = none := by rw [storedUnder, hcheck]
    rw [receiveTelemetry_error np hcheck, List.filterMap_cons_none hnone, List.filterMap_nil,
      List.append_nil]
    exact h k
  | ok payload =>
    obtain ⟨k', currentMem⟩ := payload
    rw [receiveTelemetry_ok np hcheck]
    by_cases hk : k' = k
    · subst hk
      have hsome : storedUnder k' request = some currentMem := by
        rw [storedUnder, hcheck]
        exact if_pos rfl
      rw [AList.lookup_insert, List.filterMap_cons_some hsome, List.filterMap_nil,
        Option.getD_some, appended, h k', Window.shift_rtake]
    · have hnone : storedUnder k request = none := by
        rw [storedUnder, hcheck]
        exact if_neg hk
      rw [AList.lookup_insert_ne (Ne.symm hk), List.filterMap_cons_none hnone,
        List.filterMap_nil, List.append_nil]
      exact h k

theorem history_run (requests : List (Option Json)) : Tracks requests (serve np requests).1 := by
  refine Reactive.run_induction (R := Tracks) (P := fun _ => True) _ (fun k => rfl) ?_
    requests fun _ _ => trivial
  intro past podHistory request h _
  exact tracks_receive np h request

end Endpoint

end HybridOperator.Brain
