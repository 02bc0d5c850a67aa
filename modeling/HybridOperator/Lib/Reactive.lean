/-
  Reactive systems: a state, a step that takes an input to a new state and an output, and the
  run over a sequence of inputs. Nothing is assumed about the three types.

  `run_induction` is the rule the invariants of whole runs come from: a relation between the
  inputs so far and the state that holds at the start and is kept by one step holds after
  every run. `always_iff` is the rule for a property that a step keeps exactly when it is not a
  bad one: it holds in all states of a run exactly when no step of the run is bad in the state it
  is taken in. `output_getElem?` reads one answer of a run off the state it was given in.
  `run_trace` is the rule for outputs that are lists of events, with the events so far in place of
  the inputs.
  `getLast?_filterMap_concat` is the step of what the last input said that has a say in something.
  `run_forall₂` and `run_simulation` carry a relation of two systems from their steps to their
  runs.

  `outputsTo` and `Isolated` are about inputs of several parties. A party is a predicate on
  inputs and a view of the state. When the other parties' inputs leave its view alone, and its
  own inputs act on its view and are answered from it, the answers it gets are a function of the
  inputs it sent (`outputsTo_filter`), whatever the others did in between.
-/
import Mathlib.Data.List.Forall2
import Mathlib.Data.List.Induction

namespace HybridOperator.Lib.Reactive

variable {σ ι ω : Type}

/-- What the last input that has a say said. -/
theorem getLast?_filterMap_concat (f : ι → Option ω) (is : List ι) (i : ι) :
    ((is ++ [i]).filterMap f).getLast? = (f i).or (is.filterMap f).getLast? := by
  rw [List.filterMap_append]
  cases h : f i with
  | none => rw [List.filterMap_cons_none h, List.filterMap_nil, List.append_nil, Option.none_or]
  | some o =>
    rw [List.filterMap_cons_some h, List.filterMap_nil, List.getLast?_concat, Option.some_or]

/-- The state after the inputs, and the output to each of them. -/
def run (step : σ → ι → σ × ω) : σ → List ι → σ × List ω
  | s, [] => (s, [])
  | s, i :: is =>
      let next := step s i
      let rest := run step next.1 is
      (rest.1, next.2 :: rest.2)

variable (step : σ → ι → σ × ω)

@[simp] theorem run_nil (s : σ) : run step s [] = (s, []) := rfl

theorem run_cons (s : σ) (i : ι) (is : List ι) :
    run step s (i :: is) = ((run step (step s i).1 is).1,
      (step s i).2 :: (run step (step s i).1 is).2) := rfl

theorem run_append (s : σ) (is js : List ι) :
    run step s (is ++ js) = ((run step (run step s is).1 js).1,
      (run step s is).2 ++ (run step (run step s is).1 js).2) := by
  induction is generalizing s with
  | nil => rfl
  | cons i is ih => simp only [List.cons_append, run_cons, ih]

theorem run_concat_state (s : σ) (is : List ι) (i : ι) :
    (run step s (is ++ [i])).1 = (step (run step s is).1 i).1 := by
  rw [run_append]
  rfl

/-- What relates the past inputs to the state initially and is kept by a step whose input
    satisfies `P` holds after every run over such inputs. -/
theorem run_induction {R : List ι → σ → Prop} {P : ι → Prop} {s₀ : σ} (h0 : R [] s₀)
    (hstep : ∀ past s i, R past s → P i → R (past ++ [i]) (step s i).1)
    (is : List ι) (his : ∀ i ∈ is, P i) : R is (run step s₀ is).1 := by
  induction is using List.reverseRecOn with
  | nil => exact h0
  | append_singleton is i ih =>
    rw [run_concat_state]
    have hi := his i (by simp)
    exact hstep is _ i (ih fun j hj => his j (by simp [hj])) hi

theorem run_take_succ (s : σ) {is : List ι} {n : Nat} {i : ι} (h : is[n]? = some i) :
    (run step s (is.take (n + 1))).1 = (step (run step s (is.take n)).1 i).1 := by
  rw [List.take_add_one, h, Option.toList_some, run_concat_state]

/-- The rule for systems whose outputs are lists of events: what relates the events so far to the
    state, and is kept by a step, holds along every run. -/
theorem run_trace {ε : Type} (step : σ → ι → σ × List ε) {R : List ε → σ → Prop} {P : ι → Prop}
    (hstep : ∀ past s i, P i → R past s → R (past ++ (step s i).2) (step s i).1)
    {past : List ε} {s : σ} (h : R past s) (is : List ι) (his : ∀ i ∈ is, P i) :
    R (past ++ (run step s is).2.flatten) (run step s is).1 := by
  induction is generalizing past s with
  | nil =>
    rw [run_nil, List.flatten_nil, List.append_nil]
    exact h
  | cons i is ih =>
    have hi := his i List.mem_cons_self
    have hrest := ih (hstep past s i hi h) fun j hj => his j (List.mem_cons_of_mem _ hj)
    rw [run_cons, List.flatten_cons, ← List.append_assoc]
    exact hrest

/-- A property that the good steps keep and the bad ones break. -/
theorem always_iff (P : σ → Prop) (Bad : σ → ι → Prop) {s₀ : σ} (h0 : P s₀)
    (hstep : ∀ s i, P s → (P (step s i).1 ↔ ¬ Bad s i)) (is : List ι) :
    (∀ n, P (run step s₀ (is.take n)).1) ↔
      ∀ n i, is[n]? = some i → ¬ Bad (run step s₀ (is.take n)).1 i := by
  constructor
  · intro h n i hi
    have hnext := h (n + 1)
    rw [run_take_succ step s₀ hi] at hnext
    exact (hstep _ i (h n)).mp hnext
  · intro h n
    induction n with
    | zero => exact h0
    | succ n ih =>
      cases hi : is[n]? with
      | none =>
        rw [List.take_add_one, hi, Option.toList_none, List.append_nil]
        exact ih
      | some i =>
        rw [run_take_succ step s₀ hi]
        exact (hstep _ i ih).mpr (h n i hi)

/-- The output to input `n` is the one the step gives in the state the first `n` inputs lead to. -/
theorem output_getElem? (s : σ) (is : List ι) (n : Nat) :
    (run step s is).2[n]? = is[n]?.map fun i => (step (run step s (is.take n)).1 i).2 := by
  induction is generalizing s n with
  | nil => simp
  | cons i is ih =>
    cases n with
    | zero => rfl
    | succ n => simp only [run_cons, List.getElem?_cons_succ, List.take_succ_cons, ih]

/-- Every output of a run is the step's, at one of the inputs and in the state before it. -/
theorem exists_of_output {s : σ} {is : List ι} {o : ω} (h : o ∈ (run step s is).2) :
    ∃ past i later, is = past ++ i :: later ∧ o = (step (run step s past).1 i).2 := by
  obtain ⟨n, hn⟩ := List.mem_iff_getElem?.mp h
  rw [output_getElem?] at hn
  obtain ⟨i, hi, rfl⟩ := Option.map_eq_some_iff.mp hn
  obtain ⟨hlt, rfl⟩ := List.getElem?_eq_some_iff.mp hi
  refine ⟨is.take n, is[n], is.drop (n + 1), ?_, rfl⟩
  rw [← List.drop_eq_getElem_cons hlt, List.take_append_drop]

/-- A relation of the states that the steps on related inputs keep, with related outputs: the
    runs end in related states and their outputs are related one by one. -/
theorem run_forall₂ {σ' ι' ω' : Type} (step' : σ' → ι' → σ' × ω') (f : ι → ι')
    (R : σ → σ' → Prop) (Q : ω → ω' → Prop) (h : ∀ s s' i, R s s' →
      R (step s i).1 (step' s' (f i)).1 ∧ Q (step s i).2 (step' s' (f i)).2)
    {s : σ} {s' : σ'} (h0 : R s s') (is : List ι) :
    R (run step s is).1 (run step' s' (is.map f)).1 ∧
      List.Forall₂ Q (run step s is).2 (run step' s' (is.map f)).2 := by
  induction is generalizing s s' with
  | nil => exact ⟨h0, .nil⟩
  | cons i is ih =>
    obtain ⟨hnext, hout⟩ := h s s' i h0
    obtain ⟨hstate, houts⟩ := ih hnext
    rw [List.map_cons, run_cons, run_cons]
    exact ⟨hstate, .cons hout houts⟩

/-- A simulation: related states that answer alike. -/
theorem run_simulation {σ' ι' : Type} (step' : σ' → ι' → σ' × ω) (f : ι → ι')
    (R : σ → σ' → Prop) (h : ∀ s s' i, R s s' →
      R (step s i).1 (step' s' (f i)).1 ∧ (step s i).2 = (step' s' (f i)).2)
    {s : σ} {s' : σ'} (h0 : R s s') (is : List ι) :
    R (run step s is).1 (run step' s' (is.map f)).1 ∧
      (run step s is).2 = (run step' s' (is.map f)).2 := by
  obtain ⟨hstate, houts⟩ := run_forall₂ step step' f R Eq h h0 is
  rw [List.forall₂_eq_eq_eq] at houts
  exact ⟨hstate, houts⟩

/-! ## Isolation of one party -/

/-- The outputs to the inputs that satisfy `own`, in order. -/
def outputsTo (own : ι → Bool) : σ → List ι → List ω
  | _, [] => []
  | s, i :: is =>
      if own i then (step s i).2 :: outputsTo own (step s i).1 is
      else outputsTo own (step s i).1 is

/-- `outputsTo` is the run's own outputs, those at the positions of the party's inputs. -/
theorem outputsTo_eq_run (own : ι → Bool) (s : σ) (is : List ι) :
    outputsTo step own s is =
      ((is.zip (run step s is).2).filter fun answered => own answered.1).map Prod.snd := by
  induction is generalizing s with
  | nil => rfl
  | cons i is ih =>
    rw [outputsTo, run_cons, List.zip_cons_cons, List.filter_cons]
    split
    · rw [List.map_cons, ih]
    · exact ih _

/-- The view of the state that belongs to a party: no other input changes it, and its own
    inputs read and change nothing else. -/
structure Isolated {υ : Type} (own : ι → Bool) (view : σ → υ) : Prop where
  other : ∀ s i, own i = false → view (step s i).1 = view s
  answer : ∀ s s' i, own i = true → view s = view s' → (step s i).2 = (step s' i).2
  next : ∀ s s' i, own i = true → view s = view s' → view (step s i).1 = view (step s' i).1

variable {step}

/-- A party gets the answers it gets when it is alone. -/
theorem outputsTo_filter {υ : Type} {own : ι → Bool} {view : σ → υ}
    (h : Isolated step own view) {s s' : σ} (hview : view s = view s') (is : List ι) :
    outputsTo step own s is = (run step s' (is.filter own)).2 := by
  induction is generalizing s s' with
  | nil => rfl
  | cons i is ih =>
    rw [outputsTo, List.filter_cons]
    by_cases hi : own i = true
    · rw [if_pos hi, if_pos hi, run_cons, h.answer s s' i hi hview]
      rw [ih (h.next s s' i hi hview)]
    · rw [if_neg hi, if_neg hi]
      have hother := h.other s i (Bool.eq_false_iff.mpr hi)
      exact ih (hother.trans hview)

/-- Two input sequences that agree on a party's inputs give it the same answers. -/
theorem outputsTo_congr {υ : Type} {own : ι → Bool} {view : σ → υ}
    (h : Isolated step own view) (s : σ) {is js : List ι}
    (hown : is.filter own = js.filter own) :
    outputsTo step own s is = outputsTo step own s js := by
  have hview : view s = view s := rfl
  rw [outputsTo_filter h hview is, outputsTo_filter h hview js, hown]

end HybridOperator.Lib.Reactive
