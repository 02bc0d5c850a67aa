/-
  Concurrent `REAPPROVE_INSTALLPLAN` calls on one namespace.

  `Step` interleaves any number of calls. A call lists once, and from then on works on the
  copies it got (`trying`): it takes the next copy it can approve (`advance`), sends one
  Update, and on a rejection goes on with the rest. The API server accepts an Update only when
  the copy carries the stored version (`Current`); it may reject it for other reasons too.
  Nobody else writes the plans.

  `Inv` ties the copies in flight to the store (`Faithful`) and the successful calls to the
  plans whose approval went from false to true. It holds initially and is kept by every step
  (`inv_step`), hence in every reachable world (`inv_reachable`).

  Proved:
  * `approvals_match_successes`: in every reachable world as many plans went from unapproved
    to approved as calls report success, and no two of those calls name the same plan.
  * `solo_run`: the loop of `executeRemediationAction` is a run of one call of this machine,
    whatever pattern of rejections it meets.
-/
import HybridOperator.Collector.Remediation
import HybridOperator.Lib.GoStrings
import HybridOperator.Lib.OptimisticStore
import Mathlib.Data.Finset.Card
import Mathlib.Data.Fintype.Basic
import Mathlib.Logic.Relation

namespace HybridOperator.Collector

open HybridOperator.Lib HybridOperator.Lib.OptimisticStore

/-- A listed plan, with the version it was listed at. -/
abbrev PlanCopy := Copy String Unstructured

/-- `n` calls on the namespace `ns`, whose plans are stored by name. -/
structure ApproveCalls (n : ℕ) where
  ns : String
  target : Fin n → String
  plans : Finset String
  store : Store String Unstructured
  named : ∀ p ∈ plans, (store p).value.getName = p

/-- Where a call is. -/
inductive CallState where
  | idle
  | trying (copy : PlanCopy) (rest : List PlanCopy)
  | approved (ip : Unstructured)
  | gaveUp (message : String)

structure World (n : ℕ) where
  store : Store String Unstructured
  calls : Fin n → CallState

/-- The loop up to its next Update: copies that need none or cannot be set are passed over. -/
def advance : List PlanCopy → CallState
  | [] => .gaveUp "No unapproved InstallPlans required intervention."
  | c :: rest =>
      if isApproved c.value then advance rest
      else
        match setApproved c.value with
        | none => advance rest
        | some _ => .trying c rest

variable {n : ℕ}

/-- Call `i` moves to `s`; the store becomes `store`. -/
def World.move (w : World n) (store : Store String Unstructured) (i : Fin n) (s : CallState) :
    World n :=
  ⟨store, Function.update w.calls i s⟩

inductive Step (S : ApproveCalls n) : World n → World n → Prop where
  | listed {w : World n} {i : Fin n} (names : List String) :
      w.calls i = .idle → names.Nodup → names.toFinset = S.plans →
      Step S w (w.move w.store i (advance (names.map (read w.store))))
  | listFailed {w : World n} {i : Fin n} (err : String) :
      w.calls i = .idle →
      Step S w (w.move w.store i (.gaveUp ("Failed to query InstallPlans: " ++ err)))
  | accepted {w : World n} {i : Fin n} {c : PlanCopy} {rest : List PlanCopy} {ip : Unstructured} :
      w.calls i = .trying c rest → Current w.store c → setApproved c.value = some ip →
      Step S w (w.move (put w.store c.key ip) i (.approved ip))
  | rejected {w : World n} {i : Fin n} {c : PlanCopy} {rest : List PlanCopy} :
      w.calls i = .trying c rest → Step S w (w.move w.store i (advance rest))

/-- No call has started. -/
def ApproveCalls.start (S : ApproveCalls n) : World n := ⟨S.store, fun _ => .idle⟩

abbrev Steps (S : ApproveCalls n) : World n → World n → Prop := Relation.ReflTransGen (Step S)

/-! ## What the calls return -/

/-- The result record a call starts from. -/
def ApproveCalls.initial (S : ApproveCalls n) (i : Fin n) : RemediationResult :=
  ⟨"REAPPROVE_INSTALLPLAN", S.target i, S.ns, false, ""⟩

/-- What a call returned, once it did. -/
def callResult (S : ApproveCalls n) (w : World n) (i : Fin n) : Option RemediationResult :=
  match w.calls i with
  | .approved ip => some (approvedResult (S.initial i) ip)
  | .gaveUp message => some { S.initial i with message := message }
  | _ => none

/-- The calls that returned `Success = true`. -/
def successes (S : ApproveCalls n) (w : World n) : Finset (Fin n) :=
  Finset.univ.filter fun i => (callResult S w i).any (·.success) = true

/-- The plans whose `spec.approved` went from false to true. -/
def flipped (S : ApproveCalls n) (w : World n) : Finset String :=
  S.plans.filter fun p =>
    isApproved (S.store p).value = false ∧ isApproved (w.store p).value = true

theorem callResult_success {S : ApproveCalls n} {w : World n} {i : Fin n} :
    (callResult S w i).any (·.success) = true ↔ ∃ ip, w.calls i = .approved ip := by
  unfold callResult
  cases w.calls i <;> simp [approvedResult, ApproveCalls.initial]

theorem mem_successes {S : ApproveCalls n} {w : World n} {i : Fin n} :
    i ∈ successes S w ↔ ∃ ip, w.calls i = .approved ip := by
  unfold successes
  rw [Finset.mem_filter, callResult_success]
  exact and_iff_right (Finset.mem_univ i)

theorem mem_flipped {S : ApproveCalls n} {w : World n} {p : String} :
    p ∈ flipped S w ↔ p ∈ S.plans ∧ isApproved (S.store p).value = false ∧
      isApproved (w.store p).value = true := by
  simp [flipped]

/-! ## The invariant -/

structure Inv (S : ApproveCalls n) (w : World n) : Prop where
  /-- Copies in flight are of plans of the namespace, and not ahead of the store. -/
  copies : ∀ i c rest, w.calls i = .trying c rest →
    ∀ d ∈ c :: rest, d.key ∈ S.plans ∧ Faithful w.store d
  /-- The copy an Update is sent for is one of an unapproved plan. -/
  head : ∀ i c rest, w.calls i = .trying c rest → isApproved c.value = false
  named : ∀ p ∈ S.plans, (w.store p).value.getName = p
  kept : ∀ p, isApproved (S.store p).value = true → isApproved (w.store p).value = true
  sound : ∀ i ip, w.calls i = .approved ip → ip.getName ∈ flipped S w
  complete : ∀ p ∈ flipped S w, ∃ i ip, w.calls i = .approved ip ∧ ip.getName = p
  distinct : ∀ i j ip ip', w.calls i = .approved ip → w.calls j = .approved ip' →
    ip.getName = ip'.getName → i = j

theorem advance_spec (cs : List PlanCopy) :
    (∃ m, advance cs = .gaveUp m) ∨
      ∃ c rest, advance cs = .trying c rest ∧ c :: rest <:+ cs ∧ isApproved c.value = false := by
  induction cs with
  | nil => exact Or.inl ⟨_, rfl⟩
  | cons c rest ih =>
    have hlater : advance (c :: rest) = advance rest → (∃ m, advance (c :: rest) = .gaveUp m) ∨
        ∃ d rest', advance (c :: rest) = .trying d rest' ∧ d :: rest' <:+ c :: rest ∧
          isApproved d.value = false := by
      intro h
      rw [h]
      rcases ih with hm | ⟨d, rest', hd, hsuf, hun⟩
      · exact Or.inl hm
      · exact Or.inr ⟨d, rest', hd, hsuf.trans (List.suffix_cons _ _), hun⟩
    cases ha : isApproved c.value with
    | true => exact hlater (by simp [advance, ha])
    | false =>
      cases hs : setApproved c.value with
      | none => exact hlater (by simp [advance, ha, hs])
      | some ip => exact Or.inr ⟨c, rest, by simp [advance, ha, hs], List.suffix_rfl, ha⟩

theorem advance_ne_approved (cs : List PlanCopy) (ip : Unstructured) :
    advance cs ≠ .approved ip := by
  rcases advance_spec cs with ⟨m, h⟩ | ⟨c, rest, h, -⟩ <;> rw [h] <;> simp

theorem inv_start (S : ApproveCalls n) : Inv S S.start where
  copies i c rest h := by cases h
  head i c rest h := by cases h
  named := S.named
  kept p h := h
  sound i ip h := by cases h
  complete p hp := by
    obtain ⟨-, h0, h1⟩ := mem_flipped.mp hp
    exact absurd (h0.symm.trans h1) (by decide)
  distinct i j ip ip' h := by cases h

/-- After a move the state of a call is the new one or the one it had. -/
theorem calls_move {w : World n} {store : Store String Unstructured} {i j : Fin n}
    {s t : CallState} (h : (w.move store i s).calls j = t) :
    (j = i ∧ s = t) ∨ (j ≠ i ∧ w.calls j = t) := by
  simp only [World.move, Function.update_apply] at h
  split at h
  · rename_i hj
    exact Or.inl ⟨hj, h⟩
  · rename_i hj
    exact Or.inr ⟨hj, h⟩

theorem calls_move_other {w : World n} (store : Store String Unstructured) {i j : Fin n}
    (s : CallState) (hj : j ≠ i) : (w.move store i s).calls j = w.calls j := by
  simp [World.move, hj]

/-- A call that has not succeeded moves on without a write. -/
theorem inv_move {S : ApproveCalls n} {w : World n} (hw : Inv S w) {i : Fin n} {s : CallState}
    (hfrom : ∀ ip, w.calls i ≠ .approved ip) (hto : ∀ ip, s ≠ .approved ip)
    (hcopies : ∀ c rest, s = .trying c rest →
      (∀ d ∈ c :: rest, d.key ∈ S.plans ∧ Faithful w.store d) ∧ isApproved c.value = false) :
    Inv S (w.move w.store i s) := by
  have happ : ∀ j ip, (w.move w.store i s).calls j = .approved ip → w.calls j = .approved ip := by
    intro j ip h
    rcases calls_move h with ⟨-, h⟩ | ⟨-, h⟩
    · exact absurd h (hto ip)
    · exact h
  have htry : ∀ j c rest, (w.move w.store i s).calls j = .trying c rest →
      (∀ d ∈ c :: rest, d.key ∈ S.plans ∧ Faithful w.store d) ∧ isApproved c.value = false := by
    intro j c rest h
    rcases calls_move h with ⟨-, h⟩ | ⟨-, h⟩
    · exact hcopies c rest h
    · exact ⟨hw.copies j c rest h, hw.head j c rest h⟩
  exact
    { copies := fun j c rest h => (htry j c rest h).1
      head := fun j c rest h => (htry j c rest h).2
      named := hw.named
      kept := hw.kept
      sound := fun j ip h => hw.sound j ip (happ j ip h)
      complete := fun p hp => by
        obtain ⟨j, ip, hj, hn⟩ := hw.complete p hp
        have hji : j ≠ i := fun h => hfrom ip (h ▸ hj)
        exact ⟨j, ip, (calls_move_other w.store s hji).trans hj, hn⟩
      distinct := fun j k ip ip' hj hk => hw.distinct j k ip ip' (happ j ip hj) (happ k ip' hk) }

/-- The copies a call goes on with are some of those it had. -/
theorem inv_advance {S : ApproveCalls n} {w : World n} (hw : Inv S w) {i : Fin n}
    {cs : List PlanCopy} (hfrom : ∀ ip, w.calls i ≠ .approved ip)
    (hcs : ∀ d ∈ cs, d.key ∈ S.plans ∧ Faithful w.store d) :
    Inv S (w.move w.store i (advance cs)) := by
  refine inv_move hw hfrom (advance_ne_approved cs) fun c rest h => ?_
  rcases advance_spec cs with ⟨m, hm⟩ | ⟨c', rest', htry, hsuf, hun⟩
  · rw [hm] at h
    cases h
  · rw [htry] at h
    cases h
    exact ⟨fun d hd => hcs d (hsuf.subset hd), hun⟩

/-- The Update makes the plan approved and leaves every other plan as it was. -/
theorem isApproved_put (store : Store String Unstructured) (k : String) {ip₀ ip : Unstructured}
    (hset : setApproved ip₀ = some ip) (p : String) :
    isApproved (put store k ip p).value =
      if p = k then true else isApproved (store p).value := by
  split
  · rename_i hp
    rw [hp, put_same]
    exact isApproved_setApproved hset
  · rename_i hp
    rw [put_other store ip hp]

section Accepted

variable {S : ApproveCalls n} {w : World n} {i : Fin n} {c : PlanCopy} {rest : List PlanCopy}
  {ip : Unstructured}

/-- The copy of an accepted Update is the stored plan, which nobody approved so far. -/
theorem unapproved_of_current (hw : Inv S w) (hi : w.calls i = .trying c rest)
    (hcur : Current w.store c) :
    isApproved (w.store c.key).value = false ∧ isApproved (S.store c.key).value = false := by
  have hfaith := (hw.copies i c rest hi c List.mem_cons_self).2
  have hun : isApproved (w.store c.key).value = false := by
    rw [value_eq_of_current hfaith hcur]
    exact hw.head i c rest hi
  refine ⟨hun, Bool.eq_false_iff.mpr fun h => ?_⟩
  exact Bool.false_ne_true (hun.symm.trans (hw.kept _ h))

theorem getName_of_current (hw : Inv S w) (hi : w.calls i = .trying c rest)
    (hcur : Current w.store c) (hset : setApproved c.value = some ip) : ip.getName = c.key := by
  obtain ⟨hplan, hfaith⟩ := hw.copies i c rest hi c List.mem_cons_self
  rw [getName_setApproved hset, ← value_eq_of_current hfaith hcur]
  exact hw.named c.key hplan

/-- The plan of the accepted Update is the only one that becomes approved. -/
theorem mem_flipped_accepted (hw : Inv S w) (hi : w.calls i = .trying c rest)
    (hcur : Current w.store c) (hset : setApproved c.value = some ip) (p : String) :
    p ∈ flipped S (w.move (put w.store c.key ip) i (.approved ip)) ↔
      p = c.key ∨ p ∈ flipped S w := by
  have hplan := (hw.copies i c rest hi c List.mem_cons_self).1
  have hun₀ := (unapproved_of_current hw hi hcur).2
  simp only [mem_flipped, World.move, isApproved_put w.store c.key hset]
  by_cases hp : p = c.key
  · simp [hp, hplan, hun₀]
  · simp [hp]

/-- A plan that some call approved is approved in the store, so it is not this one. -/
theorem name_ne_of_approved (hw : Inv S w) (hi : w.calls i = .trying c rest)
    (hcur : Current w.store c) {j : Fin n} {ip' : Unstructured}
    (hj : w.calls j = .approved ip') : ip'.getName ≠ c.key := by
  intro h
  have happroved := (mem_flipped.mp (hw.sound j ip' hj)).2.2
  rw [h, (unapproved_of_current hw hi hcur).1] at happroved
  cases happroved

/-- An accepted Update keeps the invariant. -/
theorem inv_accepted (hw : Inv S w) (hi : w.calls i = .trying c rest)
    (hcur : Current w.store c) (hset : setApproved c.value = some ip) :
    Inv S (w.move (put w.store c.key ip) i (.approved ip)) := by
  have hname := getName_of_current hw hi hcur hset
  have hflip := mem_flipped_accepted hw hi hcur hset
  constructor
  · intro j d rest' h e he
    rcases calls_move h with ⟨-, h⟩ | ⟨-, h⟩
    · cases h
    · obtain ⟨hk, hf⟩ := hw.copies j d rest' h e he
      exact ⟨hk, faithful_put hf c.key ip⟩
  · intro j d rest' h
    rcases calls_move h with ⟨-, h⟩ | ⟨-, h⟩
    · cases h
    · exact hw.head j d rest' h
  · intro p hp
    show (put w.store c.key ip p).value.getName = p
    by_cases hpk : p = c.key
    · rw [hpk, put_same]
      exact hname
    · rw [put_other w.store ip hpk]
      exact hw.named p hp
  · intro p hp
    show isApproved (put w.store c.key ip p).value = true
    rw [isApproved_put w.store c.key hset]
    split
    · rfl
    · exact hw.kept p hp
  · intro j ip' h
    rw [hflip]
    rcases calls_move h with ⟨-, h⟩ | ⟨-, h⟩
    · cases h
      exact Or.inl hname
    · exact Or.inr (hw.sound j ip' h)
  · intro p hp
    rcases (hflip p).mp hp with rfl | hp
    · exact ⟨i, ip, by simp [World.move], hname⟩
    · obtain ⟨j, ip', hj, hn⟩ := hw.complete p hp
      have hji : j ≠ i := by
        rintro rfl
        rw [hi] at hj
        cases hj
      exact ⟨j, ip', (calls_move_other _ _ hji).trans hj, hn⟩
  · -- no other call approved the plan that this one did
    intro j k ip₁ ip₂ hj hk heq
    rcases calls_move hj with ⟨hji, h₁⟩ | ⟨-, h₁⟩ <;> rcases calls_move hk with ⟨hki, h₂⟩ | ⟨-, h₂⟩
    · rw [hji, hki]
    · cases h₁
      exact absurd (heq.symm.trans hname) (name_ne_of_approved hw hi hcur h₂)
    · cases h₂
      exact absurd (heq.trans hname) (name_ne_of_approved hw hi hcur h₁)
    · exact hw.distinct j k ip₁ ip₂ h₁ h₂ heq

end Accepted

theorem inv_step {S : ApproveCalls n} {w w' : World n} (hw : Inv S w) (h : Step S w w') :
    Inv S w' := by
  cases h with
  | listed names hi hnd hplans =>
    refine inv_advance hw (by simp [hi]) fun d hd => ?_
    obtain ⟨p, hp, rfl⟩ := List.mem_map.mp hd
    exact ⟨hplans ▸ List.mem_toFinset.mpr hp, faithful_read w.store p⟩
  | listFailed err hi => exact inv_move hw (by simp [hi]) (by simp) (by simp)
  | accepted hi hcur hset => exact inv_accepted hw hi hcur hset
  | rejected hi =>
    exact inv_advance hw (by simp [hi]) fun d hd =>
      hw.copies _ _ _ hi d (List.mem_cons_of_mem _ hd)

theorem inv_reachable {S : ApproveCalls n} {w : World n} (h : Steps S S.start w) : Inv S w := by
  induction h with
  | refl => exact inv_start S
  | tail _ hstep ih => exact inv_step ih hstep

/-! ## Approvals and successes -/

theorem message_approvedResult_inj {r r' : RemediationResult} {ip ip' : Unstructured}
    (h : (approvedResult r ip).message = (approvedResult r' ip').message) :
    ip.getName = ip'.getName := GoStrings.append_left_cancel h

/-- **No approval is lost and none is counted twice.** However the calls interleave, as many
    plans went from unapproved to approved as calls returned success, and no two successful
    calls name the same plan in their message. -/
theorem approvals_match_successes (S : ApproveCalls n) (w : World n) (h : Steps S S.start w) :
    (flipped S w).card = (successes S w).card ∧
      ∀ i ∈ successes S w, ∀ j ∈ successes S w,
        (callResult S w i).map (·.message) = (callResult S w j).map (·.message) → i = j := by
  have hw := inv_reachable h
  constructor
  · symm
    refine Finset.card_bij
      (fun i hi => ((mem_successes.mp hi).choose).getName) ?_ ?_ ?_
    · intro i hi
      exact hw.sound i _ (mem_successes.mp hi).choose_spec
    · intro i hi j hj heq
      exact hw.distinct i j _ _ (mem_successes.mp hi).choose_spec
        (mem_successes.mp hj).choose_spec heq
    · intro p hp
      obtain ⟨i, ip, hi, hn⟩ := hw.complete p hp
      have hmem : i ∈ successes S w := mem_successes.mpr ⟨ip, hi⟩
      have hspec := (mem_successes.mp hmem).choose_spec
      have heq := CallState.approved.inj (hi.symm.trans hspec)
      exact ⟨i, hmem, (congrArg Unstructured.getName heq.symm).trans hn⟩
  · intro i hi j hj heq
    obtain ⟨ip, hip⟩ := mem_successes.mp hi
    obtain ⟨ip', hip'⟩ := mem_successes.mp hj
    simp only [callResult, hip, hip', Option.map_some, Option.some.injEq] at heq
    exact hw.distinct i j ip ip' hip hip' (message_approvedResult_inj heq)

/-! ### Two calls and one plan -/

/-- Two calls on a namespace with one unapproved plan. -/
def racingCalls : ApproveCalls 2 where
  ns := "openshift-operators"
  target := fun _ => "etcd"
  plans := {"install-7x2kq"}
  store := fun p => ⟨1, ⟨[("metadata", .obj [("name", .str p)]),
    ("spec", .obj [("approved", .bool false)])]⟩⟩
  named := fun _ _ => rfl

/-- The copy both calls list. -/
def racingCopy : PlanCopy := read racingCalls.store "install-7x2kq"

/-- The plan as the call that wins sends it. -/
def racingUpdate : Unstructured := (setApproved racingCopy.value).getD racingCopy.value

/-- Both calls have listed. -/
def racingWorld : World 2 :=
  (racingCalls.start.move racingCalls.store 0 (.trying racingCopy [])).move
    racingCalls.store 1 (.trying racingCopy [])

/-- Then the Update of call 0 is accepted and that of call 1 rejected. -/
def racedWorld : World 2 :=
  (racingWorld.move (put racingCalls.store racingCopy.key racingUpdate) 0
    (.approved racingUpdate)).move (put racingCalls.store racingCopy.key racingUpdate) 1
    (.gaveUp "No unapproved InstallPlans required intervention.")

theorem racedWorld_reachable : Steps racingCalls racingCalls.start racedWorld := by
  have hlist : ∀ w : World 2, w.store = racingCalls.store → ∀ i, w.calls i = .idle →
      Step racingCalls w (w.move racingCalls.store i (.trying racingCopy [])) := by
    intro w hw i hi
    have hstep := Step.listed (S := racingCalls) ["install-7x2kq"] hi (by decide) rfl
    rwa [List.map_singleton, hw] at hstep
  have hfirst := hlist racingCalls.start rfl 0 rfl
  have hsecond : Step racingCalls _ racingWorld := hlist _ rfl 1 rfl
  have hzero : racingWorld.calls 0 = .trying racingCopy [] := rfl
  have hset : setApproved racingCopy.value = some racingUpdate := rfl
  have hwin : Step racingCalls racingWorld _ := Step.accepted hzero rfl hset
  have hone : (racingWorld.move (put racingCalls.store racingCopy.key racingUpdate) 0
      (.approved racingUpdate)).calls 1 = .trying racingCopy [] := rfl
  have hlose : Step racingCalls _ racedWorld := Step.rejected hone
  exact Relation.ReflTransGen.single hfirst |>.tail hsecond |>.tail hwin |>.tail hlose

theorem approvals_match_successes_racing :
    (flipped racingCalls racedWorld).card = (successes racingCalls racedWorld).card ∧
      ∀ i ∈ successes racingCalls racedWorld, ∀ j ∈ successes racingCalls racedWorld,
        (callResult racingCalls racedWorld i).map (·.message) =
          (callResult racingCalls racedWorld j).map (·.message) → i = j :=
  approvals_match_successes racingCalls racedWorld racedWorld_reachable

/-! ## The loop of one call -/

section Solo

variable {S : ApproveCalls n} (dyn : Nat → DynClient) {i : Fin n}

theorem advance_of_not_approvable {c : PlanCopy} (rest : List PlanCopy)
    (h : ¬ Approvable c.value) : advance (c :: rest) = advance rest := by
  rw [advance]
  cases ha : isApproved c.value with
  | true => rfl
  | false =>
    cases hs : setApproved c.value with
    | none => rfl
    | some ip => exact absurd ⟨ha, by rw [hs]; rfl⟩ h

theorem advance_of_setApproved {c : PlanCopy} {ip : Unstructured} (rest : List PlanCopy)
    (ha : isApproved c.value = false) (hs : setApproved c.value = some ip) :
    advance (c :: rest) = .trying c rest := by
  simp [advance, ha, hs]

/-- From copies that are current the loop of `executeRemediationAction` is a run of call `i`. -/
theorem solo_loop (cs : List PlanCopy) (w : World n) (k : Nat)
    (hcur : ∀ c ∈ cs, Current w.store c) (hi : w.calls i = advance cs) :
    ∃ w', Steps S w w' ∧ callResult S w' i =
      some (approveInstallPlans dyn S.ns (S.initial i) k (cs.map (·.value))).1 := by
  induction cs generalizing w k with
  | nil => exact ⟨w, .refl, by rw [callResult, hi]; rfl⟩
  | cons c rest ih =>
    have hrest : ∀ d ∈ rest, Current w.store d := fun d hd => hcur d (List.mem_cons_of_mem _ hd)
    rw [List.map_cons]
    by_cases hap : Approvable c.value
    · obtain ⟨ip, hs⟩ := Option.isSome_iff_exists.mp hap.2
      rw [advance_of_setApproved rest hap.1 hs] at hi
      rw [approve_send dyn S.ns (S.initial i) hap.1 hs]
      split
      · have hacc := Step.accepted (S := S) hi (hcur c List.mem_cons_self) hs
        exact ⟨_, .single hacc, by simp [callResult, World.move]⟩
      · have hrej : Step S w (w.move w.store i (advance rest)) := Step.rejected hi
        obtain ⟨w', hrun, hres⟩ := ih (w.move w.store i (advance rest)) (k + 1) hrest
          (by simp [World.move])
        exact ⟨w', .head hrej hrun, hres⟩
    · rw [advance_of_not_approvable rest hap] at hi
      rw [approve_skip dyn S.ns (S.initial i) hap]
      exact ih w (k + 1) hrest hi

/-- A call that meets no other one does what `executeRemediationAction` does, whatever the API
    server answers to its Updates. -/
theorem solo_run (w : World n) (hi : w.calls i = .idle)
    (hlist : ∀ items, (dyn 0).list installPlanGVR S.ns "" = .ok items →
      ∃ names : List String, names.Nodup ∧ names.toFinset = S.plans ∧
        items = names.map fun p => (w.store p).value) :
    ∃ w', Steps S w w' ∧ callResult S w' i =
      some (executeRemediationAction dyn "REAPPROVE_INSTALLPLAN" S.ns (S.target i)).1 := by
  unfold executeRemediationAction
  rw [if_pos rfl]
  cases hans : (dyn 0).list installPlanGVR S.ns "" with
  | error err =>
    exact ⟨_, .single (Step.listFailed err hi), by simp [callResult, World.move,
      ApproveCalls.initial]⟩
  | ok items =>
    obtain ⟨names, hnd, hplans, rfl⟩ := hlist items hans
    have hstep : Step S w _ := Step.listed names hi hnd hplans
    obtain ⟨w', hrun, hres⟩ := solo_loop (S := S) dyn (names.map (read w.store))
      (w.move w.store i (advance (names.map (read w.store)))) 0 (i := i)
      (fun c hc => by obtain ⟨p, -, rfl⟩ := List.mem_map.mp hc; rfl) (by simp [World.move])
    rw [List.map_map] at hres
    exact ⟨w', .head hstep hrun, hres⟩

end Solo

end HybridOperator.Collector
