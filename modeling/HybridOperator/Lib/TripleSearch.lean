/-
  Searching a text for three words of a class with a separator between them, `12.0.3` for the
  digits and the dot.

  `LeftmostTriple` is the grammar: the first place where there are such words, and the last word
  as long as it can be. It names no program that searches. `IsSearch` and `ReadsTriple` are what a
  program has to be: it tries the places from the left, and at a place it reads the words there
  is. `matchAt_triplePattern` says that a regular expression is such a program.

  Proved: `IsSearch.eq_some_iff` and `IsSearch.eq_none_iff`, a search finds exactly what the
  grammar says.
-/
import HybridOperator.Lib.Regex
import Mathlib.Data.List.TakeWhile
import Mathlib.Data.Nat.Find

namespace HybridOperator.Lib.TripleSearch

open HybridOperator.Lib.Regex

/-- A search that looks at every place, from the left. -/
structure IsSearch {γ : Type} (here search : List Char → Option γ) : Prop where
  nil : search [] = here []
  cons : ∀ c s, search (c :: s) = (here (c :: s)).or (search s)

structure IsWord (cls : Char → Bool) (w : List Char) : Prop where
  ne_nil : w ≠ []
  all : ∀ c ∈ w, cls c = true

section Grammar

variable (cls : Char → Bool) (sep : Char)

/-- After `skipped`, the text has three words with separators between them. -/
structure TripleAt (cs skipped a b c rest : List Char) : Prop where
  text : cs = skipped ++ (a ++ sep :: (b ++ sep :: (c ++ rest)))
  first : IsWord cls a
  second : IsWord cls b
  third : IsWord cls c

/-- The first three words of that kind, with the last one taken whole. -/
structure LeftmostTriple (cs skipped a b c rest : List Char) : Prop
    extends TripleAt cls sep cs skipped a b c rest where
  greedy : Ends cls rest
  leftmost : ∀ skipped' a' b' c' rest', TripleAt cls sep cs skipped' a' b' c' rest' →
    skipped.length ≤ skipped'.length

/-- What is found at a place: the words there, put together by `mk`. -/
def ReadsTriple {γ : Type} (mk : List Char → List Char → List Char → γ)
    (here : List Char → Option γ) : Prop :=
  ∀ cs g, here cs = some g ↔
    ∃ a b c rest, TripleAt cls sep cs [] a b c rest ∧ Ends cls rest ∧ g = mk a b c

end Grammar

variable {cls : Char → Bool} {sep : Char}

/-! ## Runs of a class -/

theorem exists_run (cls : Char → Bool) (cs : List Char) :
    ∃ w t, cs = w ++ t ∧ (∀ c ∈ w, cls c = true) ∧ Ends cls t := by
  refine ⟨cs.takeWhile cls, cs.dropWhile cls, List.takeWhile_append_dropWhile.symm,
    fun c hc => List.mem_takeWhile_imp hc, fun c hc => ?_⟩
  have hhead := List.head?_dropWhile_not cls cs
  rw [Option.mem_def.mp hc] at hhead
  simpa using hhead

theorem run_unique {w w' t t' : List Char} (hw : ∀ c ∈ w, cls c = true)
    (hw' : ∀ c ∈ w', cls c = true) (ht : Ends cls t) (ht' : Ends cls t')
    (h : w ++ t = w' ++ t') : w = w' ∧ t = t' := by
  induction w generalizing w' with
  | nil =>
    cases w' with
    | nil => exact ⟨rfl, h⟩
    | cons c w' =>
      have hc : cls c = false := by
        rw [List.nil_append] at h
        exact ht c (by rw [h]; rfl)
      rw [hw' c List.mem_cons_self] at hc
      cases hc
  | cons c w ih =>
    cases w' with
    | nil =>
      have hc : cls c = false := by
        rw [List.nil_append] at h
        exact ht' c (by rw [← h]; rfl)
      rw [hw c List.mem_cons_self] at hc
      cases hc
    | cons d w' =>
      obtain ⟨rfl, htail⟩ := List.cons.inj h
      obtain ⟨rfl, rfl⟩ := ih (fun e he => hw e (List.mem_cons_of_mem c he))
        (fun e he => hw' e (List.mem_cons_of_mem c he)) htail
      exact ⟨rfl, rfl⟩

theorem IsWord.append {w v : List Char} (h : IsWord cls w) (hv : ∀ c ∈ v, cls c = true) :
    IsWord cls (w ++ v) := by
  refine ⟨fun hnil => h.ne_nil (List.append_eq_nil_iff.mp hnil).1, fun c hc => ?_⟩
  rcases List.mem_append.mp hc with hc | hc
  · exact h.all c hc
  · exact hv c hc

/-! ## The grammar -/

/-- The last word can be taken whole. -/
theorem TripleAt.extend {cs skipped a b c rest : List Char}
    (h : TripleAt cls sep cs skipped a b c rest) :
    ∃ v rest', TripleAt cls sep cs skipped a b (c ++ v) rest' ∧ Ends cls rest' := by
  obtain ⟨v, rest', rfl, hv, hends⟩ := exists_run cls rest
  refine ⟨v, rest', ⟨?_, h.first, h.second, h.third.append hv⟩, hends⟩
  rw [h.text, List.append_assoc]

/-- The words of a class are words of a larger one. -/
theorem TripleAt.mono {cls' : Char → Bool} (hcls : ∀ c, cls c = true → cls' c = true)
    {cs skipped a b c rest : List Char} (h : TripleAt cls sep cs skipped a b c rest) :
    TripleAt cls' sep cs skipped a b c rest :=
  ⟨h.text, ⟨h.first.ne_nil, fun d hd => hcls d (h.first.all d hd)⟩,
    ⟨h.second.ne_nil, fun d hd => hcls d (h.second.all d hd)⟩,
    ⟨h.third.ne_nil, fun d hd => hcls d (h.third.all d hd)⟩⟩

/-- A triple at a place is one at the start of what is left there. -/
theorem tripleAt_drop {cs skipped a b c rest : List Char} :
    TripleAt cls sep cs skipped a b c rest ↔
      cs.take skipped.length = skipped ∧
        TripleAt cls sep (cs.drop skipped.length) [] a b c rest := by
  constructor
  · intro h
    have htext := h.text
    refine ⟨by rw [htext, List.take_left], ?_, h.first, h.second, h.third⟩
    rw [htext, List.drop_left, List.nil_append]
  · intro ⟨htake, h⟩
    refine ⟨?_, h.first, h.second, h.third⟩
    rw [← List.nil_append (a ++ _), ← h.text]
    conv_lhs => rw [← List.take_append_drop skipped.length cs, htake]

/-- Where there is a triple, there is a leftmost one. -/
theorem exists_leftmost {cs skipped a b c rest : List Char}
    (h : TripleAt cls sep cs skipped a b c rest) :
    ∃ skipped' a' b' c' rest', LeftmostTriple cls sep cs skipped' a' b' c' rest' := by
  classical
  have hplace : ∃ n skipped' a' b' c' rest',
      TripleAt cls sep cs skipped' a' b' c' rest' ∧ skipped'.length = n :=
    ⟨_, _, _, _, _, _, h, rfl⟩
  obtain ⟨skipped', a', b', c', rest', hfirst, hlength⟩ := Nat.find_spec hplace
  obtain ⟨v, rest'', hwhole, hends⟩ := hfirst.extend
  refine ⟨skipped', a', b', c' ++ v, rest'', hwhole, hends, fun _ _ _ _ _ htriple => ?_⟩
  rw [hlength]
  exact Nat.find_min' hplace ⟨_, _, _, _, _, htriple, rfl⟩

/-! ## Searching -/

section Search

variable {γ : Type} {here search : List Char → Option γ}

theorem IsSearch.none_iff_drop (h : IsSearch here search) (cs : List Char) :
    search cs = none ↔ ∀ n, here (cs.drop n) = none := by
  induction cs with
  | nil =>
    rw [h.nil]
    exact ⟨fun hnone n => by rw [List.drop_nil]; exact hnone, fun hall => hall 0⟩
  | cons c s ih =>
    rw [h.cons, Option.or_eq_none_iff, ih]
    constructor
    · intro ⟨hhere, hrest⟩ n
      cases n with
      | zero => exact hhere
      | succ n => exact hrest n
    · intro hall
      exact ⟨hall 0, fun n => hall (n + 1)⟩

/-- The search finds what is at the first place where something is. -/
theorem IsSearch.some_iff_drop (h : IsSearch here search) (cs : List Char) (g : γ) :
    search cs = some g ↔ ∃ n, here (cs.drop n) = some g ∧ ∀ m < n, here (cs.drop m) = none := by
  induction cs with
  | nil =>
    rw [h.nil]
    constructor
    · intro hsome
      exact ⟨0, hsome, fun m hm => absurd hm (Nat.not_lt_zero m)⟩
    · intro ⟨n, hsome, _⟩
      rw [List.drop_nil] at hsome
      exact hsome
  | cons c s ih =>
    rw [h.cons]
    cases hhere : here (c :: s) with
    | some g' =>
      rw [Option.some_or]
      constructor
      · intro hsome
        exact ⟨0, hhere.trans hsome, fun m hm => absurd hm (Nat.not_lt_zero m)⟩
      · intro ⟨n, hsome, hbefore⟩
        cases n with
        | zero => exact hhere.symm.trans hsome
        | succ n => exact absurd (hbefore 0 n.succ_pos) (by rw [List.drop_zero, hhere]; simp)
    | none =>
      rw [Option.none_or, ih]
      constructor
      · intro ⟨n, hsome, hbefore⟩
        refine ⟨n + 1, hsome, fun m hm => ?_⟩
        cases m with
        | zero => exact hhere
        | succ m => exact hbefore m (Nat.lt_of_succ_lt_succ hm)
      · intro ⟨n, hsome, hbefore⟩
        cases n with
        | zero => exact absurd (hhere.symm.trans hsome) (by simp)
        | succ n => exact ⟨n, hsome, fun m hm => hbefore (m + 1) (Nat.succ_lt_succ hm)⟩

variable {mk : List Char → List Char → List Char → γ}

theorem ReadsTriple.none_iff (hr : ReadsTriple cls sep mk here) (cs : List Char) :
    here cs = none ↔ ∀ a b c rest, ¬ TripleAt cls sep cs [] a b c rest := by
  constructor
  · intro hnone a b c rest h
    obtain ⟨v, rest', hwhole, hends⟩ := h.extend
    rw [(hr cs (mk a b (c ++ v))).mpr ⟨a, b, c ++ v, rest', hwhole, hends, rfl⟩] at hnone
    cases hnone
  · intro hno
    rw [Option.eq_none_iff_forall_ne_some]
    intro g hsome
    obtain ⟨a, b, c, rest, h, -⟩ := (hr cs g).mp hsome
    exact hno a b c rest h

theorem IsSearch.eq_none_iff (h : IsSearch here search) (hr : ReadsTriple cls sep mk here)
    (cs : List Char) :
    search cs = none ↔ ∀ skipped a b c rest, ¬ TripleAt cls sep cs skipped a b c rest := by
  rw [h.none_iff_drop]
  constructor
  · intro hall skipped a b c rest htriple
    exact (hr.none_iff _).mp (hall skipped.length) a b c rest (tripleAt_drop.mp htriple).2
  · intro hno n
    rw [hr.none_iff]
    intro a b c rest htriple
    refine hno (cs.take n) a b c rest ⟨?_, htriple.first, htriple.second, htriple.third⟩
    rw [← List.nil_append (a ++ _), ← htriple.text, List.take_append_drop]

theorem IsSearch.eq_some_iff (h : IsSearch here search) (hr : ReadsTriple cls sep mk here)
    (cs : List Char) (g : γ) :
    search cs = some g ↔
      ∃ skipped a b c rest, LeftmostTriple cls sep cs skipped a b c rest ∧ g = mk a b c := by
  rw [h.some_iff_drop]
  constructor
  · intro ⟨n, hsome, hbefore⟩
    obtain ⟨a, b, c, rest, htriple, hends, rfl⟩ := (hr _ g).mp hsome
    refine ⟨cs.take n, a, b, c, rest,
      ⟨⟨?_, htriple.first, htriple.second, htriple.third⟩, hends, ?_⟩, rfl⟩
    · rw [← List.nil_append (a ++ _), ← htriple.text, List.take_append_drop]
    · intro skipped' a' b' c' rest' htriple'
      refine Nat.le_of_not_lt fun hlt => ?_
      have hm : skipped'.length < n := Nat.lt_of_lt_of_le hlt (List.length_take_le n cs)
      exact (hr.none_iff _).mp (hbefore _ hm) a' b' c' rest' (tripleAt_drop.mp htriple').2
  · intro ⟨skipped, a, b, c, rest, hleft, hg⟩
    refine ⟨skipped.length, (hr _ g).mpr ⟨a, b, c, rest, ?_, hleft.greedy, hg⟩, fun m hm => ?_⟩
    · exact (tripleAt_drop.mp hleft.toTripleAt).2
    · rw [hr.none_iff]
      intro a' b' c' rest' htriple'
      have hfirst := hleft.leftmost (cs.take m) a' b' c' rest'
        ⟨by rw [← List.nil_append (a' ++ _), ← htriple'.text, List.take_append_drop],
          htriple'.first, htriple'.second, htriple'.third⟩
      exact absurd (Nat.lt_of_le_of_lt (List.length_take_le m cs) hm) (Nat.not_lt.mpr hfirst)

end Search

/-! ## The regular expression -/

theorem isSearch_search (r : List Item) : IsSearch (matchAt r) (search r) := ⟨rfl, fun _ _ => rfl⟩

theorem matchAt_lit_eq_some {c : Char} {r : List Item} {cs : List Char} {g : Groups} :
    matchAt (.lit c :: r) cs = some g ↔ ∃ s, cs = c :: s ∧ matchAt r s = some g := by
  cases cs with
  | nil => exact iff_of_false (by simp [matchAt]) fun ⟨_, h, _⟩ => List.cons_ne_nil _ _ h.symm
  | cons d s =>
    rw [matchAt_lit]
    split
    · rename_i hc
      subst hc
      simp
    · rename_i hc
      exact iff_of_false (by simp) fun ⟨_, h, _⟩ => hc (List.cons.inj h).1.symm

/-- A group takes the word that is here, when what follows refuses its class. -/
theorem matchAt_named_eq_some {name : String} {r : List Item} (hr : Refuses r cls)
    {cs : List Char} {g : Groups} :
    matchAt (.named name cls :: r) cs = some g ↔
      ∃ w t g', cs = w ++ t ∧ IsWord cls w ∧ Ends cls t ∧ matchAt r t = some g' ∧
        g = (name, String.ofList w) :: g' := by
  obtain ⟨w, t, rfl, hw, ht⟩ := exists_run cls cs
  by_cases hne : w = []
  · subst hne
    rw [List.nil_append, matchAt_named_ends ht]
    refine iff_of_false (by simp) fun ⟨w', t', _, htext, hw', ht', _⟩ => hw'.ne_nil ?_
    exact (run_unique hw hw'.all ht ht' htext).1.symm
  · rw [matchAt_named_run hr name hne hw ht, Option.map_eq_some_iff]
    constructor
    · intro ⟨g', hg', hg⟩
      exact ⟨w, t, g', rfl, ⟨hne, hw⟩, ht, hg', hg.symm⟩
    · intro ⟨w', t', g', htext, hw', ht', hg', hg⟩
      obtain ⟨rfl, rfl⟩ := run_unique hw hw'.all ht ht' htext
      exact ⟨g', hg', hg.symm⟩

/-- A group at the end takes the word that is here. -/
theorem matchAt_named_nil_eq_some {name : String} {cs : List Char} {g : Groups} :
    matchAt [.named name cls] cs = some g ↔
      ∃ w t, cs = w ++ t ∧ IsWord cls w ∧ Ends cls t ∧ g = [(name, String.ofList w)] := by
  obtain ⟨w, t, rfl, hw, ht⟩ := exists_run cls cs
  by_cases hne : w = []
  · subst hne
    rw [List.nil_append, matchAt_named_ends ht]
    refine iff_of_false (by simp) fun ⟨w', t', htext, hw', ht', _⟩ => hw'.ne_nil ?_
    exact (run_unique hw hw'.all ht ht' htext).1.symm
  · rw [matchAt_named_last name hne hw ht]
    constructor
    · intro hg
      exact ⟨w, t, rfl, ⟨hne, hw⟩, ht, (Option.some.inj hg).symm⟩
    · intro ⟨w', t', htext, hw', ht', hg⟩
      obtain ⟨rfl, rfl⟩ := run_unique hw hw'.all ht ht' htext
      rw [hg]

/-- `(x+)y(x+)y(x+)` for the class `x` and the separator `y`. -/
def triplePattern (cls : Char → Bool) (sep : Char) : List Item :=
  [.named "1" cls, .lit sep, .named "2" cls, .lit sep, .named "3" cls]

def tripleGroups (a b c : List Char) : Groups :=
  [("1", String.ofList a), ("2", String.ofList b), ("3", String.ofList c)]

theorem matchAt_triplePattern (hsep : cls sep = false) :
    ReadsTriple cls sep tripleGroups (matchAt (triplePattern cls sep)) := by
  intro cs g
  have hrefuse := fun r => refuses_lit hsep r
  unfold triplePattern
  rw [matchAt_named_eq_some (hrefuse _)]
  constructor
  · intro ⟨a, t, g₁, htext, ha, _, hmatch, hg⟩
    obtain ⟨s, hdot, hmatch⟩ := matchAt_lit_eq_some.mp hmatch
    obtain ⟨b, t', g₂, htext', hb, _, hmatch, hg₁⟩ := (matchAt_named_eq_some (hrefuse _)).mp hmatch
    obtain ⟨s', hdot', hmatch⟩ := matchAt_lit_eq_some.mp hmatch
    obtain ⟨c, rest, htext'', hc, hends, hg₂⟩ := matchAt_named_nil_eq_some.mp hmatch
    refine ⟨a, b, c, rest, ⟨?_, ha, hb, hc⟩, hends, ?_⟩
    · rw [List.nil_append, htext, hdot, htext', hdot', htext'']
    · rw [hg, hg₁, hg₂]
      rfl
  · intro ⟨a, b, c, rest, htriple, hends, hg⟩
    have hthird : matchAt [.named "3" cls] (c ++ rest) = some [("3", String.ofList c)] :=
      matchAt_named_nil_eq_some.mpr ⟨c, rest, rfl, htriple.third, hends, rfl⟩
    have hsecond : matchAt [.named "2" cls, .lit sep, .named "3" cls] (b ++ sep :: (c ++ rest)) =
        some [("2", String.ofList b), ("3", String.ofList c)] :=
      (matchAt_named_eq_some (hrefuse _)).mpr ⟨b, _, _, rfl, htriple.second, ends_cons hsep _,
        matchAt_lit_eq_some.mpr ⟨_, rfl, hthird⟩, rfl⟩
    refine ⟨a, _, _, htriple.text, htriple.first, ends_cons hsep _,
      matchAt_lit_eq_some.mpr ⟨_, rfl, hsecond⟩, hg⟩

end HybridOperator.Lib.TripleSearch
