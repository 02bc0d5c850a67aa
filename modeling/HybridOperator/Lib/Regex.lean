/-
  Regular expressions that are a sequence of characters and repeated classes, with named groups,
  and their search: the leftmost match, every repetition as long as the rest allows, with
  backtracking to shorter ones. Patterns without alternatives or nested groups are of this kind.

  What comes after a repetition usually refuses the class that is repeated. Then there is nothing
  to backtrack to: the repetition takes the whole run of its class and the match goes on after it.

  Proved:
  * `matchAt_plus_run`, `matchAt_named_run`: a repetition takes its run, when what follows
    refuses the class; `matchAt_named_last` is the case of a group at the end.
  * `search_skip`, `search_word`: places of the text where no match starts.
-/
import Mathlib.Data.List.Basic

namespace HybridOperator.Lib.Regex

/-- One part of a pattern. -/
inductive Item where
  | lit (c : Char)
  /-- one or more characters of a class -/
  | plus (cls : Char → Bool)
  /-- the same, captured under a name -/
  | named (name : String) (cls : Char → Bool)

abbrev Groups := List (String × String)

/-- The characters of a string, one after the other. -/
def lits (s : String) : List Item := s.toList.map .lit

/-- What a repetition of `cls` and then `k` give: the longest first. `taken` is what the
    repetition has so far. -/
def plusThen (cls : Char → Bool) (k : List Char → List Char → Option Groups) :
    List Char → List Char → Option Groups
  | _, [] => none
  | taken, c :: s =>
      if cls c then (plusThen cls k (taken ++ [c]) s).or (k (taken ++ [c]) s) else none

/-- The groups of the first way to match the pattern here. -/
def matchAt : List Item → List Char → Option Groups
  | [], _ => some []
  | .lit _ :: _, [] => none
  | .lit c :: r, d :: s => if c = d then matchAt r s else none
  | .plus cls :: r, s => plusThen cls (fun _ rest => matchAt r rest) [] s
  | .named name cls :: r, s =>
      plusThen cls (fun taken rest =>
        (matchAt r rest).map fun groups => (name, String.ofList taken) :: groups) [] s

/-- `pattern.search`: the match that starts first. -/
def search (r : List Item) : List Char → Option Groups
  | [] => matchAt r []
  | c :: s => (matchAt r (c :: s)).or (search r s)

/-- The pattern matches nothing that starts with a character of the class. -/
def Refuses (r : List Item) (cls : Char → Bool) : Prop :=
  ∀ c s, cls c = true → matchAt r (c :: s) = none

/-- The text does not go on with a character of the class. -/
def Ends (cls : Char → Bool) (t : List Char) : Prop := ∀ c ∈ t.head?, cls c = false

theorem ends_nil (cls : Char → Bool) : Ends cls [] := by
  intro c hc
  cases hc

theorem ends_cons {cls : Char → Bool} {c : Char} (h : cls c = false) (t : List Char) :
    Ends cls (c :: t) := by
  intro d hd
  rw [List.head?_cons, Option.mem_some_iff] at hd
  rw [← hd]
  exact h

theorem matchAt_lit (c d : Char) (r : List Item) (s : List Char) :
    matchAt (.lit c :: r) (d :: s) = if c = d then matchAt r s else none := rfl

theorem matchAt_plus (cls : Char → Bool) (r : List Item) (s : List Char) :
    matchAt (.plus cls :: r) s = plusThen cls (fun _ rest => matchAt r rest) [] s := rfl

theorem matchAt_named (name : String) (cls : Char → Bool) (r : List Item) (s : List Char) :
    matchAt (.named name cls :: r) s =
      plusThen cls (fun taken rest =>
        (matchAt r rest).map fun groups => (name, String.ofList taken) :: groups) [] s := rfl

/-! ## Repetitions -/

theorem plusThen_ends {cls : Char → Bool} {t : List Char} (h : Ends cls t)
    (k : List Char → List Char → Option Groups) (taken : List Char) :
    plusThen cls k taken t = none := by
  cases t with
  | nil => rfl
  | cons c s =>
    have hc : cls c = false := h c rfl
    rw [plusThen, hc]
    rfl

/-- A repetition takes its whole run, when no shorter one changes what that gives. -/
theorem plusThen_run {cls : Char → Bool} {k : List Char → List Char → Option Groups}
    {found : Option Groups} (hk : ∀ taken c s, cls c = true → found.or (k taken (c :: s)) = found)
    {t : List Char} (ht : Ends cls t) {w : List Char} (hne : w ≠ []) (hw : ∀ c ∈ w, cls c = true)
    {taken : List Char} (hfound : k (taken ++ w) t = found) :
    plusThen cls k taken (w ++ t) = found := by
  induction w generalizing taken with
  | nil => exact absurd rfl hne
  | cons c w ih =>
    have hc : cls c = true := hw c List.mem_cons_self
    have hw' : ∀ d ∈ w, cls d = true := fun d hd => hw d (List.mem_cons_of_mem c hd)
    rw [List.cons_append, plusThen, if_pos hc]
    by_cases hnil : w = []
    · subst hnil
      rw [List.nil_append, plusThen_ends ht, Option.none_or]
      exact hfound
    · have hlonger : k ((taken ++ [c]) ++ w) t = found := by
        rw [List.append_assoc]
        exact hfound
      obtain ⟨d, w', rfl⟩ := List.exists_cons_of_ne_nil hnil
      rw [ih hnil hw' hlonger]
      exact hk _ d _ (hw' d List.mem_cons_self)

theorem matchAt_plus_ends {cls : Char → Bool} {t : List Char} (h : Ends cls t)
    (r : List Item) : matchAt (.plus cls :: r) t = none := by
  rw [matchAt_plus]
  exact plusThen_ends h _ _

theorem matchAt_named_ends {cls : Char → Bool} {t : List Char} (h : Ends cls t)
    (name : String) (r : List Item) : matchAt (.named name cls :: r) t = none := by
  rw [matchAt_named]
  exact plusThen_ends h _ _

theorem matchAt_plus_run {cls : Char → Bool} {r : List Item} (hr : Refuses r cls)
    {w t : List Char} (hne : w ≠ []) (hw : ∀ c ∈ w, cls c = true) (ht : Ends cls t) :
    matchAt (.plus cls :: r) (w ++ t) = matchAt r t := by
  rw [matchAt_plus]
  refine plusThen_run ?_ ht hne hw rfl
  intro _ c s hc
  rw [hr c s hc, Option.or_none]

theorem matchAt_named_run {cls : Char → Bool} {r : List Item} (hr : Refuses r cls)
    (name : String) {w t : List Char} (hne : w ≠ []) (hw : ∀ c ∈ w, cls c = true)
    (ht : Ends cls t) :
    matchAt (.named name cls :: r) (w ++ t) =
      (matchAt r t).map fun groups => (name, String.ofList w) :: groups := by
  rw [matchAt_named]
  refine plusThen_run ?_ ht hne hw rfl
  intro taken c s hc
  rw [hr c s hc, Option.map_none, Option.or_none]

theorem matchAt_named_last {cls : Char → Bool} (name : String) {w t : List Char} (hne : w ≠ [])
    (hw : ∀ c ∈ w, cls c = true) (ht : Ends cls t) :
    matchAt [.named name cls] (w ++ t) = some [(name, String.ofList w)] := by
  rw [matchAt_named]
  exact plusThen_run (fun _ _ _ _ => Option.some_or) ht hne hw rfl

theorem refuses_lit {c : Char} {cls : Char → Bool} (h : cls c = false) (r : List Item) :
    Refuses (.lit c :: r) cls := by
  intro d s hd
  have hne : c ≠ d := by
    rintro rfl
    rw [h] at hd
    cases hd
  rw [matchAt_lit, if_neg hne]

theorem refuses_plus {cls cls' : Char → Bool} (h : ∀ c, cls c = true → cls' c = false)
    (r : List Item) : Refuses (.plus cls' :: r) cls :=
  fun c s hc => matchAt_plus_ends (ends_cons (h c hc) s) r

theorem refuses_named {cls cls' : Char → Bool} (h : ∀ c, cls c = true → cls' c = false)
    (name : String) (r : List Item) : Refuses (.named name cls' :: r) cls :=
  fun c s hc => matchAt_named_ends (ends_cons (h c hc) s) name r

/-! ## Characters -/

theorem matchAt_lits (cs : List Char) (r : List Item) (t : List Char) :
    matchAt (cs.map .lit ++ r) (cs ++ t) = matchAt r t := by
  induction cs with
  | nil => rfl
  | cons c cs ih =>
    rw [List.map_cons, List.cons_append, List.cons_append, matchAt_lit, if_pos rfl]
    exact ih

/-! ## Searching -/

theorem search_of_match {r : List Item} {s : List Char} {groups : Groups}
    (h : matchAt r s = some groups) : search r s = some groups := by
  cases s with
  | nil => exact h
  | cons c s => rw [search, h, Option.some_or]

theorem search_of_no_match {r : List Item} {c : Char} {s : List Char}
    (h : matchAt r (c :: s) = none) : search r (c :: s) = search r s := by
  rw [search, h, Option.none_or]

/-- No match starts at a character other than the pattern's first one. -/
theorem search_skip {c : Char} {r : List Item} {p : List Char} (hp : c ∉ p)
    (t : List Char) : search (.lit c :: r) (p ++ t) = search (.lit c :: r) t := by
  induction p with
  | nil => rfl
  | cons d p ih =>
    have hd : matchAt (.lit c :: r) (d :: (p ++ t)) = none := by
      rw [matchAt_lit, if_neg (List.ne_of_not_mem_cons hp)]
    rw [List.cons_append, search_of_no_match hd]
    exact ih (List.not_mem_of_not_mem_cons hp)

/-- A pattern that starts with a word of a class and goes on with something that refuses the
    class does not match at a word, when what it goes on with does not match after it. -/
theorem matchAt_word {cls : Char → Bool} {r : List Item} (hr : Refuses r cls)
    {t : List Char} (ht : matchAt r t = none) (hends : Ends cls t) {a : List Char}
    (ha : ∀ c ∈ a, cls c = true) {w : List Char} (hw : ∀ c ∈ w, cls c = true) :
    matchAt (a.map .lit ++ r) (w ++ t) = none := by
  induction a generalizing w with
  | nil =>
    cases w with
    | nil => exact ht
    | cons d w => exact hr d _ (hw d List.mem_cons_self)
  | cons c a ih =>
    have hc : cls c = true := ha c List.mem_cons_self
    have ha' : ∀ e ∈ a, cls e = true := fun e he => ha e (List.mem_cons_of_mem c he)
    cases w with
    | nil =>
      cases t with
      | nil => rfl
      | cons d t =>
        have hne : c ≠ d := by
          rintro rfl
          rw [hends c rfl] at hc
          cases hc
        rw [List.map_cons, List.cons_append, List.nil_append, matchAt_lit, if_neg hne]
    | cons d w =>
      rw [List.map_cons, List.cons_append, List.cons_append, matchAt_lit]
      split
      · exact ih ha' fun e he => hw e (List.mem_cons_of_mem d he)
      · rfl

/-- The search goes over such a word. -/
theorem search_word {cls : Char → Bool} {r : List Item} (hr : Refuses r cls) {t : List Char}
    (ht : matchAt r t = none) (hends : Ends cls t) {a : List Char}
    (ha : ∀ c ∈ a, cls c = true) {w : List Char} (hw : ∀ c ∈ w, cls c = true) :
    search (a.map .lit ++ r) (w ++ t) = search (a.map .lit ++ r) t := by
  induction w with
  | nil => rfl
  | cons d w ih =>
    have hhere := matchAt_word hr ht hends ha hw
    rw [List.cons_append] at hhere ⊢
    rw [search_of_no_match hhere]
    exact ih fun e he => hw e (List.mem_cons_of_mem d he)

end HybridOperator.Lib.Regex
