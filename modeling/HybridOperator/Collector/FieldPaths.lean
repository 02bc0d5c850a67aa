/-
  The texts by which the schema diff names a property, and their look-up in the spec of a CR.

  `walk` builds the text of a path from its names, one level after the other (`fieldPath`): the
  names are joined with dots. It tells the top level by its empty prefix, so a name that is
  empty itself leaves the prefix empty and the names below it are written as if at the top.
  `hasFieldInSpec` cuts the text at the dots again.

  Proved:
  * `fieldPath_eq_join_iff`: the text is the names joined with dots, except when the first of
    several names is empty.
  * `lookup_follows_iff`: the look-up of a path's text follows its names in every spec exactly
    when no name contains a dot and the first of several names is not empty.
-/
import HybridOperator.Collector.SchemaDiff

namespace HybridOperator.Collector

open HybridOperator.Lib

/-- The text that `walk` builds for the names on the way to a property. -/
def fieldPath (names : List String) : String := names.foldl pathBelow ""

/-- The first of several names is empty. -/
def EmptyFirst : List String → Prop
  | k :: _ :: _ => k = ""
  | _ => False

theorem exists_of_emptyFirst {names : List String} (h : EmptyFirst names) :
    ∃ k ks, names = "" :: k :: ks := by
  cases names with
  | nil => exact h.elim
  | cons name names =>
    cases names with
    | nil => exact h.elim
    | cons k ks =>
      obtain rfl : name = "" := h
      exact ⟨k, ks, rfl⟩

theorem pathBelow_top (name : String) : pathBelow "" name = name := if_neg (not_not.mpr rfl)

theorem fieldPath_concat (names : List String) (name : String) :
    fieldPath (names ++ [name]) = pathBelow (fieldPath names) name :=
  List.foldl_concat _ _ _ _

theorem foldl_pathBelow {pfx : String} (hne : pfx ≠ "") (names : List String) :
    names.foldl pathBelow pfx = GoStrings.join (pfx :: names) '.' := by
  induction names generalizing pfx with
  | nil => exact (GoStrings.join_singleton pfx '.').symm
  | cons name names ih =>
    have hbelow : pathBelow pfx name = pfx ++ "." ++ name := if_pos hne
    have hnext : pfx ++ "." ++ name ≠ "" := by
      intro h
      have hlength := congrArg String.length h
      simp only [String.length_append] at hlength
      have hdot : ".".length = 1 := rfl
      have hempty : "".length = 0 := rfl
      omega
    have hjoin : GoStrings.join ((pfx ++ "." ++ name) :: names) '.' =
        GoStrings.join (pfx :: name :: names) '.' := by
      cases names with
      | nil =>
        rw [GoStrings.join_singleton, GoStrings.join_cons_cons, GoStrings.join_singleton]
        rfl
      | cons k ks =>
        rw [GoStrings.join_cons_cons, GoStrings.join_cons_cons, GoStrings.join_cons_cons]
        simp only [String.append_assoc]
        rfl
    rw [List.foldl_cons, hbelow, ih hnext, hjoin]

/-- The names are joined with dots, when the first is not empty. -/
theorem fieldPath_of_ne {name : String} (hne : name ≠ "") (names : List String) :
    fieldPath (name :: names) = GoStrings.join (name :: names) '.' := by
  rw [fieldPath, List.foldl_cons, pathBelow_top]
  exact foldl_pathBelow hne names

/-- An empty first name is left out, with the dot after it. -/
theorem fieldPath_empty_cons (names : List String) : fieldPath ("" :: names) = fieldPath names :=
  rfl

theorem fieldPath_of_not_emptyFirst {names : List String} (h : ¬ EmptyFirst names) :
    fieldPath names = GoStrings.join names '.' := by
  match names, h with
  | [], _ => rfl
  | [name], _ => exact (pathBelow_top name).trans (GoStrings.join_singleton name '.').symm
  | name :: k :: ks, h => exact fieldPath_of_ne h (k :: ks)

/-- Leaving a name out makes the text shorter. -/
theorem length_fieldPath_lt {names : List String} (h : EmptyFirst names) :
    (fieldPath names).length < (GoStrings.join names '.').length := by
  induction names with
  | nil => exact h.elim
  | cons name names ih =>
    cases names with
    | nil => exact h.elim
    | cons k ks =>
      obtain rfl : name = "" := h
      have hle : (fieldPath (k :: ks)).length ≤ (GoStrings.join (k :: ks) '.').length := by
        by_cases hfirst : EmptyFirst (k :: ks)
        · exact (ih hfirst).le
        · rw [fieldPath_of_not_emptyFirst hfirst]
      have hdot : (String.singleton '.').length = 1 := rfl
      rw [fieldPath_empty_cons, GoStrings.join_cons_cons, String.length_append,
        String.length_append, hdot]
      omega

theorem fieldPath_eq_join_iff (names : List String) :
    fieldPath names = GoStrings.join names '.' ↔ ¬ EmptyFirst names := by
  constructor
  · intro heq h
    have hlt := length_fieldPath_lt h
    rw [heq] at hlt
    exact Nat.lt_irrefl _ hlt
  · exact fieldPath_of_not_emptyFirst

/-! ## Specs with one field -/

/-- The value that has exactly the fields on the way along some names. -/
def along : List String → Json
  | [] => .null
  | k :: ks => .obj [(k, along ks)]

theorem nestedField_along (names parts : List String) :
    (nestedField (along names) parts).isSome = true ↔ parts <+: names := by
  induction parts generalizing names with
  | nil => exact iff_of_true rfl List.nil_prefix
  | cons part parts ih =>
    cases names with
    | nil => exact iff_of_false (by simp [along, nestedField, Json.asMap]) (by simp)
    | cons name names =>
      rw [along, nestedField_cons, List.cons_prefix_cons]
      by_cases hname : part = name
      · rw [hname, List.lookup_cons_self, Option.bind_some, ih names]
        exact (and_iff_right rfl).symm
      · have hlookup : List.lookup part [(name, along names)] = none := by
          have hb : (part == name) = false := beq_false_of_ne hname
          rw [List.lookup_cons, hb]
          rfl
        rw [hlookup]
        exact iff_of_false Bool.false_ne_true fun h => hname h.1

/-- Two sequences of names that succeed in the same specs are equal. -/
theorem eq_of_same_lookups {names parts : List String} (hnames : names ≠ []) (hparts : parts ≠ [])
    (h : ∀ spec, (nestedField (.obj spec) parts).isSome = true ↔
      (nestedField (.obj spec) names).isSome = true) : parts = names := by
  obtain ⟨name, names', rfl⟩ := List.exists_cons_of_ne_nil hnames
  obtain ⟨part, parts', rfl⟩ := List.exists_cons_of_ne_nil hparts
  have hone : part :: parts' <+: name :: names' := by
    rw [← nestedField_along]
    refine (h [(name, along names')]).mpr ?_
    exact (nestedField_along (name :: names') (name :: names')).mpr List.prefix_rfl
  have htwo : name :: names' <+: part :: parts' := by
    rw [← nestedField_along]
    refine (h [(part, along parts')]).mp ?_
    exact (nestedField_along (part :: parts') (part :: parts')).mpr List.prefix_rfl
  exact hone.eq_of_length (Nat.le_antisymm hone.length_le htwo.length_le)

/-! ## Cutting a text again -/

/-- The cut gives the names without some of the first ones. -/
theorem split_fieldPath {names : List String} (hne : names ≠ [])
    (hdot : ∀ n ∈ names, '.' ∉ n.toList) :
    (GoStrings.split (fieldPath names) '.').length ≤ names.length := by
  induction names with
  | nil => exact absurd rfl hne
  | cons name names ih =>
    by_cases hfirst : EmptyFirst (name :: names)
    · obtain ⟨k, ks, heq⟩ := exists_of_emptyFirst hfirst
      obtain ⟨rfl, rfl⟩ := List.cons.inj heq
      have hbelow := ih (List.cons_ne_nil k ks) fun n hn => hdot n (List.mem_cons_of_mem _ hn)
      rw [fieldPath_empty_cons, List.length_cons]
      exact Nat.le_succ_of_le hbelow
    · rw [fieldPath_of_not_emptyFirst hfirst, GoStrings.split_join hne hdot]

theorem split_fieldPath_eq_iff {names : List String} (hne : names ≠ []) :
    GoStrings.split (fieldPath names) '.' = names ↔
      (∀ n ∈ names, '.' ∉ n.toList) ∧ ¬ EmptyFirst names := by
  constructor
  · intro h
    have hdot : ∀ n ∈ names, '.' ∉ n.toList := by
      intro n hn
      rw [← h, GoStrings.split] at hn
      obtain ⟨piece, hpiece, rfl⟩ := List.mem_map.mp hn
      rw [String.toList_ofList]
      exact GoStrings.not_mem_of_mem_splitOn hpiece
    refine ⟨hdot, fun hfirst => ?_⟩
    obtain ⟨k, ks, rfl⟩ := exists_of_emptyFirst hfirst
    have hlength := split_fieldPath (List.cons_ne_nil k ks)
      fun n hn => hdot n (List.mem_cons_of_mem _ hn)
    rw [← fieldPath_empty_cons, h] at hlength
    exact absurd hlength (Nat.not_succ_le_self _)
  · rintro ⟨hdot, hfirst⟩
    rw [fieldPath_of_not_emptyFirst hfirst, GoStrings.split_join hne hdot]

/-- The look-up of a path's text follows its names in every spec, exactly when no name contains a
    dot and the first of several names is not empty. -/
theorem lookup_follows_iff (names : List String) (hne : names ≠ []) :
    (∀ spec, hasFieldInSpec spec (fieldPath names) = true ↔
        (nestedField (.obj spec) names).isSome = true) ↔
      (∀ n ∈ names, '.' ∉ n.toList) ∧ ¬ EmptyFirst names := by
  rw [← split_fieldPath_eq_iff hne]
  constructor
  · intro h
    have hparts : GoStrings.split (fieldPath names) '.' ≠ [] := by
      rw [GoStrings.split, ne_eq, List.map_eq_nil_iff]
      exact List.splitOn_ne_nil _ _
    exact eq_of_same_lookups hne hparts h
  · intro h spec
    rw [hasFieldInSpec, h]

/-- The property `retention.ms` is removed and a CR sets it; the look-up asks for the field `ms`
    of a field `retention`. -/
theorem dotted_name_missed :
    compareOpenAPISchemas (fun _ => .asStored)
        [("properties", .obj [("spec", .obj [("properties", .obj [("retention.ms", .obj [])])])])]
        [("properties", .obj [("spec", .obj [("properties", .obj [])])])] =
      ([fieldPath ["retention.ms"]], []) ∧
    (nestedField (.obj [("retention.ms", .int 5)]) ["retention.ms"]).isSome = true ∧
    hasFieldInSpec [("retention.ms", .int 5)] (fieldPath ["retention.ms"]) = false := by
  refine ⟨?_, by decide, by decide⟩
  decide

theorem lookup_follows_iff_plain :
    (∀ spec, hasFieldInSpec spec (fieldPath ["config", "timeout"]) = true ↔
        (nestedField (.obj spec) ["config", "timeout"]).isSome = true) ↔
      (∀ n ∈ ["config", "timeout"], '.' ∉ n.toList) ∧ ¬ EmptyFirst ["config", "timeout"] :=
  lookup_follows_iff ["config", "timeout"] (by decide)

end HybridOperator.Collector
