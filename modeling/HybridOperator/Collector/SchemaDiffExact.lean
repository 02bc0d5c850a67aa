/-
  What `compareOpenAPISchemas` reports, path by path.

  `visited` are the paths of names that `walk` comes to, in its order: those that resolve in the
  current schema and whose proper prefixes all resolve in the target. `walk_eq` reads the two
  result lists off them: the removed fields are the visited paths that do not resolve in the
  target, the type mutations are the ones whose declared type changes. Only the text of a path
  can differ from its names joined with dots (`fieldPath_eq_join_iff`).

  Proved:
  * `mem_visited`: which paths are visited, each of them once (`nodup_visited`).
  * `exactDiff_iff`: for every order of the ranges, the diff of two schemas with spec properties
    is exact, exactly when no reported path of several names begins with an empty one.
-/
import HybridOperator.Collector.FieldPaths
import Mathlib.Algebra.Order.BigOperators.Group.List
import Mathlib.Algebra.Order.Ring.Nat

namespace HybridOperator.Collector

open HybridOperator.Lib

/-- The type declared at a path, empty when there is none. -/
def declaredAt (props : JMap) (path : List String) : String :=
  typeOf (((propAt props path).bind Json.asMap).getD [])

/-- The path resolves in the current schema and, other than all its proper prefixes, not in the
    target. -/
structure Lost (cur tgt : JMap) (path : List String) : Prop where
  inCurrent : (propAt cur path).isSome = true
  notInTarget : propAt tgt path = none
  prefixes : ∀ p, p ≠ [] → p <+: path → p ≠ path → (propAt tgt p).isSome = true

/-- The path resolves in both schemas, to properties of different declared types. -/
structure Retyped (cur tgt : JMap) (path : List String) : Prop where
  inCurrent : (propAt cur path).isSome = true
  inTarget : (propAt tgt path).isSome = true
  current : declaredAt cur path ≠ ""
  target : declaredAt tgt path ≠ ""
  differ : declaredAt cur path ≠ declaredAt tgt path

/-- What stands after the path in an entry of `typeMutations`. -/
def typeChange (cur tgt : JMap) (path : List String) : String :=
  " (" ++ declaredAt cur path ++ " -> " ++ declaredAt tgt path ++ ")"

/-- One entry for each lost and each retyped path, with its names joined with dots, and no other
    entry. -/
structure ExactDiff (cur tgt : JMap) (found : List String × List String) : Prop where
  removed : ∃ lost : List (List String), lost.Nodup ∧ (∀ p, p ∈ lost ↔ Lost cur tgt p) ∧
    found.1.Perm (lost.map fun p => GoStrings.join p '.')
  mutated : ∃ retyped : List (List String), retyped.Nodup ∧
    (∀ p, p ∈ retyped ↔ Retyped cur tgt p) ∧
    found.2.Perm (retyped.map fun p => GoStrings.join p '.' ++ typeChange cur tgt p)

/-! ## The visited paths -/

/-- The properties that `walk` goes on with below `name`, of both schemas. -/
def belowBoth (cur tgt : JMap) (name : String) : Option (JMap × JMap) :=
  (tgt.lookup name).bind fun t =>
    (((cur.lookup name).bind nestedProperties)).map fun cNested =>
      (cNested, (nestedProperties t).getD [])

/-- One round of the loop: the name itself, and the paths that the recursive call comes to. -/
def visitedFrom (recurse : JMap → JMap → List (List String)) (cur tgt : JMap) (name : String) :
    List (List String) :=
  [name] :: match belowBoth cur tgt name with
    | none => []
    | some (cNested, tNested) => (recurse cNested tNested).map (name :: ·)

/-- The paths that `walk` comes to, from the properties it is called with. -/
def visited (order : List String → RangeOrder String) :
    Nat → List String → JMap → JMap → List (List String)
  | 0, _, _, _ => []
  | fuel + 1, names, cur, tgt =>
      ((order names).order (keys cur)).flatMap fun name =>
        visitedFrom (visited order fuel (names ++ [name])) cur tgt name

/-- The path resolves in the current schema, and all its proper prefixes in the target. -/
def Reached (cur tgt : JMap) (path : List String) : Prop :=
  (propAt cur path).isSome = true ∧
    ∀ p, p ≠ [] → p <+: path → p ≠ path → (propAt tgt p).isSome = true

theorem propAt_nil_props (path : List String) : propAt [] path = none := by
  match path with
  | [] => rfl
  | [_] => rfl
  | _ :: _ :: _ => rfl

theorem propAt_cons (props : JMap) (name : String) {path : List String} (hne : path ≠ []) :
    propAt props (name :: path) =
      ((props.lookup name).bind nestedProperties).bind fun nested => propAt nested path := by
  obtain ⟨k, ks, rfl⟩ := List.exists_cons_of_ne_nil hne
  rfl

theorem belowBoth_eq_some {cur tgt cNested tNested : JMap} {name : String} :
    belowBoth cur tgt name = some (cNested, tNested) ↔
      (∃ c, cur.lookup name = some c ∧ nestedProperties c = some cNested) ∧
        ∃ t, tgt.lookup name = some t ∧ (nestedProperties t).getD [] = tNested := by
  unfold belowBoth
  simp only [Option.bind_eq_some_iff, Option.map_eq_some_iff, Prod.mk.injEq]
  constructor
  · rintro ⟨t, ht, nested, hc, rfl, hn⟩
    exact ⟨hc, t, ht, hn⟩
  · rintro ⟨hc, t, ht, hn⟩
    exact ⟨t, ht, cNested, hc, rfl, hn⟩

/-- Below a name both schemas have, paths resolve as in what `walk` goes on with. -/
theorem propAt_belowBoth {cur tgt cNested tNested : JMap} {name : String}
    (h : belowBoth cur tgt name = some (cNested, tNested)) {path : List String} (hne : path ≠ []) :
    propAt cur (name :: path) = propAt cNested path ∧
      propAt tgt (name :: path) = propAt tNested path := by
  obtain ⟨⟨c, hc, hcn⟩, t, ht, htn⟩ := belowBoth_eq_some.mp h
  rw [propAt_cons cur name hne, propAt_cons tgt name hne, hc, ht, Option.bind_some,
    Option.bind_some, hcn, Option.bind_some]
  refine ⟨rfl, ?_⟩
  rw [← htn]
  cases nestedProperties t with
  | none => exact (propAt_nil_props path).symm
  | some nested => rfl

theorem reached_singleton (cur tgt : JMap) (name : String) :
    Reached cur tgt [name] ↔ (cur.lookup name).isSome = true := by
  refine and_iff_left fun p hp hpre hproper => ?_
  have hlen := hpre.length_le
  have hpos := List.length_pos_iff.mpr hp
  exact absurd (hpre.eq_of_length (Nat.le_antisymm hlen hpos)) hproper

/-- The prefixes of a longer path are its first name and the prefixes below it. -/
theorem reached_cons {cur tgt : JMap} {name : String} {path : List String} (hne : path ≠ []) :
    Reached cur tgt (name :: path) ↔
      ∃ cNested tNested, belowBoth cur tgt name = some (cNested, tNested) ∧
        Reached cNested tNested path := by
  constructor
  · rintro ⟨hcur, hpre⟩
    have hfirst := hpre [name] (List.cons_ne_nil _ _) ⟨path, rfl⟩ fun h =>
      hne (List.cons.inj h).2.symm
    obtain ⟨t, ht⟩ := Option.isSome_iff_exists.mp hfirst
    obtain ⟨d, hd⟩ := Option.isSome_iff_exists.mp hcur
    rw [propAt_cons cur name hne] at hd
    obtain ⟨cNested, hcn, -⟩ := Option.bind_eq_some_iff.mp hd
    have hbelow : belowBoth cur tgt name = some (cNested, (nestedProperties t).getD []) :=
      belowBoth_eq_some.mpr ⟨Option.bind_eq_some_iff.mp hcn, t, ht, rfl⟩
    refine ⟨_, _, hbelow, ?_, fun p hp hpp hproper => ?_⟩
    · rw [← (propAt_belowBoth hbelow hne).1]
      exact hcur
    · rw [← (propAt_belowBoth hbelow hp).2]
      exact hpre (name :: p) (List.cons_ne_nil _ _) (List.cons_prefix_cons.mpr ⟨rfl, hpp⟩)
        fun h => hproper (List.cons.inj h).2
  · rintro ⟨cNested, tNested, hbelow, hcur, hpre⟩
    refine ⟨?_, fun p hp hpp hproper => ?_⟩
    · rw [(propAt_belowBoth hbelow hne).1]
      exact hcur
    · obtain ⟨k, ks, rfl⟩ := List.exists_cons_of_ne_nil hp
      obtain ⟨rfl, hks⟩ := List.cons_prefix_cons.mp hpp
      by_cases hnil : ks = []
      · obtain ⟨t, ht, -⟩ := (belowBoth_eq_some.mp hbelow).2
        rw [hnil]
        exact Option.isSome_iff_exists.mpr ⟨t, ht⟩
      · rw [(propAt_belowBoth hbelow hnil).2]
        exact hpre ks hnil hks fun h => hproper (by rw [h])

theorem depthMap_lt_of_belowBoth {cur tgt cNested tNested : JMap} {name : String}
    (h : belowBoth cur tgt name = some (cNested, tNested)) :
    Json.depthMap cNested < Json.depthMap cur := by
  obtain ⟨⟨c, hc, hcn⟩, -⟩ := belowBoth_eq_some.mp h
  exact depthMap_lt_of_nestedProperties hc hcn

theorem mem_visitedFrom {recurse : JMap → JMap → List (List String)} {cur tgt : JMap}
    {name : String} {path : List String} :
    path ∈ visitedFrom recurse cur tgt name ↔ path = [name] ∨ ∃ cNested tNested,
      belowBoth cur tgt name = some (cNested, tNested) ∧
        ∃ p ∈ recurse cNested tNested, name :: p = path := by
  unfold visitedFrom
  generalize belowBoth cur tgt name = below
  cases below with
  | none => simp
  | some both =>
    obtain ⟨cNested, tNested⟩ := both
    simp

theorem head_of_mem_visitedFrom {recurse : JMap → JMap → List (List String)} {cur tgt : JMap}
    {name : String} {path : List String} (h : path ∈ visitedFrom recurse cur tgt name) :
    path.head? = some name := by
  obtain rfl | ⟨_, _, _, p, _, rfl⟩ := mem_visitedFrom.mp h
  · rfl
  · rfl

theorem ne_nil_of_mem_visited {order : List String → RangeOrder String} {fuel : Nat}
    {names path : List String} {cur tgt : JMap} (h : path ∈ visited order fuel names cur tgt) :
    path ≠ [] := by
  cases fuel with
  | zero => cases h
  | succ fuel =>
    obtain ⟨name, -, hin⟩ := List.mem_flatMap.mp h
    intro hnil
    have hhead := head_of_mem_visitedFrom hin
    rw [hnil] at hhead
    cases hhead

/-- With fuel beyond the depth of the current properties, `walk` comes to exactly the reached
    paths. -/
theorem mem_visited (order : List String → RangeOrder String) {fuel : Nat} (names : List String)
    {cur : JMap} (tgt : JMap) (hfuel : Json.depthMap cur < fuel) (path : List String) :
    path ∈ visited order fuel names cur tgt ↔ path ≠ [] ∧ Reached cur tgt path := by
  induction fuel generalizing names cur tgt path with
  | zero => omega
  | succ fuel ih =>
    rw [visited, List.mem_flatMap]
    simp only [RangeOrder.mem_order, mem_keys, ← Option.isSome_iff_exists, mem_visitedFrom]
    constructor
    · rintro ⟨name, hname, rfl | ⟨cNested, tNested, hboth, p, hp, rfl⟩⟩
      · exact ⟨List.cons_ne_nil _ _, (reached_singleton cur tgt name).mpr hname⟩
      · have hdepth := depthMap_lt_of_belowBoth hboth
        obtain ⟨hne, hreached⟩ := (ih _ _ (by omega) p).mp hp
        exact ⟨List.cons_ne_nil _ _, (reached_cons hne).mpr ⟨_, _, hboth, hreached⟩⟩
    · rintro ⟨hne, hreached⟩
      obtain ⟨name, p, rfl⟩ := List.exists_cons_of_ne_nil hne
      by_cases hp : p = []
      · subst hp
        exact ⟨name, (reached_singleton cur tgt name).mp hreached, Or.inl rfl⟩
      · obtain ⟨cNested, tNested, hboth, hbelow⟩ := (reached_cons hp).mp hreached
        obtain ⟨⟨c, hc, -⟩, -⟩ := belowBoth_eq_some.mp hboth
        have hdepth := depthMap_lt_of_belowBoth hboth
        have hin := (ih (names ++ [name]) tNested (by omega) p).mpr ⟨hp, hbelow⟩
        exact ⟨name, Option.isSome_iff_exists.mpr ⟨c, hc⟩, Or.inr ⟨_, _, hboth, p, hin, rfl⟩⟩

/-- No path is visited twice. -/
theorem nodup_visited (order : List String → RangeOrder String) (fuel : Nat)
    (names : List String) (cur tgt : JMap) : (visited order fuel names cur tgt).Nodup := by
  induction fuel generalizing names cur tgt with
  | zero => exact List.nodup_nil
  | succ fuel ih =>
    rw [visited, List.nodup_flatMap]
    constructor
    · intro name _
      unfold visitedFrom
      cases belowBoth cur tgt name with
      | none => exact List.nodup_singleton _
      | some both =>
        refine List.nodup_cons.mpr ⟨?_, (ih _ _ _).map fun p q h => (List.cons.inj h).2⟩
        intro h
        obtain ⟨p, hp, heq⟩ := List.mem_map.mp h
        exact ne_nil_of_mem_visited hp (List.cons.inj heq).2
    · -- the paths of two names differ in the first one
      refine ((order names).nodup_order.mpr (keys_nodup cur)).imp fun {a b} hab => ?_
      intro path ha hb
      have hhead := (head_of_mem_visitedFrom ha).symm.trans (head_of_mem_visitedFrom hb)
      exact hab (Option.some.inj hhead)

/-! ## The walk -/

/-- A visited path is reported as removed. -/
def isLost (tgt : JMap) (path : List String) : Bool := (propAt tgt path).isNone

/-- A visited path is reported as mutated. -/
def isRetyped (cur tgt : JMap) (path : List String) : Bool :=
  decide (declaredAt cur path ≠ "" ∧ declaredAt tgt path ≠ "" ∧
    declaredAt cur path ≠ declaredAt tgt path)

/-- What `walk` reports for the visited paths, which lie below `names`. -/
def report (names : List String) (cur tgt : JMap) (paths : List (List String)) :
    List String × List String :=
  ((paths.filter (isLost tgt)).map fun p => fieldPath (names ++ p),
    (paths.filter (isRetyped cur tgt)).map fun p => fieldPath (names ++ p) ++ typeChange cur tgt p)

theorem report_cons (names : List String) (cur tgt : JMap) (p : List String)
    (ps : List (List String)) :
    report names cur tgt (p :: ps) =
      ((report names cur tgt [p]).1 ++ (report names cur tgt ps).1,
        (report names cur tgt [p]).2 ++ (report names cur tgt ps).2) := by
  unfold report
  rw [← List.singleton_append (x := p) (l := ps), List.filter_append, List.filter_append,
    List.map_append, List.map_append]

theorem report_flatMap (names : List String) (cur tgt : JMap) (keys : List String)
    (paths : String → List (List String)) :
    report names cur tgt (keys.flatMap paths) =
      (keys.flatMap fun k => (report names cur tgt (paths k)).1,
        keys.flatMap fun k => (report names cur tgt (paths k)).2) := by
  unfold report
  simp only [List.filter_flatMap, List.map_flatMap]

/-- The paths below a name are reported as the recursive call reports them. -/
theorem report_map_cons {cur tgt cNested tNested : JMap} {name : String} (names : List String)
    (h : belowBoth cur tgt name = some (cNested, tNested)) {paths : List (List String)}
    (hne : ∀ p ∈ paths, p ≠ []) :
    report names cur tgt (paths.map (name :: ·)) =
      report (names ++ [name]) cNested tNested paths := by
  have hlost : ∀ p ∈ paths, (isLost tgt ∘ (name :: ·)) p = isLost tNested p := by
    intro p hp
    have hat := (propAt_belowBoth h (hne p hp)).2
    simp only [Function.comp_apply, isLost, hat]
  have hcur : ∀ p ∈ paths, declaredAt cur (name :: p) = declaredAt cNested p := by
    intro p hp
    rw [declaredAt, (propAt_belowBoth h (hne p hp)).1, declaredAt]
  have htgt : ∀ p ∈ paths, declaredAt tgt (name :: p) = declaredAt tNested p := by
    intro p hp
    rw [declaredAt, (propAt_belowBoth h (hne p hp)).2, declaredAt]
  have hretyped : ∀ p ∈ paths,
      (isRetyped cur tgt ∘ (name :: ·)) p = isRetyped cNested tNested p := by
    intro p hp
    simp only [Function.comp_apply, isRetyped, hcur p hp, htgt p hp]
  unfold report
  rw [List.filter_map, List.filter_map, List.filter_congr hlost, List.filter_congr hretyped,
    List.map_map, List.map_map]
  refine Prod.ext ?_ ?_
  · refine List.map_congr_left fun p _ => ?_
    rw [Function.comp_apply, List.append_assoc, List.singleton_append]
  · refine List.map_congr_left fun p hp => ?_
    have hmem := (List.mem_filter.mp hp).1
    rw [Function.comp_apply, List.append_assoc, List.singleton_append, typeChange, typeChange,
      hcur p hmem, htgt p hmem]

/-- What one round of the loop reports: the name itself and the paths below it. -/
theorem visit_eq_report {recurse : String → JMap → JMap → List String × List String}
    {cur tgt : JMap} {name : String} {c : Json} (names : List String)
    (hc : cur.lookup name = some c) (paths : JMap → JMap → List (List String))
    (hne : ∀ cNested tNested, ∀ p ∈ paths cNested tNested, p ≠ [])
    (hrec : ∀ cNested tNested, recurse (fieldPath (names ++ [name])) cNested tNested =
      report (names ++ [name]) cNested tNested (paths cNested tNested)) :
    visit recurse (fieldPath names) tgt name c =
      report names cur tgt (visitedFrom paths cur tgt name) := by
  rw [visitedFrom, report_cons]
  have hcur : propAt cur [name] = some c := hc
  have htgt : propAt tgt [name] = tgt.lookup name := rfl
  unfold visit
  rw [← fieldPath_concat]
  cases ht : tgt.lookup name with
  | none =>
    have hbelow : belowBoth cur tgt name = none := by rw [belowBoth, ht]; rfl
    have hlost : isLost tgt [name] = true := by rw [isLost, htgt, ht]; rfl
    have hretyped : isRetyped cur tgt [name] = false := by
      have htype : declaredAt tgt [name] = "" := by rw [declaredAt, htgt, ht]; rfl
      rw [isRetyped, htype]
      exact decide_eq_false fun h => h.2.1 rfl
    rw [hbelow, report, List.filter_singleton, List.filter_singleton, hlost, hretyped]
    rfl
  | some t =>
    have hlost : isLost tgt [name] = false := by rw [isLost, htgt, ht]; rfl
    have hfirst : report names cur tgt [[name]] =
        ([], typeMutation (fieldPath (names ++ [name])) (typeOf (c.asMap.getD []))
          (typeOf (t.asMap.getD []))) := by
      have hct : declaredAt cur [name] = typeOf (c.asMap.getD []) := by
        rw [declaredAt, hcur, Option.bind_some]
      have htt : declaredAt tgt [name] = typeOf (t.asMap.getD []) := by
        rw [declaredAt, htgt, ht, Option.bind_some]
      rw [report, List.filter_singleton, List.filter_singleton, hlost, isRetyped, typeMutation,
        hct, htt]
      split
      · rename_i h
        rw [decide_eq_true h]
        simp only [cond_true, cond_false, List.map_cons, List.map_nil, typeChange, hct, htt,
          String.append_assoc]
      · rename_i h
        rw [decide_eq_false h]
        rfl
    rw [hfirst]
    simp only [← nestedProperties_eq]
    cases hn : nestedProperties c with
    | none =>
      have hbelow : belowBoth cur tgt name = none := by
        rw [belowBoth, ht, hc, Option.bind_some, Option.bind_some, hn]
        rfl
      rw [hbelow]
      simp [report]
    | some cNested =>
      have hbelow : belowBoth cur tgt name = some (cNested, (nestedProperties t).getD []) :=
        belowBoth_eq_some.mpr ⟨⟨c, hc, hn⟩, t, ht, rfl⟩
      rw [hbelow]
      simp only [report_map_cons names hbelow (hne _ _), hrec, List.nil_append]

/-- `walk` reports the visited paths. -/
theorem walk_eq (order : List String → RangeOrder String) (fuel : Nat) (names : List String)
    (cur tgt : JMap) :
    walk order fuel names (fieldPath names) cur tgt =
      report names cur tgt (visited order fuel names cur tgt) := by
  induction fuel generalizing names cur tgt with
  | zero => rfl
  | succ fuel ih =>
    have hvisit : ∀ name ∈ (order names).order (keys cur),
        visit (walk order fuel (names ++ [name])) (fieldPath names) tgt name
            ((cur.lookup name).getD .null) =
          report names cur tgt
            (visitedFrom (visited order fuel (names ++ [name])) cur tgt name) := by
      intro name hname
      obtain ⟨c, hc⟩ := mem_keys.mp ((order names).mem_order.mp hname)
      rw [hc, Option.getD_some]
      exact visit_eq_report names hc (visited order fuel (names ++ [name]))
        (fun _ _ _ hp => ne_nil_of_mem_visited hp) (fun cNested tNested => ih _ _ _)
    rw [walk, visited, report_flatMap, List.flatMap_map, List.flatMap_map]
    refine Prod.ext ?_ ?_
    · exact List.flatMap_congr fun name hname => by rw [hvisit name hname]
    · exact List.flatMap_congr fun name hname => by rw [hvisit name hname]

/-! ## The exact diff -/

theorem mem_filter_isLost (order : List String → RangeOrder String) {fuel : Nat} {cur : JMap}
    (names : List String) (tgt : JMap) (hfuel : Json.depthMap cur < fuel) (path : List String) :
    path ∈ (visited order fuel names cur tgt).filter (isLost tgt) ↔ Lost cur tgt path := by
  rw [List.mem_filter, mem_visited order names tgt hfuel, isLost, Option.isNone_iff_eq_none]
  constructor
  · rintro ⟨⟨_, hcur, hpre⟩, htgt⟩
    exact ⟨hcur, htgt, hpre⟩
  · intro h
    refine ⟨⟨?_, h.inCurrent, h.prefixes⟩, h.notInTarget⟩
    rintro rfl
    exact absurd h.inCurrent Bool.false_ne_true

/-- In a schema that resolves a path, its proper prefixes resolve too. -/
theorem isSome_propAt_prefix {props : JMap} {p path : List String} (hp : p ≠ [])
    (hpre : p <+: path) (h : (propAt props path).isSome = true) :
    (propAt props p).isSome = true := by
  induction p generalizing props path with
  | nil => exact absurd rfl hp
  | cons name p ih =>
    obtain ⟨k, ks, rfl⟩ := List.exists_cons_of_ne_nil (hpre.ne_nil hp)
    obtain ⟨rfl, hks⟩ := List.cons_prefix_cons.mp hpre
    by_cases hnil : ks = []
    · subst hnil
      rw [List.prefix_nil.mp hks]
      exact h
    · rw [propAt_cons _ _ hnil] at h
      obtain ⟨d, hd⟩ := Option.isSome_iff_exists.mp h
      obtain ⟨nested, hnested, hd⟩ := Option.bind_eq_some_iff.mp hd
      by_cases hp : p = []
      · obtain ⟨c, hc, -⟩ := Option.bind_eq_some_iff.mp hnested
        rw [hp]
        exact Option.isSome_iff_exists.mpr ⟨c, hc⟩
      · rw [propAt_cons _ _ hp, hnested]
        exact ih hp hks (Option.isSome_iff_exists.mpr ⟨d, hd⟩)

theorem mem_filter_isRetyped (order : List String → RangeOrder String) {fuel : Nat} {cur : JMap}
    (names : List String) (tgt : JMap) (hfuel : Json.depthMap cur < fuel) (path : List String) :
    path ∈ (visited order fuel names cur tgt).filter (isRetyped cur tgt) ↔
      Retyped cur tgt path := by
  rw [List.mem_filter, mem_visited order names tgt hfuel, isRetyped, decide_eq_true_iff]
  constructor
  · rintro ⟨⟨_, hcur, _⟩, hc, ht, hne⟩
    refine ⟨hcur, ?_, hc, ht, hne⟩
    -- a path that does not resolve declares no type
    rw [Option.isSome_iff_ne_none]
    intro hnone
    apply ht
    rw [declaredAt, hnone]
    rfl
  · intro h
    refine ⟨⟨?_, h.inCurrent, fun p hp hpre _ => isSome_propAt_prefix hp hpre h.inTarget⟩,
      h.current, h.target, h.differ⟩
    rintro rfl
    exact absurd h.inCurrent Bool.false_ne_true

/-- Two lists of the same paths, one with the texts of the walk and one with joined names, are
    permutations of each other exactly when no path is written in another way. -/
theorem texts_perm_iff {reported paths : List (List String)} (suffix : List String → String)
    (hperm : paths.Perm reported) :
    (reported.map fun p => fieldPath p ++ suffix p).Perm
        (paths.map fun p => GoStrings.join p '.' ++ suffix p) ↔
      ∀ p ∈ reported, ¬ EmptyFirst p := by
  constructor
  · intro h p hp hempty
    -- the texts of the walk are never longer, and one is shorter
    have hsum : ((reported.map fun p => (fieldPath p ++ suffix p).length)).sum =
        (reported.map fun p => (GoStrings.join p '.' ++ suffix p).length).sum := by
      have htexts := (h.trans (hperm.map _)).map String.length
      rw [List.map_map, List.map_map] at htexts
      exact htexts.sum_eq
    refine absurd hsum (Nat.ne_of_lt (List.sum_lt_sum _ _ ?_ ⟨p, hp, ?_⟩))
    · intro q _
      rw [String.length_append, String.length_append]
      by_cases hq : EmptyFirst q
      · exact Nat.add_le_add_right (length_fieldPath_lt hq).le _
      · rw [fieldPath_of_not_emptyFirst hq]
    · rw [String.length_append, String.length_append]
      exact Nat.add_lt_add_right (length_fieldPath_lt hempty) _
  · intro h
    have heq : (reported.map fun p => fieldPath p ++ suffix p) =
        reported.map fun p => GoStrings.join p '.' ++ suffix p :=
      List.map_congr_left fun p hp => by rw [fieldPath_of_not_emptyFirst (h p hp)]
    rw [heq]
    exact (hperm.map _).symm

/-- The texts of the walk are those of the paths that `Q` holds of, with their names joined,
    exactly when `Q` holds of no path that is written in another way. -/
theorem exists_texts_iff {reported : List (List String)} {Q : List String → Prop}
    (hnodup : reported.Nodup) (hmem : ∀ p, p ∈ reported ↔ Q p) (suffix : List String → String) :
    (∃ paths : List (List String), paths.Nodup ∧ (∀ p, p ∈ paths ↔ Q p) ∧
        (reported.map fun p => fieldPath p ++ suffix p).Perm
          (paths.map fun p => GoStrings.join p '.' ++ suffix p)) ↔
      ∀ p, Q p → ¬ EmptyFirst p := by
  simp only [← hmem]
  constructor
  · intro h
    obtain ⟨paths, hpaths, hsame, hperm⟩ := h
    have hreported := (List.perm_ext_iff_of_nodup hpaths hnodup).mpr hsame
    exact (texts_perm_iff suffix hreported).mp hperm
  · intro h
    exact ⟨reported, hnodup, fun p => Iff.rfl,
      (texts_perm_iff suffix (List.Perm.refl _)).mpr h⟩

/-- For every order of the ranges, the diff of two schemas with spec properties is exact, exactly
    when no path of several names that it reports begins with an empty name. -/
theorem exactDiff_iff (order : List String → RangeOrder String)
    (currentSchema targetSchema cur tgt : JMap) (hc : specProperties currentSchema = some cur)
    (ht : specProperties targetSchema = some tgt) :
    ExactDiff cur tgt (compareOpenAPISchemas order currentSchema targetSchema) ↔
      ∀ path, Lost cur tgt path ∨ Retyped cur tgt path → ¬ EmptyFirst path := by
  have hwalk : compareOpenAPISchemas order currentSchema targetSchema =
      report [] cur tgt (visited order (Json.depthMap cur + 1) [] cur tgt) := by
    rw [compareOpenAPISchemas, hc, ht]
    exact walk_eq order _ [] cur tgt
  have hlost := mem_filter_isLost order [] tgt (Nat.lt_succ_self (Json.depthMap cur))
  have hretyped := mem_filter_isRetyped order [] tgt (Nat.lt_succ_self (Json.depthMap cur))
  have hnodup := nodup_visited order (Json.depthMap cur + 1) [] cur tgt
  rw [hwalk]
  generalize visited order (Json.depthMap cur + 1) [] cur tgt = paths at hlost hretyped hnodup
  have hremoved := exists_texts_iff (hnodup.filter _) hlost fun _ => ""
  have hmutated := exists_texts_iff (hnodup.filter _) hretyped (typeChange cur tgt)
  simp only [String.append_empty] at hremoved
  simp only [or_imp, forall_and]
  rw [← hremoved, ← hmutated]
  exact ⟨fun h => ⟨h.removed, h.mutated⟩, fun h => ⟨h.1, h.2⟩⟩

/-! ### A property without a name -/

/-- A schema whose spec has the given properties. -/
def schemaOf (properties : JMap) : JMap :=
  [("properties", .obj [("spec", .obj [("properties", .obj properties)])])]

/-- The target drops the field `x` below a property whose name is empty; the diff reports a
    top-level field `x`. -/
theorem nameless_prefix_dropped :
    compareOpenAPISchemas (fun _ => .asStored)
        (schemaOf [("", .obj [("properties", .obj [("x", .obj [])])])])
        (schemaOf [("", .obj [])]) = (["x"], []) ∧
      ¬ ExactDiff [("", .obj [("properties", .obj [("x", .obj [])])])] [("", .obj [])]
        (compareOpenAPISchemas (fun _ => .asStored)
          (schemaOf [("", .obj [("properties", .obj [("x", .obj [])])])])
          (schemaOf [("", .obj [])])) := by
  have hfound : compareOpenAPISchemas (fun _ => .asStored)
      (schemaOf [("", .obj [("properties", .obj [("x", .obj [])])])])
      (schemaOf [("", .obj [])]) = (["x"], []) := by decide
  refine ⟨hfound, ?_⟩
  rw [hfound]
  rintro ⟨⟨lost, _, hmem, hperm⟩, _⟩
  have hlost : Lost [("", .obj [("properties", .obj [("x", .obj [])])])] [("", .obj [])]
      ["", "x"] := by
    refine ⟨by decide, rfl, fun p hp hpre hproper => ?_⟩
    match p, hp, hpre, hproper with
    | [k], _, hpre, _ =>
      obtain ⟨rfl, -⟩ := List.cons_prefix_cons.mp hpre
      rfl
    | k :: k' :: ks, _, hpre, hproper =>
      exact absurd (hpre.eq_of_length (Nat.le_antisymm hpre.length_le (by simp))) hproper
  have htext := hperm.mem_iff.mpr (List.mem_map_of_mem ((hmem _).mpr hlost))
  revert htext
  decide

theorem exactDiff_iff_port :
    ExactDiff [("port", .obj [("type", .str "integer")])] [("port", .obj [("type", .str "string")])]
        (compareOpenAPISchemas (fun _ => .asStored)
          (schemaOf [("port", .obj [("type", .str "integer")])])
          (schemaOf [("port", .obj [("type", .str "string")])])) ↔
      ∀ path,
        Lost [("port", .obj [("type", .str "integer")])]
            [("port", .obj [("type", .str "string")])] path ∨
          Retyped [("port", .obj [("type", .str "integer")])]
            [("port", .obj [("type", .str "string")])] path →
        ¬ EmptyFirst path :=
  exactDiff_iff (fun _ => .asStored) _ _ _ _ rfl rfl

end HybridOperator.Collector
