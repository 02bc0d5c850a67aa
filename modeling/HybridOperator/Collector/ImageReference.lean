/-
  The grammar of image references, and `parseRegistry` on what it prints.

  A reference is `[host/]component{/component}[:tag][@digest]`. Without a host, the first of
  several components must not look like one. The parts carry what the grammar asks of them.

  Proved: `parseRegistry_print`, the registry is the host that was printed and `docker.io` when
  there is none, whatever the tag and the digest are.
-/
import HybridOperator.Collector.Images

namespace HybridOperator.Collector

open HybridOperator.Lib

/-- A registry host, with its port when it has one. -/
structure RegistryHost where
  text : String
  no_slash : '/' ∉ text.toList
  no_at : '@' ∉ text.toList
  isHost : '.' ∈ text.toList ∨ ':' ∈ text.toList ∨ text = "localhost"

/-- One component of the path. -/
structure PathComponent where
  text : String
  no_slash : '/' ∉ text.toList
  no_colon : ':' ∉ text.toList
  no_at : '@' ∉ text.toList

structure ImageTag where
  text : String
  no_slash : '/' ∉ text.toList
  no_at : '@' ∉ text.toList

structure ImageReference where
  host : Option RegistryHost
  first : PathComponent
  rest : List PathComponent
  tag : Option ImageTag
  digest : Option String
  /-- what is not a host does not look like one -/
  familiar : host = none → rest ≠ [] → '.' ∉ first.text.toList ∧ first.text ≠ "localhost"

namespace ImageReference

/-- `[host/]`. -/
def hostText (r : ImageReference) : String := (r.host.map (·.text ++ "/")).getD ""

def pathText (r : ImageReference) : String :=
  GoStrings.join ((r.first :: r.rest).map (·.text)) '/'

/-- `[:tag]`. -/
def tagText (r : ImageReference) : String := (r.tag.map (":" ++ ·.text)).getD ""

/-- `[@digest]`. -/
def digestText (r : ImageReference) : String := (r.digest.map ("@" ++ ·)).getD ""

def print (r : ImageReference) : String := r.hostText ++ r.pathText ++ r.tagText ++ r.digestText

/-- The same image with another tag and another digest. -/
def retag (r : ImageReference) (tag : Option ImageTag) (digest : Option String) :
    ImageReference :=
  { r with tag := tag, digest := digest }

/-! ## The parts of a printed reference -/

theorem at_not_mem_hostText (r : ImageReference) : '@' ∉ r.hostText.toList := by
  unfold hostText
  cases r.host with
  | none => exact List.not_mem_nil
  | some host =>
    show '@' ∉ (host.text ++ "/").toList
    rw [String.toList_append, List.mem_append, not_or]
    exact ⟨host.no_at, by decide⟩

theorem at_not_mem_tagText (r : ImageReference) : '@' ∉ r.tagText.toList := by
  unfold tagText
  cases r.tag with
  | none => exact List.not_mem_nil
  | some tag =>
    show '@' ∉ (":" ++ tag.text).toList
    rw [String.toList_append, List.mem_append, not_or]
    exact ⟨by decide, tag.no_at⟩

theorem slash_not_mem_tagText (r : ImageReference) : '/' ∉ r.tagText.toList := by
  unfold tagText
  cases r.tag with
  | none => exact List.not_mem_nil
  | some tag =>
    show '/' ∉ (":" ++ tag.text).toList
    rw [String.toList_append, List.mem_append, not_or]
    exact ⟨by decide, tag.no_slash⟩

theorem at_not_mem_pathText (r : ImageReference) : '@' ∉ r.pathText.toList := by
  refine GoStrings.not_mem_join (by decide) fun text htext => ?_
  obtain ⟨component, -, rfl⟩ := List.mem_map.mp htext
  exact component.no_at

/-- What `parseRegistry` looks at: the reference without its digest. -/
theorem takeWhile_print (r : ImageReference) :
    r.print.toList.takeWhile (· ≠ '@') =
      r.hostText.toList ++ (r.pathText.toList ++ r.tagText.toList) := by
  rw [print, String.toList_append, String.toList_append, String.toList_append, List.append_assoc,
    List.append_assoc, ← List.append_assoc, ← List.append_assoc]
  refine (GoStrings.takeWhile_ne_append ?_ ?_).trans (List.append_assoc _ _ _)
  · rw [List.mem_append, List.mem_append, not_or, not_or]
    exact ⟨⟨r.at_not_mem_hostText, r.at_not_mem_pathText⟩, r.at_not_mem_tagText⟩
  · unfold digestText
    cases r.digest with
    | none =>
      intro c hc
      cases hc
    | some digest =>
      intro c hc
      have htext : (("@" ++ digest : String)).toList.head? = some '@' := by
        rw [String.toList_append]
        rfl
      exact (Option.some.inj (htext.symm.trans hc)).symm

/-- The component before the first slash, when no host is printed. -/
theorem first_of_path {r : ImageReference} (hrest : r.rest ≠ []) :
    ∃ cs, r.pathText.toList = r.first.text.toList ++ '/' :: cs := by
  obtain ⟨next, rest, hcons⟩ := List.exists_cons_of_ne_nil hrest
  rw [pathText, hcons, List.map_cons, List.map_cons, GoStrings.join_cons_cons,
    String.toList_append, String.toList_append, String.toList_singleton, List.append_assoc]
  exact ⟨_, rfl⟩

theorem slash_not_mem_path {r : ImageReference} (hrest : r.rest = []) :
    '/' ∉ r.pathText.toList := by
  rw [pathText, hrest, List.map_cons, List.map_nil, GoStrings.join_singleton]
  exact r.first.no_slash

end ImageReference

/-! ## The registry of a printed reference -/

/-- The part before the first slash, when there is one. -/
theorem parseRegistry_of_first {image : String} {first rest : List Char} (hslash : '/' ∉ first)
    (h : image.toList.takeWhile (· ≠ '@') = first ++ '/' :: rest) :
    parseRegistry image =
      if '.' ∈ first ∨ ':' ∈ first ∨ first = "localhost".toList then String.ofList first
      else "docker.io" := by
  have hmem : '/' ∈ first ++ '/' :: rest := List.mem_append_right _ List.mem_cons_self
  unfold parseRegistry
  dsimp only
  rw [h, if_pos hmem, GoStrings.takeWhile_ne_append_cons hslash rest]

theorem parseRegistry_host {r : ImageReference} {host : RegistryHost} (h : r.host = some host) :
    parseRegistry r.print = host.text := by
  have hhost : r.hostText.toList = host.text.toList ++ ['/'] := by
    rw [ImageReference.hostText, h]
    exact String.toList_append
  have hfirst := r.takeWhile_print
  rw [hhost, List.append_assoc, List.singleton_append] at hfirst
  have his : '.' ∈ host.text.toList ∨ ':' ∈ host.text.toList ∨
      host.text.toList = "localhost".toList :=
    host.isHost.imp_right fun h => h.imp_right (congrArg String.toList)
  rw [parseRegistry_of_first host.no_slash hfirst, if_pos his, String.ofList_toList]

theorem parseRegistry_familiar {r : ImageReference} (h : r.host = none) :
    parseRegistry r.print = "docker.io" := by
  have hcut := r.takeWhile_print
  rw [ImageReference.hostText, h] at hcut
  by_cases hrest : r.rest = []
  · have hslash : '/' ∉ r.print.toList.takeWhile (· ≠ '@') := by
      rw [hcut]
      simp only [Option.map_none, Option.getD_none, List.mem_append, not_or]
      exact ⟨List.not_mem_nil, ImageReference.slash_not_mem_path hrest, r.slash_not_mem_tagText⟩
    unfold parseRegistry
    dsimp only
    rw [if_neg hslash]
  · obtain ⟨cs, hpath⟩ := ImageReference.first_of_path hrest
    obtain ⟨hdot, hlocal⟩ := r.familiar h hrest
    have hnot : ¬ ('.' ∈ r.first.text.toList ∨ ':' ∈ r.first.text.toList ∨
        r.first.text.toList = "localhost".toList) := by
      rw [not_or, not_or]
      exact ⟨hdot, r.first.no_colon, fun h => hlocal (String.toList_inj.mp h)⟩
    rw [hpath, List.append_assoc, List.cons_append] at hcut
    rw [parseRegistry_of_first r.first.no_slash hcut, if_neg hnot]

/-- **`parseRegistry` finds the host of every reference of the grammar**, and the tag and the
    digest have no part in it. -/
theorem parseRegistry_print (r : ImageReference) :
    parseRegistry r.print = (r.host.map (·.text)).getD "docker.io" ∧
      ∀ tag digest, parseRegistry (r.retag tag digest).print = parseRegistry r.print := by
  have hprint : ∀ r : ImageReference,
      parseRegistry r.print = (r.host.map (·.text)).getD "docker.io" := by
    intro r
    cases h : r.host with
    | none => exact parseRegistry_familiar h
    | some host => exact parseRegistry_host h
  refine ⟨hprint r, fun tag digest => ?_⟩
  rw [hprint r, hprint (r.retag tag digest)]
  rfl

/-- A reference with all its parts. -/
def teamApp : ImageReference where
  host := some ⟨"localhost:5000", by decide, by decide, by decide⟩
  first := ⟨"team", by decide, by decide, by decide⟩
  rest := [⟨"app", by decide, by decide, by decide⟩]
  tag := some ⟨"v1.2", by decide, by decide⟩
  digest := some "sha256:3b"
  familiar h := by cases h

example : teamApp.print = "localhost:5000/team/app:v1.2@sha256:3b" ∧
    parseRegistry teamApp.print = "localhost:5000" := by decide

example : parseRegistry "library/etcd:v3.5" = "docker.io" := by decide

end HybridOperator.Collector
