/-
  The brain's own inventory: `parse_semver` and `collect_and_evaluate_olm_inventory` of app.py,
  with the state `evaluated_olm_inventory`.

  What Python raises ends the collection and leaves the inventory as it was, except for the
  `ApiException` of a package manifest, which leaves the item without an upgrade. The API client
  is the parameter `CustomObjectsApi`, which may answer every call in its own way; `str` of a
  value that is not a string is the parameter `str`.

  Proved:
  * `collected_run`: at any time the inventory shows only what its collections made, and a
    collection that fails changes nothing.
  * `upgrade_of_record`: a record is classified by the text that its channel offers and the text
    of its installed CSV.
-/
import HybridOperator.Brain.Telemetry
import HybridOperator.Lib.TripleSearch
import HybridOperator.Lib.UnicodeDigits

namespace HybridOperator.Brain

open HybridOperator.Lib HybridOperator.Lib.Regex HybridOperator.Lib.TripleSearch

/-! ## Python values -/

inductive PyException where
  | apiException
  | other
deriving DecidableEq

/-- `d.get(k, default)`; only a dict has a `get`. -/
def dictGet (d : Json) (k : String) (default : Json) : Except PyException Json :=
  match d with
  | .obj m => .ok ((m.lookup k).getD default)
  | _ => .error .other

/-- What a `for` visits. -/
def iterate : Json → Except PyException (List Json)
  | .arr items => .ok items
  | .obj m => .ok ((keys m).map .str)
  | .str s => .ok (s.toList.map fun c => .str (String.singleton c))
  | .null | .bool _ | .int _ | .float _ => .error .other

mutual
/-- `v == w`: dicts regardless of their order, numbers and booleans by their value. -/
def pyEq : Json → Json → Bool
  | .arr xs, .arr ys => pyEqItems xs ys
  | .obj m, .obj n => (keys m).length = (keys n).length && pyEqFields [] m n
  | .null, .null => true
  | v, w => (dictKey v).isSome && dictKey v = dictKey w

def pyEqItems : List Json → List Json → Bool
  | [], [] => true
  | x :: xs, y :: ys => pyEq x y && pyEqItems xs ys
  | _, _ => false

/-- The entries of a dict whose keys are not among `seen`. -/
def pyEqFields (seen : List String) : List (String × Json) → JMap → Bool
  | [], _ => true
  | (k, v) :: rest, n =>
      (k ∈ seen || match n.lookup k with
        | some w => pyEq v w
        | none => false) && pyEqFields (k :: seen) rest n
end

theorem bind_eq_ok {ε α β : Type} {x : Except ε α} {f : α → Except ε β} {b : β} :
    x.bind f = .ok b ↔ ∃ a, x = .ok a ∧ f a = .ok b := by
  cases x with
  | error e => exact iff_of_false (fun h => by cases h) fun ⟨_, h, _⟩ => by cases h
  | ok a => exact ⟨fun h => ⟨a, rfl, h⟩, fun ⟨_, ha, h⟩ => by cases ha; exact h⟩

theorem map_eq_ok {ε α β : Type} {x : Except ε α} {f : α → β} {b : β} :
    x.map f = .ok b ↔ ∃ a, x = .ok a ∧ f a = b := by
  cases x with
  | error e => exact iff_of_false (fun h => by cases h) fun ⟨_, h, _⟩ => by cases h
  | ok a => exact ⟨fun h => ⟨a, rfl, Except.ok.inj h⟩, fun ⟨_, ha, h⟩ => by cases ha; rw [← h]; rfl⟩

/-! ## Versions -/

/-- A tuple of three non-negative ints. -/
abbrev Version := Nat × Nat × Nat

/-- `(\d+)\.(\d+)\.(\d+)`, where `\d` is any decimal digit of Unicode. -/
def semverPattern : List Item := triplePattern isDecimalDigit '.'

def parseSemver (versionStr : String) : Version :=
  match search semverPattern versionStr.toList with
  | some [(_, major), (_, minor), (_, patch)] =>
      (number major.toList, number minor.toList, number patch.toList)
  | _ => (0, 0, 0)

/-- `v > w` of two tuples. -/
def tupleGreater (v w : Version) : Bool :=
  if v.1 ≠ w.1 then v.1 > w.1
  else if v.2.1 ≠ w.2.1 then v.2.1 > w.2.1
  else v.2.2 > w.2.2

/-- `f"{v[0]}.{v[1]}.{v[2]}"` -/
def versionText (v : Version) : String :=
  toString v.1 ++ "." ++ toString v.2.1 ++ "." ++ toString v.2.2

/-- `can_upgrade` and `upgrade_type`. -/
def classify (target installed : Version) : Bool × String :=
  if tupleGreater target installed then
    (true,
      if target.1 > installed.1 then "MAJOR"
      else if target.2.1 > installed.2.1 then "MINOR"
      else "PATCH")
  else (false, "NONE")

/-! ## The collection -/

/-- What the code uses of the Kubernetes client. -/
structure CustomObjectsApi where
  /-- one of the two configurations could be loaded -/
  configLoaded : Bool
  subscriptions : Except PyException Json
  /-- the answer to the call for item `i` of the collection -/
  packageManifest (i : Nat) (nameSpace name : Json) : Except PyException Json

structure InventoryRecord where
  subscription : Json
  package : Json
  nameSpace : Json
  channel : Json
  installedCSV : Json
  installedVersion : String
  targetCSV : Json
  targetVersion : String
  canUpgrade : Bool
  upgradeType : String

/-- What is read of a Subscription. -/
structure SubscriptionItem where
  name : Json
  pkgName : Json
  nameSpace : Json
  channel : Json
  installedCSV : Json

/-- What is read of the head of a channel. -/
structure ChannelHead where
  targetCSV : Json
  /-- the value that the target version is parsed from -/
  rawVersion : Json

section Collection

variable (str : Json → String)

/-- `str(version_str)`. -/
def versionStr : Json → String
  | .str s => s
  | v => str v

def readSubscription (item : Json) : Except PyException SubscriptionItem :=
  (dictGet item "spec" (.obj [])).bind fun spec =>
  (dictGet item "status" (.obj [])).bind fun status =>
  (dictGet item "metadata" (.obj [])).bind fun metadata =>
  (dictGet spec "name" .null).bind fun specName =>
  (if truthy specName then .ok specName else dictGet spec "packageName" .null).bind fun pkgName =>
  (dictGet spec "channel" (.str "")).bind fun channel =>
  (dictGet metadata "namespace" (.str "openshift-operators")).bind fun nameSpace =>
  (dictGet status "installedCSV" (.str "")).bind fun installedCSV =>
  (dictGet metadata "name" .null).map fun name => ⟨name, pkgName, nameSpace, channel, installedCSV⟩

/-- `next((ch for ch in channels if ch.get("name") == channel), None)` -/
def nextChannel (channel : Json) : List Json → Except PyException (Option Json)
  | [] => .ok none
  | ch :: channels =>
      (dictGet ch "name" .null).bind fun name =>
        if pyEq name channel then .ok (some ch) else nextChannel channel channels

/-- `target_ch`, when it is not falsy. -/
def targetChannel (manifest channel : Json) : Except PyException (Option Json) :=
  (dictGet manifest "status" (.obj [])).bind fun status =>
  (dictGet status "channels" (.arr [])).bind fun channels =>
  (iterate channels).bind fun channels =>
  (nextChannel channel channels).map fun targetCh => targetCh.filter truthy

def channelHead (targetCh : Json) : Except PyException ChannelHead :=
  (dictGet targetCh "currentCSVDesc" (.obj [])).bind fun csvDesc =>
  (dictGet csvDesc "name" (.str "")).bind fun targetCSV =>
  (dictGet csvDesc "version" (.str "")).map fun rawTargetVer =>
    ⟨targetCSV, if truthy rawTargetVer then rawTargetVer else targetCSV⟩

/-- The head of the channel of a Subscription, when it has one that can be asked for. -/
def findHead (api : CustomObjectsApi) (i : Nat) (sub : SubscriptionItem) :
    Except PyException (Option ChannelHead) :=
  if truthy sub.pkgName then
    match api.packageManifest i sub.nameSpace sub.pkgName with
    | .error .apiException => .ok none
    | .error .other => .error .other
    | .ok manifest =>
        (targetChannel manifest sub.channel).bind fun
          | none => .ok none
          | some targetCh => (channelHead targetCh).map some
  else .ok none

def inventoryRecord (sub : SubscriptionItem) (head : Option ChannelHead) : InventoryRecord :=
  let installedVer := parseSemver (versionStr str sub.installedCSV)
  let record : InventoryRecord :=
    { subscription := sub.name
      package := sub.pkgName
      nameSpace := sub.nameSpace
      channel := sub.channel
      installedCSV := sub.installedCSV
      installedVersion := versionText installedVer
      targetCSV := .str ""
      targetVersion := versionText installedVer
      canUpgrade := false
      upgradeType := "NONE" }
  match head with
  | none => record
  | some head =>
      let targetV := parseSemver (versionStr str head.rawVersion)
      { record with
          targetCSV := head.targetCSV
          targetVersion := versionText targetV
          canUpgrade := (classify targetV installedVer).1
          upgradeType := (classify targetV installedVer).2 }

def evaluateItem (api : CustomObjectsApi) (input : Json × Nat) :
    Except PyException InventoryRecord :=
  (readSubscription input.1).bind fun sub =>
    (findHead api input.2 sub).map (inventoryRecord str sub)

/-- The loop over the Subscriptions. -/
def evaluateItems (api : CustomObjectsApi) : List (Json × Nat) →
    Except PyException (List InventoryRecord)
  | [] => .ok []
  | input :: inputs =>
      (evaluateItem str api input).bind fun record =>
        (evaluateItems api inputs).map (record :: ·)

def collectAndEvaluateOLMInventory (api : CustomObjectsApi)
    (evaluatedOLMInventory : List InventoryRecord) : List InventoryRecord :=
  let inventory :=
    api.subscriptions.bind fun subs =>
    (dictGet subs "items" (.arr [])).bind fun items =>
    (iterate items).bind fun items => evaluateItems str api items.zipIdx
  if api.configLoaded then
    match inventory with
    | .ok inventory => inventory
    | .error _ => evaluatedOLMInventory
  else evaluatedOLMInventory

/-! ## The records of an inventory -/

/-- What the record repeats of its Subscription. -/
def InventoryRecord.item (record : InventoryRecord) : SubscriptionItem :=
  ⟨record.subscription, record.package, record.nameSpace, record.channel, record.installedCSV⟩

theorem inventoryRecord_item (sub : SubscriptionItem) (head : Option ChannelHead) :
    (inventoryRecord str sub head).item = sub := by
  cases head <;> rfl

variable {str} {api : CustomObjectsApi}

theorem evaluateItem_ok {item : Json} {i : Nat} {record : InventoryRecord}
    (h : evaluateItem str api (item, i) = .ok record) :
    ∃ head, findHead api i record.item = .ok head ∧
      record = inventoryRecord str record.item head := by
  obtain ⟨sub, -, hsub⟩ := bind_eq_ok.mp h
  obtain ⟨head, hhead, rfl⟩ := map_eq_ok.mp hsub
  rw [inventoryRecord_item]
  exact ⟨head, hhead, rfl⟩

theorem evaluateItems_getElem? {inputs : List (Json × Nat)} {records : List InventoryRecord}
    (h : evaluateItems str api inputs = .ok records) {i : Nat} {record : InventoryRecord}
    (hrecord : records[i]? = some record) :
    ∃ input, inputs[i]? = some input ∧ evaluateItem str api input = .ok record := by
  induction inputs generalizing records i with
  | nil =>
    obtain rfl := Except.ok.inj h
    cases hrecord
  | cons input inputs ih =>
    obtain ⟨first, hfirst, htail⟩ := bind_eq_ok.mp h
    obtain ⟨rest, hrest, rfl⟩ := map_eq_ok.mp htail
    cases i with
    | zero =>
      obtain rfl := Option.some.inj hrecord
      exact ⟨input, rfl, hfirst⟩
    | succ i => exact ih hrest hrecord

/-- A collection leaves the inventory as it was, or each record is the one of the item at its
    place. -/
theorem collect_cases (evaluatedOLMInventory : List InventoryRecord) :
    collectAndEvaluateOLMInventory str api evaluatedOLMInventory = evaluatedOLMInventory ∨
      ∀ i record, (collectAndEvaluateOLMInventory str api evaluatedOLMInventory)[i]? =
        some record → ∃ item, evaluateItem str api (item, i) = .ok record := by
  unfold collectAndEvaluateOLMInventory
  dsimp only
  split
  · split
    · rename_i inventory hinventory
      refine Or.inr fun i record h => ?_
      obtain ⟨subs, -, h₁⟩ := bind_eq_ok.mp hinventory
      obtain ⟨items, -, h₂⟩ := bind_eq_ok.mp h₁
      obtain ⟨items', -, h₃⟩ := bind_eq_ok.mp h₂
      obtain ⟨⟨item, j⟩, hinput, hitem⟩ := evaluateItems_getElem? h₃ h
      obtain rfl : j = i := by
        rw [List.getElem?_zipIdx, Option.map_eq_some_iff] at hinput
        obtain ⟨_, _, heq⟩ := hinput
        rw [← (Prod.mk.inj heq).2, Nat.zero_add]
      exact ⟨item, hitem⟩
    · exact Or.inl rfl
  · exact Or.inl rfl

/-- Each record is what one of the collections so far made of the item at its place. -/
def Collected (str : Json → String) (past : List CustomObjectsApi)
    (inventory : List InventoryRecord) : Prop :=
  ∀ i record, inventory[i]? = some record →
    ∃ api ∈ past, ∃ item, evaluateItem str api (item, i) = .ok record

theorem collected_collect {past : List CustomObjectsApi} {inventory : List InventoryRecord}
    (h : Collected str past inventory) (api : CustomObjectsApi) :
    Collected str (past ++ [api]) (collectAndEvaluateOLMInventory str api inventory) := by
  intro i record hrecord
  have hcases : collectAndEvaluateOLMInventory str api inventory = inventory ∨ _ :=
    collect_cases inventory
  rcases hcases with hsame | hnew
  · rw [hsame] at hrecord
    obtain ⟨api', hapi', hitem⟩ := h i record hrecord
    exact ⟨api', List.mem_append_left _ hapi', hitem⟩
  · exact ⟨api, List.mem_append_right _ List.mem_cons_self, hnew i record hrecord⟩

/-- The collections of `background_discovery_loop`, one after the other, from the empty
    inventory. -/
def discoveryRun (str : Json → String) (apis : List CustomObjectsApi) : List InventoryRecord :=
  (Reactive.run (fun inventory api =>
    (collectAndEvaluateOLMInventory str api inventory, ())) [] apis).1

/-- At no time does the inventory show anything but what its collections made. -/
theorem collected_run (apis : List CustomObjectsApi) :
    Collected str apis (discoveryRun str apis) := by
  refine Reactive.run_induction (R := Collected str) (P := fun _ => True) _ (fun i record h => ?_)
    (fun past inventory api h _ => collected_collect h api) apis fun _ _ => trivial
  cases h

theorem upgrade_of_record {item : Json} {i : Nat} {record : InventoryRecord}
    (hitem : evaluateItem str api (item, i) = .ok record) {head : ChannelHead}
    (hhead : findHead api i record.item = .ok (some head)) :
    (record.canUpgrade, record.upgradeType) =
      classify (parseSemver (versionStr str head.rawVersion))
        (parseSemver (versionStr str record.installedCSV)) := by
  obtain ⟨head', hhead', hrecord⟩ := evaluateItem_ok hitem
  obtain rfl : some head = head' := Except.ok.inj (hhead.symm.trans hhead')
  rw [hrecord]
  rfl

end Collection

end HybridOperator.Brain
