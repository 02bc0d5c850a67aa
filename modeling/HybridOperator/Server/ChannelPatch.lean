/-
  The merge patch of a change-channel request, as the JSON text the API server reads.

  `handleChangeChannel` writes the channel with `%q`, in Go's escapes. JSON shares most of them;
  it has no `\a`, `\v`, `\x` and `\U`. That control characters are not printable is what
  `strconv.IsPrint` documents.

  Proved:
  * `writes_changeChannel`: a request that passes the checks sends one write, the patch.
  * `decode_channelPatch`: the patch reads as the intended object, or it is no JSON.
  * `changeChannel_patch_iff`: it is the intended object exactly for the channels every character
    of which survives.
-/
import HybridOperator.Server.Actions
import HybridOperator.Lib.JsonText

namespace HybridOperator.Server

open HybridOperator.Collector HybridOperator.Lib

/-- The patch for a channel. -/
def channelPatch (isPrint : Char → Bool) (channel : String) : String :=
  "\x7b\"spec\":\x7b\"channel\":" ++ GoStrings.quote isPrint channel ++ "\x7d\x7d"

/-- The object whose only content is `spec.channel`. -/
def channelObject (channel : String) : Json :=
  .obj [("spec", .obj [("channel", .str channel)])]

/-- The text of the patch up to the first character of the channel. -/
def patchOpening : List Char :=
  ['\x7b', '"', 's', 'p', 'e', 'c', '"', ':', '\x7b', '"', 'c', 'h', 'a', 'n', 'n', 'e', 'l', '"',
    ':', '"']

section Patch

variable {isPrint : Char → Bool}

theorem toList_channelPatch (channel : String) :
    (channelPatch isPrint channel).toList = patchOpening ++
      (channel.toList.flatMap (GoStrings.escapeRune isPrint) ++ '"' :: ['\x7d', '\x7d']) := by
  have hopen : "\x7b\"spec\":\x7b\"channel\":".toList ++ "\"".toList = patchOpening := by
    decide +kernel
  have hclose : "\"".toList ++ "\x7d\x7d".toList = '"' :: ['\x7d', '\x7d'] := by decide +kernel
  unfold channelPatch GoStrings.quote
  simp only [String.toList_append, String.toList_ofList, ← hopen, ← hclose, List.append_assoc]

/-- The patch reads as the intended object exactly when every character of the channel
    survives; else it is no JSON. -/
theorem decode_channelPatch
    (hprint : ∀ c : Char, c.toNat < 32 ∨ c.toNat = 127 → isPrint c = false) (channel : String) :
    JsonText.decode (channelPatch isPrint channel) =
      if JsonText.AllSurvive isPrint channel.toList then some (channelObject channel)
      else none := by
  let quoted := channel.toList.flatMap (GoStrings.escapeRune isPrint) ++ '"' :: ['\x7d', '\x7d']
  have hlen : channel.toList.length < 2 * quoted.length + 37 := by
    have := GoStrings.length_le_flatMap_escapeRune isPrint channel.toList
    rw [List.length_append]
    omega
  have hfuel : 2 * (patchOpening ++ quoted).length + 2 = 2 * quoted.length + 42 := by
    rw [List.length_append]
    show 2 * (20 + quoted.length) + 2 = _
    omega
  have hspec : JsonText.string (2 * quoted.length + 40) (patchOpening.drop 2 ++ quoted) =
      some (['s', 'p', 'e', 'c'], ':' :: '\x7b' :: (patchOpening.drop 9 ++ quoted)) := rfl
  have hchan : JsonText.string (2 * quoted.length + 38) (patchOpening.drop 10 ++ quoted) =
      some (['c', 'h', 'a', 'n', 'n', 'e', 'l'], ':' :: '"' :: quoted) := rfl
  -- from the inside out: the literal, the object with the channel, the document
  have hliteral := JsonText.value_string (2 * quoted.length + 37) quoted
  rw [JsonText.string_quoted hprint _ _ hlen] at hliteral
  have hskip : JsonText.skipSpace (patchOpening ++ quoted) = patchOpening ++ quoted :=
    JsonText.skipSpace_cons (by decide) _
  unfold JsonText.decode
  rw [toList_channelPatch, hfuel, hskip]
  by_cases h : JsonText.AllSurvive isPrint channel.toList
  · rw [if_pos h] at hliteral ⊢
    have hdoc : JsonText.value (2 * quoted.length + 42) (patchOpening ++ quoted) = _ :=
      JsonText.value_member hspec (by decide) (JsonText.value_member hchan (by decide) hliteral)
    rw [hdoc, String.ofList_toList]
    rfl
  · rw [if_neg h] at hliteral ⊢
    have hdoc : JsonText.value (2 * quoted.length + 42) (patchOpening ++ quoted) = none :=
      JsonText.value_member_none hspec (by decide)
        (JsonText.value_member_none hchan (by decide) hliteral)
    rw [hdoc]

end Patch

section Request

variable {Body : Type} (codec : Codec Body) (auditLog : AuditLog) {r : Request Body}
  {req : ChannelChange}

/-- A request that passes the checks sends one write, the patch. -/
theorem writes_changeChannel (hmethod : r.method = "POST")
    (hbody : codec.channelChange r.body = some req) (hns : req.nameSpace ≠ "")
    (hname : req.name ≠ "") (hchannel : req.channel ≠ "") :
    ∃ accepted, (handleChangeChannel codec auditLog r).writes =
      [(.patch subscriptionGVR req.nameSpace req.name (channelPatch codec.isPrint req.channel),
        accepted)] := by
  have hfields : ¬ (req.nameSpace = "" ∨ req.name = "" ∨ req.channel = "") := by
    simp only [hns, hname, hchannel, or_self, not_false_eq_true]
  unfold handleChangeChannel
  simp only [hmethod, hbody, ne_eq, not_true_eq_false, if_false, if_neg hfields]
  split
  · exact ⟨false, rfl⟩
  · exact ⟨true, rfl⟩

/-- For every channel that can arrive: the patch is the JSON text of the object whose only content
    is `spec.channel` exactly when every character of the channel survives. Else it is no JSON. -/
theorem changeChannel_patch_iff
    (hprint : ∀ c : Char, c.toNat < 32 ∨ c.toNat = 127 → codec.isPrint c = false)
    (hmethod : r.method = "POST") (hbody : codec.channelChange r.body = some req)
    (hns : req.nameSpace ≠ "") (hname : req.name ≠ "") (hchannel : req.channel ≠ "") :
    ∃ patch accepted, (handleChangeChannel codec auditLog r).writes =
        [(.patch subscriptionGVR req.nameSpace req.name patch, accepted)] ∧
      (JsonText.decode patch = some (channelObject req.channel) ↔
        ∀ c ∈ req.channel.toList, JsonText.Survives codec.isPrint c) ∧
      ((∃ c ∈ req.channel.toList, ¬ JsonText.Survives codec.isPrint c) →
        JsonText.decode patch = none) := by
  obtain ⟨accepted, hwrites⟩ := writes_changeChannel codec auditLog hmethod hbody hns hname hchannel
  refine ⟨_, accepted, hwrites, ?_, ?_⟩
  · rw [decode_channelPatch hprint]
    by_cases h : JsonText.AllSurvive codec.isPrint req.channel.toList
    · rw [if_pos h]
      exact iff_of_true rfl h
    · rw [if_neg h]
      exact iff_of_false (fun hn => nomatch hn) h
  · rintro ⟨c, hc, hlost⟩
    rw [decode_channelPatch hprint, if_neg fun h => hlost (h c hc)]

end Request

/-! ### A control character in a channel -/

/-- A body that is already decoded; ASCII is printed as `strconv.IsPrint` says. -/
def asciiCodec : Codec ChannelChange :=
  ⟨fun _ => none, some, fun c => 32 ≤ c.toNat ∧ c.toNat ≠ 127⟩

theorem asciiCodec_isPrint (c : Char) (h : c.toNat < 32 ∨ c.toNat = 127) :
    asciiCodec.isPrint c = false := decide_eq_false (by omega)

/-- Switch the channel of etcd; the API server accepts the patch. -/
def changeEtcd (channel : String) : Request ChannelChange :=
  ⟨"POST", ⟨"openshift-operators", "etcd", channel⟩, "2025-01-01T00:00:00Z",
    fun _ => snapshotClient fun _ => []⟩

/-- For the channel that is a bell character the patch has the escape `\a` in it, which is no
    JSON. -/
theorem bell_channel_patch_invalid :
    ∃ patch, (handleChangeChannel asciiCodec [] (changeEtcd "\x07")).writes =
        [(.patch subscriptionGVR "openshift-operators" "etcd" patch, true)] ∧
      patch = "\x7b\"spec\":\x7b\"channel\":\"\\a\"\x7d\x7d" ∧ JsonText.decode patch = none := by
  refine ⟨channelPatch asciiCodec.isPrint "\x07", rfl, by decide +kernel, ?_⟩
  rw [decode_channelPatch asciiCodec_isPrint]
  exact if_neg (by decide +kernel)

theorem changeChannel_patch_iff_stable :
    ∃ patch accepted, (handleChangeChannel asciiCodec [] (changeEtcd "stable")).writes =
        [(.patch subscriptionGVR "openshift-operators" "etcd" patch, accepted)] ∧
      (JsonText.decode patch = some (channelObject "stable") ↔
        ∀ c ∈ "stable".toList, JsonText.Survives asciiCodec.isPrint c) ∧
      ((∃ c ∈ "stable".toList, ¬ JsonText.Survives asciiCodec.isPrint c) →
        JsonText.decode patch = none) :=
  changeChannel_patch_iff asciiCodec [] asciiCodec_isPrint rfl rfl (by decide) (by decide)
    (by decide)

end HybridOperator.Server
