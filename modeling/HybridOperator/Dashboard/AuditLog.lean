/-
  The rows of the audit log: the part of `openAuditLog` in static/app.js that builds `rows`.

  Each event is put into a template literal with five substitutions, and the result is assigned
  to `innerHTML` as it is, between the tags of `tbody`. What the strings of an event hold comes
  from requests: the handlers check that a name and a channel are there, and nothing else about
  them.

  Proved: `rows_markup_iff`, for two logs with the same success flags the tags are the same and
  the fields appear only as text, exactly when no field of either has a `<` directly before a
  letter, `/`, `!` or `?`.
-/
import HybridOperator.Dashboard.UpgradeCard
import HybridOperator.Lib.HtmlTokens
import HybridOperator.Server.Actions

namespace HybridOperator.Dashboard

open HybridOperator.Collector HybridOperator.Lib HybridOperator.Lib.Html HybridOperator.Server

/-! ## The rows -/

/-- `(data && data.events) || []`. -/
def loadedEvents : Server.Response → List AuditEvent
  | .events _ events => events
  | _ => []

def rowStart : List Char :=
  "\n        <tr class=\"border-b border-gray-800\">\n          <td class=\"px-3 py-2 ".toList ++
  "font-mono text-xs text-gray-400 whitespace-nowrap\">".toList

def statusClass (success : Bool) : List Char :=
  if success then "bg-emerald-950 text-emerald-300 border-emerald-800".toList
  else "bg-red-950 text-red-300 border-red-800".toList

def afterTimestamp (success : Bool) : List Char :=
  "</td>\n          <td class=\"px-3 py-2\"><span class=\"text-[10px] font-mono ".toList ++
  "uppercase tracking-wider px-2 py-0.5 rounded border ".toList ++ statusClass success ++
  "\">".toList

def afterType : List Char :=
  "</span></td>\n          <td class=\"px-3 py-2 text-sm text-gray-200\">".toList

def afterName : List Char :=
  "</td>\n          <td class=\"px-3 py-2 font-mono text-xs text-gray-500\">".toList

def afterNamespace : List Char :=
  "</td>\n          <td class=\"px-3 py-2 text-xs text-gray-400\">".toList

def rowEnd : List Char := "</td>\n        </tr>".toList

def noRecordedActions : List Char :=
  "<tr><td colspan=\"5\" class=\"px-3 py-8 text-center text-sm text-gray-500 italic\">".toList ++
  "No recorded actions yet. Lifecycle actions (approve, channel change, restart, ".toList ++
  "delete) appear here as they are performed.</td></tr>".toList

/-- The template literal of one event. -/
def row (e : AuditEvent) : List Piece :=
  [.literal rowStart, .substitution e.timestamp.toList,
    .literal (afterTimestamp e.success), .substitution e.type.toList,
    .literal afterType, .substitution e.name.toList,
    .literal afterName, .substitution e.nameSpace.toList,
    .literal afterNamespace, .substitution (orElse e.detail "").toList,
    .literal rowEnd]

def rows (events : List AuditEvent) : List Piece :=
  if events = [] then [.literal noRecordedActions] else events.flatMap row

/-- The HTML of the rows. -/
def rowsHTML (events : List AuditEvent) : List Char := render (rows events)

/-! ## Tags and text -/

/-- The HTML is read as the literals of the template with the fields as text. -/
def FieldsAsText (events : List AuditEvent) : Prop :=
  lexemes (rowsHTML events) = meaning (rows events)

/-- Neither of two logs puts markup into its rows. -/
structure NoInjection (events events' : List AuditEvent) : Prop where
  sameTags : tags (lexemes (rowsHTML events)) = tags (lexemes (rowsHTML events'))
  asText : FieldsAsText events
  asText' : FieldsAsText events'

def fields (e : AuditEvent) : List String := [e.timestamp, e.type, e.name, e.nameSpace, e.detail]

/-- No field has a `<` directly before a letter, `/`, `!` or `?`. -/
def PlainFields (events : List AuditEvent) : Prop :=
  ∀ e ∈ events, ∀ field ∈ fields e, Plain field.toList

theorem orElse_empty (s : String) : orElse s "" = s := by
  unfold orElse
  split
  · rename_i h
    exact h.symm
  · rfl

theorem closed_rowStart : Closed rowStart := by
  show Closed ((String.ofList _).toList ++ (String.ofList _).toList)
  simp only [String.toList_ofList]
  decide +kernel

theorem closed_afterTimestamp (success : Bool) : Closed (afterTimestamp success) := by
  unfold afterTimestamp statusClass
  cases success with
  | false =>
    rw [if_neg Bool.false_ne_true]
    show Closed ((String.ofList _).toList ++ (String.ofList _).toList ++
      (String.ofList _).toList ++ (String.ofList _).toList)
    simp only [String.toList_ofList]
    decide +kernel
  | true =>
    rw [if_pos rfl]
    show Closed ((String.ofList _).toList ++ (String.ofList _).toList ++
      (String.ofList _).toList ++ (String.ofList _).toList)
    simp only [String.toList_ofList]
    decide +kernel

theorem head_afterTimestamp (success : Bool) :
    (afterTimestamp success).head? = some '<' := by
  show ((String.ofList _).toList ++ (String.ofList _).toList ++ statusClass success ++
    (String.ofList _).toList).head? = some '<'
  rw [String.toList_ofList]
  simp only [List.cons_append, List.head?_cons]

theorem closed_noRecordedActions : Closed noRecordedActions := by
  show Closed ((String.ofList _).toList ++ (String.ofList _).toList ++ (String.ofList _).toList)
  simp only [String.toList_ofList]
  decide +kernel

theorem render_row (e : AuditEvent) :
    render (row e) =
      rowStart ++ (e.timestamp.toList ++ (afterTimestamp e.success ++ (e.type.toList ++
        (afterType ++ (e.name.toList ++ (afterName ++ (e.nameSpace.toList ++
          (afterNamespace ++ ((orElse e.detail "").toList ++ rowEnd))))))))) := by
  unfold row
  simp only [render_literal, render_substitution, render_nil, List.append_nil]

/-- Every field of a row stands where text stands. -/
theorem row_inText (e : AuditEvent) : InText (row e) := by
  refine .literal closed_rowStart ?_
  refine .substitution _ (head_afterTimestamp _) (closed_afterTimestamp _) ?_
  refine .substitution _ (head_ofList rfl) (closed_ofList (by decide +kernel)) ?_
  refine .substitution _ (head_ofList rfl) (closed_ofList (by decide +kernel)) ?_
  refine .substitution _ (head_ofList rfl) (closed_ofList (by decide +kernel)) ?_
  exact .substitution _ (head_ofList rfl) (closed_ofList (by decide +kernel)) .nil

theorem rows_inText (events : List AuditEvent) : InText (rows events) := by
  unfold rows
  split
  · exact .literal closed_noRecordedActions .nil
  · exact InText.flatMap row_inText events

theorem substitution_mem_row (e : AuditEvent) (s : List Char) :
    Piece.substitution s ∈ row e ↔ ∃ field ∈ fields e, field.toList = s := by
  unfold row fields
  rw [orElse_empty]
  simp only [List.mem_cons, reduceCtorEq, false_or, Piece.substitution.injEq, List.not_mem_nil,
    or_false, exists_eq_or_imp, exists_eq_left, eq_comm (a := s)]

theorem substitution_mem_rows (events : List AuditEvent) (s : List Char) :
    Piece.substitution s ∈ rows events ↔ ∃ e ∈ events, ∃ field ∈ fields e, field.toList = s := by
  unfold rows
  split
  · rename_i h
    subst h
    simp
  · simp only [List.mem_flatMap, substitution_mem_row]

theorem fieldsAsText_iff (events : List AuditEvent) :
    FieldsAsText events ↔ PlainFields events := by
  refine (lexemes_render_iff (rows_inText events)).trans ?_
  simp only [substitution_mem_rows, PlainFields]
  constructor
  · intro h e he field hfield
    exact h _ ⟨e, he, field, hfield, rfl⟩
  · intro h s hs
    obtain ⟨e, he, field, hfield, rfl⟩ := hs
    exact h e he field hfield

/-- The literals of a row, which depend on the success flag alone. -/
def rowLiterals (success : Bool) : List (List Char) :=
  [rowStart, afterTimestamp success, afterType, afterName, afterNamespace, rowEnd]

theorem literals_row (e : AuditEvent) : (row e).filterMap Piece.literal? = rowLiterals e.success :=
  rfl

theorem literals_rows {events events' : List AuditEvent}
    (hflags : events.map (·.success) = events'.map (·.success)) :
    (rows events).filterMap Piece.literal? = (rows events').filterMap Piece.literal? := by
  have hflat : ∀ es : List AuditEvent, (es.flatMap row).filterMap Piece.literal? =
      (es.map (·.success)).flatMap rowLiterals := by
    intro es
    rw [List.filterMap_flatMap, List.flatMap_map, funext literals_row]
  have hnil : events = [] ↔ events' = [] := by
    rw [← List.map_eq_nil_iff (f := fun e : AuditEvent => e.success), hflags,
      List.map_eq_nil_iff]
  unfold rows
  by_cases h : events = []
  · rw [if_pos h, if_pos (hnil.mp h)]
  · rw [if_neg h, if_neg fun h' => h (hnil.mpr h'), hflat, hflat, hflags]

/-- **The rows of an audit log hold no markup of its fields** exactly when all fields are
    plain. -/
theorem rows_markup_iff (events events' : List AuditEvent)
    (hflags : events.map (·.success) = events'.map (·.success)) :
    NoInjection events events' ↔ PlainFields events ∧ PlainFields events' := by
  constructor
  · intro h
    exact ⟨(fieldsAsText_iff events).mp h.asText, (fieldsAsText_iff events').mp h.asText'⟩
  · intro h
    have htext := (fieldsAsText_iff events).mpr h.1
    have htext' := (fieldsAsText_iff events').mpr h.2
    refine ⟨?_, htext, htext'⟩
    rw [htext, htext', tags_meaning, tags_meaning, literals_rows hflags]

/-! ### A channel that is markup -/

def changeCodec : Codec ChannelChange := ⟨fun _ => none, some, fun _ => true⟩

/-- A request to switch the channel of etcd; the API server accepts every write. -/
def switchEtcd (channel : String) : Server.Request ChannelChange where
  method := "POST"
  body := ⟨"team-a", "etcd", channel⟩
  now := "2024-05-01T10:00:00Z"
  api _ := snapshotClient fun _ => []

/-- What the page loads after the request. -/
def eventsAfter (channel : String) : List AuditEvent :=
  let auditLog := (handleChangeChannel changeCodec [] (switchEtcd channel)).auditLog
  loadedEvents (handleGetAuditEvents auditLog "" "").response

def imageChannel : String := "<img src=x onerror=alert(1)>"

/-- The image of `imageChannel`, which is a tag of the rows. -/
def injectedImage : Tag where
  isEnd := false
  name := "img".toList
  attributes := [("onerror".toList, "alert(1)".toList), ("src".toList, "x".toList)]
  selfClosing := false

/-- The event of the request, when it is accepted. -/
def channelEvent (channel : String) : AuditEvent :=
  ⟨"2024-05-01T10:00:00Z", "channel-change", "team-a", "etcd", "channel -> " ++ channel, true⟩

/-- Its row up to the channel. -/
def channelOpening : List Char :=
  rowStart ++ ("2024-05-01T10:00:00Z".toList ++ (afterTimestamp true ++
    ("channel-change".toList ++ (afterType ++ ("etcd".toList ++ (afterName ++
      ("team-a".toList ++ (afterNamespace ++ "channel -> ".toList))))))))

theorem closed_channelOpening : Closed channelOpening := by
  refine closed_append closed_rowStart ?_
  refine closed_append (closed_ofList (by decide +kernel)) ?_
  refine closed_append (closed_afterTimestamp true) ?_
  refine closed_append (closed_ofList (by decide +kernel)) ?_
  refine closed_append (closed_ofList (by decide +kernel)) ?_
  refine closed_append (closed_ofList (by decide +kernel)) ?_
  refine closed_append (closed_ofList (by decide +kernel)) ?_
  refine closed_append (closed_ofList (by decide +kernel)) ?_
  exact closed_append (closed_ofList (by decide +kernel)) (closed_ofList (by decide +kernel))

theorem rowsHTML_channelEvent (channel : String) :
    rowsHTML [channelEvent channel] = channelOpening ++ (channel.toList ++ rowEnd) := by
  have hrows : rows [channelEvent channel] = row (channelEvent channel) := by
    rw [rows, if_neg (List.cons_ne_nil _ _), List.flatMap_cons, List.flatMap_nil, List.append_nil]
  rw [rowsHTML, hrows, render_row, channelEvent, orElse_empty, String.toList_append]
  simp only [channelOpening, List.append_assoc]

/-- Behind the opening the tokenizer reads the channel as if the row began there. -/
theorem tags_rowsHTML {channel : String} (h : eventsAfter channel = [channelEvent channel]) :
    tags (lexemes (rowsHTML (eventsAfter channel))) =
      tags (lexemes channelOpening) ++ tags (lexemes (channel.toList ++ rowEnd)) := by
  rw [h, rowsHTML_channelEvent, lexemes_append_of_closed closed_channelOpening, tags_append]

/-- A request to switch to `imageChannel` puts an image that runs a script into the page; one
    to switch to `stable` does not. -/
theorem channel_injects_image :
    (eventsAfter imageChannel).map (·.success) = (eventsAfter "stable").map (·.success) ∧
      injectedImage ∈ tags (lexemes (rowsHTML (eventsAfter imageChannel))) ∧
      tags (lexemes (rowsHTML (eventsAfter imageChannel))) ≠
        tags (lexemes (rowsHTML (eventsAfter "stable"))) ∧
      ¬ FieldsAsText (eventsAfter imageChannel) := by
  have himage : eventsAfter imageChannel = [channelEvent imageChannel] := by decide +kernel
  have hstable : eventsAfter "stable" = [channelEvent "stable"] := by decide +kernel
  have hinjected : injectedImage ∈ tags (lexemes (imageChannel.toList ++ rowEnd)) := by
    decide +kernel
  have hplain : injectedImage ∉ tags (lexemes ("stable".toList ++ rowEnd)) := by decide +kernel
  refine ⟨by rw [himage, hstable]; rfl, ?_, ?_, ?_⟩
  · rw [tags_rowsHTML himage]
    exact List.mem_append_right _ hinjected
  · rw [tags_rowsHTML himage, tags_rowsHTML hstable]
    intro htags
    exact hplain (List.append_cancel_left htags ▸ hinjected)
  · rw [fieldsAsText_iff, PlainFields, himage]
    decide +kernel

theorem rows_markup_iff_etcd :
    NoInjection (eventsAfter "stable") (eventsAfter imageChannel) ↔
      PlainFields (eventsAfter "stable") ∧ PlainFields (eventsAfter imageChannel) :=
  rows_markup_iff _ _ (by decide +kernel)

end HybridOperator.Dashboard
