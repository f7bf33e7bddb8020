/-
# DatadogProvider.Mute — `mute_monitor` and `unmute_monitor`

Both actions call one monitor endpoint with the alert's groups joined into a
`scope` query parameter.  `mute_monitor` sends the wildcard group `*` as the
empty scope (the whole monitor); `unmute_monitor` sends the joined text as it
is.  The two agree on every groups list but `["*"]` (`unmuteMonitor_scope_eq`,
from `unmuteScope_eq_muteScope` and `join_eq_star_iff`), and `["*"]` is exactly
what `format_alert` makes of an alert posted with no scope
(`muteScope_formatAlert_groups`): unmuting that alert names the scope `*`,
muting it named the empty one (`unmute_wildcard_scope`).

Keep acts on an alert by its `monitor_id` and `groups`.  For an alert of the
poll path the monitor id is `str(id)` of the event's monitor, which the body
rendered, and `int(str(id))` is `id`: the actions never fail on the id, and address the event's monitor with
the event's groups (`monitorActions_polled_alert`).

`end` defaults to `datetime.now() + timedelta(days=1)`, a default Python
evaluates once, when the class body runs: `MuteEnv.defaultEnd`, set by
`MuteEnv.atLoad` from the load time.  A mute without `end` therefore ends a
day after loading, whenever it is called (`muteMonitor_default_end`,
`mute_default_end_at_load`).
-/
import DatadogProvider.FormatAlert
import DatadogProvider.GetAlerts

namespace Keep.DatadogProvider

set_option autoImplicit false

/-- A monitor endpoint call, as `Endpoint.call_with_http_info` sends it. -/
structure MonitorCall where
  endpointPath : Str
  monitorId : Int
  scope : Str
  endTime : Option Int
  deriving DecidableEq, Repr

/-- The `end` argument of `mute_monitor`: a datetime, by its timestamp, or a string. -/
inductive MuteEnd
  | datetime (timestamp : ℚ)
  | iso (text : Str)
  deriving DecidableEq, Repr

/-- What `mute_monitor` reads from outside `src/`. -/
structure MuteEnv where
  /-- The timestamp of the default `end`, fixed when the class body ran. -/
  defaultEnd : ℚ
  /-- `datetime.fromisoformat(text).timestamp()`; `none` where it raises. -/
  fromisoformat : Str → Option ℚ

/-- The environment of a provider whose module was loaded at `loadedAt`: the class
body evaluated the default `end` then, as `datetime.now() + timedelta(days=1)`
(line 177). -/
def MuteEnv.atLoad (loadedAt : ℚ) (fromisoformat : Str → Option ℚ) : MuteEnv :=
  ⟨loadedAt + 86400, fromisoformat⟩

/-- `int(monitor_id)`. -/
def parseMonitorId (monitorId : Str) : Except PyError Int :=
  match parseInt monitorId with
  | some n => .ok n
  | none => .error .valueError

/-- The scope `mute_monitor` sends for `groups` (lines 184–186). -/
def muteScope (groups : List Str) : Str :=
  let groups := join ',' groups
  if groups = "*".toList then [] else groups

/-- The scope `unmute_monitor` sends for `groups` (line 236). -/
def unmuteScope (groups : List Str) : Str := join ',' groups

/-- The timestamp of `end` (lines 178–182): the default, a datetime, or an ISO string. -/
def MuteEnd.timestamp (env : MuteEnv) : Option MuteEnd → Except PyError ℚ
  | none => .ok env.defaultEnd
  | some (.datetime t) => .ok t
  | some (.iso text) => match env.fromisoformat text with
    | some t => .ok t
    | none => .error .valueError

/-- `mute_monitor(monitor_id, groups, end)`. -/
def muteMonitor (env : MuteEnv) (monitorId : Str) (groups : List Str) (end? : Option MuteEnd) :
    Except PyError MonitorCall := do
  let endTs ← MuteEnd.timestamp env end?
  let id ← parseMonitorId monitorId
  pure { endpointPath := "/api/v1/monitor/{monitor_id}/mute".toList, monitorId := id,
         scope := muteScope groups, endTime := some (truncate endTs) }

/-- `unmute_monitor(monitor_id, groups)`. -/
def unmuteMonitor (monitorId : Str) (groups : List Str) : Except PyError MonitorCall := do
  let id ← parseMonitorId monitorId
  pure { endpointPath := "/api/v1/monitor/{monitor_id}/unmute".toList, monitorId := id,
         scope := unmuteScope groups, endTime := none }

theorem muteMonitor_ok {env : MuteEnv} {monitorId : Str} {groups : List Str}
    {end? : Option MuteEnd} {call : MonitorCall} (h : muteMonitor env monitorId groups end? = .ok call) :
    parseMonitorId monitorId = .ok call.monitorId ∧ call.scope = muteScope groups := by
  simp only [muteMonitor, bind_eq_ok] at h
  obtain ⟨t, -, id, hid, h⟩ := h
  cases h
  exact ⟨hid, rfl⟩

theorem unmuteMonitor_ok {monitorId : Str} {groups : List Str} {call : MonitorCall}
    (h : unmuteMonitor monitorId groups = .ok call) :
    parseMonitorId monitorId = .ok call.monitorId ∧ call.scope = unmuteScope groups := by
  simp only [unmuteMonitor, bind_eq_ok] at h
  obtain ⟨id, hid, h⟩ := h
  cases h
  exact ⟨hid, rfl⟩

/-- A mute without `end` ends a day after the module was loaded: the call time
never enters. -/
theorem muteMonitor_default_end {loadedAt : ℚ} {fromisoformat : Str → Option ℚ}
    {monitorId : Str} {groups : List Str} {call : MonitorCall}
    (h : muteMonitor (MuteEnv.atLoad loadedAt fromisoformat) monitorId groups none = .ok call) :
    call.endTime = some (truncate (loadedAt + 86400)) := by
  simp only [muteMonitor, bind_eq_ok] at h
  obtain ⟨t, ht, id, -, h⟩ := h
  cases h
  cases ht
  rfl

/-- Loaded at the epoch and called two days later without `end`, the provider
sends the end `86400`, a day before the call, where a day after the call is
`259200`. -/
theorem mute_default_end_at_load (fromisoformat : Str → Option ℚ) :
    (muteMonitor (MuteEnv.atLoad 0 fromisoformat) "7".toList [] none).map (·.endTime) =
      .ok (some 86400) ∧ truncate (172800 + 86400) = 259200 := by
  have hid : parseMonitorId "7".toList = .ok 7 := by
    rw [parseMonitorId, parseInt_digits (by decide) (by decide) (by decide)]
    rfl
  have hend : truncate (0 + 86400) = 86400 := by with_unfolding_all decide
  refine ⟨?_, by with_unfolding_all decide⟩
  simp only [muteMonitor, MuteEnd.timestamp, MuteEnv.atLoad, ok_bind, hid, hend]
  rfl

/-! ## The two scopes -/

/-- A groups list joins to `*` only when it is `["*"]`. -/
theorem join_eq_star_iff (groups : List Str) : join ',' groups = "*".toList ↔ groups = ["*".toList] := by
  constructor
  · intro h
    match groups, h with
    | [s], h => simp_all
    | a :: b :: rest, h =>
        have : ',' ∈ join ',' (a :: b :: rest) := by simp [join, List.intercalate]
        simp [h] at this
  · rintro rfl
    rfl

/-- Mute and unmute send the same scope for every groups list but `["*"]`. -/
theorem unmuteScope_eq_muteScope {groups : List Str} (h : groups ≠ ["*".toList]) :
    unmuteScope groups = muteScope groups := by
  show join ',' groups = if join ',' groups = "*".toList then [] else join ',' groups
  rw [if_neg ((join_eq_star_iff groups).not.mpr h)]

/-- `mute_monitor` and `unmute_monitor` of one monitor and groups list address the
same monitor with the same scope, unless the groups are `["*"]`. -/
theorem unmuteMonitor_scope_eq {env : MuteEnv} {monitorId : Str} {groups : List Str}
    {end? : Option MuteEnd} {mute unmute : MonitorCall}
    (hm : muteMonitor env monitorId groups end? = .ok mute)
    (hu : unmuteMonitor monitorId groups = .ok unmute) (hg : groups ≠ ["*".toList]) :
    unmute.monitorId = mute.monitorId ∧ unmute.scope = mute.scope := by
  obtain ⟨hid, hscope⟩ := muteMonitor_ok hm
  obtain ⟨hid', hscope'⟩ := unmuteMonitor_ok hu
  refine ⟨Except.ok.inj (hid'.symm.trans hid), ?_⟩
  rw [hscope, hscope', unmuteScope_eq_muteScope hg]

/-- The mute scope of a webhook alert's groups is the posted scope text, for every
scope text but `*`; an empty one (`groups = ["*"]`) mutes the whole monitor. -/
theorem muteScope_formatAlert_groups {host : Host} {event event' : Payload} {a : AlertDto}
    {s : Str} (hs : dictGet event "scopes".toList (.str []) = .str s) (hstar : s ≠ "*".toList)
    (h : formatAlert host event = .ok (a, event')) : muteScope a.groups = s := by
  have hg := (formatAlert_ok h).1.groups
  rw [hs] at hg
  by_cases he : s = []
  · subst he
    have : a.groups = ["*".toList] := by simpa [webhookGroups, PyVal.truthy] using hg.symm
    rw [this]
    rfl
  · have : a.groups = s.splitOn ',' := by
      simpa [webhookGroups, PyVal.truthy, PyVal.split, he] using hg.symm
    rw [this, muteScope, join_splitOn, if_neg hstar]

/-- The failing input: the groups `["*"]` of an alert posted with no scope. -/
theorem unmute_wildcard_scope (env : MuteEnv) :
    (muteMonitor env "7".toList ["*".toList] none).map (·.scope) = .ok [] ∧
      (unmuteMonitor "7".toList ["*".toList]).map (·.scope) = .ok "*".toList := by
  constructor <;> rfl

/-! ## Acting on a polled alert -/

/-- `int(monitor_id)` of the text the poll path stores, `str(id)`. -/
theorem parseMonitorId_of_strInt {id : Int} {s : Str} (h : strInt id = .ok s) :
    parseMonitorId s = .ok id := by
  rw [parseMonitorId, parseInt_strInt h]

/-- Keep's mute and unmute actions on a polled alert, given its `monitor_id` and
`groups`, address the monitor of the event the alert came from, with the event's
groups: the mute for every `end` that converts, the unmute always. -/
theorem monitorActions_polled_alert {host : Host} {monitors : List Monitor} {events : List Event}
    {a : AlertDto} (h : a ∈ getAlerts host monitors events) :
    ∃ event ∈ events, ∃ id monitorId, event.monitorId = some id ∧ a.monitorId = some monitorId ∧
      (∀ env end? t, MuteEnd.timestamp env end? = .ok t →
        muteMonitor env monitorId a.groups end? =
          .ok ⟨"/api/v1/monitor/{monitor_id}/mute".toList, id, muteScope event.monitorGroups,
            some (truncate t)⟩) ∧
      unmuteMonitor monitorId a.groups =
        .ok ⟨"/api/v1/monitor/{monitor_id}/unmute".toList, id, unmuteScope event.monitorGroups, none⟩ := by
  obtain ⟨event, he, hok⟩ := getAlerts_monitor_listed h
  obtain ⟨id, -, hid, -⟩ := hok.monitor
  obtain ⟨s, hs⟩ := hok.parses.monitorId id (by simp [hid])
  have hid' := parseMonitorId_of_strInt hs
  rw [(strInt_eq_ok.mp hs).2] at hid'
  refine ⟨event, he, id, _, hid, by rw [hok.monitorId, hid]; rfl, fun env end? t ht => ?_, ?_⟩
  · simp only [muteMonitor, ht, hid', hok.groups, ok_bind]
    rfl
  · simp only [unmuteMonitor, hid', hok.groups, ok_bind]
    rfl

theorem monitorActions_polled_alert_downtimed :
    ∃ a, a ∈ getAlerts epochHost [downtimedMonitor] [reorderedEvent] ∧
      ∃ event ∈ [reorderedEvent], ∃ id monitorId, event.monitorId = some id ∧
        a.monitorId = some monitorId ∧
        (∀ env end? t, MuteEnd.timestamp env end? = .ok t →
          muteMonitor env monitorId a.groups end? =
            .ok ⟨"/api/v1/monitor/{monitor_id}/mute".toList, id, muteScope event.monitorGroups,
              some (truncate t)⟩) ∧
        unmuteMonitor monitorId a.groups =
          .ok ⟨"/api/v1/monitor/{monitor_id}/unmute".toList, id, unmuteScope event.monitorGroups,
            none⟩ := by
  obtain ⟨a, ha⟩ : ∃ a, normalizeEvent epochHost (monitorMap [downtimedMonitor]) reorderedEvent =
      .ok a := ⟨_, rfl⟩
  exact ⟨a, mem_getAlerts_of_ok ha, monitorActions_polled_alert (mem_getAlerts_of_ok ha)⟩

end Keep.DatadogProvider
