/-
# DatadogProvider.GetAlerts — the poll path

`_get_alerts` fetches the monitors once, then runs one `try` body per polled
event (`normalizeEvent`), keeping the alerts of the bodies that did not raise.
The loop is `List.filterMap` of the body, so an event's alert never depends on
the other events (`getAlerts_append`).

* `normalizeEvent_ok`: what a successful body says about its alert.
* `normalizeEvent_isOk_iff`: the body succeeds exactly when the title splits
  into three parts, the date converts, and the monitor map holds the event's
  monitor — a missing monitor raises at `monitor.matching_downtimes`, before
  the `created_by` guard that was written for it is reached.
* `getAlerts_status`: the status is `"Muted"` when some downtime's `groups`
  equals the event's `monitor_groups` as a list, or its scope is `["*"]`;
  otherwise it is the title's status token.  Order and repetition count
  (`muted_status_not_set_equality`).
* `getAlerts_unlisted_monitor`: an event whose monitor is not in the map yields
  no alert at all.

`get_monitor_events(monitor_id)` keeps the events whose `str(event.monitor_id)`
is `str(monitor_id)`: asked by the decimal text of an id, it returns exactly the
events of that monitor, and asked by `"None"`, the events of no monitor
(`getMonitorEvents_toString`).
-/
import DatadogProvider.FormatAlert
import DatadogProvider.Vendor

namespace Keep.DatadogProvider

set_option autoImplicit false

/-- Lines 474–480: the tag dict of a polled event, from its tags holding `:`. -/
def pollTags (tags : List Str) : Except PyError (PyDict Str Str) := do
  let pairs ← (tags.filter fun tag => decide (':' ∈ tag)).mapM fun tag =>
    unpack2 (splitMax ':' 1 tag)
  pure (dictOf pairs)

/-- Lines 490–497: `is_muted`; `monitor.matching_downtimes` raises on a missing monitor. -/
def isMuted (monitor : Option Monitor) (groups : List Str) : Except PyError Bool :=
  match monitor with
  | none => .error .attributeError
  | some monitor => .ok (monitor.matchingDowntimes.any fun downtime =>
      downtime.groups = groups || downtime.scope = ["*".toList])

/-- `event.monitor_id`, which raises on an event without the attribute. -/
def Event.monitorIdAttr (event : Event) : Except PyError (Option Int) :=
  if event.hasMonitorId then .ok event.monitorId else .error .attributeError

/-- Lines 510–512: `monitor.creator.email if monitor and monitor.creator else None`;
`monitor.creator` raises on a monitor without the attribute. -/
def createdByOf : Option Monitor → Except PyError (Option Str)
  | none => .ok none
  | some monitor =>
      if monitor.hasCreator then .ok (monitor.creator.map (·.email)) else .error .attributeError

/-- The body of the `try` in `_get_alerts` (lines 474–517): one event's alert. -/
def normalizeEvent (host : Host) (allMonitors : PyDict Int Monitor) (event : Event) :
    Except PyError AlertDto := do
  let tags ← pollTags event.tags
  let (severity, status, title) ← splitTitle event.title
  let severity := getParsedSeverity (.str (stripBrackets severity))
  let status := stripBrackets status
  let received ← host.datetimeOf event.dateHappened
  let eventMonitorId ← event.monitorIdAttr
  let monitor := eventMonitorId.bind (dictLookup allMonitors)
  let muted ← isMuted monitor event.monitorGroups
  let id ← (PyVal.int event.id).asText
  let monitorId ← ((eventMonitorId.map PyVal.int).getD .none).asText
  let createdBy ← createdByOf monitor
  let alert : AlertDto :=
    { id, name := title, status := if !muted then status else "Muted".toList,
      lastReceived := received.isoformat, severity, message := some event.text, monitorId,
      groups := event.monitorGroups, source := ["datadog".toList], tags, createdBy,
      url := none, fingerprint := none }
  pure (alert.withFingerprint host)

/-- `{monitor.id: monitor for monitor in monitors_api.list_monitors(with_downtimes=True)}`. -/
def monitorMap (monitors : List Monitor) : PyDict Int Monitor :=
  dictOf (monitors.map fun monitor => (monitor.id, monitor))

/-- The alerts `_get_alerts` returns when it returns (`alertLoop_eq`), given what
`list_monitors` and `list_events` returned: those of the events whose body
succeeds, in order. -/
def getAlerts (host : Host) (monitors : List Monitor) (events : List Event) : List AlertDto :=
  events.filterMap fun event => (normalizeEvent host (monitorMap monitors) event).toOption

/-- The loop of `_get_alerts` (lines 472–523) with its handler: an event whose body
raised is logged with `event.monitor_id`, which raises again, out of the loop,
for an event without the attribute. -/
def alertLoop (host : Host) (allMonitors : PyDict Int Monitor) :
    List Event → Except PyError (List AlertDto)
  | [] => .ok []
  | event :: events =>
      match normalizeEvent host allMonitors event with
      | .ok alert => (alert :: ·) <$> alertLoop host allMonitors events
      | .error _ => do
          let _ ← event.monitorIdAttr
          alertLoop host allMonitors events

/-! ## One event -/

/-- `":" in tag` holds for the tags the comprehension keeps, so each one splits in two. -/
theorem unpack2_splitMax_of_mem {c : Char} {s : Str} (h : c ∈ s) :
    ∃ a b, unpack2 (splitMax c 1 s) = .ok (a, b) := by
  induction s with
  | nil => simp at h
  | cons x s ih =>
      by_cases hx : x = c
      · exact ⟨[], s, by simp [splitMax, hx, unpack2]⟩
      · obtain ⟨a, b, hab⟩ := ih ((List.mem_cons.mp h).resolve_left fun h => hx h.symm)
        refine ⟨x :: a, b, ?_⟩
        simp only [splitMax, if_neg hx]
        match hm : splitMax c 1 s, hab with
        | [a', b'], hab => simp_all [unpack2]

/-- The tag line of the poll path never raises. -/
theorem pollTags_isOk (tags : List Str) : ∃ d, pollTags tags = .ok d := by
  suffices ∀ ts : List Str, (∀ t ∈ ts, ':' ∈ t) →
      ∃ pairs, ts.mapM (fun tag => unpack2 (splitMax ':' 1 tag)) = .ok pairs by
    obtain ⟨pairs, hp⟩ := this (tags.filter fun tag => decide (':' ∈ tag))
      (fun t ht => by simpa using (List.mem_filter.mp ht).2)
    exact ⟨dictOf pairs, by simp only [pollTags, hp, ok_bind]; rfl⟩
  intro ts hts
  induction ts with
  | nil => exact ⟨[], rfl⟩
  | cons t ts ih =>
      obtain ⟨a, b, hab⟩ := unpack2_splitMax_of_mem (hts t (List.mem_cons_self t ts))
      obtain ⟨pairs, hp⟩ := ih fun t' ht' => hts t' (List.mem_cons_of_mem t ht')
      exact ⟨(a, b) :: pairs, by simp only [List.mapM_cons, hab, hp, ok_bind]; rfl⟩

theorem isMuted_ok {monitor : Option Monitor} {groups : List Str} {muted : Bool}
    (h : isMuted monitor groups = .ok muted) :
    ∃ m, monitor = some m ∧ muted = m.matchingDowntimes.any fun downtime =>
      downtime.groups = groups || downtime.scope = ["*".toList] := by
  cases monitor <;> simp_all [isMuted]

theorem Event.monitorIdAttr_eq_ok {event : Event} {o : Option Int} :
    event.monitorIdAttr = .ok o ↔ event.hasMonitorId = true ∧ o = event.monitorId := by
  unfold Event.monitorIdAttr
  cases event.hasMonitorId <;> simp [@eq_comm _ o]

theorem createdByOf_some_eq_ok {monitor : Monitor} {c : Option Str} :
    createdByOf (some monitor) = .ok c ↔
      monitor.hasCreator = true ∧ c = monitor.creator.map (·.email) := by
  simp only [createdByOf]
  cases monitor.hasCreator <;> simp [@eq_comm _ c]

theorem asText_int_eq_ok {n : Int} {o : Option Str} :
    (PyVal.int n).asText = .ok o ↔ ∃ s, strInt n = .ok s ∧ o = some s := by
  cases h : strInt n <;> simp [PyVal.asText, h, Except.map, eq_comm]

/-- What the body needs of the event alone: a title that splits in three, a date
the host converts, the `monitor_id` attribute, and ids that `str()` renders. -/
structure Event.Parses (host : Host) (event : Event) : Prop where
  title : ∃ t, splitTitle event.title = .ok t
  time : (host.fromtimestamp event.dateHappened).isSome
  hasMonitorId : event.hasMonitorId = true
  id : ∃ s, strInt event.id = .ok s
  monitorId : ∀ id ∈ event.monitorId, ∃ s, strInt id = .ok s

/-- The fields of a successful body, read from the event and its monitor. -/
structure NormalizeEventOk (host : Host) (allMonitors : PyDict Int Monitor) (event : Event)
    (a : AlertDto) : Prop where
  parses : event.Parses host
  monitor : ∃ id monitor, event.monitorId = some id ∧ dictLookup allMonitors id = some monitor ∧
    a.createdBy = monitor.creator.map (·.email) ∧
    ∃ severity status, splitTitle event.title = .ok (severity, status, a.name) ∧
      a.severity = getParsedSeverity (.str (stripBrackets severity)) ∧
      a.status = if monitor.matchingDowntimes.any (fun downtime =>
          downtime.groups = event.monitorGroups || downtime.scope = ["*".toList])
        then "Muted".toList else stripBrackets status
  hasCreator : ∀ monitor, event.monitorId.bind (dictLookup allMonitors) = some monitor →
    monitor.hasCreator = true
  time : ∃ dt, host.fromtimestamp event.dateHappened = some dt ∧ a.lastReceived = dt.isoformat
  groups : a.groups = event.monitorGroups
  monitorId : a.monitorId = event.monitorId.map fun id => (toString id).toList
  tags : pollTags event.tags = .ok a.tags
  fingerprint : a.fingerprint = some (getAlertFingerprint host a fingerprintFields)

theorem normalizeEvent_ok {host : Host} {allMonitors : PyDict Int Monitor} {event : Event}
    {a : AlertDto} (h : normalizeEvent host allMonitors event = .ok a) :
    NormalizeEventOk host allMonitors event a := by
  simp only [normalizeEvent, bind_eq_ok] at h
  obtain ⟨tags, htags, ⟨severity, status, title⟩, htitle, h⟩ := h
  simp only [bind_eq_ok] at h
  obtain ⟨dt, hdt, o, ho, muted, hmuted, id, hid, monitorId, hmid, createdBy, hc, h⟩ := h
  cases h
  obtain ⟨hattr, rfl⟩ := Event.monitorIdAttr_eq_ok.mp ho
  obtain ⟨monitor, hbind, rfl⟩ := isMuted_ok hmuted
  obtain ⟨mid, hm, hmon⟩ := Option.bind_eq_some.mp hbind
  rw [hbind] at hc
  obtain ⟨hcr, rfl⟩ := createdByOf_some_eq_ok.mp hc
  obtain ⟨s, hs, -⟩ := asText_int_eq_ok.mp hid
  rw [hm] at hmid
  obtain ⟨s', hs', rfl⟩ := asText_int_eq_ok.mp hmid
  have hdt' := Host.datetimeOf_eq_ok.mp hdt
  refine ⟨⟨⟨_, htitle⟩, by simp [hdt'], hattr, ⟨s, hs⟩, fun i hi => ?_⟩,
    ⟨mid, monitor, hm, hmon, rfl, severity, status, htitle, rfl, ?_⟩, fun m hm' => ?_,
    ⟨dt, hdt', rfl⟩, rfl, ?_, htags, withFingerprint_fingerprint host _⟩
  · rw [hm, Option.mem_some_iff] at hi
    exact hi ▸ ⟨s', hs'⟩
  · simp only [withFingerprint_status]
    cases monitor.matchingDowntimes.any _ <;> rfl
  · rw [hbind, Option.some.injEq] at hm'
    exact hm' ▸ hcr
  · simp [hm, (strInt_eq_ok.mp hs').2]

/-- When the body of the loop succeeds: the event parses, and the monitor map holds
the event's monitor, with its `creator` attribute. -/
theorem normalizeEvent_isOk_iff (host : Host) (allMonitors : PyDict Int Monitor) (event : Event) :
    (∃ a, normalizeEvent host allMonitors event = .ok a) ↔
      event.Parses host ∧ ∃ id monitor, event.monitorId = some id ∧
        dictLookup allMonitors id = some monitor ∧ monitor.hasCreator = true := by
  constructor
  · rintro ⟨a, h⟩
    have hok := normalizeEvent_ok h
    obtain ⟨id, monitor, hid, hmon, -⟩ := hok.monitor
    exact ⟨hok.parses, id, monitor, hid, hmon, hok.hasCreator monitor (by simp [hid, hmon])⟩
  · rintro ⟨⟨⟨⟨severity, status, title⟩, htitle⟩, htime, hattr, ⟨s, hs⟩, hmid⟩, id, monitor, hid, hmon,
      hcr⟩
    obtain ⟨tags, htags⟩ := pollTags_isOk event.tags
    obtain ⟨dt, hdt⟩ := Option.isSome_iff_exists.mp htime
    obtain ⟨s', hs'⟩ := hmid id (by simp [hid])
    simp only [normalizeEvent, htags, htitle, Host.datetimeOf, hdt, Event.monitorIdAttr, hattr, hid,
      if_true, Option.some_bind, hmon, isMuted, createdByOf, hcr, ok_bind, Option.map_some',
      Option.getD_some, PyVal.asText, hs, hs', Except.map]
    exact ⟨_, rfl⟩

/-- An event without the `monitor_id` attribute makes the body raise. -/
theorem normalizeEvent_of_not_hasMonitorId {host : Host} {allMonitors : PyDict Int Monitor}
    {event : Event} (h : event.hasMonitorId = false) :
    ∃ e, normalizeEvent host allMonitors event = .error e := by
  cases hn : normalizeEvent host allMonitors event with
  | error e => exact ⟨e, rfl⟩
  | ok a => exact absurd (normalizeEvent_ok hn).parses.hasMonitorId (by simp [h])

/-! ## The loop -/

/-- Events are normalized independently: the alerts of a batch are the alerts of
its parts, in order. -/
theorem getAlerts_append (host : Host) (monitors : List Monitor) (es es' : List Event) :
    getAlerts host monitors (es ++ es') = getAlerts host monitors es ++ getAlerts host monitors es' :=
  List.filterMap_append _ _ _

theorem getAlerts_cons (host : Host) (monitors : List Monitor) (e : Event) (es : List Event) :
    getAlerts host monitors (e :: es) =
      (normalizeEvent host (monitorMap monitors) e).toOption.toList ++ getAlerts host monitors es := by
  cases h : normalizeEvent host (monitorMap monitors) e <;> simp [getAlerts, h, Except.toOption]

/-- `_get_alerts` returns the alerts of `getAlerts` when every event has its
`monitor_id` attribute; otherwise the handler's log line raises. -/
theorem alertLoop_eq (host : Host) (monitors : List Monitor) (events : List Event) :
    alertLoop host (monitorMap monitors) events =
      if ∀ e ∈ events, e.hasMonitorId = true then .ok (getAlerts host monitors events)
      else .error .attributeError := by
  induction events with
  | nil => rfl
  | cons event events ih =>
      by_cases hattr : event.hasMonitorId = true
      · cases hn : normalizeEvent host (monitorMap monitors) event <;>
          simp only [alertLoop, hn, ih, getAlerts_cons, Event.monitorIdAttr, hattr, List.forall_mem_cons,
            true_and, if_true, ok_bind] <;>
          split <;> rfl
      · obtain ⟨e, hn⟩ : ∃ e, normalizeEvent host (monitorMap monitors) event = .error e :=
          normalizeEvent_of_not_hasMonitorId (Bool.eq_false_iff.mpr hattr)
        simp [alertLoop, hn, Event.monitorIdAttr, hattr]

theorem mem_getAlerts_of_ok {host : Host} {monitors : List Monitor} {event : Event} {a : AlertDto}
    (h : normalizeEvent host (monitorMap monitors) event = .ok a) :
    a ∈ getAlerts host monitors [event] := by
  simp only [getAlerts, List.filterMap_cons, List.filterMap_nil, h]
  exact List.mem_singleton_self a

theorem mem_getAlerts_iff {host : Host} {monitors : List Monitor} {events : List Event}
    {a : AlertDto} :
    a ∈ getAlerts host monitors events ↔
      ∃ event ∈ events, normalizeEvent host (monitorMap monitors) event = .ok a := by
  simp only [getAlerts, List.mem_filterMap]
  refine exists_congr fun event => and_congr_right fun _ => ?_
  cases normalizeEvent host (monitorMap monitors) event <;> simp [Except.toOption]

/-- Every alert of the poll path comes from an event whose monitor was listed. -/
theorem getAlerts_monitor_listed {host : Host} {monitors : List Monitor} {events : List Event}
    {a : AlertDto} (h : a ∈ getAlerts host monitors events) :
    ∃ event ∈ events, NormalizeEventOk host (monitorMap monitors) event a := by
  obtain ⟨event, he, hok⟩ := List.mem_filterMap.mp h
  refine ⟨event, he, normalizeEvent_ok ?_⟩
  cases hn : normalizeEvent host (monitorMap monitors) event <;> simp_all [Except.toOption]

theorem monitorMap_lookup {monitors : List Monitor} {id : Int} {monitor : Monitor}
    (h : dictLookup (monitorMap monitors) id = some monitor) : monitor ∈ monitors ∧ monitor.id = id := by
  rw [monitorMap, dictLookup_dictOf] at h
  have := List.mem_reverse.mp (mem_of_dictLookup_eq_some h)
  obtain ⟨m, hm, hm'⟩ := List.mem_map.mp this
  cases hm'
  exact ⟨hm, rfl⟩

/-! ## Muted status -/

/-- A monitor with a downtime for the groups `a, b`. -/
def downtimedMonitor : Monitor :=
  { id := 7, message := [], creator := none,
    matchingDowntimes := [⟨["a".toList, "b".toList], ["a".toList, "b".toList]⟩] }

/-- An alert of `downtimedMonitor` whose groups come in the other order. -/
def reorderedEvent : Event :=
  { id := 1, title := "[P1] [Alert] CPU high".toList, text := [], tags := [], dateHappened := 0,
    monitorId := some 7, monitorGroups := ["b".toList, "a".toList] }

/-- The status of a polled alert: `"Muted"` when a downtime of the event's monitor
has the event's groups, as a list, or the scope `["*"]`; else the title's status. -/
theorem getAlerts_status {host : Host} {monitors : List Monitor} {events : List Event}
    {a : AlertDto} (h : a ∈ getAlerts host monitors events) :
    ∃ event ∈ events, ∃ monitor ∈ monitors, event.monitorId = some monitor.id ∧
      ∃ severity status, splitTitle event.title = .ok (severity, status, a.name) ∧
        a.status = if ∃ d ∈ monitor.matchingDowntimes,
            d.groups = event.monitorGroups ∨ d.scope = ["*".toList]
          then "Muted".toList else stripBrackets status := by
  obtain ⟨event, he, hok⟩ := getAlerts_monitor_listed h
  obtain ⟨id, monitor, hid, hmon, -, severity, status, htitle, -, hstatus⟩ := hok.monitor
  obtain ⟨hmem, rfl⟩ := monitorMap_lookup hmon
  refine ⟨event, he, monitor, hmem, hid, severity, status, htitle, ?_⟩
  simpa [List.any_eq_true] using hstatus

theorem getAlerts_status_downtimed :
    ∃ a, a ∈ getAlerts epochHost [downtimedMonitor] [reorderedEvent] ∧
      ∃ event ∈ [reorderedEvent], ∃ monitor ∈ [downtimedMonitor], event.monitorId = some monitor.id ∧
        ∃ severity status, splitTitle event.title = .ok (severity, status, a.name) ∧
          a.status = if ∃ d ∈ monitor.matchingDowntimes,
              d.groups = event.monitorGroups ∨ d.scope = ["*".toList]
            then "Muted".toList else stripBrackets status := by
  obtain ⟨a, ha⟩ : ∃ a, normalizeEvent epochHost (monitorMap [downtimedMonitor]) reorderedEvent =
      .ok a := ⟨_, rfl⟩
  exact ⟨a, mem_getAlerts_of_ok ha, getAlerts_status (mem_getAlerts_of_ok ha)⟩

theorem muted_status_not_set_equality :
    ¬ ∀ (host : Host) (monitor : Monitor) (event : Event) (a : AlertDto),
      event.monitorId = some monitor.id → a ∈ getAlerts host [monitor] [event] →
        (a.status = "Muted".toList ↔ ∃ d ∈ monitor.matchingDowntimes,
          d.scope = ["*".toList] ∨ ∀ x, x ∈ d.groups ↔ x ∈ event.monitorGroups) := by
  intro h
  obtain ⟨a, ha, hstatus⟩ : ∃ a, normalizeEvent epochHost (monitorMap [downtimedMonitor])
      reorderedEvent = .ok a ∧ a.status = "Alert".toList := ⟨_, rfl, rfl⟩
  have hset := (h epochHost downtimedMonitor reorderedEvent a rfl (mem_getAlerts_of_ok ha)).mpr
    ⟨_, List.mem_singleton_self _, .inr fun x => by simp [downtimedMonitor, reorderedEvent, or_comm]⟩
  rw [hstatus] at hset
  exact absurd hset (by decide)

/-! ## Events of unlisted monitors -/

/-- An event whose monitor is not listed (deleted since, say) yields no alert: the
body raises at `monitor.matching_downtimes` before `created_by` tests `monitor`. -/
theorem getAlerts_unlisted_monitor (host : Host) (monitors : List Monitor) (event : Event)
    (h : ∀ monitor ∈ monitors, event.monitorId ≠ some monitor.id) :
    getAlerts host monitors [event] = [] := by
  cases hn : normalizeEvent host (monitorMap monitors) event with
  | error e => simp [getAlerts, hn, Except.toOption]
  | ok a =>
      obtain ⟨id, monitor, hid, hmon, -⟩ := (normalizeEvent_ok hn).monitor
      obtain ⟨hmem, rfl⟩ := monitorMap_lookup hmon
      exact absurd hid (h monitor hmem)

/-- The event of a monitor deleted since it fired: well-formed title and date, no alert. -/
theorem getAlerts_deleted_monitor (host : Host) : getAlerts host [] [reorderedEvent] = [] :=
  getAlerts_unlisted_monitor host [] reorderedEvent (by simp)

/-! ## Two polls of one event -/

theorem monitorMap_lookup_of_mem {monitors : List Monitor} {m : Monitor} (hm : m ∈ monitors) :
    ∃ m', dictLookup (monitorMap monitors) m.id = some m' := by
  rw [monitorMap, dictLookup_dictOf]
  have hmem : (m.id, m) ∈ (monitors.map fun monitor => (monitor.id, monitor)).reverse :=
    List.mem_reverse.mpr (List.mem_map_of_mem _ hm)
  generalize (monitors.map fun monitor => (monitor.id, monitor)).reverse = pairs at hmem
  induction pairs with
  | nil => exact absurd hmem (List.not_mem_nil _)
  | cons e pairs ih =>
      obtain ⟨j, w⟩ := e
      by_cases hj : m.id = j
      · exact ⟨w, by simp [hj]⟩
      · rw [dictLookup_cons, if_neg hj]
        exact ih ((List.mem_cons.mp hmem).resolve_left fun h => hj (Prod.mk.inj h).1)

/-- Two polls of one event differ at most in status and creator: the monitors enter
the alert through its downtimes and its creator only. -/
theorem normalizeEvent_congr {host : Host} {allMonitors allMonitors' : PyDict Int Monitor}
    {event : Event} {a a' : AlertDto} (h : normalizeEvent host allMonitors event = .ok a)
    (h' : normalizeEvent host allMonitors' event = .ok a') :
    { a with status := a'.status, createdBy := a'.createdBy } = a' := by
  simp only [normalizeEvent, bind_eq_ok] at h h'
  obtain ⟨tags, ht, ⟨severity, status, title⟩, hti, dt, hdt, o, ho, muted, -, id, hid, monitorId,
    hmid, createdBy, -, h⟩ := h
  obtain ⟨tags', ht', ⟨severity', status', title'⟩, hti', dt', hdt', o', ho', muted', -, id', hid',
    monitorId', hmid', createdBy', -, h'⟩ := h'
  rw [ht, Except.ok.injEq] at ht'
  rw [hti, Except.ok.injEq, Prod.mk.injEq, Prod.mk.injEq] at hti'
  obtain ⟨rfl, rfl, rfl⟩ := hti'
  rw [hdt, Except.ok.injEq] at hdt'
  rw [ho, Except.ok.injEq] at ho'
  subst ht' hdt' ho'
  rw [hid, Except.ok.injEq] at hid'
  rw [hmid, Except.ok.injEq] at hmid'
  subst hid' hmid'
  cases h
  cases h'
  rfl

/-- What the poll path reads of a monitor: its id, its downtimes and its creator. -/
def Monitor.polled (m : Monitor) : Int × List Downtime × Bool × Option Creator :=
  (m.id, m.matchingDowntimes, m.hasCreator, m.creator)

/-- The body of the loop reads the monitor it finds only through its downtimes and
its creator. -/
theorem normalizeEvent_eq_of_lookup {host : Host} {allMonitors allMonitors' : PyDict Int Monitor}
    {event : Event}
    (h : (event.monitorId.bind (dictLookup allMonitors)).map (·.polled) =
      (event.monitorId.bind (dictLookup allMonitors')).map (·.polled)) :
    normalizeEvent host allMonitors event = normalizeEvent host allMonitors' event := by
  have hmon : ∀ o, o = event.monitorId → (o.bind (dictLookup allMonitors)).map (·.polled) =
      (o.bind (dictLookup allMonitors')).map (·.polled) := fun o ho => ho ▸ h
  simp only [normalizeEvent]
  refine congrArg _ (funext fun tags => congrArg _ (funext fun ⟨severity, status, title⟩ =>
    congrArg _ (funext fun dt => ?_)))
  unfold Event.monitorIdAttr
  split
  · rename_i hattr
    simp only [ok_bind]
    have h' := hmon _ rfl
    generalize event.monitorId.bind (dictLookup allMonitors) = o at h' ⊢
    generalize event.monitorId.bind (dictLookup allMonitors') = o' at h' ⊢
    cases o <;> cases o' <;> simp only [Option.map_none', Option.map_some', reduceCtorEq,
      Option.some.injEq, Monitor.polled, Prod.mk.injEq] at h'
    · rfl
    · obtain ⟨-, hd, hhc, hc⟩ := h'
      simp only [isMuted, hd, createdByOf, hhc, hc]
  · rfl

/-! ## Events of one monitor -/

/-- `str(event.monitor_id)`: the id's `str`, `None` for an event of no monitor; it
raises for an event without the attribute. -/
def Event.monitorIdText (event : Event) : Except PyError Str := do
  match ← event.monitorIdAttr with
  | some id => strInt id
  | none => pure "None".toList

/-- `get_monitor_events(monitor_id)`, given what `list_events` returned (lines
288–292): the events whose `str(event.monitor_id)` is `str(monitor_id)`, a text. -/
def getMonitorEvents : List Event → Str → Except PyError (List Event)
  | [], _ => .ok []
  | event :: events, monitorId => do
      let text ← event.monitorIdText
      let rest ← getMonitorEvents events monitorId
      pure (if text = monitorId then event :: rest else rest)

/-- No id renders as `None`. -/
theorem toString_ne_none (id : Int) : (toString id).toList ≠ "None".toList := fun h => by
  cases id with
  | ofNat n =>
      have h' : Nat.toDigits 10 n = "None".toList := h
      exact absurd ((toDigits_ten n).2.1 'N' (by rw [h']; decide)) (by decide)
  | negSucc n =>
      have h' : '-' :: Nat.toDigits 10 (n + 1) = "None".toList := h
      exact absurd (List.head_eq_of_cons_eq h') (by decide)

/-- The text `str(event.monitor_id)` of an event that renders. -/
theorem Event.monitorIdText_eq_ok {event : Event} {t : Str} (h : event.monitorIdText = .ok t) :
    t = match event.monitorId with
      | some id => (toString id).toList
      | none => "None".toList := by
  simp only [Event.monitorIdText, Event.monitorIdAttr, bind_eq_ok] at h
  obtain ⟨o, ho, ht⟩ := h
  split at ho
  · cases ho
    split at ht
    · exact (strInt_eq_ok.mp ht).2.trans (by simp_all)
    · exact (Except.ok.inj ht).symm.trans (by simp_all)
  · cases ho

/-- The filter of `get_monitor_events` keeps the events a test on the event picks,
once every `str(event.monitor_id)` renders; the first that does not is raised. -/
theorem getMonitorEvents_eq_filter (monitorId : Str) (p : Event → Bool)
    (hp : ∀ event t, event.monitorIdText = .ok t → (t = monitorId ↔ p event = true)) :
    ∀ events, getMonitorEvents events monitorId =
      (events.mapM Event.monitorIdText).map fun _ => events.filter p
  | [] => rfl
  | event :: events => by
      rw [getMonitorEvents, getMonitorEvents_eq_filter monitorId p hp events, List.mapM_cons]
      cases ht : event.monitorIdText with
      | error e => rfl
      | ok t =>
          cases hm : events.mapM Event.monitorIdText with
          | error e => rfl
          | ok ts =>
              by_cases hq : t = monitorId
              · simp [Except.map, hq, List.filter_cons, (hp event t ht).mp hq, pure, Except.pure]
              · have : p event = false := by simpa [hq] using (hp event t ht).not
                simp [Except.map, hq, List.filter_cons, this, pure, Except.pure]

/-- Asked by the `str` of an id, `get_monitor_events` returns exactly the events of
that monitor, in order; asked by `"None"`, the events of no monitor — unless
`str(event.monitor_id)` raises for a listed event (an event without the attribute,
or an id of more than 4300 digits), and then the call raises the first such error. -/
theorem getMonitorEvents_toString (events : List Event) :
    (∀ id : Int, getMonitorEvents events (toString id).toList =
      (events.mapM Event.monitorIdText).map fun _ => events.filter (·.monitorId = some id)) ∧
      getMonitorEvents events "None".toList =
        (events.mapM Event.monitorIdText).map fun _ => events.filter (·.monitorId = none) := by
  refine ⟨fun id => getMonitorEvents_eq_filter _ _ (fun event t ht => ?_) events,
    getMonitorEvents_eq_filter _ _ (fun event t ht => ?_) events⟩
  · rw [Event.monitorIdText_eq_ok ht]
    cases event.monitorId with
    | none => simpa using fun h => toString_ne_none id h.symm
    | some id' => simpa using ⟨fun h => toString_inj h, fun h => h ▸ rfl⟩
  · rw [Event.monitorIdText_eq_ok ht]
    cases event.monitorId with
    | none => simp
    | some id' => simpa using toString_ne_none id'

end Keep.DatadogProvider
