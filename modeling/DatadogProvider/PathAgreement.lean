/-
# DatadogProvider.PathAgreement — one Datadog alert, polled or pushed

An alert reaches the provider twice: as an event `_get_alerts` polls, and as
the object Datadog posts for `WEBHOOK_PAYLOAD`.  The two parsers were written
separately; this module states where they agree.

* `fingerprint_paths_agree`: for a monitor `m` and groups `g` (no comma in a
  group), the webhook alert built from `scopes = ",".join(g)` and
  `monitor_id = str(m)`, and the polled alert of the event with
  `monitor_groups = g`, have equal groups and monitor id, so one fingerprint —
  provided `",".join(g)` is not empty.  For `g = []` (an ungrouped monitor) the
  webhook path fills in `["*"]` and the fingerprints part
  (`fingerprint_paths_differ_ungrouped`).
* `title_parsed_on_both_paths`: the title `[c] [s] r` parses to name `r` and
  status `s` on both paths, and to the severity of `c` — on the poll path after
  `c` itself loses its outer brackets (`severity_strips_code_brackets`).
* `tags_paths_agree`: the poll path's tag dict of an event's tags is the
  webhook path's of `",".join` of them, when every tag but the `monitor` marker
  is `key:value` with no further colon.
* `lastReceived_of_paths`: an instant `t`, polled as `date_happened = t` and posted
  as `last_updated = 1000 * t`, is one datetime on both paths, rendered by
  `isoformat()` and by `str()`; so the two `lastReceived` always differ
  (`lastReceived_paths_differ`).
-/
import DatadogProvider.GetAlerts

namespace Keep.DatadogProvider

set_option autoImplicit false

/-! ## Groups and monitor id -/

/-- The groups of a webhook alert posted for scope text `",".join(g)`. -/
theorem formatAlert_groups_of_scope {host : Host} {values : Str → Str} {g : List Str}
    {a : AlertDto} {payload' : Payload} (hg : ∀ x ∈ g, ',' ∉ x)
    (hscope : values "$ALERT_SCOPE".toList = join ',' g)
    (h : formatAlert host (render values webhookPayload) = .ok (a, payload')) :
    a.groups = if join ',' g = [] then ["*".toList] else g := by
  obtain ⟨-, -, -, -, hscopes, -, -, -, -⟩ := webhookPayload_lookup
  have hgroups := (formatAlert_ok h).1.groups
  rw [dictGet_render_of_var hscopes, hscope, webhookGroups_join hg] at hgroups
  exact (Except.ok.inj hgroups).symm

/-- The monitor id of a webhook alert posted for `$ALERT_ID = str(m)`. -/
theorem formatAlert_monitorId_of_id {host : Host} {values : Str → Str} {m : Int}
    {a : AlertDto} {payload' : Payload} (hid : values "$ALERT_ID".toList = (toString m).toList)
    (h : formatAlert host (render values webhookPayload) = .ok (a, payload')) :
    a.monitorId = some (toString m).toList := by
  obtain ⟨-, -, -, -, -, -, -, -, hmid⟩ := webhookPayload_lookup
  have hm := (formatAlert_ok h).1.monitorId
  rw [Payload.get, dictGet_render_of_var hmid, hid] at hm
  exact (Except.ok.inj hm).symm

/-- Both paths agree on the fingerprint fields, hence on the fingerprint, whenever
the joined scope text is not empty. -/
theorem fingerprint_paths_agree (host : Host) (values : Str → Str) (m : Int) (g : List Str)
    (monitors : List Monitor) (event : Event) (a a' : AlertDto) (payload' : Payload)
    (hg : ∀ x ∈ g, ',' ∉ x) (hne : join ',' g ≠ [])
    (hscope : values "$ALERT_SCOPE".toList = join ',' g)
    (hid : values "$ALERT_ID".toList = (toString m).toList)
    (hgroups : event.monitorGroups = g) (hmid : event.monitorId = some m)
    (hweb : formatAlert host (render values webhookPayload) = .ok (a, payload'))
    (hpoll : a' ∈ getAlerts host monitors [event]) :
    a.groups = a'.groups ∧ a.monitorId = a'.monitorId ∧ a.fingerprint = a'.fingerprint := by
  obtain ⟨e, he, hok⟩ := getAlerts_monitor_listed hpoll
  rw [List.mem_singleton] at he
  subst he
  have hga : a.groups = a'.groups := by
    rw [formatAlert_groups_of_scope hg hscope hweb, if_neg hne, hok.groups, hgroups]
  have hma : a.monitorId = a'.monitorId := by
    rw [formatAlert_monitorId_of_id hid hweb, hok.monitorId, hmid]
    rfl
  refine ⟨hga, hma, ?_⟩
  rw [(formatAlert_ok hweb).1.fingerprint, hok.fingerprint, getAlertFingerprint_congr host hga hma]

/-- The variables Datadog fills for an alert of monitor `7`, which has no groups. -/
def ungroupedValues (name : Str) : Str :=
  if name = "$TAGS".toList then "monitor".toList
  else if name = "$LAST_UPDATED".toList then "0".toList
  else if name = "$EVENT_TITLE".toList then "[P1] [Triggered] CPU high".toList
  else if name = "$ALERT_ID".toList then "7".toList
  else []

/-- A monitor with no downtime. -/
def quietMonitor : Monitor := { id := 7, message := [], creator := none, matchingDowntimes := [] }

/-- The polled event of the same alert. -/
def ungroupedEvent : Event :=
  { id := 1, title := "[P1] [Triggered] CPU high".toList, text := [], tags := [],
    dateHappened := 0, monitorId := some 7, monitorGroups := [] }

/-- The fingerprint of an alert by its two fields' values. -/
theorem getAlertFingerprint_fields (host : Host) (a : AlertDto) :
    getAlertFingerprint host a fingerprintFields =
      host.combine [.texts a.groups, (a.monitorId.map .text).getD .none] := by
  simp [getAlertFingerprint, fingerprintFields, AlertDto.field]

/-- For an ungrouped monitor the paths part: posted with an empty scope text, the
alert gets the groups `["*"]`, polled it keeps `[]`; the monitor ids agree, so the
fingerprints agree only if the host's combination cannot tell `["*"]` from `[]`. -/
theorem fingerprint_paths_differ_ungrouped (host : Host) (values : Str → Str) (m : Int)
    (monitors : List Monitor) (event : Event) (a a' : AlertDto) (payload' : Payload)
    (hscope : values "$ALERT_SCOPE".toList = [])
    (hid : values "$ALERT_ID".toList = (toString m).toList)
    (hgroups : event.monitorGroups = []) (hmid : event.monitorId = some m)
    (hweb : formatAlert host (render values webhookPayload) = .ok (a, payload'))
    (hpoll : a' ∈ getAlerts host monitors [event]) :
    a.groups = ["*".toList] ∧ a'.groups = [] ∧ a.monitorId = a'.monitorId ∧
      (a.fingerprint = a'.fingerprint ↔
        host.combine [.texts ["*".toList], .text (toString m).toList] =
          host.combine [.texts [], .text (toString m).toList]) := by
  obtain ⟨e, he, hok⟩ := getAlerts_monitor_listed hpoll
  rw [List.mem_singleton] at he
  subst he
  have hga : a.groups = ["*".toList] := by
    rw [formatAlert_groups_of_scope (g := []) (by simp) hscope hweb]
    rfl
  have hga' : a'.groups = [] := hok.groups.trans hgroups
  have hma : a.monitorId = some (toString m).toList := formatAlert_monitorId_of_id hid hweb
  have hma' : a'.monitorId = some (toString m).toList := by rw [hok.monitorId, hmid]; rfl
  refine ⟨hga, hga', hma.trans hma'.symm, ?_⟩
  rw [(formatAlert_ok hweb).1.fingerprint, hok.fingerprint, getAlertFingerprint_fields,
    getAlertFingerprint_fields, hga, hga', hma, hma', Option.some.injEq]
  rfl

/-- A host whose fingerprint combination keeps the fields' values apart: their
texts one after the other, a list bracketed. -/
def textHost : Host where
  fromtimestamp := epochHost.fromtimestamp
  combine vs := vs.flatMap fun
    | .none => []
    | .text s => s
    | .texts xs => '[' :: join ',' xs ++ [']']

/-- The failing input: monitor `7`, which has no groups, posted and polled. -/
theorem fingerprint_paths_differ_ungrouped_seven :
    ∃ a a' payload', ungroupedValues "$ALERT_SCOPE".toList = [] ∧
      ungroupedValues "$ALERT_ID".toList = (toString (7 : Int)).toList ∧
      ungroupedEvent.monitorGroups = [] ∧ ungroupedEvent.monitorId = some 7 ∧
      formatAlert textHost (render ungroupedValues webhookPayload) = .ok (a, payload') ∧
      a' ∈ getAlerts textHost [quietMonitor] [ungroupedEvent] ∧
      a.groups = ["*".toList] ∧ a'.groups = [] ∧ a.monitorId = a'.monitorId ∧
      a.fingerprint ≠ a'.fingerprint := by
  obtain ⟨⟨a, payload'⟩, hweb⟩ :
      ∃ r, formatAlert textHost (render ungroupedValues webhookPayload) = .ok r := ⟨_, rfl⟩
  obtain ⟨a', hn⟩ : ∃ a', normalizeEvent textHost (monitorMap [quietMonitor]) ungroupedEvent =
      .ok a' := ⟨_, rfl⟩
  obtain ⟨hg, hg', hm, hfp⟩ := fingerprint_paths_differ_ungrouped textHost ungroupedValues 7
    [quietMonitor] ungroupedEvent a a' payload' rfl rfl rfl rfl hweb (mem_getAlerts_of_ok hn)
  exact ⟨a, a', payload', rfl, rfl, rfl, rfl, hweb, mem_getAlerts_of_ok hn, hg, hg', hm,
    fun h => absurd (hfp.mp h) (by decide)⟩

/-! ## Title -/

/-- The title `[c] [s] r` of a Datadog alert. -/
def bracketTitle (c s r : Str) : Str := '[' :: c ++ "] [".toList ++ s ++ "] ".toList ++ r

/-- `title.split(" ", 2)` of `[c] [s] r` is `[c]`, `[s]`, `r`, when `c` and `s` have no space. -/
theorem splitTitle_bracketTitle {c s : Str} (hc : ' ' ∉ c) (hs : ' ' ∉ s) (r : Str) :
    splitTitle (bracketTitle c s r) = .ok ('[' :: c ++ [']'], '[' :: s ++ [']'], r) := by
  have hc' : ' ' ∉ '[' :: c ++ [']'] := by simp [hc]
  have hs' : ' ' ∉ '[' :: s ++ [']'] := by simp [hs]
  have : bracketTitle c s r = ('[' :: c ++ [']']) ++ ' ' :: (('[' :: s ++ [']']) ++ ' ' :: r) := by
    simp [bracketTitle]
  rw [this, splitTitle, splitMax_cut ' ' 1 hc', splitMax_cut ' ' 0 hs', splitMax_zero]
  rfl

/-- The parts `title.split(" ", 2)` unpacks from `[c] [s] r`. -/
theorem splitTitle_bracketTitle_parts {c s r severity status title : Str} (hc : ' ' ∉ c)
    (hs : ' ' ∉ s) (h : splitTitle (bracketTitle c s r) = .ok (severity, status, title)) :
    severity = '[' :: c ++ [']'] ∧ status = '[' :: s ++ [']'] ∧ title = r := by
  rw [splitTitle_bracketTitle hc hs r, Except.ok.injEq, Prod.mk.injEq, Prod.mk.injEq] at h
  exact ⟨h.1.symm, h.2.1.symm, h.2.2.symm⟩

/-- The poll path's name and severity for the title `[c] [s] r`: the severity of `c`
with its own outer brackets stripped too. -/
theorem getAlerts_bracketTitle {host : Host} {c s r : Str} {monitors : List Monitor}
    {event : Event} {a : AlertDto} (hc : ' ' ∉ c) (hs : ' ' ∉ s)
    (htitle : event.title = bracketTitle c s r) (hpoll : a ∈ getAlerts host monitors [event]) :
    a.name = r ∧ a.severity = getParsedSeverity (.str (stripBrackets c)) ∧
      ∃ monitor ∈ monitors, event.monitorId = some monitor.id ∧
        a.status = if monitor.matchingDowntimes.any (fun d =>
            d.groups = event.monitorGroups || d.scope = ["*".toList])
          then "Muted".toList else stripBrackets ('[' :: s ++ [']']) := by
  obtain ⟨e, he, hok⟩ := getAlerts_monitor_listed hpoll
  rw [List.mem_singleton] at he
  subst he
  obtain ⟨id, monitor, hid, hmon, -, sev, st, hst, hsev, hstatus⟩ := hok.monitor
  obtain ⟨hmem, rfl⟩ := monitorMap_lookup hmon
  obtain ⟨rfl, rfl, hname⟩ := splitTitle_bracketTitle_parts hc hs (htitle ▸ hst)
  exact ⟨hname, by rw [hsev, stripBrackets_bracket], monitor, hmem, hid, hstatus⟩

/-- The webhook path's name, status and severity for the title `[c] [s] r`: the
severity of the payload's `severity` field, or, without one, of the title's raw
token `[c]`, brackets included. -/
theorem formatAlert_bracketTitle {host : Host} {c s r : Str} {payload payload' : Payload}
    {a : AlertDto} (hc : ' ' ∉ c) (hs : ' ' ∉ s)
    (htitle : payload.get "title".toList = .str (bracketTitle c s r))
    (hweb : formatAlert host payload = .ok (a, payload')) :
    a.name = r ∧ a.status = stripBrackets ('[' :: s ++ [']']) ∧
      a.severity = getParsedSeverity (dictGet payload "severity".toList (.str ('[' :: c ++ [']']))) := by
  obtain ⟨sev, st, hst, hstatus, hsev⟩ := (formatAlert_ok hweb).1.title
  have : webhookTitle payload = splitTitle (bracketTitle c s r) := by
    simp only [webhookTitle, htitle, PyVal.splitMax, ok_bind, splitTitle]
  obtain ⟨rfl, rfl, hname⟩ := splitTitle_bracketTitle_parts hc hs (this ▸ hst)
  exact ⟨hname, hstatus, hsev⟩

/-- The title `[c] [s] r` parses to name `r` and status `s` on both paths; its
severity is that of `c` with its own brackets stripped on the poll path, and
that of `c` on the webhook path when the payload's severity field is `c`. -/
theorem title_parsed_on_both_paths (host : Host) (c s r : Str) (monitors : List Monitor)
    (event : Event) (payload payload' : Payload) (a a' : AlertDto)
    (hc : ' ' ∉ c) (hs : ' ' ∉ s) (hl : s.head? ≠ some '[') (hr : s.getLast? ≠ some ']')
    (htitle : event.title = bracketTitle c s r)
    (hquiet : ∀ monitor ∈ monitors, event.monitorId = some monitor.id →
      ∀ d ∈ monitor.matchingDowntimes, d.groups ≠ event.monitorGroups ∧ d.scope ≠ ["*".toList])
    (hpoll : a ∈ getAlerts host monitors [event])
    (htitle' : payload.get "title".toList = .str (bracketTitle c s r))
    (hsev : dictLookup payload "severity".toList = some (.str c))
    (hweb : formatAlert host payload = .ok (a', payload')) :
    (a.name = r ∧ a.status = s ∧ a.severity = getParsedSeverity (.str (stripBrackets c))) ∧
      (a'.name = r ∧ a'.status = s ∧ a'.severity = getParsedSeverity (.str c)) := by
  have hunbr : stripBrackets ('[' :: s ++ [']']) = s := by
    rw [stripBrackets_bracket, stripBrackets_of_unbracketed hl hr]
  obtain ⟨hname, hsev', monitor, hmem, hid, hstatus⟩ := getAlerts_bracketTitle hc hs htitle hpoll
  obtain ⟨hname', hstatus', hsev''⟩ := formatAlert_bracketTitle hc hs htitle' hweb
  have hnot : (monitor.matchingDowntimes.any fun d =>
      d.groups = event.monitorGroups || d.scope = ["*".toList]) = false := by
    simpa using fun d hd => hquiet monitor hmem hid d hd
  refine ⟨⟨hname, by rw [hstatus, hnot, if_neg Bool.false_ne_true, hunbr], hsev'⟩,
    hname', hstatus'.trans hunbr, ?_⟩
  rw [hsev'', dictGet, hsev]
  rfl

/-- No bracketed token is a priority. -/
theorem getParsedSeverity_bracket (c : Str) : getParsedSeverity (.str ('[' :: c ++ [']'])) = none := by
  simp [getParsedSeverity]

/-- A payload without a `severity` field: `format_alert` hands the title's raw
`[c]` to `__get_parsed_severity`, which maps no bracketed token, one line after it
stripped the status token; the poll path strips the severity token first.  So the
webhook alert has no severity, and the polled one that of `c`. -/
theorem severity_paths_differ_without_key (host : Host) (c s r : Str) (monitors : List Monitor)
    (event : Event) (payload payload' : Payload) (a a' : AlertDto)
    (hc : ' ' ∉ c) (hs : ' ' ∉ s) (htitle : event.title = bracketTitle c s r)
    (hpoll : a ∈ getAlerts host monitors [event])
    (htitle' : payload.get "title".toList = .str (bracketTitle c s r))
    (hsev : dictLookup payload "severity".toList = none)
    (hweb : formatAlert host payload = .ok (a', payload')) :
    a.severity = getParsedSeverity (.str (stripBrackets c)) ∧ a'.severity = none := by
  refine ⟨(getAlerts_bracketTitle hc hs htitle hpoll).2.1, ?_⟩
  rw [(formatAlert_bracketTitle hc hs htitle' hweb).2.2, dictGet, hsev]
  exact getParsedSeverity_bracket c

/-- An alert titled `[P1] [Alert] CPU high`, polled and posted. -/
def alertEvent : Event :=
  { ungroupedEvent with title := bracketTitle "P1".toList "Alert".toList "CPU high".toList }

/-- The variables Datadog fills for the same alert, its priority included. -/
def alertValues (name : Str) : Str :=
  if name = "$ALERT_PRIORITY".toList then "P1".toList
  else if name = "$EVENT_TITLE".toList then "[P1] [Alert] CPU high".toList
  else ungroupedValues name

/-- A posted payload of that alert without the `severity` field. -/
def severitylessPayload : Payload :=
  [("title".toList, .str (bracketTitle "P1".toList "Alert".toList "CPU high".toList)),
    ("tags".toList, .str "monitor".toList), ("last_updated".toList, .str "0".toList)]

/-- The failing input: `[P1] [Alert] CPU high` is critical polled, and posted
without a `severity` field has no severity. -/
theorem severity_paths_differ_cpu_alert :
    ∃ a a' payload', ' ' ∉ "P1".toList ∧ ' ' ∉ "Alert".toList ∧
      alertEvent.title = bracketTitle "P1".toList "Alert".toList "CPU high".toList ∧
      a ∈ getAlerts epochHost [quietMonitor] [alertEvent] ∧
      severitylessPayload.get "title".toList =
        .str (bracketTitle "P1".toList "Alert".toList "CPU high".toList) ∧
      dictLookup severitylessPayload "severity".toList = none ∧
      formatAlert epochHost severitylessPayload = .ok (a', payload') ∧
      a.severity = some .critical ∧ a'.severity = none := by
  obtain ⟨⟨a', payload'⟩, hweb⟩ : ∃ r, formatAlert epochHost severitylessPayload = .ok r := ⟨_, rfl⟩
  obtain ⟨a, hn⟩ : ∃ a, normalizeEvent epochHost (monitorMap [quietMonitor]) alertEvent = .ok a :=
    ⟨_, rfl⟩
  obtain ⟨hsev, hsev'⟩ := severity_paths_differ_without_key epochHost "P1".toList "Alert".toList
    "CPU high".toList [quietMonitor] alertEvent severitylessPayload payload' a a' (by decide)
    (by decide) rfl (mem_getAlerts_of_ok hn) rfl rfl hweb
  exact ⟨a, a', payload', by decide, by decide, rfl, mem_getAlerts_of_ok hn, rfl, rfl, hweb,
    hsev.trans rfl, hsev'⟩

/-! ## Receive time -/

/-- An instant `t` received on both paths, as `date_happened = t` and as
`last_updated = 1000 * t`, is one datetime: the poll path renders it with
`isoformat()`, the webhook path with `str()`. -/
theorem lastReceived_of_paths {host : Host} {monitors : List Monitor} {event : Event}
    {payload payload' : Payload} {a a' : AlertDto} {t : Int} (hdate : event.dateHappened = t)
    (hlast : (payload.get "last_updated".toList).toInt = .ok (1000 * t))
    (hpoll : a ∈ getAlerts host monitors [event])
    (hweb : formatAlert host payload = .ok (a', payload')) :
    ∃ dt, host.fromtimestamp t = some dt ∧ a.lastReceived = dt.isoformat ∧
      a'.lastReceived = dt.str := by
  obtain ⟨e, he, hok⟩ := getAlerts_monitor_listed hpoll
  rw [List.mem_singleton] at he
  subst he hdate
  obtain ⟨dt, hdt, hpa⟩ := hok.time
  obtain ⟨dt', hdt', hwa⟩ := (formatAlert_ok hweb).1.time
  rw [webhookTime_of_millis hlast, Host.datetimeOf_eq_ok, hdt, Option.some.injEq] at hdt'
  exact ⟨dt, hdt, hpa, hdt' ▸ hwa⟩

/-- The two paths never render a receive time alike: `isoformat()` puts a `T`
between date and time, `str()` a space. -/
theorem lastReceived_paths_differ {host : Host} {monitors : List Monitor} {event : Event}
    {payload payload' : Payload} {a a' : AlertDto} {t : Int} (hdate : event.dateHappened = t)
    (hlast : (payload.get "last_updated".toList).toInt = .ok (1000 * t))
    (hpoll : a ∈ getAlerts host monitors [event])
    (hweb : formatAlert host payload = .ok (a', payload')) : a.lastReceived ≠ a'.lastReceived := by
  obtain ⟨dt, -, hpa, hwa⟩ := lastReceived_of_paths hdate hlast hpoll hweb
  rw [hpa, hwa]
  exact dt.isoformat_ne_str

theorem lastReceived_paths_differ_at_epoch :
    ∃ a a' payload', alertEvent.dateHappened = 0 ∧
      (Payload.get (render alertValues webhookPayload) "last_updated".toList).toInt = .ok (1000 * 0) ∧
      a ∈ getAlerts epochHost [quietMonitor] [alertEvent] ∧
      formatAlert epochHost (render alertValues webhookPayload) = .ok (a', payload') ∧
      a.lastReceived ≠ a'.lastReceived := by
  obtain ⟨⟨a', payload'⟩, hweb⟩ :
      ∃ r, formatAlert epochHost (render alertValues webhookPayload) = .ok r := ⟨_, rfl⟩
  obtain ⟨a, hn⟩ : ∃ a, normalizeEvent epochHost (monitorMap [quietMonitor]) alertEvent = .ok a :=
    ⟨_, rfl⟩
  have hlast : (Payload.get (render alertValues webhookPayload) "last_updated".toList).toInt =
      .ok (1000 * 0) := by
    with_unfolding_all rfl
  exact ⟨a, a', payload', rfl, hlast, mem_getAlerts_of_ok hn, hweb,
    lastReceived_paths_differ rfl hlast (mem_getAlerts_of_ok hn) hweb⟩

/-! ## Tags -/

theorem mapM_congr {α β : Type} {f g : α → Except PyError β} :
    ∀ {xs : List α}, (∀ x ∈ xs, f x = g x) → xs.mapM f = xs.mapM g
  | [], _ => rfl
  | x :: xs, h => by
      rw [List.mapM_cons, List.mapM_cons, h x (List.mem_cons_self _ _),
        mapM_congr fun y hy => h y (List.mem_cons_of_mem _ hy)]

/-- When only `m` fails `P`, filtering by `P` drops `m` as `xs.remove(m)` does. -/
theorem filter_eq_erase {P : Str → Bool} {m : Str} (hPm : P m = false) :
    ∀ {xs : List Str}, m ∈ xs → (∀ x ∈ xs.erase m, P x = true) → xs.filter P = xs.erase m
  | x :: xs, hm, hP => by
      by_cases hx : x = m
      · subst hx
        rw [List.erase_cons_head] at hP ⊢
        rw [List.filter_cons_of_neg (by simp [hPm]), List.filter_eq_self.mpr hP]
      · have hx' : ¬(x == m) := by simpa using hx
        rw [List.erase_cons_tail hx'] at hP ⊢
        rw [List.filter_cons_of_pos (hP x (List.mem_cons_self _ _)),
          filter_eq_erase hPm ((List.mem_cons.mp hm).resolve_left (Ne.symm hx))
            fun y hy => hP y (List.mem_cons_of_mem _ hy)]

/-- A tag `key:value` splits in two on both paths. -/
theorem tag_splits {key value : Str} (hk : ':' ∉ key) (hv : ':' ∉ value) :
    splitMax ':' 1 (key ++ ':' :: value) = [key, value] ∧
      (key ++ ':' :: value).splitOn ':' = [key, value] := by
  refine ⟨by rw [splitMax_cut ':' 0 hk, splitMax_zero], ?_⟩
  have := @splitOn_join ':' [key, value] (by simp [hk, hv]) (List.cons_ne_nil _ _)
  simpa [join, List.intercalate] using this

/-- Both paths build one tag dict from the monitor's tags, when no tag holds a comma
and every tag but the `monitor` marker is `key:value` with no further colon: the
poll path from the event's tags, the webhook path from `",".join` of them. -/
theorem tags_paths_agree (tags : List Str) (payload : Payload)
    (hmarker : "monitor".toList ∈ tags) (hcomma : ∀ tag ∈ tags, ',' ∉ tag)
    (hpair : ∀ tag ∈ tags.erase "monitor".toList,
      ∃ key value, ':' ∉ key ∧ ':' ∉ value ∧ tag = key ++ ':' :: value)
    (htags : dictGet payload "tags".toList (.str []) = .str (join ',' tags)) :
    webhookTags payload = pollTags tags := by
  have hsplit : ∀ tag ∈ tags.erase "monitor".toList,
      unpack2 (tag.splitOn ':') = unpack2 (splitMax ':' 1 tag) := fun tag ht => by
    obtain ⟨key, value, hk, hv, rfl⟩ := hpair tag ht
    rw [(tag_splits hk hv).1, (tag_splits hk hv).2]
  have hfilter : tags.filter (fun tag => decide (':' ∈ tag)) = tags.erase "monitor".toList :=
    filter_eq_erase (by decide) hmarker fun tag ht => by
      obtain ⟨key, value, -, -, rfl⟩ := hpair tag ht
      simp
  have hne : tags ≠ [] := List.ne_nil_of_mem hmarker
  simp only [webhookTags, pollTags, htags, PyVal.split, splitOn_join ',' hcomma hne, ok_bind, remove,
    if_pos hmarker, hfilter, mapM_congr hsplit]

/-- A monitor tagged `env:prod`. -/
def envTags : List Str := ["monitor".toList, "env:prod".toList]

theorem tags_paths_agree_env :
    "monitor".toList ∈ envTags ∧ (∀ tag ∈ envTags, ',' ∉ tag) ∧
      (∀ tag ∈ envTags.erase "monitor".toList,
        ∃ key value, ':' ∉ key ∧ ':' ∉ value ∧ tag = key ++ ':' :: value) ∧
      dictGet [("tags".toList, PyVal.str (join ',' envTags))] "tags".toList (.str []) =
        .str (join ',' envTags) ∧
      webhookTags [("tags".toList, .str (join ',' envTags))] = pollTags envTags :=
  have hpair : ∀ tag ∈ envTags.erase "monitor".toList,
      ∃ key value, ':' ∉ key ∧ ':' ∉ value ∧ tag = key ++ ':' :: value := by
    intro tag ht
    rw [show envTags.erase "monitor".toList = ["env:prod".toList] from rfl,
      List.mem_singleton] at ht
    exact ⟨"env".toList, "prod".toList, by decide, by decide, ht⟩
  ⟨by decide, by decide, hpair, rfl,
    tags_paths_agree envTags _ (by decide) (by decide) hpair rfl⟩

/-! ## What the webhook path accepts -/

theorem webhookGroups_str_isOk (s : Str) : ∃ groups, webhookGroups (.str s) = .ok groups := by
  unfold webhookGroups
  split <;> exact ⟨_, rfl⟩

/-- A payload Datadog posts for `WEBHOOK_PAYLOAD` is refused by `format_alert` only at
its tags, its time or its title: every other field it reads is a string. -/
theorem formatAlert_render_isOk_iff (host : Host) (values : Str → Str) :
    (∃ r, formatAlert host (render values webhookPayload) = .ok r) ↔
      (∃ tags, webhookTags (render values webhookPayload) = .ok tags) ∧
      (∃ dt, webhookTime host (render values webhookPayload) = .ok dt) ∧
      ∃ t, webhookTitle (render values webhookPayload) = .ok t := by
  constructor
  · rintro ⟨⟨a, payload'⟩, h⟩
    obtain ⟨hok, -⟩ := formatAlert_ok h
    obtain ⟨dt, hdt, -⟩ := hok.time
    obtain ⟨severity, status, htitle, -⟩ := hok.title
    exact ⟨⟨_, hok.tags⟩, ⟨dt, hdt⟩, ⟨_, htitle⟩⟩
  · rintro ⟨⟨tags, ht⟩, ⟨dt, hd⟩, ⟨⟨severity, status, title⟩, hti⟩⟩
    obtain ⟨-, -, -, hurl, hscopes, hid, hbody, -, hmid⟩ := webhookPayload_lookup
    obtain ⟨rest, hpop, hget⟩ : ∃ rest, Payload.pop (render values webhookPayload) "url".toList =
        (.str (values "$LINK".toList), rest) ∧
        ∀ key, key ≠ "url".toList → dictGet rest key = dictGet (render values webhookPayload) key := by
      refine ⟨_, ?_, fun key hk => dictGet_pop_url _ hk⟩
      rw [Payload.pop, dictPop, dictLookup_render, hurl]
      rfl
    obtain ⟨groups, hg⟩ := webhookGroups_str_isOk (values "$ALERT_SCOPE".toList)
    simp only [formatAlert, ht, hd, hti, hpop, ok_bind, Payload.get,
      hget _ (by decide : "scopes".toList ≠ "url".toList),
      hget _ (by decide : "id".toList ≠ "url".toList),
      hget _ (by decide : "body".toList ≠ "url".toList),
      hget _ (by decide : "monitor_id".toList ≠ "url".toList), dictGet_render_of_var hscopes,
      dictGet_render_of_var hid, dictGet_render_of_var hbody, dictGet_render_of_var hmid, hg]
    exact ⟨_, rfl⟩

end Keep.DatadogProvider
