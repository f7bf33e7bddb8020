/-
# DatadogProvider.Vendor — the Datadog account the provider reads and writes

The vendor models keep the fields the provider reads (`Monitor`, `Event`,
`Downtime`, `WebhookIntegration`).  The account is a `Vendor`: its webhook
integrations and its monitors, with names and ids unique — fields of the
structure, so every call below has to keep them.  `Faults` says which calls
the vendor answers with an error, and with which, one field per call of the
code; under `Faults.none` every call succeeds.  A refusal never claims "Webhook
already exists" (`Faults.createError_honest`): that answer is the vendor's for a
taken name only.

The calls are the account's transitions:

* `getWebhooksIntegration`: the registration of a name, 404 when there is none,
  or the vendor's refusal, for every name;
* `createWebhooksIntegration`: the vendor's refusal, or else a new registration,
  refused with "Webhook already exists" when the name is taken;
* `updateWebhooksIntegration`: rewrites url, custom headers and payload;
* `listMonitors` and `updateMonitor`: the monitors, and one message rewritten;
* `createMonitor` and `deleteMonitor`: a monitor recorded under a fresh id
  (`MonitorPolicy`), and one removed; `removeMonitor_addMonitor` — deleting the
  monitor just created gives the account back;
* `setDowntimes`: what a mute or unmute makes the vendor match to one monitor.
-/
import DatadogProvider.Payload
import Mathlib.Data.List.Nodup

namespace Keep.DatadogProvider

set_option autoImplicit false

/-! ## Models -/

/-- `MatchingDowntime`, as `list_monitors(with_downtimes=True)` reports it. -/
structure Downtime where
  groups : List Str
  scope : List Str
  deriving DecidableEq, Repr

/-- `Creator` of a monitor. -/
structure Creator where
  email : Str
  deriving DecidableEq, Repr

/-- `Monitor`.  The model may lack the `creator` attribute altogether
(`hasCreator = false`), and reading it then raises; `creator` is its value when
it is there, `None` included. -/
structure Monitor where
  id : Int
  message : Str
  hasCreator : Bool := true
  creator : Option Creator
  creator_absent : hasCreator = false → creator = none := by decide
  matchingDowntimes : List Downtime
  deriving DecidableEq, Repr

/-- `Event` of the v1 events API.  An event may lack the `monitor_id` attribute
altogether (`hasMonitorId = false`), and reading it then raises; `monitorId` is
its value when it is there, `None` included. -/
structure Event where
  id : Int
  title : Str
  text : Str
  tags : List Str
  dateHappened : Int
  hasMonitorId : Bool := true
  monitorId : Option Int
  monitorId_absent : hasMonitorId = false → monitorId = none := by decide
  monitorGroups : List Str
  deriving DecidableEq, Repr

/-- `WebhooksIntegration`; the custom headers and payload are the objects the
provider passes through `json.dumps`. -/
structure WebhookIntegration where
  name : Str
  url : Str
  customHeaders : List (Str × Str)
  payload : List (Str × TemplateValue)
  encodeAs : Str
  deriving DecidableEq, Repr

/-! ## The account -/

/-- The webhook integrations and monitors of one account. -/
@[ext] structure Vendor where
  webhooks : List WebhookIntegration
  monitors : List Monitor
  webhooks_nodup : (webhooks.map (·.name)).Nodup
  monitors_nodup : (monitors.map (·.id)).Nodup

/-- The error body Datadog sends when a webhook name is taken. -/
def alreadyExistsMsg : Str := "Webhook already exists".toList

def notFound : ApiException := ⟨404, ["Not Found".toList]⟩

def forbidden : ApiException := ⟨403, ["Forbidden".toList]⟩

def alreadyExists : ApiException := ⟨400, [alreadyExistsMsg]⟩

/-- `NotFoundException` or `ForbiddenException`, the refusals the `except` of
line 552 catches. -/
def ApiException.notFoundOrForbidden (e : ApiException) : Bool := e.status == 404 || e.status == 403

/-- How the vendor answers the calls of one provider call that can be refused: an
error for each, or `none` for an answer.  A refusal can have any status (401,
403, 429, 5xx, ...), also where the call would otherwise have succeeded. -/
structure Faults where
  /-- `get_webhooks_integration` (line 534), whatever the name. -/
  lookupError : Option ApiException
  /-- `create_webhooks_integration`, whatever the body: a refusal made before
  the vendor looks at the name. -/
  createError : Option ApiException
  /-- The `update_webhooks_integration` of the `try` block (line 537). -/
  updateError : Option ApiException
  /-- The fallback `update_webhooks_integration` after "Webhook already exists"
  (line 575). -/
  fallbackUpdateError : Option ApiException
  listMonitorsError : Option ApiException
  updateMonitorError : Int → Option ApiException
  createError_honest : ∀ e, createError = some e → alreadyExistsMsg ∉ e.errors

/-- Every call succeeds. -/
def Faults.none : Faults :=
  ⟨Option.none, Option.none, Option.none, Option.none, Option.none, fun _ => Option.none, by simp⟩

namespace Vendor

variable (f : Faults) (v : Vendor)

/-- The names of the registrations. -/
def names : List Str := v.webhooks.map (·.name)

/-- `get_webhooks_integration(webhook_name=name)`. -/
def getWebhooksIntegration (name : Str) : Except ApiException WebhookIntegration :=
  match f.lookupError with
  | some e => .error e
  | none => match v.webhooks.find? (·.name = name) with
    | some w => .ok w
    | none => .error notFound

/-- The registration `name` with url, custom headers and payload rewritten. -/
def setWebhook (name url : Str) (headers : List (Str × Str))
    (payload : List (Str × TemplateValue)) : Vendor where
  webhooks := v.webhooks.map fun w =>
    if w.name = name then { w with url, customHeaders := headers, payload } else w
  monitors := v.monitors
  webhooks_nodup := by
    have : (v.webhooks.map fun w =>
        if w.name = name then { w with url, customHeaders := headers, payload } else w).map
          (·.name) = v.webhooks.map (·.name) := by
      simp only [List.map_map]
      congr 1
      funext w
      simp only [Function.comp]
      split <;> rfl
    rw [this]
    exact v.webhooks_nodup
  monitors_nodup := v.monitors_nodup

/-- `update_webhooks_integration(name, body={url, custom_headers, payload})`, which the
vendor refuses with `error` when it is set. -/
def updateWebhooksIntegration (error : Option ApiException) (name url : Str)
    (headers : List (Str × Str)) (payload : List (Str × TemplateValue)) : Except ApiException Vendor :=
  match error with
  | some e => .error e
  | none => if name ∈ v.names then .ok (v.setWebhook name url headers payload) else .error notFound

/-- A new registration, under a name the account does not hold. -/
def addWebhook (w : WebhookIntegration) (h : w.name ∉ v.names) : Vendor where
  webhooks := v.webhooks ++ [w]
  monitors := v.monitors
  webhooks_nodup := by
    rw [List.map_append, List.nodup_append]
    refine ⟨v.webhooks_nodup, List.nodup_singleton _, ?_⟩
    simpa [names] using h
  monitors_nodup := v.monitors_nodup

/-- `create_webhooks_integration(body=w)`. -/
def createWebhooksIntegration (w : WebhookIntegration) : Except ApiException Vendor :=
  match f.createError with
  | some e => .error e
  | none => if h : w.name ∈ v.names then .error alreadyExists else .ok (v.addWebhook w h)

/-- `list_monitors()`. -/
def listMonitors : Except ApiException (List Monitor) :=
  match f.listMonitorsError with
  | some e => .error e
  | none => .ok v.monitors

/-- The monitor `id` with its message rewritten. -/
def setMessage (id : Int) (message : Str) : Vendor where
  webhooks := v.webhooks
  monitors := v.monitors.map fun m => if m.id = id then { m with message } else m
  webhooks_nodup := v.webhooks_nodup
  monitors_nodup := by
    have : (v.monitors.map fun m => if m.id = id then { m with message } else m).map (·.id) =
        v.monitors.map (·.id) := by
      simp only [List.map_map]
      congr 1
      funext m
      simp only [Function.comp]
      split <;> rfl
    rw [this]
    exact v.monitors_nodup

/-- `update_monitor(id, body={"message": message})`. -/
def updateMonitor (id : Int) (message : Str) : Except ApiException Vendor :=
  match f.updateMonitorError id with
  | some e => .error e
  | none => if id ∈ v.monitors.map (·.id) then .ok (v.setMessage id message) else .error notFound

/-! ## One lemma per call -/

variable {f v}

/-- Registration names are unique, so a registration of the account is the one
its name finds. -/
theorem find?_name {w : WebhookIntegration} (hw : w ∈ v.webhooks) :
    v.webhooks.find? (·.name = w.name) = some w := by
  have hnd := v.webhooks_nodup
  generalize v.webhooks = ws at hw hnd
  induction ws with
  | nil => simp at hw
  | cons x ws ih =>
      rw [List.map_cons, List.nodup_cons] at hnd
      rcases List.mem_cons.mp hw with rfl | hw
      · simp
      · have hx : x.name ≠ w.name := fun h => hnd.1 (h ▸ List.mem_map_of_mem _ hw)
        simp [hx, ih hw hnd.2]

theorem mem_names {name : Str} : name ∈ v.names ↔ ∃ w ∈ v.webhooks, w.name = name := by
  simp [names]

theorem getWebhooksIntegration_ok {name : Str} {w : WebhookIntegration}
    (h : v.getWebhooksIntegration f name = .ok w) :
    f.lookupError = none ∧ w ∈ v.webhooks ∧ w.name = name := by
  cases hl : f.lookupError with
  | some e => simp [getWebhooksIntegration, hl] at h
  | none =>
      simp only [getWebhooksIntegration, hl] at h
      split at h
      · rename_i hfind
        cases h
        exact ⟨rfl, List.mem_of_find?_eq_some hfind, by simpa using List.find?_some hfind⟩
      · cases h

theorem getWebhooksIntegration_of_lookupError {name : Str} {e : ApiException}
    (hf : f.lookupError = some e) : v.getWebhooksIntegration f name = .error e := by
  simp [getWebhooksIntegration, hf]

theorem getWebhooksIntegration_of_mem {w : WebhookIntegration} (hf : f.lookupError = none)
    (hw : w ∈ v.webhooks) : v.getWebhooksIntegration f w.name = .ok w := by
  simp [getWebhooksIntegration, hf, find?_name hw]

theorem getWebhooksIntegration_of_not_mem {name : Str} (hf : f.lookupError = none)
    (hn : name ∉ v.names) : v.getWebhooksIntegration f name = .error notFound := by
  have hfind : v.webhooks.find? (·.name = name) = none :=
    List.find?_eq_none.mpr fun w hw hwn => hn (mem_names.mpr ⟨w, hw, by simpa using hwn⟩)
  simp [getWebhooksIntegration, hf, hfind]

theorem getWebhooksIntegration_error {name : Str} {e : ApiException}
    (h : v.getWebhooksIntegration f name = .error e) :
    f.lookupError = some e ∨ (f.lookupError = none ∧ name ∉ v.names ∧ e = notFound) := by
  cases hl : f.lookupError with
  | some e' => simpa [getWebhooksIntegration, hl] using h
  | none =>
      have hn : name ∉ v.names := fun hn => by
        obtain ⟨w, hw, rfl⟩ := mem_names.mp hn
        simp [getWebhooksIntegration_of_mem hl hw] at h
      rw [getWebhooksIntegration_of_not_mem hl hn, Except.error.injEq] at h
      exact .inr ⟨rfl, hn, h.symm⟩

theorem updateWebhooksIntegration_ok {error : Option ApiException} {name url : Str}
    {headers : List (Str × Str)} {payload : List (Str × TemplateValue)} {v' : Vendor}
    (h : v.updateWebhooksIntegration error name url headers payload = .ok v') :
    error = none ∧ name ∈ v.names ∧ v' = v.setWebhook name url headers payload := by
  cases error with
  | some e => simp [updateWebhooksIntegration] at h
  | none =>
      simp only [updateWebhooksIntegration] at h
      split_ifs at h with hn
      exact ⟨rfl, hn, (Except.ok.inj h).symm⟩

theorem updateWebhooksIntegration_error {error : Option ApiException} {name url : Str}
    {headers : List (Str × Str)} {payload : List (Str × TemplateValue)} {e : ApiException}
    (h : v.updateWebhooksIntegration error name url headers payload = .error e)
    (hn : name ∈ v.names) : error = some e := by
  cases error with
  | some e' => simpa [updateWebhooksIntegration] using h
  | none => simp [updateWebhooksIntegration, hn] at h

theorem createWebhooksIntegration_ok {w : WebhookIntegration} {v' : Vendor}
    (h : v.createWebhooksIntegration f w = .ok v') :
    f.createError = none ∧ ∃ hw, v' = v.addWebhook w hw := by
  cases hc : f.createError with
  | some e => simp [createWebhooksIntegration, hc] at h
  | none =>
      simp only [createWebhooksIntegration, hc] at h
      split at h
      · cases h
      · exact ⟨rfl, ‹_›, (Except.ok.inj h).symm⟩

theorem createWebhooksIntegration_error {w : WebhookIntegration} {e : ApiException}
    (h : v.createWebhooksIntegration f w = .error e) :
    f.createError = some e ∨ (f.createError = none ∧ w.name ∈ v.names ∧ e = alreadyExists) := by
  cases hc : f.createError with
  | some e' => simpa [createWebhooksIntegration, hc] using h
  | none =>
      simp only [createWebhooksIntegration, hc] at h
      split at h
      · exact .inr ⟨rfl, ‹_›, (Except.error.inj h).symm⟩
      · cases h

theorem createWebhooksIntegration_of_mem {w : WebhookIntegration} (hc : f.createError = none)
    (hw : w.name ∈ v.names) : v.createWebhooksIntegration f w = .error alreadyExists := by
  simp [createWebhooksIntegration, hc, hw]

@[simp] theorem setWebhook_monitors (name url : Str) (headers : List (Str × Str))
    (payload : List (Str × TemplateValue)) : (v.setWebhook name url headers payload).monitors = v.monitors :=
  rfl

@[simp] theorem addWebhook_monitors (w : WebhookIntegration) (hw : w.name ∉ v.names) :
    (v.addWebhook w hw).monitors = v.monitors := rfl

@[simp] theorem setMessage_webhooks (id : Int) (message : Str) :
    (v.setMessage id message).webhooks = v.webhooks := rfl

@[simp] theorem setWebhook_names (name url : Str) (headers : List (Str × Str))
    (payload : List (Str × TemplateValue)) : (v.setWebhook name url headers payload).names = v.names := by
  simp only [names, setWebhook, List.map_map]
  exact List.map_congr_left fun w _ => by simp only [Function.comp]; split <;> rfl

/-- Rewriting the registration `name` leaves the lookup of every other name as it was. -/
theorem find?_setWebhook {name n url : Str} {headers : List (Str × Str)}
    {payload : List (Str × TemplateValue)} (hn : n ≠ name) :
    (v.setWebhook name url headers payload).webhooks.find? (·.name = n) =
      v.webhooks.find? (·.name = n) := by
  show (v.webhooks.map _).find? _ = _
  generalize v.webhooks = ws
  induction ws with
  | nil => rfl
  | cons w ws ih =>
      by_cases hw : w.name = name
      · have hwn : w.name ≠ n := hw ▸ Ne.symm hn
        simp [hw, Ne.symm hn, hwn, ih]
      · simp [hw, ih, List.find?_cons]

/-- Adding a registration leaves the lookup of every other name as it was. -/
theorem find?_addWebhook {w : WebhookIntegration} {hw : w.name ∉ v.names} {n : Str}
    (hn : n ≠ w.name) :
    (v.addWebhook w hw).webhooks.find? (·.name = n) = v.webhooks.find? (·.name = n) := by
  simp [addWebhook, Ne.symm hn]

/-- Monitor ids are unique: two listed monitors with one id are one monitor. -/
theorem monitor_eq_of_id_eq {m m' : Monitor} (hm : m ∈ v.monitors) (hm' : m' ∈ v.monitors)
    (h : m.id = m'.id) : m = m' :=
  List.inj_on_of_nodup_map v.monitors_nodup hm hm' h

end Vendor

/-! ## Monitors created, deleted and muted -/

/-- How the vendor records the monitor `create_monitor` is given: the record keeps
the body's message, under an id the account does not hold yet. -/
structure MonitorPolicy where
  record : Vendor → Str → Monitor
  record_message : ∀ v message, (record v message).message = message
  record_fresh : ∀ v message, (record v message).id ∉ v.monitors.map (·.id)

/-- The sum of the sizes of the monitors' ids. -/
def idSizes : List Monitor → Nat
  | [] => 0
  | m :: ms => m.id.natAbs + idSizes ms

theorem natAbs_le_idSizes {ms : List Monitor} {m : Monitor} (hm : m ∈ ms) :
    m.id.natAbs ≤ idSizes ms := by
  induction ms with
  | nil => exact absurd hm (List.not_mem_nil m)
  | cons x ms ih =>
      rcases List.mem_cons.mp hm with rfl | hm
      · exact Nat.le_add_right _ _
      · exact (ih hm).trans (Nat.le_add_left _ _)

/-- A vendor that numbers a new monitor one past the sum of the ids' sizes. -/
def sumPolicy : MonitorPolicy where
  record v message :=
    { id := (idSizes v.monitors + 1 : Nat), message, creator := none, matchingDowntimes := [] }
  record_message _ _ := rfl
  record_fresh v _ h := by
    obtain ⟨m, hm, hid⟩ := List.mem_map.mp h
    have hle := natAbs_le_idSizes hm
    dsimp only at hid
    rw [hid] at hle
    omega

namespace Vendor

variable (v : Vendor)

/-- A map of the monitors that keeps every id keeps the ids unique. -/
theorem map_monitors_nodup {g : Monitor → Monitor} (hg : ∀ m, (g m).id = m.id) :
    ((v.monitors.map g).map (·.id)).Nodup := by
  rw [List.map_map]
  exact (List.map_congr_left fun m _ => hg m).symm ▸ v.monitors_nodup

/-- The account with one more monitor, under an id it does not hold. -/
def addMonitor (m : Monitor) (h : m.id ∉ v.monitors.map (·.id)) : Vendor where
  webhooks := v.webhooks
  monitors := v.monitors ++ [m]
  webhooks_nodup := v.webhooks_nodup
  monitors_nodup := by
    rw [List.map_append, List.nodup_append]
    exact ⟨v.monitors_nodup, List.nodup_singleton _, by simpa using h⟩

/-- `create_monitor(body)` for a body with `message`. -/
def createMonitor (p : MonitorPolicy) (error : Option ApiException) (message : Str) :
    Except ApiException (Vendor × Monitor) :=
  match error with
  | some e => .error e
  | none => .ok (v.addMonitor (p.record v message) (p.record_fresh v message), p.record v message)

/-- The account without the monitor `id`. -/
def removeMonitor (id : Int) : Vendor where
  webhooks := v.webhooks
  monitors := v.monitors.filter (·.id ≠ id)
  webhooks_nodup := v.webhooks_nodup
  monitors_nodup := ((List.filter_sublist _).map _).nodup v.monitors_nodup

/-- `delete_monitor(id)`. -/
def deleteMonitor (error : Option ApiException) (id : Int) : Except ApiException Vendor :=
  match error with
  | some e => .error e
  | none => if id ∈ v.monitors.map (·.id) then .ok (v.removeMonitor id) else .error notFound

/-- The monitor `id` with the downtimes the vendor matches to it after a mute or
an unmute. -/
def setDowntimes (id : Int) (downtimes : List Downtime) : Vendor where
  webhooks := v.webhooks
  monitors := v.monitors.map fun m =>
    if m.id = id then { m with matchingDowntimes := downtimes } else m
  webhooks_nodup := v.webhooks_nodup
  monitors_nodup := v.map_monitors_nodup fun m => by split <;> rfl

variable {v}

@[simp] theorem addMonitor_webhooks (m : Monitor) (h : m.id ∉ v.monitors.map (·.id)) :
    (v.addMonitor m h).webhooks = v.webhooks := rfl

@[simp] theorem setDowntimes_webhooks (id : Int) (downtimes : List Downtime) :
    (v.setDowntimes id downtimes).webhooks = v.webhooks := rfl

theorem createMonitor_ok {p : MonitorPolicy} {error : Option ApiException} {message : Str}
    {v' : Vendor} {m : Monitor} (h : v.createMonitor p error message = .ok (v', m)) :
    error = none ∧ m = p.record v message ∧ ∃ hm, v' = v.addMonitor m hm := by
  unfold createMonitor at h
  split at h
  · cases h
  · cases h
    exact ⟨rfl, rfl, _, rfl⟩

/-- Deleting the monitor just created gives the account back. -/
theorem removeMonitor_addMonitor (m : Monitor) (h : m.id ∉ v.monitors.map (·.id)) :
    (v.addMonitor m h).removeMonitor m.id = v := by
  ext1
  · rfl
  · show (v.monitors ++ [m]).filter (·.id ≠ m.id) = v.monitors
    rw [List.filter_append, List.filter_eq_self.mpr, List.filter_singleton]
    · simp
    · intro x hx
      simpa using fun hid : x.id = m.id => h (hid ▸ List.mem_map_of_mem _ hx)

theorem deleteMonitor_addMonitor (error : Option ApiException) (m : Monitor)
    (h : m.id ∉ v.monitors.map (·.id)) :
    (v.addMonitor m h).deleteMonitor error m.id =
      match error with
      | some e => .error e
      | none => .ok v := by
  cases error with
  | some e => rfl
  | none =>
      show (if m.id ∈ (v.monitors ++ [m]).map (·.id) then _ else _) = _
      rw [if_pos (by simp), removeMonitor_addMonitor]

end Vendor

end Keep.DatadogProvider
