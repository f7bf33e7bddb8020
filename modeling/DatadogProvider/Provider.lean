/-
# DatadogProvider.Provider — the provider and its account, call after call

Keep keeps a provider and calls its methods in any order.  Between calls the
provider holds the bounds `self.to` and `self._from` that `_query` stored, and
the account holds its registrations and monitors.  `ProviderState.step` is one
call's effect on both, also when the call raises, and `ProviderState.run` a
sequence of calls.  A call carries the clock it reads and the host that turns
the clock into datetimes.  Reads (`_get_alerts`, `get_alerts_configuration`,
`get_monitor_events`, `expose`, `format_alert`) change neither and are not calls
here.  A mute or unmute the provider sent makes the vendor match some downtimes
to the monitor the call names, and nothing else (`Vendor.applyMonitorCall`, any
downtimes).  What a run does for one tenant is in `DatadogProvider.Tenants`.

* `ProviderState.run_invariant`: what every allowed call keeps holds after every
  run of allowed calls.
* `run_extends`: along every run, every registration name and every monitor of
  the account remain, each monitor under its id, with its `creator` attribute
  and its message extended — no call deletes or shortens what it did not create.
* `run_monitors_length`: no call loses or duplicates a monitor; a run adds one
  per accepted deployment and one per scope validation that could not delete its
  example monitor.
* `step_setupWebhook_retry`: retrying `setup_webhook` under the same vendor
  answers, after it raised or not, changes nothing more.
* `run_getAlerts_stable`: every alert the poll path makes from the events
  before a run, it makes again after the run, differing at most in status and
  creator.
* `run_getAlerts_sublist`: along a run without mutes and unmutes, the poll
  path's alerts from any events only grow, each old alert coming again
  unchanged and in order, and each new one coming from an event whose monitor
  the run created.
* `run_window_last`: each bound the provider holds after any run is the one the
  run's last call that stored that bound stored.
* `run_expose_isOk_iff`: after a run from a fresh provider, `expose()` answers
  exactly when some call of the run stored `self._from`, and raises otherwise.
-/
import DatadogProvider.Scopes
import DatadogProvider.SetupWebhook
import DatadogProvider.Configuration
import DatadogProvider.Mute

namespace Keep.DatadogProvider

set_option autoImplicit false

/-- A call of a provider method that changes the provider or its account, with the
vendor's answers to it. -/
inductive Call
  | query (host : Host) (now : ℚ) (q timeframe queryType : Str)
  | validateScopes (f : Faults) (pf : ProbeFaults) (host : Host) (now : ℚ)
  | setupWebhook (f : Faults) (tenantId keepApiUrl apiKey : Str) (setupAlerts : Bool)
  | deployAlert (createError : Option ApiException) (message : Str)
  | muteMonitor (env : MuteEnv) (monitorId : Str) (groups : List Str) (end? : Option MuteEnd)
      (downtimes : List Downtime)
  | unmuteMonitor (monitorId : Str) (groups : List Str) (downtimes : List Downtime)

/-- The vendor's side of a monitor endpoint call: the monitor it names matches
`downtimes`; a call the provider raised before sending changes nothing. -/
def Vendor.applyMonitorCall (v : Vendor) (call : Except PyError MonitorCall)
    (downtimes : List Downtime) : Vendor :=
  match call with
  | .ok call => v.setDowntimes call.monitorId downtimes
  | .error _ => v

@[simp] theorem Vendor.applyMonitorCall_webhooks (v : Vendor) (call : Except PyError MonitorCall)
    (downtimes : List Downtime) : (v.applyMonitorCall call downtimes).webhooks = v.webhooks := by
  unfold Vendor.applyMonitorCall
  split <;> rfl

namespace ProviderState

/-- One call's effect on the provider and its account, also when it raises. -/
def step (p : MonitorPolicy) (s : ProviderState) : Call → ProviderState
  | .query host now q timeframe queryType =>
      { s with window := (query host now s.window q timeframe queryType).1 }
  | .validateScopes f pf host now => (validateScopes p f pf host now s).1
  | .setupWebhook f t u k b => { s with vendor := setupWebhookAccount f t u k b s.vendor }
  | .deployAlert createError message =>
      { s with vendor := deployAlertAccount p createError s.vendor message }
  | .muteMonitor env monitorId groups end? downtimes =>
      { s with vendor := s.vendor.applyMonitorCall (muteMonitor env monitorId groups end?) downtimes }
  | .unmuteMonitor monitorId groups downtimes =>
      { s with vendor := s.vendor.applyMonitorCall (unmuteMonitor monitorId groups) downtimes }

/-- A run of calls. -/
def run (p : MonitorPolicy) (s : ProviderState) (calls : List Call) : ProviderState :=
  calls.foldl (step p) s

@[simp] theorem run_nil (p : MonitorPolicy) (s : ProviderState) : s.run p [] = s := rfl

@[simp] theorem run_cons (p : MonitorPolicy) (s : ProviderState) (c : Call) (calls : List Call) :
    s.run p (c :: calls) = (s.step p c).run p calls := rfl

theorem run_append (p : MonitorPolicy) (s : ProviderState) (calls calls' : List Call) :
    s.run p (calls ++ calls') = (s.run p calls).run p calls' := List.foldl_append ..

/-- What every allowed call keeps holds after every run of allowed calls. -/
theorem run_invariant (p : MonitorPolicy) {A : Call → Prop} {P : ProviderState → Prop}
    (hstep : ∀ s c, A c → P s → P (s.step p c)) :
    ∀ (calls : List Call) (s : ProviderState), (∀ c ∈ calls, A c) → P s → P (s.run p calls)
  | [], _, _, hs => hs
  | c :: calls, s, hc, hs =>
      run_invariant p hstep calls _ (fun c' h => hc c' (List.mem_cons_of_mem _ h))
        (hstep s c (hc c (List.mem_cons_self _ _)) hs)

end ProviderState

/-! ## A run to instantiate the theorems -/

/-- An account wired for tenant `a`, with one monitor. -/
def wiredVendor : Vendor :=
  ⟨[newWebhook (webhookName "a".toList) "u".toList "k".toList],
    [{ id := 1, message := "CPU high".toList ++ ' ' :: webhookMention (webhookName "a".toList),
        creator := none, matchingDowntimes := [] }],
    List.nodup_singleton _, List.nodup_singleton _⟩

/-- The scopes validated at the epoch, a monitor deployed with the handle, and
tenant `b` set up. -/
def wiredRun : List Call :=
  [.validateScopes Faults.none ⟨none, none, none, none, none⟩ epochHost 0,
    .deployAlert none (webhookMention (webhookName "a".toList)),
    .setupWebhook Faults.none "b".toList "u".toList "k".toList true]

/-- An alert event of `wiredVendor`'s monitor. -/
def wiredEvent : Event :=
  { id := 1, title := "[P1] [Alert] CPU high".toList, text := [], tags := [], dateHappened := 0,
    monitorId := some 1, monitorGroups := [] }

/-! ## What every call keeps -/

/-- `v'` keeps what `v` holds: every registration name, and every monitor, under
its id, with its `creator` attribute, and with its message extended. -/
structure Vendor.Extends (v v' : Vendor) : Prop where
  names : ∀ name ∈ v.names, name ∈ v'.names
  monitors : ∀ m ∈ v.monitors, ∃ m' ∈ v'.monitors, m'.id = m.id ∧ m'.hasCreator = m.hasCreator ∧
    m.message <+: m'.message

namespace Vendor.Extends

variable {v v' v'' : Vendor}

theorem refl (v : Vendor) : v.Extends v :=
  ⟨fun _ h => h, fun m hm => ⟨m, hm, rfl, rfl, List.prefix_refl _⟩⟩

theorem trans (h : v.Extends v') (h' : v'.Extends v'') : v.Extends v'' where
  names n hn := h'.names n (h.names n hn)
  monitors m hm := by
    obtain ⟨m', hm', hid, hc, hp⟩ := h.monitors m hm
    obtain ⟨m'', hm'', hid', hc', hp'⟩ := h'.monitors m' hm'
    exact ⟨m'', hm'', hid'.trans hid, hc'.trans hc, hp.trans hp'⟩

/-- An account with registrations and monitors appended extends the one it grew from. -/
theorem of_append {ws : List WebhookIntegration} {ms : List Monitor}
    (hw : v'.webhooks = v.webhooks ++ ws) (hm : v'.monitors = v.monitors ++ ms) : v.Extends v' where
  names n hn := by
    rw [Vendor.names, hw, List.map_append]
    exact List.mem_append_left _ hn
  monitors m hm' := ⟨m, hm ▸ List.mem_append_left _ hm', rfl, rfl, List.prefix_refl _⟩

/-- A rewrite of every monitor that keeps its id and `creator` attribute and
extends its message. -/
theorem of_map {g : Monitor → Monitor} (hw : v'.webhooks = v.webhooks)
    (hm : v'.monitors = v.monitors.map g)
    (hg : ∀ m, (g m).id = m.id ∧ (g m).hasCreator = m.hasCreator ∧ m.message <+: (g m).message) :
    v.Extends v' where
  names n hn := by rwa [Vendor.names, hw]
  monitors m hm' := ⟨g m, hm ▸ List.mem_map_of_mem g hm', hg m⟩

end Vendor.Extends

section Steps

variable (p : MonitorPolicy) (s : ProviderState)

theorem wired_extends_message (f : Faults) (mention : Str) (m : Monitor) :
    m.message <+: (wired f mention m).message := by
  unfold wired
  split
  · exact List.prefix_refl _
  · exact List.prefix_append _ _

theorem polled_wired (f : Faults) (mention : Str) (m : Monitor) : (wired f mention m).polled = m.polled := by
  unfold wired
  split <;> rfl

theorem wired_hasCreator (f : Faults) (mention : Str) (m : Monitor) :
    (wired f mention m).hasCreator = m.hasCreator :=
  congrArg (·.2.2.1) (polled_wired f mention m)

theorem setupWebhookAccount_extends (f : Faults) (t u k : Str) (b : Bool) (v : Vendor) :
    v.Extends (setupWebhookAccount f t u k b v) := by
  refine ⟨setupWebhookAccount_names f t u k b v, fun m hm => ?_⟩
  rcases setupWebhookAccount_monitors f t u k b v with h | h <;> rw [h]
  · exact ⟨m, hm, rfl, rfl, List.prefix_refl _⟩
  · exact ⟨_, List.mem_map_of_mem _ hm, wired_id m, wired_hasCreator f _ m,
      wired_extends_message f _ m⟩

theorem applyMonitorCall_extends (v : Vendor) (call : Except PyError MonitorCall)
    (downtimes : List Downtime) : v.Extends (v.applyMonitorCall call downtimes) := by
  unfold Vendor.applyMonitorCall
  split
  · refine .of_map rfl rfl fun m => ?_
    split <;> exact ⟨rfl, rfl, List.prefix_refl _⟩
  · exact .refl v

/-- No call deletes a registration or a monitor it did not create, or shortens a
message. -/
theorem step_extends (c : Call) : s.vendor.Extends (s.step p c).vendor := by
  cases c with
  | query => exact .refl _
  | validateScopes f pf host now =>
      obtain ⟨hw, hm, -⟩ := validateScopes_account p f pf host now s
      exact .of_append hw hm
  | setupWebhook f t u k b => exact setupWebhookAccount_extends f t u k b s.vendor
  | deployAlert createError message =>
      obtain ⟨hw, hm⟩ := deployAlertAccount_eq p createError s.vendor message
      exact .of_append (hw.trans (List.append_nil _).symm) hm
  | muteMonitor => exact applyMonitorCall_extends _ _ _
  | unmuteMonitor => exact applyMonitorCall_extends _ _ _

end Steps

/-- Along every run, every registration name and every monitor of the account
remain, each monitor under its id with its message extended. -/
theorem run_extends (p : MonitorPolicy) (calls : List Call) :
    ∀ s : ProviderState, s.vendor.Extends (s.run p calls).vendor :=
  fun s => ProviderState.run_invariant p (A := fun _ => True) (P := fun s' => s.vendor.Extends s'.vendor)
    (fun s' c _ h => h.trans (step_extends p s' c)) calls s (fun _ _ => trivial) (.refl _)

/-! ## Counting monitors -/

/-- How many monitors a call adds to the account: a deployment the vendor accepts,
and a scope validation whose example monitor was created and not deleted. -/
def Call.monitorsAdded : Call → Nat
  | .validateScopes _ pf host now =>
      if host.hourReadable now ∧ pf.createMonitorError = none ∧ pf.deleteMonitorError.isSome then 1
      else 0
  | .deployAlert createError _ => if createError = none then 1 else 0
  | _ => 0

/-- How many monitors a run's calls add. -/
def Call.monitorsAddedBy : List Call → Nat
  | [] => 0
  | c :: calls => c.monitorsAdded + monitorsAddedBy calls

theorem setupWebhookAccount_monitors_length (f : Faults) (t u k : Str) (b : Bool) (v : Vendor) :
    (setupWebhookAccount f t u k b v).monitors.length = v.monitors.length := by
  rcases setupWebhookAccount_monitors f t u k b v with h | h <;> rw [h]
  exact List.length_map _ _

theorem applyMonitorCall_monitors_length (v : Vendor) (call : Except PyError MonitorCall)
    (downtimes : List Downtime) : (v.applyMonitorCall call downtimes).monitors.length = v.monitors.length := by
  unfold Vendor.applyMonitorCall
  split
  · exact List.length_map _ _
  · rfl

/-- One call adds exactly the monitors it creates and keeps. -/
theorem step_monitors_length (p : MonitorPolicy) (s : ProviderState) (c : Call) :
    (s.step p c).vendor.monitors.length = s.vendor.monitors.length + c.monitorsAdded := by
  cases c with
  | query => rfl
  | validateScopes f pf host now =>
      show (validateScopes p f pf host now s).1.vendor.monitors.length = _
      rw [(validateScopes_account p f pf host now s).2.1, List.length_append, Call.monitorsAdded]
      split_ifs <;> rfl
  | setupWebhook f t u k b => exact setupWebhookAccount_monitors_length f t u k b s.vendor
  | deployAlert createError message =>
      show (deployAlertAccount p createError s.vendor message).monitors.length = _
      rw [(deployAlertAccount_eq p createError s.vendor message).2, List.length_append, Call.monitorsAdded]
      split_ifs <;> rfl
  | muteMonitor | unmuteMonitor => exact applyMonitorCall_monitors_length _ _ _

/-- No call loses or duplicates a monitor: after any run the account holds the
monitors it held, plus one for every deployment the vendor accepted and one for
every scope validation whose example monitor could not be deleted. -/
theorem run_monitors_length (p : MonitorPolicy) (calls : List Call) :
    ∀ s : ProviderState,
      (s.run p calls).vendor.monitors.length = s.vendor.monitors.length + Call.monitorsAddedBy calls := by
  induction calls with
  | nil => exact fun _ => rfl
  | cons c calls ih =>
      intro s
      rw [ProviderState.run_cons, ih, step_monitors_length, Call.monitorsAddedBy, Nat.add_assoc]

/-! ## Retrying a call -/

/-- Keep may retry a `setup_webhook` that raised, or one that did not: the retry,
meeting the same vendor answers, leaves the provider as the first call left it. -/
theorem step_setupWebhook_retry (p : MonitorPolicy) (s : ProviderState) (f : Faults) (t u k : Str)
    (b : Bool) :
    (s.step p (.setupWebhook f t u k b)).step p (.setupWebhook f t u k b) =
      s.step p (.setupWebhook f t u k b) := by
  simp only [ProviderState.step, setupWebhookAccount_idempotent]

/-! ## Polling across a run -/

/-- An account's monitor is the one the poll path's monitor map holds under its id. -/
theorem Vendor.lookup_monitorMap (v : Vendor) {m : Monitor} (hm : m ∈ v.monitors) :
    dictLookup (monitorMap v.monitors) m.id = some m := by
  obtain ⟨m', hm'⟩ := monitorMap_lookup_of_mem hm
  obtain ⟨hmem', hid'⟩ := monitorMap_lookup hm'
  rw [hm', v.monitor_eq_of_id_eq hmem' hm hid']

/-- The poll path over an account that keeps `v`'s monitors makes every alert it
made over `v` again, differing at most in status and creator. -/
theorem getAlerts_of_extends {host : Host} {events : List Event} {v v' : Vendor}
    (hext : v.Extends v') {a : AlertDto} (ha : a ∈ getAlerts host v.monitors events) :
    ∃ a' ∈ getAlerts host v'.monitors events, ∃ status createdBy,
      a' = { a with status, createdBy } := by
  obtain ⟨event, he, hok⟩ := mem_getAlerts_iff.mp ha
  obtain ⟨hparses, id, m, hid, hm, hcr⟩ :=
    (normalizeEvent_isOk_iff host (monitorMap v.monitors) event).mp ⟨a, hok⟩
  obtain ⟨hmem, rfl⟩ := monitorMap_lookup hm
  obtain ⟨m', hm', hid', hcr', -⟩ := hext.monitors m hmem
  obtain ⟨a', ha'⟩ := (normalizeEvent_isOk_iff host (monitorMap v'.monitors) event).mpr
    ⟨hparses, m.id, m', hid, hid' ▸ v'.lookup_monitorMap hm', hcr'.trans hcr⟩
  exact ⟨a', mem_getAlerts_iff.mpr ⟨event, he, ha'⟩, _, _, (normalizeEvent_congr hok ha').symm⟩

/-- Every alert the poll path makes from some events before a run of calls, it makes
again from them after the run, differing at most in status and creator: no call
removes a monitor it did not create. -/
theorem run_getAlerts_stable (p : MonitorPolicy) (host : Host) (events : List Event)
    (calls : List Call) :
    ∀ (s : ProviderState) (a : AlertDto), a ∈ getAlerts host s.vendor.monitors events →
      ∃ a' ∈ getAlerts host (s.run p calls).vendor.monitors events, ∃ status createdBy,
        a' = { a with status, createdBy } := by
  induction calls with
  | nil => exact fun s a ha => ⟨a, ha, a.status, a.createdBy, rfl⟩
  | cons c calls ih =>
      intro s a ha
      obtain ⟨a₁, ha₁, status₁, createdBy₁, rfl⟩ := getAlerts_of_extends (step_extends p s c) ha
      obtain ⟨a₂, ha₂, status₂, createdBy₂, rfl⟩ := ih _ _ ha₁
      exact ⟨_, ha₂, status₂, createdBy₂, rfl⟩

theorem run_getAlerts_stable_wiredRun :
    ∃ a, a ∈ getAlerts epochHost wiredVendor.monitors [wiredEvent] ∧
      ∃ a' ∈ getAlerts epochHost
          ((⟨Window.initial, wiredVendor⟩ : ProviderState).run sumPolicy wiredRun).vendor.monitors
          [wiredEvent],
        ∃ status createdBy, a' = { a with status, createdBy } := by
  obtain ⟨a, ha⟩ : ∃ a, normalizeEvent epochHost (monitorMap wiredVendor.monitors) wiredEvent =
      .ok a := ⟨_, rfl⟩
  exact ⟨a, mem_getAlerts_of_ok ha,
    run_getAlerts_stable sumPolicy epochHost [wiredEvent] wiredRun _ a (mem_getAlerts_of_ok ha)⟩

/-- The monitors the poll path reads keep their ids, downtimes and creators, and
new ones may be added. -/
def Vendor.KeepsPolled (v v' : Vendor) : Prop :=
  v.monitors.map (·.polled) ⊆ v'.monitors.map (·.polled)

/-- The call is a mute or an unmute, which lets the vendor change downtimes. -/
def Call.Mutes : Call → Prop
  | .muteMonitor .. | .unmuteMonitor .. => True
  | _ => False

theorem wiredRun_not_mutes : ∀ c ∈ wiredRun, ¬ c.Mutes := by
  intro c hc
  simp only [wiredRun, List.mem_cons, List.not_mem_nil, or_false] at hc
  rcases hc with rfl | rfl | rfl <;> exact id

namespace Vendor.KeepsPolled

variable {v v' v'' : Vendor}

theorem refl (v : Vendor) : v.KeepsPolled v := List.Subset.refl _

theorem trans (h : v.KeepsPolled v') (h' : v'.KeepsPolled v'') : v.KeepsPolled v'' :=
  List.Subset.trans h h'

theorem of_append {ms : List Monitor} (hm : v'.monitors = v.monitors ++ ms) : v.KeepsPolled v' := by
  rw [Vendor.KeepsPolled, hm, List.map_append]
  exact List.subset_append_left _ _

theorem of_map {g : Monitor → Monitor} (hm : v'.monitors = v.monitors.map g)
    (hg : ∀ m, (g m).polled = m.polled) : v.KeepsPolled v' := by
  rw [Vendor.KeepsPolled, hm, List.map_map, show (·.polled) ∘ g = (·.polled) from funext hg]
  exact List.Subset.refl _

/-- The poll path finds a kept monitor under its id, as it was. -/
theorem lookup (h : v.KeepsPolled v') {m : Monitor} (hm : m ∈ v.monitors) :
    (dictLookup (monitorMap v'.monitors) m.id).map (·.polled) = some m.polled := by
  obtain ⟨m', hm', hpolled⟩ := List.mem_map.mp (h (List.mem_map_of_mem _ hm))
  have hid : m'.id = m.id := congrArg Prod.fst hpolled
  rw [← hid, v'.lookup_monitorMap hm', Option.map_some', hpolled]

/-- An event of a kept monitor is normalized alike over both accounts. -/
theorem normalizeEvent_eq (h : v.KeepsPolled v') {host : Host} {event : Event} {m : Monitor}
    (hm : m ∈ v.monitors) (hid : event.monitorId = some m.id) :
    normalizeEvent host (monitorMap v.monitors) event =
      normalizeEvent host (monitorMap v'.monitors) event := by
  refine normalizeEvent_eq_of_lookup ?_
  rw [hid, Option.some_bind, Option.some_bind, v.lookup_monitorMap hm, h.lookup hm, Option.map_some']

end Vendor.KeepsPolled

/-- Every call but a mute or an unmute keeps what the poll path reads of the monitors. -/
theorem step_keepsPolled (p : MonitorPolicy) (s : ProviderState) (c : Call) (hc : ¬ c.Mutes) :
    s.vendor.KeepsPolled (s.step p c).vendor := by
  cases c with
  | query => exact .refl _
  | validateScopes f pf host now => exact .of_append (validateScopes_account p f pf host now s).2.1
  | setupWebhook f t u k b =>
      rcases setupWebhookAccount_monitors f t u k b s.vendor with h | h
      · exact .of_append (h.trans (List.append_nil _).symm)
      · exact .of_map h (polled_wired f _)
  | deployAlert createError message =>
      exact .of_append (deployAlertAccount_eq p createError s.vendor message).2
  | muteMonitor | unmuteMonitor => exact absurd trivial hc

/-- A poll over an account that keeps what the poll path reads of `v`'s monitors
makes every alert it made over `v`, identical and in order. -/
theorem getAlerts_sublist_of_keepsPolled {host : Host} {v v' : Vendor} (h : v.KeepsPolled v')
    (events : List Event) :
    List.Sublist (getAlerts host v.monitors events) (getAlerts host v'.monitors events) := by
  induction events with
  | nil => exact List.Sublist.slnil
  | cons event events ih =>
      rw [getAlerts_cons, getAlerts_cons]
      cases hn : normalizeEvent host (monitorMap v.monitors) event with
      | error e => exact ih.trans (List.sublist_append_right _ _)
      | ok a =>
          obtain ⟨id, m, hid, hm, -⟩ := (normalizeEvent_ok hn).monitor
          obtain ⟨hmem, rfl⟩ := monitorMap_lookup hm
          rw [← h.normalizeEvent_eq hmem hid, hn]
          exact ih.cons₂ a

/-- An alert of the poll path over `v'` it did not make over `v` comes from an
event whose monitor `v` lacks and `v'` holds. -/
theorem getAlerts_new_of_keepsPolled {host : Host} {v v' : Vendor} (h : v.KeepsPolled v')
    {events : List Event} {a : AlertDto} (ha : a ∈ getAlerts host v'.monitors events) :
    a ∈ getAlerts host v.monitors events ∨
      ∃ event ∈ events, ∃ id, event.monitorId = some id ∧ id ∉ v.monitors.map (·.id) ∧
        id ∈ v'.monitors.map (·.id) ∧ normalizeEvent host (monitorMap v'.monitors) event = .ok a := by
  obtain ⟨event, he, hn⟩ := mem_getAlerts_iff.mp ha
  obtain ⟨id, m', hid, hm', -⟩ := (normalizeEvent_ok hn).monitor
  obtain ⟨hmem', rfl⟩ := monitorMap_lookup hm'
  by_cases hold : m'.id ∈ v.monitors.map (·.id)
  · obtain ⟨m, hmem, hmid⟩ := List.mem_map.mp hold
    rw [← hmid] at hid
    exact .inl (mem_getAlerts_iff.mpr ⟨event, he, (h.normalizeEvent_eq hmem hid).trans hn⟩)
  · exact .inr ⟨event, he, m'.id, hid, hold, List.mem_map_of_mem _ hmem', hn⟩

/-- Only mutes and unmutes change what the poll path reports for the events it
reports: along a run without them, the alerts it makes from any events only grow —
every alert of before comes again, identical (status and creator included) and in
order, and every other alert comes from an event whose monitor the run created. -/
theorem run_getAlerts_sublist (p : MonitorPolicy) (host : Host) (events : List Event)
    (calls : List Call) (s : ProviderState) (hc : ∀ c ∈ calls, ¬ c.Mutes) :
    List.Sublist (getAlerts host s.vendor.monitors events)
        (getAlerts host (s.run p calls).vendor.monitors events) ∧
      ∀ a ∈ getAlerts host (s.run p calls).vendor.monitors events,
        a ∈ getAlerts host s.vendor.monitors events ∨
          ∃ event ∈ events, ∃ id, event.monitorId = some id ∧ id ∉ s.vendor.monitors.map (·.id) ∧
            id ∈ (s.run p calls).vendor.monitors.map (·.id) ∧
            normalizeEvent host (monitorMap (s.run p calls).vendor.monitors) event = .ok a := by
  have hkeep : s.vendor.KeepsPolled (s.run p calls).vendor :=
    ProviderState.run_invariant p (P := fun s' => s.vendor.KeepsPolled s'.vendor)
      (fun s' c hc' h => h.trans (step_keepsPolled p s' c hc')) calls s hc (.refl _)
  exact ⟨getAlerts_sublist_of_keepsPolled hkeep events, fun _ ha => getAlerts_new_of_keepsPolled hkeep ha⟩

theorem run_getAlerts_sublist_wiredRun :
    (∀ c ∈ wiredRun, ¬ c.Mutes) ∧
      List.Sublist (getAlerts epochHost wiredVendor.monitors [wiredEvent])
          (getAlerts epochHost
            ((⟨Window.initial, wiredVendor⟩ : ProviderState).run sumPolicy wiredRun).vendor.monitors
            [wiredEvent]) ∧
        ∀ a ∈ getAlerts epochHost
            ((⟨Window.initial, wiredVendor⟩ : ProviderState).run sumPolicy wiredRun).vendor.monitors
            [wiredEvent],
          a ∈ getAlerts epochHost wiredVendor.monitors [wiredEvent] ∨
            ∃ event ∈ [wiredEvent], ∃ id, event.monitorId = some id ∧
              id ∉ wiredVendor.monitors.map (·.id) ∧
              id ∈ ((⟨Window.initial, wiredVendor⟩ : ProviderState).run sumPolicy
                wiredRun).vendor.monitors.map (·.id) ∧
              normalizeEvent epochHost (monitorMap ((⟨Window.initial, wiredVendor⟩ : ProviderState).run
                sumPolicy wiredRun).vendor.monitors) event = .ok a :=
  ⟨wiredRun_not_mutes, run_getAlerts_sublist sumPolicy epochHost [wiredEvent] wiredRun
    ⟨Window.initial, wiredVendor⟩ wiredRun_not_mutes⟩

/-! ## The stored window

`self.to` and `self._from` are two registers: `_query` writes `self.to` once the
timeframe converts, and `self._from` only after the host represented its start,
so a call can write the first and raise before the second. -/

/-- The `self.to` a call stores, if it stores one: `_query`'s, and the one of the
`_query` of `validate_scopes`'s `logs_read` probe, reached at a clock the host
represents an hour back. -/
def Call.storedTo : Call → Option ℚ
  | .query host now _ timeframe _ => queryTo host now timeframe
  | .validateScopes _ _ host now => if host.hourReadable now then some now else none
  | _ => none

/-- The `self._from` a call stores, if it stores one. -/
def Call.storedFrom : Call → Option ℚ
  | .query host now _ timeframe _ => queryFrom host now timeframe
  | .validateScopes _ _ host now => if host.hourReadable now then some (now - 3600) else none
  | _ => none

/-- A call that stores `self._from` has stored `self.to` before it. -/
theorem Call.storedTo_isSome (c : Call) (h : c.storedFrom.isSome) : c.storedTo.isSome := by
  cases c with
  | query host now q timeframe queryType =>
      simp only [Call.storedFrom, Call.storedTo, queryFrom, queryTo] at h ⊢
      cases hc : convertToSeconds timeframe with
      | error e => simp [hc] at h
      | ok n =>
          simp only [hc, Bool.and_eq_true] at h ⊢
          by_cases hnow : (host.fromtimestamp now).isSome <;> simp_all
  | validateScopes f pf host now =>
      by_cases hr : host.hourReadable now <;> simp_all [Call.storedFrom, Call.storedTo]
  | _ => exact absurd h (by simp [Call.storedFrom])

/-- One call writes each bound it stores and leaves the other as it was. -/
theorem step_window (p : MonitorPolicy) (s : ProviderState) (c : Call) :
    (s.step p c).window = ⟨c.storedTo.or s.window.toTime, c.storedFrom.or s.window.fromTime⟩ := by
  cases c with
  | query host now q timeframe queryType => exact query_window
  | validateScopes f pf host now =>
      show (validateScopes p f pf host now s).1.window = _
      rw [(validateScopes_account p f pf host now s).2.2, Call.storedTo, Call.storedFrom]
      split <;> rfl
  | setupWebhook | deployAlert | muteMonitor | unmuteMonitor => rfl

/-- A register that call `c` writes with `g c`, and the calls after it with theirs,
holds the last value written. -/
theorem getLast?_or_write {β : Type} (g : Call → Option β) (c : Call) (calls : List Call)
    (r : Option β) :
    ((calls.filterMap g).getLast?).or ((g c).or r) = (((c :: calls).filterMap g).getLast?).or r := by
  cases h : g c with
  | none => rw [List.filterMap_cons_none h]; rfl
  | some b =>
      rw [List.filterMap_cons_some h, List.getLast?_cons]
      cases (calls.filterMap g).getLast? <;> rfl

/-- Each bound is a last-writer-wins register: after any run the provider holds, in
`self.to` and in `self._from`, the value the run's last call that wrote that bound
wrote — whatever came after it — and its old value when no call wrote it. -/
theorem run_window_last (p : MonitorPolicy) (calls : List Call) :
    ∀ s : ProviderState, (s.run p calls).window =
      ⟨((calls.filterMap Call.storedTo).getLast?).or s.window.toTime,
        ((calls.filterMap Call.storedFrom).getLast?).or s.window.fromTime⟩ := by
  induction calls with
  | nil => exact fun _ => rfl
  | cons c calls ih =>
      intro s
      rw [ProviderState.run_cons, ih, step_window, getLast?_or_write, getLast?_or_write]

/-- The call stores a window `expose()` can read: it stores `self._from`, and with
it `self.to`. -/
def Call.SetsWindow (c : Call) : Prop := c.storedFrom.isSome

/-- `expose()` answers exactly when both bounds are set. -/
theorem expose_isOk_iff (w : Window) :
    (∃ r, expose w = .ok r) ↔ w.toTime.isSome ∧ w.fromTime.isSome := by
  obtain ⟨toTime, fromTime⟩ := w
  cases toTime <;> cases fromTime <;> simp [expose]

/-- A register holds a value after a run from empty exactly when a call wrote one. -/
theorem getLast?_filterMap_isSome {β : Type} (g : Call → Option β) (calls : List Call) :
    ((calls.filterMap g).getLast?).isSome ↔ ∃ c ∈ calls, (g c).isSome := by
  simp [List.getLast?_isSome, List.filterMap_eq_nil_iff, Option.ne_none_iff_isSome]

/-- After any run from a fresh provider, `expose()` answers exactly when some call
of the run stored `self._from`: a `_query` whose timeframe converts and whose two
bounds the host represents, or a `validate_scopes` at a clock the host represents
an hour back.  Otherwise it raises. -/
theorem run_expose_isOk_iff (p : MonitorPolicy) (calls : List Call) (s : ProviderState)
    (h : s.window = Window.initial) :
    (∃ r, expose (s.run p calls).window = .ok r) ↔ ∃ c ∈ calls, c.SetsWindow := by
  rw [expose_isOk_iff, run_window_last, h]
  simp only [Window.initial, Option.or_none, getLast?_filterMap_isSome, Call.SetsWindow]
  exact ⟨And.right, fun hset => ⟨hset.imp fun c => And.imp_right c.storedTo_isSome, hset⟩⟩

theorem run_expose_isOk_iff_wiredRun :
    (⟨Window.initial, wiredVendor⟩ : ProviderState).window = Window.initial ∧
      ((∃ r, expose ((⟨Window.initial, wiredVendor⟩ : ProviderState).run sumPolicy wiredRun).window =
        .ok r) ↔ ∃ c ∈ wiredRun, c.SetsWindow) :=
  ⟨rfl, run_expose_isOk_iff sumPolicy wiredRun _ rfl⟩

end Keep.DatadogProvider
