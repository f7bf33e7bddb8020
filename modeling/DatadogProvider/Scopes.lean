/-
# DatadogProvider.Scopes — `validate_scopes`

`validate_scopes()` probes each scope of `PROVIDER_SCOPES` with one vendor call
and records `True`, or the reason of the `ApiException` the probe raised; any
other exception ends the call.  Three probes leave something behind:
`monitors_write` creates an example monitor and then deletes it,
`create_webhooks` creates a registration named `keep-webhook-scope-validation`
and never deletes it (a refusal other than 403 counts as access), and
`logs_read` runs `_query`, which stores its one-hour window on the provider
before it calls the vendor.  The clock reads `now` throughout one call; the
first probe, `events_read`, reads it and the hour before it as datetimes, and
raises, before any vendor call, where the host cannot represent them.

* `validateScopesLoop_ok`: a loop whose probes raise only `ApiException`s
  records one entry per scope, in order, and leaves the state the probes leave
  one after the other.
* `validateScopes_scopes`: the dict the call returns — each scope `True` exactly
  when its vendor call succeeded; `create_webhooks` fails only on a 403.
* `validateScopes_effect`: at a clock the host represents an hour back, whatever
  the vendor answers, the call returns the six scopes in order; it leaves the
  one-hour window at `now`, whatever window a `_query` stored before; it adds
  the validation registration exactly when the name was free and the vendor let
  it be created; and it leaves the example monitor in the account exactly when
  its creation succeeded and its deletion failed.  At any other clock it raises
  and changes nothing.
-/
import DatadogProvider.Query
import DatadogProvider.Vendor

namespace Keep.DatadogProvider

set_option autoImplicit false

/-- The names of `PROVIDER_SCOPES` (lines 73–114), in order. -/
def providerScopes : List Str :=
  ["events_read".toList, "monitors_read".toList, "monitors_write".toList,
    "create_webhooks".toList, "metrics_read".toList, "logs_read".toList]

/-- The vendor's answers to the probe calls `Faults` does not cover. -/
structure ProbeFaults where
  listEventsError : Option ApiException
  createMonitorError : Option ApiException
  deleteMonitorError : Option ApiException
  queryMetricsError : Option ApiException
  listLogsError : Option ApiException

/-- The message of the `monitors_write` probe's monitor (line 328). -/
def exampleMonitorMessage : Str := "some message Notify: @hipchat-channel".toList

/-- The body of the `create_webhooks` probe (lines 348–351): a name and a url, and
nothing else. -/
def scopeValidationWebhook : WebhookIntegration :=
  { name := "keep-webhook-scope-validation".toList, url := "https://example.com".toList,
    customHeaders := [], payload := [], encodeAs := [] }

/-- A value of the dict `validate_scopes` returns: `True`, or `str(e.reason)` of
the exception `e` the probe raised. -/
inductive ScopeValue
  | valid
  | failed (e : ApiException)
  deriving DecidableEq, Repr

namespace ScopeValue

/-- The value recorded for a probe whose vendor call raised `e`, or succeeded. -/
def ofRaised : Option ApiException → ScopeValue
  | some e => failed e
  | none => valid

/-- The probe result the loop records as this value. -/
def raised : ScopeValue → Except PyError Unit
  | valid => .ok ()
  | failed e => .error (.api e)

end ScopeValue

/-- What the provider keeps between calls: the window `_query` stores, and the
account it acts on. -/
structure ProviderState where
  window : Window
  vendor : Vendor

/-- A vendor call whose result the probe drops. -/
def vendorAnswer : Option ApiException → Except PyError Unit
  | some e => .error (.api e)
  | none => .ok ()

/-- The host can represent the clock and the hour before it, as the
`events_read` and `logs_read` probes need. -/
def Host.hourReadable (host : Host) (now : ℚ) : Bool :=
  (host.fromtimestamp now).isSome && (host.fromtimestamp (now - 3600)).isSome

/-- The `try` body for one scope (lines 319–377): the state it leaves, and what it
raised.  `datetime.now() - timedelta(hours=1)` is the datetime of `now - 3600`. -/
def probeScope (p : MonitorPolicy) (f : Faults) (pf : ProbeFaults) (host : Host) (now : ℚ)
    (s : ProviderState) (scope : Str) : ProviderState × Except PyError Unit :=
  if scope = "monitors_read".toList then
    (s, ((s.vendor.listMonitors f).map fun _ => ()).mapError .api)
  else if scope = "monitors_write".toList then
    match s.vendor.createMonitor p pf.createMonitorError exampleMonitorMessage with
    | .error e => (s, .error (.api e))
    | .ok (v, monitor) =>
        match v.deleteMonitor pf.deleteMonitorError monitor.id with
        | .ok v' => ({ s with vendor := v' }, .ok ())
        | .error e => ({ s with vendor := v }, .error (.api e))
  else if scope = "create_webhooks".toList then
    match s.vendor.createWebhooksIntegration f scopeValidationWebhook with
    | .ok v => ({ s with vendor := v }, .ok ())
    | .error e => (s, if e.status = 403 then .error (.api e) else .ok ())
  else if scope = "metrics_read".toList then
    (s, do
      let _ ← host.datetimeOf now
      vendorAnswer pf.queryMetricsError)
  else if scope = "logs_read".toList then
    let (window, call) := query host now s.window "*".toList "1h".toList "logs".toList
    ({ s with window }, call >>= fun _ => vendorAnswer pf.listLogsError)
  else if scope = "events_read".toList then
    (s, do
      let _ ← host.datetimeOf now
      let _ ← host.datetimeOf (now - 3600)
      vendorAnswer pf.listEventsError)
  else (s, .ok ())

/-- The `for` loop (lines 317–387) over the scopes not yet probed, from the dict
built so far; an exception other than `ApiException` ends the call. -/
def validateScopesLoop (probe : ProviderState → Str → ProviderState × Except PyError Unit) :
    List Str → ProviderState → PyDict Str ScopeValue →
      ProviderState × Except PyError (PyDict Str ScopeValue)
  | [], s, scopes => (s, .ok scopes)
  | scope :: rest, s, scopes =>
      match probe s scope with
      | (s, .ok ()) => validateScopesLoop probe rest s (dictInsert scopes scope .valid)
      | (s, .error (.api e)) => validateScopesLoop probe rest s (dictInsert scopes scope (.failed e))
      | (s, .error e) => (s, .error e)

/-- `validate_scopes()`: the state it leaves, and the dict it returns. -/
def validateScopes (p : MonitorPolicy) (f : Faults) (pf : ProbeFaults) (host : Host) (now : ℚ)
    (s : ProviderState) : ProviderState × Except PyError (PyDict Str ScopeValue) :=
  validateScopesLoop (probeScope p f pf host now) providerScopes s []

/-! ## The loop -/

/-- A probe result the loop records: success, or an `ApiException`. -/
def RaisesApiOnly (r : Except PyError Unit) : Prop := ∀ e, r = .error e → ∃ e', e = .api e'

theorem RaisesApiOnly.exists_raised {r : Except PyError Unit} (h : RaisesApiOnly r) :
    ∃ v : ScopeValue, r = v.raised := by
  rcases r with e | ⟨⟩
  · obtain ⟨e', rfl⟩ := h e rfl
    exact ⟨.failed e', rfl⟩
  · exact ⟨.valid, rfl⟩

/-- One turn of the loop records what the probe raised under the scope's name. -/
theorem validateScopesLoop_cons {probe : ProviderState → Str → ProviderState × Except PyError Unit}
    {scope : Str} {rest : List Str} {s : ProviderState} {acc : PyDict Str ScopeValue}
    {v : ScopeValue} (h : (probe s scope).2 = v.raised) :
    validateScopesLoop probe (scope :: rest) s acc =
      validateScopesLoop probe rest (probe s scope).1 (dictInsert acc scope v) := by
  rcases hr : probe s scope with ⟨s', r⟩
  rw [hr] at h
  subst h
  cases v <;> simp only [validateScopesLoop, hr, ScopeValue.raised]

/-- A loop whose probes raise only `ApiException`s records every scope, in order,
and leaves the state the probes leave one after the other. -/
theorem validateScopesLoop_ok {probe : ProviderState → Str → ProviderState × Except PyError Unit}
    (hp : ∀ s scope, RaisesApiOnly (probe s scope).2) :
    ∀ (scopes : List Str) (s : ProviderState) (acc : PyDict Str ScopeValue),
      (acc.map (·.1) ++ scopes).Nodup →
      ∃ d, validateScopesLoop probe scopes s acc =
        (scopes.foldl (fun s scope => (probe s scope).1) s, .ok d) ∧
        d.map (·.1) = acc.map (·.1) ++ scopes
  | [], s, acc, _ => ⟨acc, rfl, by simp⟩
  | scope :: rest, s, acc, hnd => by
      have hk : scope ∉ acc.map (·.1) := fun h =>
        List.disjoint_of_nodup_append hnd h (List.mem_cons_self _ _)
      obtain ⟨v, hv⟩ := (hp s scope).exists_raised
      obtain ⟨d, hd, hkeys⟩ :=
        validateScopesLoop_ok hp rest (probe s scope).1 (acc ++ [(scope, v)]) (by simpa using hnd)
      refine ⟨d, ?_, by simpa using hkeys⟩
      rw [validateScopesLoop_cons hv, dictInsert_of_not_mem hk, hd, List.foldl_cons]

/-! ## The probes -/

theorem raisesApiOnly_ok : RaisesApiOnly (.ok ()) := fun _ h => nomatch h

theorem raisesApiOnly_api (e : ApiException) : RaisesApiOnly (.error (.api e)) :=
  fun _ h => ⟨e, (Except.error.inj h).symm⟩

theorem vendorAnswer_raisesApiOnly (o : Option ApiException) : RaisesApiOnly (vendorAnswer o) := by
  cases o
  exacts [raisesApiOnly_ok, raisesApiOnly_api _]

/-- The timeframe of the `logs_read` probe is an hour. -/
theorem convertToSeconds_hour : convertToSeconds "1h".toList = .ok 3600 :=
  @convertToSeconds_digits "1".toList 'h' 3600 (by decide) (by decide) (by decide) rfl

theorem Host.hourReadable_iff {host : Host} {now : ℚ} :
    host.hourReadable now = true ↔
      (host.fromtimestamp now).isSome ∧ (host.fromtimestamp (now - 3600)).isSome := by
  simp [Host.hourReadable]

/-- At a clock the host represents an hour back, the `_query` of `logs_read` stores
the one-hour window and asks the vendor for its logs. -/
theorem query_hour {host : Host} {now : ℚ} (w : Window) (hclock : host.hourReadable now = true) :
    (query host now w "*".toList "1h".toList "logs".toList).1 = ⟨some now, some (now - 3600)⟩ ∧
      (query host now w "*".toList "1h".toList "logs".toList).2 =
        .ok (.listLogs "*".toList (now - 3600) now) := by
  obtain ⟨hnow, hback⟩ := Host.hourReadable_iff.mp hclock
  have := @query_logs_call host now w "*".toList _ _ convertToSeconds_hour hnow
    (by exact_mod_cast hback)
  exact_mod_cast this

theorem datetimeOf_isOk {host : Host} {t : ℚ} (h : (host.fromtimestamp t).isSome) :
    ∃ dt, host.datetimeOf t = .ok dt := by
  obtain ⟨dt, hdt⟩ := Option.isSome_iff_exists.mp h
  exact ⟨dt, Host.datetimeOf_eq_ok.mpr hdt⟩

section Probes

variable (p : MonitorPolicy) (f : Faults) (pf : ProbeFaults) (host : Host) (now : ℚ)
  (s : ProviderState)

theorem probeScope_events_read : (probeScope p f pf host now s "events_read".toList).1 = s := rfl

theorem probeScope_monitors_read : (probeScope p f pf host now s "monitors_read".toList).1 = s := rfl

theorem probeScope_metrics_read : (probeScope p f pf host now s "metrics_read".toList).1 = s := rfl

/-- The `logs_read` probe stores the one-hour window at `now`, whatever the vendor
answers, at a clock the host represents an hour back. -/
theorem probeScope_logs_read (hclock : host.hourReadable now = true) :
    (probeScope p f pf host now s "logs_read".toList).1 =
      { s with window := ⟨some now, some (now - 3600)⟩ } := by
  show { s with window := (query host now s.window "*".toList "1h".toList "logs".toList).1 } = _
  rw [(query_hour s.window hclock).1]

/-- The `monitors_write` probe leaves its monitor behind when the deletion fails. -/
theorem probeScope_monitors_write :
    (probeScope p f pf host now s "monitors_write".toList).1.window = s.window ∧
      (probeScope p f pf host now s "monitors_write".toList).1.vendor.webhooks = s.vendor.webhooks ∧
      (probeScope p f pf host now s "monitors_write".toList).1.vendor.monitors = s.vendor.monitors ++
        if pf.createMonitorError = none ∧ pf.deleteMonitorError.isSome then
          [p.record s.vendor exampleMonitorMessage] else [] := by
  unfold probeScope
  rw [if_neg (by decide), if_pos rfl]
  cases hc : pf.createMonitorError with
  | some e => simp [Vendor.createMonitor, hc]
  | none =>
      simp only [Vendor.createMonitor, hc, Vendor.deleteMonitor_addMonitor]
      cases pf.deleteMonitorError <;> simp [Vendor.addMonitor]

/-- The `create_webhooks` probe adds its registration when the vendor lets it be
created and the name is free. -/
theorem probeScope_create_webhooks :
    (probeScope p f pf host now s "create_webhooks".toList).1.window = s.window ∧
      (probeScope p f pf host now s "create_webhooks".toList).1.vendor.monitors = s.vendor.monitors ∧
      (probeScope p f pf host now s "create_webhooks".toList).1.vendor.webhooks = s.vendor.webhooks ++
        if scopeValidationWebhook.name ∉ s.vendor.names ∧ f.createError = none then
          [scopeValidationWebhook] else [] := by
  unfold probeScope
  rw [if_neg (by decide), if_neg (by decide), if_pos rfl]
  unfold Vendor.createWebhooksIntegration
  cases hc : f.createError with
  | some e => simp [hc]
  | none =>
      by_cases hn : scopeValidationWebhook.name ∈ s.vendor.names
      · simp [hn]
      · simp [hn, Vendor.addWebhook]

theorem probeScope_monitors_write_names :
    (probeScope p f pf host now s "monitors_write".toList).1.vendor.names = s.vendor.names := by
  rw [Vendor.names, (probeScope_monitors_write p f pf host now s).2.1, Vendor.names]

/-! What each probe raises: the exception of its vendor call, if any. -/

theorem vendorAnswer_eq (o : Option ApiException) : vendorAnswer o = (ScopeValue.ofRaised o).raised := by
  cases o <;> rfl

theorem raisesApiOnly_ofRaised (o : Option ApiException) : RaisesApiOnly (ScopeValue.ofRaised o).raised :=
  vendorAnswer_eq o ▸ vendorAnswer_raisesApiOnly o

theorem probeScope_events_read_raised (hclock : host.hourReadable now = true) :
    (probeScope p f pf host now s "events_read".toList).2 =
      (ScopeValue.ofRaised pf.listEventsError).raised := by
  obtain ⟨hnow, hback⟩ := Host.hourReadable_iff.mp hclock
  obtain ⟨dt, hdt⟩ := datetimeOf_isOk hnow
  obtain ⟨dt', hdt'⟩ := datetimeOf_isOk hback
  show (host.datetimeOf now >>= fun _ => host.datetimeOf (now - 3600) >>= fun _ =>
    vendorAnswer pf.listEventsError) = _
  rw [hdt, ok_bind, hdt', ok_bind, vendorAnswer_eq]

/-- At a clock the host cannot represent an hour back, the first probe raises the
datetime's error, which is no `ApiException`. -/
theorem probeScope_events_read_of_clock (hclock : host.hourReadable now = false) :
    (probeScope p f pf host now s "events_read".toList).2 = .error .overflowError := by
  show (host.datetimeOf now >>= fun _ => host.datetimeOf (now - 3600) >>= fun _ =>
    vendorAnswer pf.listEventsError) = _
  unfold Host.hourReadable at hclock
  unfold Host.datetimeOf
  cases hn : host.fromtimestamp now with
  | none => rfl
  | some dt =>
      cases hb : host.fromtimestamp (now - 3600) with
      | none => rfl
      | some dt' => simp [hn, hb] at hclock

theorem probeScope_monitors_read_raised :
    (probeScope p f pf host now s "monitors_read".toList).2 =
      (ScopeValue.ofRaised f.listMonitorsError).raised := by
  show ((s.vendor.listMonitors f).map fun _ => ()).mapError PyError.api = _
  unfold Vendor.listMonitors
  cases f.listMonitorsError <;> rfl

/-- `monitors_write` raises the creation's exception, else the deletion's. -/
theorem probeScope_monitors_write_raised :
    (probeScope p f pf host now s "monitors_write".toList).2 =
      (ScopeValue.ofRaised (pf.createMonitorError.or pf.deleteMonitorError)).raised := by
  unfold probeScope
  rw [if_neg (by decide), if_pos rfl]
  cases hc : pf.createMonitorError with
  | some e => simp [Vendor.createMonitor, hc, ScopeValue.ofRaised, ScopeValue.raised]
  | none =>
      simp only [Vendor.createMonitor, hc, Vendor.deleteMonitor_addMonitor]
      cases pf.deleteMonitorError <;> rfl

/-- `create_webhooks` raises only a refusal with 403: a taken name is answered with
"Webhook already exists", a 400. -/
theorem probeScope_create_webhooks_raised :
    (probeScope p f pf host now s "create_webhooks".toList).2 =
      (ScopeValue.ofRaised (f.createError.filter (·.status == 403))).raised := by
  unfold probeScope
  rw [if_neg (by decide), if_neg (by decide), if_pos rfl]
  unfold Vendor.createWebhooksIntegration
  cases hc : f.createError with
  | none =>
      by_cases hn : scopeValidationWebhook.name ∈ s.vendor.names <;>
        simp [hn, alreadyExists, ScopeValue.ofRaised, ScopeValue.raised]
  | some e =>
      by_cases h403 : e.status = 403 <;>
        simp [h403, Option.filter, ScopeValue.ofRaised, ScopeValue.raised]

theorem probeScope_metrics_read_raised (hclock : host.hourReadable now = true) :
    (probeScope p f pf host now s "metrics_read".toList).2 =
      (ScopeValue.ofRaised pf.queryMetricsError).raised := by
  obtain ⟨dt, hdt⟩ := datetimeOf_isOk (Host.hourReadable_iff.mp hclock).1
  show (host.datetimeOf now >>= fun _ => vendorAnswer pf.queryMetricsError) = _
  rw [hdt, ok_bind, vendorAnswer_eq]

theorem probeScope_logs_read_raised (hclock : host.hourReadable now = true) :
    (probeScope p f pf host now s "logs_read".toList).2 = (ScopeValue.ofRaised pf.listLogsError).raised := by
  show (query host now s.window "*".toList "1h".toList "logs".toList).2 >>=
    (fun _ => vendorAnswer pf.listLogsError) = _
  rw [(query_hour s.window hclock).2, ok_bind, vendorAnswer_eq]

/-- At a clock the host represents an hour back, every probe raises only
`ApiException`s. -/
theorem probeScope_raisesApiOnly (hclock : host.hourReadable now = true) (scope : Str) :
    RaisesApiOnly (probeScope p f pf host now s scope).2 := by
  by_cases h₁ : scope = "monitors_read".toList
  · rw [h₁, probeScope_monitors_read_raised]
    exact raisesApiOnly_ofRaised _
  by_cases h₂ : scope = "monitors_write".toList
  · rw [h₂, probeScope_monitors_write_raised]
    exact raisesApiOnly_ofRaised _
  by_cases h₃ : scope = "create_webhooks".toList
  · rw [h₃, probeScope_create_webhooks_raised]
    exact raisesApiOnly_ofRaised _
  by_cases h₄ : scope = "metrics_read".toList
  · rw [h₄, probeScope_metrics_read_raised p f pf host now s hclock]
    exact raisesApiOnly_ofRaised _
  by_cases h₅ : scope = "logs_read".toList
  · rw [h₅, probeScope_logs_read_raised p f pf host now s hclock]
    exact raisesApiOnly_ofRaised _
  by_cases h₆ : scope = "events_read".toList
  · rw [h₆, probeScope_events_read_raised p f pf host now s hclock]
    exact raisesApiOnly_ofRaised _
  simp only [probeScope, h₁, h₂, h₃, h₄, h₅, h₆, if_false]
  exact raisesApiOnly_ok

end Probes

/-! ## The whole call -/

section Call

variable (p : MonitorPolicy) (f : Faults) (pf : ProbeFaults) (host : Host) (now : ℚ)
  (s : ProviderState)

/-- At a clock the host represents an hour back, the call records the six scopes
and leaves the state the six probes leave. -/
theorem validateScopes_eq (hclock : host.hourReadable now = true) : ∃ scopes,
    validateScopes p f pf host now s =
      (providerScopes.foldl (fun s scope => (probeScope p f pf host now s scope).1) s, .ok scopes) ∧
      scopes.map (·.1) = providerScopes := by
  obtain ⟨d, hd, hkeys⟩ := validateScopesLoop_ok
    (fun s scope => probeScope_raisesApiOnly p f pf host now s hclock scope) providerScopes s []
    (by decide)
  exact ⟨d, hd, by simpa using hkeys⟩

/-- At any other clock the call raises at its first probe, before it calls the
vendor, and changes nothing. -/
theorem validateScopes_of_clock (hclock : host.hourReadable now = false) :
    validateScopes p f pf host now s = (s, .error .overflowError) := by
  unfold validateScopes providerScopes
  rw [validateScopesLoop]
  have h := probeScope_events_read_of_clock p f pf host now s hclock
  rcases hp : probeScope p f pf host now s "events_read".toList with ⟨s', r⟩
  have hs' : s' = s := by rw [← probeScope_events_read p f pf host now s, hp]
  rw [hp] at h
  subst hs' h
  rfl

/-- The state `validate_scopes` leaves, at a clock the host represents an hour
back, whatever the vendor answers. -/
theorem validateScopes_state (hclock : host.hourReadable now = true) :
    (validateScopes p f pf host now s).1.window = ⟨some now, some (now - 3600)⟩ ∧
      (validateScopes p f pf host now s).1.vendor.webhooks = s.vendor.webhooks ++
        (if scopeValidationWebhook.name ∉ s.vendor.names ∧ f.createError = none then
          [scopeValidationWebhook] else []) ∧
      (validateScopes p f pf host now s).1.vendor.monitors = s.vendor.monitors ++
        (if pf.createMonitorError = none ∧ pf.deleteMonitorError.isSome then
          [p.record s.vendor exampleMonitorMessage] else []) := by
  obtain ⟨_, hcall, -⟩ := validateScopes_eq p f pf host now s hclock
  rw [hcall]
  obtain ⟨-, hweb₁, hmon₁⟩ := probeScope_monitors_write p f pf host now s
  obtain ⟨-, hmon₂, hweb₂⟩ :=
    probeScope_create_webhooks p f pf host now (probeScope p f pf host now s "monitors_write".toList).1
  have hnames := probeScope_monitors_write_names p f pf host now s
  simp only [providerScopes, List.foldl_cons, List.foldl_nil, probeScope_events_read,
    probeScope_monitors_read, probeScope_metrics_read, probeScope_logs_read p f pf host now _ hclock]
  exact ⟨trivial, by rw [hweb₂, hnames, hweb₁], by rw [hmon₂, hmon₁]⟩

/-- The state `validate_scopes` leaves, at every clock: what the probes leave when
the host represents the clock an hour back, and nothing changed otherwise. -/
theorem validateScopes_account :
    (validateScopes p f pf host now s).1.vendor.webhooks = s.vendor.webhooks ++
        (if host.hourReadable now ∧ scopeValidationWebhook.name ∉ s.vendor.names ∧
          f.createError = none then [scopeValidationWebhook] else []) ∧
      (validateScopes p f pf host now s).1.vendor.monitors = s.vendor.monitors ++
        (if host.hourReadable now ∧ pf.createMonitorError = none ∧ pf.deleteMonitorError.isSome then
          [p.record s.vendor exampleMonitorMessage] else []) ∧
      (validateScopes p f pf host now s).1.window =
        if host.hourReadable now then ⟨some now, some (now - 3600)⟩ else s.window := by
  cases hclock : host.hourReadable now with
  | false => simp [validateScopes_of_clock p f pf host now s hclock]
  | true =>
      obtain ⟨hw, hweb, hmon⟩ := validateScopes_state p f pf host now s hclock
      simp [hw, hweb, hmon]

/-- A fresh provider over an empty account. -/
def emptyProvider : ProviderState := ⟨Window.initial, ⟨[], [], List.nodup_nil, List.nodup_nil⟩⟩

/-- `validate_scopes()` at a clock the host represents an hour back, whatever the
vendor answers: it never raises and records the six scopes in order; it leaves the
one-hour window at `now`; it adds the validation registration exactly when the
name was free and the vendor let it be created; and it leaves the example monitor
behind exactly when its creation succeeded and its deletion failed.  At any other
clock it raises at its first probe and changes nothing. -/
theorem validateScopes_effect :
    (host.hourReadable now = true →
      (∃ scopes, (validateScopes p f pf host now s).2 = .ok scopes ∧
          scopes.map (·.1) = providerScopes) ∧
        (validateScopes p f pf host now s).1.window = ⟨some now, some (now - 3600)⟩ ∧
        (validateScopes p f pf host now s).1.vendor.webhooks = s.vendor.webhooks ++
          (if scopeValidationWebhook.name ∉ s.vendor.names ∧ f.createError = none then
            [scopeValidationWebhook] else []) ∧
        (validateScopes p f pf host now s).1.vendor.monitors = s.vendor.monitors ++
          (if pf.createMonitorError = none ∧ pf.deleteMonitorError.isSome then
            [p.record s.vendor exampleMonitorMessage] else [])) ∧
      (host.hourReadable now = false → validateScopes p f pf host now s = (s, .error .overflowError)) :=
  ⟨fun hclock =>
    have ⟨scopes, hcall, hkeys⟩ := validateScopes_eq p f pf host now s hclock
    ⟨⟨scopes, by rw [hcall], hkeys⟩, validateScopes_state p f pf host now s hclock⟩,
    validateScopes_of_clock p f pf host now s⟩

/-- Validation at the epoch, over an empty account whose vendor accepts every call:
the hour before the epoch is stored, the validation registration added, and the
example monitor deleted. -/
theorem validateScopes_effect_epoch :
    epochHost.hourReadable 0 = true ∧
      (validateScopes sumPolicy Faults.none ⟨none, none, none, none, none⟩ epochHost 0
        emptyProvider).1.window = ⟨some 0, some (0 - 3600)⟩ ∧
      (validateScopes sumPolicy Faults.none ⟨none, none, none, none, none⟩ epochHost 0
        emptyProvider).1.vendor.webhooks = [scopeValidationWebhook] ∧
      (validateScopes sumPolicy Faults.none ⟨none, none, none, none, none⟩ epochHost 0
        emptyProvider).1.vendor.monitors = [] :=
  have h := (validateScopes_effect sumPolicy Faults.none ⟨none, none, none, none, none⟩ epochHost 0
    emptyProvider).1 rfl
  ⟨rfl, h.2.1, h.2.2.1.trans (by simp [emptyProvider, Vendor.names, Faults.none]),
    h.2.2.2.trans (by simp [emptyProvider])⟩

/-- What `validate_scopes()` returns at a clock the host represents an hour back,
whatever the vendor answers: the six scopes in order, each `True` when its vendor
call succeeded and the exception it raised otherwise.  `monitors_write` records
the creation's exception, else the deletion's; `create_webhooks` records a
refusal with 403 only. -/
theorem validateScopes_scopes (hclock : host.hourReadable now = true) :
    (validateScopes p f pf host now s).2 = .ok
      [("events_read".toList, .ofRaised pf.listEventsError),
        ("monitors_read".toList, .ofRaised f.listMonitorsError),
        ("monitors_write".toList, .ofRaised (pf.createMonitorError.or pf.deleteMonitorError)),
        ("create_webhooks".toList, .ofRaised (f.createError.filter (·.status == 403))),
        ("metrics_read".toList, .ofRaised pf.queryMetricsError),
        ("logs_read".toList, .ofRaised pf.listLogsError)] := by
  unfold validateScopes providerScopes
  rw [validateScopesLoop_cons (probeScope_events_read_raised p f pf host now s hclock),
    probeScope_events_read,
    validateScopesLoop_cons (probeScope_monitors_read_raised p f pf host now s),
    probeScope_monitors_read,
    validateScopesLoop_cons (probeScope_monitors_write_raised p f pf host now s),
    validateScopesLoop_cons (probeScope_create_webhooks_raised p f pf host now _),
    validateScopesLoop_cons (probeScope_metrics_read_raised p f pf host now _ hclock),
    validateScopesLoop_cons (probeScope_logs_read_raised p f pf host now _ hclock)]
  rfl

/-- Validation at the epoch, over a vendor that accepts every call: every scope is
`True`. -/
theorem validateScopes_scopes_epoch :
    epochHost.hourReadable 0 = true ∧
      (validateScopes sumPolicy Faults.none ⟨none, none, none, none, none⟩ epochHost 0
        emptyProvider).2 = .ok
        [("events_read".toList, .ofRaised none), ("monitors_read".toList, .ofRaised none),
          ("monitors_write".toList, .ofRaised none), ("create_webhooks".toList, .ofRaised none),
          ("metrics_read".toList, .ofRaised none), ("logs_read".toList, .ofRaised none)] :=
  ⟨rfl, validateScopes_scopes sumPolicy Faults.none _ epochHost 0 emptyProvider rfl⟩

end Call

end Keep.DatadogProvider
