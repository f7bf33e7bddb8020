/-
# DatadogProvider.SetupWebhook — provisioning an account for the provider

`setup_webhook(tenant_id, keep_api_url, api_key, setup_alerts)` runs in two
steps.  `registerWebhook` leaves the account with a registration named
`keep-datadog-webhook-integration-<tenant_id>`: it looks the name up and
rewrites url, headers and payload when the url differs; on 404 or 403 it creates
the registration, and when the vendor answers that the name is taken it updates
it instead, logging and swallowing that update's error.  With `setup_alerts`,
the monitor loop then walks the monitors `list_monitors` returned and appends
`@webhook-<name>` to every message that does not contain it, skipping a monitor
whose update fails.

* `registerWebhook_cases`: the four things the first step can do.
* `foldl_wireMonitor_monitors`: the loop's effect on every monitor at once.
* `setupWebhook_idempotent`: a second run, under the same faults, on the
  account the first run left returns that account unchanged.
* `setupWebhook_registration`: after a run the account holds the registration,
  with the url, headers and payload passed unless the run left the
  registrations as they were.
* `setupWebhook_wires_monitors`: when no `update_monitor` fails, every message
  contains the handle and extends the message it had.
-/
import DatadogProvider.Vendor

namespace Keep.DatadogProvider

set_option autoImplicit false

/-- `DatadogProviderAuthConfig.KEEP_DATADOG_WEBHOOK_INTEGRATION_NAME`. -/
def keepDatadogWebhookIntegrationName : Str := "keep-datadog-webhook-integration".toList

/-- Line 530: the tenant's registration name. -/
def webhookName (tenantId : Str) : Str := keepDatadogWebhookIntegrationName ++ '-' :: tenantId

/-- The handle `@webhook-<name>` a monitor message carries to notify the registration. -/
def webhookMention (name : Str) : Str := "@webhook-".toList ++ name

/-- The custom headers, before `json.dumps`. -/
def customHeaders (apiKey : Str) : List (Str × Str) :=
  [("Content-Type".toList, "application/json".toList), ("X-API-KEY".toList, apiKey)]

/-- The body of `create_webhooks_integration` (lines 554–567). -/
def newWebhook (name keepApiUrl apiKey : Str) : WebhookIntegration :=
  { name, url := keepApiUrl, customHeaders := customHeaders apiKey, payload := webhookPayload,
    encodeAs := "json".toList }

@[simp] theorem newWebhook_name (name keepApiUrl apiKey : Str) :
    (newWebhook name keepApiUrl apiKey).name = name := rfl

section Register

variable (f : Faults) (v : Vendor) (name keepApiUrl apiKey : Str)

/-- Lines 533–551, the `try` block. -/
def lookupAndUpdate : Except ApiException Vendor := do
  let webhook ← v.getWebhooksIntegration f name
  if webhook.url ≠ keepApiUrl then
    v.updateWebhooksIntegration f.updateError webhook.name keepApiUrl (customHeaders apiKey)
      webhookPayload
  else pure v

/-- Lines 553–591, run on `NotFoundException` and `ForbiddenException`. -/
def createOrUpdate : Except ApiException Vendor :=
  match v.createWebhooksIntegration f (newWebhook name keepApiUrl apiKey) with
  | .ok v' => .ok v'
  | .error exc =>
      if alreadyExistsMsg ∈ exc.errors then
        match v.updateWebhooksIntegration f.fallbackUpdateError name keepApiUrl
            (customHeaders apiKey) webhookPayload with
        | .ok v' => .ok v'
        | .error _ => .ok v
      else .error exc

/-- Lines 531–592: the registration step. -/
def registerWebhook : Except ApiException Vendor :=
  match lookupAndUpdate f v name keepApiUrl apiKey with
  | .ok v' => .ok v'
  | .error e => if e.notFoundOrForbidden then createOrUpdate f v name keepApiUrl apiKey else .error e

end Register

/-- The `try` block of a call at `url`, for a registration holding `current`, is
refused with 404 or 403 — at the lookup, or at the update of line 537 — so the
call goes on to create. -/
def Faults.fallsBack (f : Faults) (current url : Str) : Bool :=
  match f.lookupError with
  | some e => e.notFoundOrForbidden
  | .none => current != url && f.updateError.any (·.notFoundOrForbidden)

/-- One pass of the monitor loop (lines 598–628); an update's error is logged and
the monitor skipped. -/
def wireMonitor (f : Faults) (mention : Str) (v : Vendor) (monitor : Monitor) : Vendor :=
  if mention <:+: monitor.message then v
  else match v.updateMonitor f monitor.id (monitor.message ++ ' ' :: mention) with
    | .ok v' => v'
    | .error _ => v

/-- `setup_webhook(tenant_id, keep_api_url, api_key, setup_alerts)`. -/
def setupWebhook (f : Faults) (tenantId keepApiUrl apiKey : Str) (setupAlerts : Bool)
    (v : Vendor) : Except PyError Vendor := do
  let name := webhookName tenantId
  let v ← (registerWebhook f v name keepApiUrl apiKey).mapError .api
  if setupAlerts then
    let monitors ← (v.listMonitors f).mapError .api
    pure (monitors.foldl (wireMonitor f (webhookMention name)) v)
  else pure v

/-! ## Registrations -/

namespace Vendor

variable {v : Vendor}

theorem webhook_eq_of_name_eq {w w' : WebhookIntegration} (hw : w ∈ v.webhooks)
    (hw' : w' ∈ v.webhooks) (h : w.name = w'.name) : w = w' :=
  List.inj_on_of_nodup_map v.webhooks_nodup hw hw' h

/-- After `setWebhook name ...` the registration `name` holds what was set. -/
theorem setWebhook_mem {name url : Str} {headers : List (Str × Str)}
    {payload : List (Str × TemplateValue)} (hn : name ∈ v.names) :
    ∃ w ∈ (v.setWebhook name url headers payload).webhooks,
      w.name = name ∧ w.url = url ∧ w.customHeaders = headers ∧ w.payload = payload := by
  obtain ⟨w, hw, rfl⟩ := mem_names.mp hn
  exact ⟨_, List.mem_map_of_mem _ hw, by simp⟩

/-- Setting a registration to what it holds changes nothing. -/
theorem setWebhook_of_current {w : WebhookIntegration} (hw : w ∈ v.webhooks) :
    v.setWebhook w.name w.url w.customHeaders w.payload = v := by
  ext1
  · refine (List.map_congr_left fun x hx => ?_).trans (List.map_id' _)
    split_ifs with h
    · rw [webhook_eq_of_name_eq hx hw h]
    · rfl
  · rfl

end Vendor

section Register

variable {f : Faults} {v v₁ : Vendor} {name url apiKey : Str}

/-- The fallback on a free name: the vendor's refusal, or the new registration. -/
theorem createOrUpdate_of_not_mem (hn : name ∉ v.names) :
    createOrUpdate f v name url apiKey =
      match f.createError with
      | some e => .error e
      | none => .ok (v.addWebhook (newWebhook name url apiKey) hn) := by
  cases hc : f.createError with
  | some e => simp [createOrUpdate, Vendor.createWebhooksIntegration, hc, f.createError_honest e hc]
  | none => simp [createOrUpdate, Vendor.createWebhooksIntegration, hc, hn]

/-- The fallback on a taken name: the vendor's refusal, or the update of line 575,
whose own refusal is logged and swallowed. -/
theorem createOrUpdate_of_mem (hn : name ∈ v.names) :
    createOrUpdate f v name url apiKey =
      match f.createError with
      | some e => .error e
      | none => .ok (match f.fallbackUpdateError with
        | some _ => v
        | none => v.setWebhook name url (customHeaders apiKey) webhookPayload) := by
  cases hc : f.createError with
  | some e => simp [createOrUpdate, Vendor.createWebhooksIntegration, hc, f.createError_honest e hc]
  | none =>
      cases hu : f.fallbackUpdateError <;>
        simp [createOrUpdate, Vendor.createWebhooksIntegration, hc, hn, alreadyExists,
          Vendor.updateWebhooksIntegration, hu]

/-- A refused lookup sends the call to the fallback on 404 or 403, and raises otherwise. -/
theorem registerWebhook_of_lookupError {e : ApiException} (he : f.lookupError = some e) :
    registerWebhook f v name url apiKey =
      if e.notFoundOrForbidden then createOrUpdate f v name url apiKey else .error e := by
  simp only [registerWebhook, lookupAndUpdate, Vendor.getWebhooksIntegration_of_lookupError he,
    error_bind]

/-- A name the account does not hold is looked up in vain, then created. -/
theorem registerWebhook_of_not_mem (hl : f.lookupError = none) (hn : name ∉ v.names) :
    registerWebhook f v name url apiKey = createOrUpdate f v name url apiKey := by
  simp only [registerWebhook, lookupAndUpdate, Vendor.getWebhooksIntegration_of_not_mem hl hn,
    error_bind]
  exact if_pos rfl

/-- A registration found is left as it is when it has the url passed; else it is
updated (line 537), and an update refused with 404 or 403 falls back. -/
theorem registerWebhook_of_mem {w : WebhookIntegration} (hl : f.lookupError = none)
    (hw : w ∈ v.webhooks) :
    registerWebhook f v w.name url apiKey =
      if w.url = url then .ok v
      else match f.updateError with
        | none => .ok (v.setWebhook w.name url (customHeaders apiKey) webhookPayload)
        | some e => if e.notFoundOrForbidden then createOrUpdate f v w.name url apiKey else .error e := by
  have hn : w.name ∈ v.names := Vendor.mem_names.mpr ⟨w, hw, rfl⟩
  by_cases hu : w.url = url
  · simp [registerWebhook, lookupAndUpdate, Vendor.getWebhooksIntegration_of_mem hl hw, hu, pure,
      Except.pure]
  · cases he : f.updateError <;>
      simp [registerWebhook, lookupAndUpdate, Vendor.getWebhooksIntegration_of_mem hl hw, hu,
        Vendor.updateWebhooksIntegration, he, hn]

theorem createOrUpdate_of_mem_ok (hn : name ∈ v.names)
    (h : createOrUpdate f v name url apiKey = .ok v₁) :
    f.createError = none ∧
      ((f.fallbackUpdateError = none ∧ v₁ = v.setWebhook name url (customHeaders apiKey) webhookPayload) ∨
        (f.fallbackUpdateError.isSome ∧ v₁ = v)) := by
  rw [createOrUpdate_of_mem hn] at h
  cases hc : f.createError with
  | some e => simp [hc] at h
  | none =>
      simp only [hc, Except.ok.injEq] at h
      refine ⟨rfl, ?_⟩
      cases hu : f.fallbackUpdateError
      · exact .inl ⟨rfl, by simpa [hu] using h.symm⟩
      · exact .inr ⟨rfl, by simpa [hu] using h.symm⟩

theorem createOrUpdate_of_not_mem_ok (hn : name ∉ v.names)
    (h : createOrUpdate f v name url apiKey = .ok v₁) :
    f.createError = none ∧ v₁ = v.addWebhook (newWebhook name url apiKey) hn := by
  rw [createOrUpdate_of_not_mem hn] at h
  cases hc : f.createError with
  | some e => simp [hc] at h
  | none => exact ⟨rfl, by simpa [hc] using h.symm⟩

/-- The fallback on a registration `w` the `try` block was refused for. -/
theorem createOrUpdate_fallback_ok {w : WebhookIntegration} (hw : w ∈ v.webhooks)
    (hfb : f.fallsBack w.url url) (h : createOrUpdate f v w.name url apiKey = .ok v₁) :
    f.createError = none ∧ ∃ w' ∈ v.webhooks, w'.name = w.name ∧ f.fallsBack w'.url url ∧
      ((f.fallbackUpdateError = none ∧
          v₁ = v.setWebhook w.name url (customHeaders apiKey) webhookPayload) ∨
        (f.fallbackUpdateError.isSome ∧ v₁ = v)) :=
  have hok := createOrUpdate_of_mem_ok (Vendor.mem_names.mpr ⟨w, hw, rfl⟩) h
  ⟨hok.1, w, hw, rfl, hfb, hok.2⟩

/-- Everything the registration step can do to the account: keep a registration
found at the url passed, update one found at another url, create a missing one,
or, after a 404 or 403, meet a taken name and rewrite it or swallow the refusal. -/
theorem registerWebhook_cases (h : registerWebhook f v name url apiKey = .ok v₁) :
    (f.lookupError = none ∧ v₁ = v ∧ ∃ w ∈ v.webhooks, w.name = name ∧ w.url = url) ∨
    (f.lookupError = none ∧ f.updateError = none ∧ name ∈ v.names ∧
      v₁ = v.setWebhook name url (customHeaders apiKey) webhookPayload) ∨
    (f.lookupError.all (·.notFoundOrForbidden) ∧ f.createError = none ∧
      ∃ hn, v₁ = v.addWebhook (newWebhook name url apiKey) hn) ∨
    (f.createError = none ∧ ∃ w ∈ v.webhooks, w.name = name ∧ f.fallsBack w.url url ∧
      ((f.fallbackUpdateError = none ∧
          v₁ = v.setWebhook name url (customHeaders apiKey) webhookPayload) ∨
        (f.fallbackUpdateError.isSome ∧ v₁ = v))) := by
  by_cases hn : name ∈ v.names
  · obtain ⟨w, hw, rfl⟩ := Vendor.mem_names.mp hn
    cases hl : f.lookupError with
    | some e =>
        rw [registerWebhook_of_lookupError hl] at h
        split_ifs at h with he
        exact .inr <| .inr <| .inr <| createOrUpdate_fallback_ok hw (by simp [Faults.fallsBack, hl, he]) h
    | none =>
        rw [registerWebhook_of_mem hl hw] at h
        split_ifs at h with hu
        · exact .inl ⟨rfl, (Except.ok.inj h).symm, w, hw, rfl, hu⟩
        cases hup : f.updateError with
        | none =>
            rw [hup] at h
            exact .inr (.inl ⟨rfl, rfl, hn, (Except.ok.inj h).symm⟩)
        | some e =>
            simp only [hup] at h
            split_ifs at h with he
            exact .inr <| .inr <| .inr <|
              createOrUpdate_fallback_ok hw (by simp [Faults.fallsBack, hl, hup, he, hu]) h
  · obtain ⟨hco, hl⟩ : createOrUpdate f v name url apiKey = .ok v₁ ∧
        f.lookupError.all (·.notFoundOrForbidden) := by
      cases hl : f.lookupError with
      | some e =>
          rw [registerWebhook_of_lookupError hl] at h
          split_ifs at h with he
          exact ⟨h, by simp [he]⟩
      | none => exact ⟨(registerWebhook_of_not_mem hl hn).symm.trans h, rfl⟩
    exact .inr (.inr (.inl ⟨hl, (createOrUpdate_of_not_mem_ok hn hco).1, hn,
      (createOrUpdate_of_not_mem_ok hn hco).2⟩))

/-- The registration step changes no monitor. -/
theorem registerWebhook_monitors (h : registerWebhook f v name url apiKey = .ok v₁) :
    v₁.monitors = v.monitors := by
  rcases registerWebhook_cases h with
    ⟨-, rfl, -⟩ | ⟨-, -, -, rfl⟩ | ⟨-, -, -, rfl⟩ | ⟨-, -, -, -, -, ⟨-, rfl⟩ | ⟨-, rfl⟩⟩ <;> rfl

/-- Falling back on a registration that holds what the fallback update would write,
or whose fallback update the vendor refuses, leaves the account as it is. -/
theorem createOrUpdate_of_current {w : WebhookIntegration} (hw : w ∈ v.webhooks)
    (hc : f.createError = none)
    (hcur : f.fallbackUpdateError.isSome ∨
      (w.url = url ∧ w.customHeaders = customHeaders apiKey ∧ w.payload = webhookPayload)) :
    createOrUpdate f v w.name url apiKey = .ok v := by
  rw [createOrUpdate_of_mem (Vendor.mem_names.mpr ⟨w, hw, rfl⟩), hc]
  cases hu : f.fallbackUpdateError with
  | some e => rfl
  | none =>
      obtain ⟨rfl, hh, hp⟩ := hcur.resolve_left (by simp [hu])
      rw [← hh, ← hp, Vendor.setWebhook_of_current hw]

/-- A registration with the url asked for is left as it is, when the lookup answers
or falls back on a create the vendor lets through, and the fallback update would
change nothing or is refused. -/
theorem registerWebhook_of_current {w : WebhookIntegration} (hw : w ∈ v.webhooks)
    (hu : w.url = url) (hl : f.lookupError.all (·.notFoundOrForbidden))
    (hfb : f.lookupError.isSome → f.createError = none ∧ (f.fallbackUpdateError.isSome ∨
      (w.customHeaders = customHeaders apiKey ∧ w.payload = webhookPayload))) :
    registerWebhook f v w.name url apiKey = .ok v := by
  cases hle : f.lookupError with
  | none => rw [registerWebhook_of_mem hle hw, if_pos hu]
  | some e =>
      obtain ⟨hc, hcur⟩ := hfb (by simp [hle])
      rw [registerWebhook_of_lookupError hle, if_pos (by simpa [hle] using hl)]
      exact createOrUpdate_of_current hw hc (hcur.imp_right fun h => ⟨hu, h⟩)

/-- A registration reached by the fallback, whose fallback update the vendor
refuses, is left as it is. -/
theorem registerWebhook_of_stuck {w : WebhookIntegration} (hw : w ∈ v.webhooks)
    (hc : f.createError = none) (hfu : f.fallbackUpdateError.isSome) (hfb : f.fallsBack w.url url) :
    registerWebhook f v w.name url apiKey = .ok v := by
  have hstuck : createOrUpdate f v w.name url apiKey = .ok v :=
    createOrUpdate_of_current hw hc (.inl hfu)
  cases hl : f.lookupError with
  | some e =>
      rw [registerWebhook_of_lookupError hl, hstuck]
      simpa [Faults.fallsBack, hl] using hfb
  | none =>
      simp only [Faults.fallsBack, hl, Bool.and_eq_true, bne_iff_ne, ne_eq] at hfb
      obtain ⟨hu, he⟩ := hfb
      rw [registerWebhook_of_mem hl hw, if_neg hu]
      cases hup : f.updateError with
      | none => simp [hup] at he
      | some e =>
          simp only [hup, Option.any_some] at he
          simp only [if_pos he, hstuck]

/-- The registration step, run again on an account whose registrations are the
ones a first run left, changes nothing. -/
theorem registerWebhook_rerun {v₂ : Vendor} (h : registerWebhook f v name url apiKey = .ok v₁)
    (hweb : v₂.webhooks = v₁.webhooks) : registerWebhook f v₂ name url apiKey = .ok v₂ := by
  rcases registerWebhook_cases h with
    ⟨hl, rfl, w, hw, rfl, hu⟩ | ⟨hl, -, hn, rfl⟩ | ⟨hl, hc, hn, rfl⟩ |
      ⟨hc, w, hw, rfl, hfb, ⟨-, rfl⟩ | ⟨hfu, rfl⟩⟩
  · exact registerWebhook_of_current (hweb ▸ hw) hu (by simp [hl]) (by simp [hl])
  · obtain ⟨w, hw, rfl, hu, hh, hp⟩ := @Vendor.setWebhook_mem _ _ url
      (customHeaders apiKey) webhookPayload hn
    exact registerWebhook_of_current (hweb ▸ hw) hu (by simp [hl]) (by simp [hl])
  · have hw : newWebhook name url apiKey ∈ v₂.webhooks := by
      simp [hweb, Vendor.addWebhook]
    exact registerWebhook_of_current hw rfl hl fun _ => ⟨hc, .inr ⟨rfl, rfl⟩⟩
  · obtain ⟨w', hw', hn', hu, hh, hp⟩ := @Vendor.setWebhook_mem _ _ url
      (customHeaders apiKey) webhookPayload (Vendor.mem_names.mpr ⟨w, hw, rfl⟩)
    have hl : f.lookupError.all (·.notFoundOrForbidden) := by
      cases hle : f.lookupError <;> simp_all [Faults.fallsBack]
    rw [← hn']
    exact registerWebhook_of_current (hweb ▸ hw') hu hl fun _ => ⟨hc, .inr ⟨hh, hp⟩⟩
  · exact registerWebhook_of_stuck (hweb ▸ hw) hc hfu hfb

end Register

/-! ## The monitor loop -/

/-- What the loop makes of one monitor: the handle appended, unless the message
contains it or the monitor's update fails. -/
def wired (f : Faults) (mention : Str) (m : Monitor) : Monitor :=
  if mention <:+: m.message ∨ (f.updateMonitorError m.id).isSome then m
  else { m with message := m.message ++ ' ' :: mention }

section Wire

variable {f : Faults} {mention : Str} {v : Vendor}

/-- The message the loop writes contains the handle. -/
theorem infix_append_mention (message mention : Str) : mention <:+: message ++ ' ' :: mention :=
  ((List.suffix_cons _ _).trans (List.suffix_append _ _)).isInfix

@[simp] theorem wired_id (m : Monitor) : (wired f mention m).id = m.id := by
  unfold wired
  split <;> rfl

/-- With every monitor update accepted, a wired monitor mentions the handle. -/
theorem mention_infix_wired (hu : ∀ id, f.updateMonitorError id = none) (m : Monitor) :
    mention <:+: (wired f mention m).message := by
  unfold wired
  split_ifs with hc
  · exact hc.resolve_right (by simp [hu])
  · exact infix_append_mention _ _

theorem wired_wired (m : Monitor) : wired f mention (wired f mention m) = wired f mention m := by
  by_cases h : mention <:+: m.message ∨ (f.updateMonitorError m.id).isSome
  · simp only [wired, if_pos h]
  · simp only [wired, if_neg h, infix_append_mention, true_or, if_true]

theorem wireMonitor_eq {m : Monitor} (hm : m ∈ v.monitors) :
    wireMonitor f mention v m =
      if mention <:+: m.message ∨ (f.updateMonitorError m.id).isSome then v
      else v.setMessage m.id (m.message ++ ' ' :: mention) := by
  have hid : m.id ∈ v.monitors.map (·.id) := List.mem_map_of_mem _ hm
  unfold wireMonitor Vendor.updateMonitor
  by_cases hc : mention <:+: m.message
  · simp [hc]
  · cases hu : f.updateMonitorError m.id <;> simp [hc, hid]

@[simp] theorem wireMonitor_webhooks (m : Monitor) : (wireMonitor f mention v m).webhooks = v.webhooks := by
  unfold wireMonitor Vendor.updateMonitor
  split_ifs <;> cases f.updateMonitorError m.id <;> rfl

/-- One pass: the monitor `m` becomes `wired m`, the others stay. -/
theorem wireMonitor_monitors {m : Monitor} (hm : m ∈ v.monitors) :
    (wireMonitor f mention v m).monitors =
      v.monitors.map fun x => if x.id = m.id then wired f mention x else x := by
  have hx : ∀ x ∈ v.monitors, x.id = m.id → x = m := fun x hx h => v.monitor_eq_of_id_eq hx hm h
  rw [wireMonitor_eq hm]
  split_ifs with hc
  · refine ((List.map_congr_left fun x hx' => ?_).trans (List.map_id' _)).symm
    split_ifs with h
    · rw [hx x hx' h, wired, if_pos hc]
    · rfl
  · refine List.map_congr_left fun x hx' => ?_
    split_ifs with h
    · rw [hx x hx' h, wired, if_neg hc]
    · rfl

/-- The loop over any listed monitors with distinct ids. -/
theorem foldl_wireMonitor {ms : List Monitor} (hnd : (ms.map (·.id)).Nodup)
    (hms : ∀ m ∈ ms, m ∈ v.monitors) :
    (ms.foldl (wireMonitor f mention) v).webhooks = v.webhooks ∧
      (ms.foldl (wireMonitor f mention) v).monitors =
        v.monitors.map fun x => if x.id ∈ ms.map (·.id) then wired f mention x else x := by
  induction ms generalizing v with
  | nil => simp
  | cons m ms ih =>
      rw [List.map_cons, List.nodup_cons] at hnd
      have hm := hms m (List.mem_cons_self _ _)
      have hrest : ∀ m' ∈ ms, m' ∈ (wireMonitor f mention v m).monitors := by
        intro m' hm'
        have hne : m'.id ≠ m.id := fun h => hnd.1 (h ▸ List.mem_map_of_mem _ hm')
        rw [wireMonitor_monitors hm]
        exact List.mem_map.mpr ⟨m', hms m' (List.mem_cons_of_mem _ hm'), if_neg hne⟩
      obtain ⟨hweb, hmon⟩ := ih hnd.2 hrest
      refine ⟨by rw [List.foldl_cons, hweb, wireMonitor_webhooks], ?_⟩
      rw [List.foldl_cons, hmon, wireMonitor_monitors hm, List.map_map]
      refine List.map_congr_left fun x _ => ?_
      by_cases h : x.id = m.id
      · simp only [Function.comp, if_pos h, wired_id, h, if_neg hnd.1, List.map_cons,
          List.mem_cons, true_or, if_true]
      · simp [h]

/-- The loop over the monitors `list_monitors` returned. -/
theorem foldl_wireMonitor_monitors :
    (v.monitors.foldl (wireMonitor f mention) v).webhooks = v.webhooks ∧
      (v.monitors.foldl (wireMonitor f mention) v).monitors = v.monitors.map (wired f mention) := by
  obtain ⟨hweb, hmon⟩ := @foldl_wireMonitor f mention v _ v.monitors_nodup
    fun _ h => h
  exact ⟨hweb, hmon.trans (List.map_congr_left fun x hx => if_pos (List.mem_map_of_mem _ hx))⟩

/-- The loop run again over the account it left changes nothing. -/
theorem foldl_wireMonitor_idempotent (v : Vendor) :
    (v.monitors.foldl (wireMonitor f mention) v).monitors.foldl (wireMonitor f mention)
      (v.monitors.foldl (wireMonitor f mention) v) = v.monitors.foldl (wireMonitor f mention) v := by
  obtain ⟨-, hmon⟩ := @foldl_wireMonitor_monitors f mention v
  obtain ⟨hweb', hmon'⟩ := @foldl_wireMonitor_monitors f mention (v.monitors.foldl (wireMonitor f mention) v)
  ext1
  · exact hweb'
  · rw [hmon', hmon, List.map_map]
    exact List.map_congr_left fun m _ => wired_wired m

end Wire

/-! ## The whole call -/

section Setup

variable {f : Faults} {t u k : Str} {b : Bool} {v v' : Vendor}

theorem mapError_eq_ok {α : Type} {x : Except ApiException α} {a : α} :
    x.mapError PyError.api = .ok a ↔ x = .ok a := by
  cases x <;> simp [Except.mapError]

/-- A run succeeds when registration succeeds and, with `setup_alerts`,
`list_monitors` does; it leaves the account the loop makes of the registered one. -/
theorem setupWebhook_eq_ok :
    setupWebhook f t u k b v = .ok v' ↔
      ∃ v₁, registerWebhook f v (webhookName t) u k = .ok v₁ ∧
        (b = true → f.listMonitorsError = none) ∧
        v' = if b then v₁.monitors.foldl (wireMonitor f (webhookMention (webhookName t))) v₁
          else v₁ := by
  simp only [setupWebhook, bind_eq_ok, mapError_eq_ok]
  refine exists_congr fun v₁ => and_congr_right fun _ => ?_
  cases b with
  | false => simp [pure, Except.pure, eq_comm]
  | true =>
      cases hl : f.listMonitorsError <;>
        simp [Vendor.listMonitors, hl, Except.mapError, bind_eq_ok, eq_comm]

/-- Provisioning is idempotent, under any faults: a second run on the account the
first left returns that account. -/
theorem setupWebhook_idempotent (h : setupWebhook f t u k b v = .ok v') :
    setupWebhook f t u k b v' = .ok v' := by
  obtain ⟨v₁, hreg, hl, rfl⟩ := setupWebhook_eq_ok.mp h
  cases b with
  | false => exact setupWebhook_eq_ok.mpr ⟨v₁, registerWebhook_rerun hreg rfl, hl, rfl⟩
  | true =>
      rw [if_pos rfl]
      obtain ⟨hweb, hmon⟩ := @foldl_wireMonitor_monitors f (webhookMention (webhookName t)) v₁
      refine setupWebhook_eq_ok.mpr ⟨_, registerWebhook_rerun hreg hweb, hl, ?_⟩
      obtain ⟨hweb', hmon'⟩ := @foldl_wireMonitor_monitors f (webhookMention (webhookName t))
        (v₁.monitors.foldl (wireMonitor f (webhookMention (webhookName t))) v₁)
      rw [if_pos rfl]
      ext1
      · exact hweb'.symm
      · rw [hmon', hmon, List.map_map]
        exact List.map_congr_left fun m _ => (wired_wired m).symm

/-- An account with one monitor and no registration. -/
def freshVendor : Vendor :=
  ⟨[], [{ id := 1, message := "CPU high".toList, creator := none, matchingDowntimes := [] }],
    List.nodup_nil, List.nodup_singleton _⟩

theorem setupWebhook_idempotent_fresh :
    ∃ v', setupWebhook Faults.none "a".toList "u".toList "k".toList true freshVendor = .ok v' ∧
      setupWebhook Faults.none "a".toList "u".toList "k".toList true v' = .ok v' := by
  obtain ⟨v', h⟩ : ∃ v', setupWebhook Faults.none "a".toList "u".toList "k".toList true
      freshVendor = .ok v' := ⟨_, rfl⟩
  exact ⟨v', h, setupWebhook_idempotent h⟩

/-- The tenant `a`'s registration, with the url `u` and the api key `old`. -/
def staleWebhook : WebhookIntegration := newWebhook (webhookName "a".toList) "u".toList "old".toList

def staleVendor : Vendor := ⟨[staleWebhook], [], List.nodup_singleton _, List.nodup_nil⟩

/-- The url matches, so the run leaves the registration with its old key. -/
theorem setupWebhook_staleVendor :
    setupWebhook Faults.none "a".toList "u".toList "new".toList false staleVendor = .ok staleVendor :=
  rfl

/-- After a run the account holds the tenant's registration: with the url,
headers and payload passed, or, when the run left the registrations as they
were, with the url passed or after a fallback update (line 575) the vendor
refused. -/
theorem setupWebhook_registration (h : setupWebhook f t u k b v = .ok v') :
    ∃ w ∈ v'.webhooks, w.name = webhookName t ∧
      ((w.url = u ∧ w.customHeaders = customHeaders k ∧ w.payload = webhookPayload) ∨
        (v'.webhooks = v.webhooks ∧ (w.url = u ∨ f.fallbackUpdateError.isSome))) := by
  obtain ⟨v₁, hreg, -, rfl⟩ := setupWebhook_eq_ok.mp h
  have hweb : (if b then v₁.monitors.foldl (wireMonitor f (webhookMention (webhookName t))) v₁
      else v₁).webhooks = v₁.webhooks := by
    split
    · exact foldl_wireMonitor_monitors.1
    · rfl
  rw [hweb]
  rcases registerWebhook_cases hreg with
    ⟨-, rfl, w, hw, hn, hu⟩ | ⟨-, -, hn, rfl⟩ | ⟨-, -, hn, rfl⟩ | ⟨-, w, hw, hwn, -, ⟨-, rfl⟩ | ⟨hfu, rfl⟩⟩
  · exact ⟨w, hw, hn, .inr ⟨rfl, .inl hu⟩⟩
  · obtain ⟨w, hw, hwn, hu, hh, hp⟩ := @Vendor.setWebhook_mem _ _ u
      (customHeaders k) webhookPayload hn
    exact ⟨w, hw, hwn, .inl ⟨hu, hh, hp⟩⟩
  · exact ⟨newWebhook (webhookName t) u k, by simp [Vendor.addWebhook], rfl, .inl ⟨rfl, rfl, rfl⟩⟩
  · obtain ⟨w', hw', hwn', hu, hh, hp⟩ := @Vendor.setWebhook_mem _ _ u
      (customHeaders k) webhookPayload (Vendor.mem_names.mpr ⟨w, hw, hwn⟩)
    exact ⟨w', hw', hwn', .inl ⟨hu, hh, hp⟩⟩
  · exact ⟨w, hw, hwn, .inr ⟨rfl, .inr hfu⟩⟩

theorem setupWebhook_registration_stale :
    setupWebhook Faults.none "a".toList "u".toList "new".toList false staleVendor = .ok staleVendor ∧
      ∃ w ∈ staleVendor.webhooks, w.name = webhookName "a".toList ∧
        ((w.url = "u".toList ∧ w.customHeaders = customHeaders "new".toList ∧
            w.payload = webhookPayload) ∨
          (staleVendor.webhooks = staleVendor.webhooks ∧
            (w.url = "u".toList ∨ Faults.none.fallbackUpdateError.isSome))) :=
  ⟨setupWebhook_staleVendor, setupWebhook_registration setupWebhook_staleVendor⟩

/-- A registration whose url is already the one passed keeps its api key. -/
theorem setupWebhook_keeps_stale_key :
    ¬ ∀ (f : Faults) (t u k : Str) (b : Bool) (v v' : Vendor), setupWebhook f t u k b v = .ok v' →
      ∃ w ∈ v'.webhooks, w.name = webhookName t ∧ w.url = u ∧
        dictLookup w.customHeaders "X-API-KEY".toList = some k ∧ w.payload = webhookPayload := by
  intro h
  obtain ⟨w, hw, -, -, hk, -⟩ := h Faults.none "a".toList "u".toList "new".toList false staleVendor
    staleVendor setupWebhook_staleVendor
  rw [staleVendor, List.mem_singleton] at hw
  subst hw
  exact absurd hk (by decide)

/-- When no `update_monitor` fails, every monitor keeps its id, its message
extends the one it had and contains the tenant's handle. -/
theorem setupWebhook_wires_monitors (h : setupWebhook f t u k true v = .ok v')
    (hu : ∀ id, f.updateMonitorError id = none) :
    List.Forall₂ (fun m m' : Monitor => m'.id = m.id ∧ m.message <+: m'.message ∧
      webhookMention (webhookName t) <:+: m'.message) v.monitors v'.monitors := by
  obtain ⟨v₁, hreg, -, rfl⟩ := setupWebhook_eq_ok.mp h
  rw [if_pos rfl, foldl_wireMonitor_monitors.2, registerWebhook_monitors hreg,
    List.forall₂_map_right_iff]
  refine List.forall₂_same.mpr fun m _ => ⟨wired_id m, ?_⟩
  unfold wired
  split_ifs with hc
  · exact ⟨List.prefix_refl _, hc.resolve_right (by simp [hu])⟩
  · exact ⟨List.prefix_append _ _, infix_append_mention _ _⟩

theorem setupWebhook_wires_monitors_fresh :
    ∃ v', setupWebhook Faults.none "a".toList "u".toList "k".toList true freshVendor = .ok v' ∧
      List.Forall₂ (fun m m' : Monitor => m'.id = m.id ∧ m.message <+: m'.message ∧
        webhookMention (webhookName "a".toList) <:+: m'.message) freshVendor.monitors v'.monitors := by
  obtain ⟨v', h⟩ : ∃ v', setupWebhook Faults.none "a".toList "u".toList "k".toList true
      freshVendor = .ok v' := ⟨_, rfl⟩
  exact ⟨v', h, setupWebhook_wires_monitors h fun _ => rfl⟩

/-- `mention` stands in `message` as a whole word: followed by whitespace or the end. -/
def MentionedIn (mention message : Str) : Prop :=
  ∃ pre post, message = pre ++ mention ++ post ∧ ∀ c ∈ post.head?, c.isWhitespace = true

/-- A monitor whose message already holds a longer handle: the handle of tenant `ab`
contains the one of tenant `a`. -/
def longerHandleVendor : Vendor :=
  ⟨[], [{ id := 1, message := webhookMention (webhookName "a".toList) ++ ['b'],
          creator := none, matchingDowntimes := [] }], List.nodup_nil, List.nodup_singleton _⟩

theorem not_mentionedIn_longer_handle :
    ¬ MentionedIn (webhookMention (webhookName "a".toList))
      (webhookMention (webhookName "a".toList) ++ ['b']) := by
  rintro ⟨pre, post, heq, hws⟩
  have hlen := congrArg List.length heq
  simp only [List.length_append] at hlen
  match pre, post with
  | [], post =>
      rw [List.nil_append, List.append_cancel_left_eq] at heq
      subst heq
      exact absurd (hws 'b' rfl) (by decide)
  | [c], [] => simp [webhookMention, webhookName, keepDatadogWebhookIntegrationName] at heq
  | _ :: _ :: _, _ | [_], _ :: _ => simp at hlen; omega

/-- The substring test leaves a message that holds the tenant's handle only inside
a longer one. -/
theorem setupWebhook_longer_handle_not_mentioned :
    ¬ ∀ (f : Faults) (t u k : Str) (v v' : Vendor), setupWebhook f t u k true v = .ok v' →
      (∀ id, f.updateMonitorError id = none) →
      List.Forall₂ (fun m m' : Monitor => m.message <+: m'.message ∧
        MentionedIn (webhookMention (webhookName t)) m'.message) v.monitors v'.monitors := by
  intro h
  have hreg : registerWebhook Faults.none longerHandleVendor (webhookName "a".toList) "u".toList
      "k".toList = .ok (longerHandleVendor.addWebhook
        (newWebhook (webhookName "a".toList) "u".toList "k".toList) (by simp [longerHandleVendor, Vendor.names])) := rfl
  have hall := h _ _ _ _ _ _ (setupWebhook_eq_ok.mpr ⟨_, hreg, fun _ => rfl, rfl⟩) fun _ => rfl
  rw [if_pos rfl, foldl_wireMonitor_monitors.2] at hall
  simp only [Vendor.addWebhook_monitors, longerHandleVendor, List.map_cons, List.map_nil,
    List.forall₂_cons] at hall
  rw [wired, if_pos (.inl (by decide))] at hall
  exact not_mentionedIn_longer_handle hall.1.2

end Setup

/-! ## The account a call leaves -/

/-- The account `setup_webhook` leaves, also when it raises: a refused registration
step leaves the account as it was, and an error of `list_monitors` comes after
the registration step changed it. -/
def setupWebhookAccount (f : Faults) (tenantId keepApiUrl apiKey : Str) (setupAlerts : Bool)
    (v : Vendor) : Vendor :=
  match registerWebhook f v (webhookName tenantId) keepApiUrl apiKey with
  | .error _ => v
  | .ok v =>
      if setupAlerts then
        match v.listMonitors f with
        | .ok monitors => monitors.foldl (wireMonitor f (webhookMention (webhookName tenantId))) v
        | .error _ => v
      else v

section Account

variable {f : Faults} {t u k : Str} {b : Bool} {v v' v₁ : Vendor} {name : Str}

/-- On success the account is the one `setup_webhook` returns. -/
theorem setupWebhookAccount_of_ok (h : setupWebhook f t u k b v = .ok v') :
    setupWebhookAccount f t u k b v = v' := by
  obtain ⟨v₁, hreg, hl, rfl⟩ := setupWebhook_eq_ok.mp h
  cases b with
  | false => simp [setupWebhookAccount, hreg]
  | true => simp [setupWebhookAccount, hreg, Vendor.listMonitors, hl rfl]

/-- A call leaves the account as it was, the registration step's account, or the
monitor loop's run over that account. -/
theorem setupWebhookAccount_cases (f : Faults) (t u k : Str) (b : Bool) (v : Vendor) :
    setupWebhookAccount f t u k b v = v ∨ ∃ v₁, registerWebhook f v (webhookName t) u k = .ok v₁ ∧
      (setupWebhookAccount f t u k b v = v₁ ∨
        setupWebhookAccount f t u k b v =
          v₁.monitors.foldl (wireMonitor f (webhookMention (webhookName t))) v₁) := by
  unfold setupWebhookAccount
  split
  · exact .inl rfl
  · next v₁ hreg =>
      refine .inr ⟨v₁, hreg, ?_⟩
      cases b
      · exact .inl rfl
      · cases hl : f.listMonitorsError <;> simp [Vendor.listMonitors, hl]

/-- The account a call leaves holds the registrations of the registration step's
account. -/
theorem setupWebhookAccount_webhooks (hreg : registerWebhook f v (webhookName t) u k = .ok v₁) :
    (setupWebhookAccount f t u k b v).webhooks = v₁.webhooks := by
  cases b with
  | false => simp [setupWebhookAccount, hreg]
  | true =>
      cases hl : f.listMonitorsError <;>
        simp [setupWebhookAccount, hreg, Vendor.listMonitors, hl, foldl_wireMonitor_monitors.1]

/-- The account after a registration step that succeeded: the loop's run over it
when `setup_alerts` is set and `list_monitors` answers. -/
theorem setupWebhookAccount_of_register (hreg : registerWebhook f v (webhookName t) u k = .ok v₁) :
    setupWebhookAccount f t u k b v =
      if b ∧ f.listMonitorsError = none then
        v₁.monitors.foldl (wireMonitor f (webhookMention (webhookName t))) v₁ else v₁ := by
  cases b <;> cases hl : f.listMonitorsError <;>
    simp [setupWebhookAccount, hreg, Vendor.listMonitors, hl]

/-- Retrying a call on the account it left changes nothing, whatever the vendor
answered, also when the call raised. -/
theorem setupWebhookAccount_idempotent (f : Faults) (t u k : Str) (b : Bool) (v : Vendor) :
    setupWebhookAccount f t u k b (setupWebhookAccount f t u k b v) =
      setupWebhookAccount f t u k b v := by
  cases hreg : registerWebhook f v (webhookName t) u k with
  | error e =>
      have hv : setupWebhookAccount f t u k b v = v := by simp [setupWebhookAccount, hreg]
      rw [hv, hv]
  | ok v₁ =>
      have hrerun := registerWebhook_rerun hreg (setupWebhookAccount_webhooks (b := b) hreg)
      rw [setupWebhookAccount_of_register hrerun, setupWebhookAccount_of_register hreg]
      split_ifs
      · exact foldl_wireMonitor_idempotent v₁
      · rfl

/-- A vendor that answers the lookup or refuses it with 404 or 403, and accepts the
update of line 537 and the create, lets the registration step succeed. -/
theorem registerWebhook_isOk (hl : f.lookupError.all (·.notFoundOrForbidden))
    (hu : f.updateError = none) (hc : f.createError = none) :
    ∃ v₁, registerWebhook f v name u k = .ok v₁ := by
  have hcreate : ∃ v₁, createOrUpdate f v name u k = .ok v₁ := by
    by_cases hn : name ∈ v.names <;> simp [createOrUpdate_of_mem, createOrUpdate_of_not_mem, hn, hc]
  cases hle : f.lookupError with
  | some e =>
      rw [registerWebhook_of_lookupError hle, if_pos (by simpa [hle] using hl)]
      exact hcreate
  | none =>
      by_cases hn : name ∈ v.names
      · obtain ⟨w, hw, rfl⟩ := Vendor.mem_names.mp hn
        rw [registerWebhook_of_mem hle hw, hu]
        split_ifs <;> exact ⟨_, rfl⟩
      · rw [registerWebhook_of_not_mem hle hn]
        exact hcreate

/-- A registration step whose fallback update (line 575), if it runs, is accepted
leaves the name registered at `url`. -/
theorem registerWebhook_url (h : registerWebhook f v name u k = .ok v₁)
    (hfu : f.fallbackUpdateError = none) : ∃ w ∈ v₁.webhooks, w.name = name ∧ w.url = u := by
  rcases registerWebhook_cases h with
    ⟨-, rfl, hw⟩ | ⟨-, -, hn, rfl⟩ | ⟨-, -, hn, rfl⟩ | ⟨-, w, hw, rfl, -, ⟨-, rfl⟩ | ⟨hfu', -⟩⟩
  · exact hw
  · obtain ⟨w, hw, hwn, hwu, -⟩ := @Vendor.setWebhook_mem _ _ u (customHeaders k) webhookPayload hn
    exact ⟨w, hw, hwn, hwu⟩
  · exact ⟨_, List.mem_append_right _ (List.mem_singleton_self _), rfl, rfl⟩
  · obtain ⟨w', hw', hwn, hwu, -⟩ := @Vendor.setWebhook_mem _ _ u (customHeaders k) webhookPayload
      (Vendor.mem_names.mpr ⟨w, hw, rfl⟩)
    exact ⟨w', hw', hwn, hwu⟩
  · simp [hfu] at hfu'

/-- A registration step that succeeds leaves the name registered. -/
theorem registerWebhook_registered (h : registerWebhook f v name u k = .ok v₁) : name ∈ v₁.names := by
  rcases registerWebhook_cases h with
    ⟨-, rfl, w, hw, rfl, -⟩ | ⟨-, -, hn, rfl⟩ | ⟨-, -, hn, rfl⟩ | ⟨-, w, hw, rfl, -, ⟨-, rfl⟩ | ⟨-, rfl⟩⟩
  · exact Vendor.mem_names.mpr ⟨w, hw, rfl⟩
  · rwa [Vendor.setWebhook_names]
  · simp [Vendor.names, Vendor.addWebhook]
  · rw [Vendor.setWebhook_names]
    exact Vendor.mem_names.mpr ⟨w, hw, rfl⟩
  · exact Vendor.mem_names.mpr ⟨w, hw, rfl⟩

/-- A registration step for `name` keeps the monitors and every name, and leaves the
registration of every other name as it was. -/
theorem registerWebhook_frame (h : registerWebhook f v name u k = .ok v₁) :
    v₁.monitors = v.monitors ∧ (∀ n ∈ v.names, n ∈ v₁.names) ∧
      ∀ n, n ≠ name → v₁.webhooks.find? (·.name = n) = v.webhooks.find? (·.name = n) := by
  refine ⟨registerWebhook_monitors h, ?_⟩
  rcases registerWebhook_cases h with
    ⟨-, rfl, -⟩ | ⟨-, -, -, rfl⟩ | ⟨-, -, hn, rfl⟩ | ⟨-, w, -, rfl, -, ⟨-, rfl⟩ | ⟨-, rfl⟩⟩
  · exact ⟨fun _ h => h, fun _ _ => rfl⟩
  · exact ⟨fun n h => by rwa [Vendor.setWebhook_names], fun n hn => Vendor.find?_setWebhook hn⟩
  · exact ⟨fun n h => by simp [Vendor.names, Vendor.addWebhook] at h ⊢; exact .inl h,
      fun n hn => Vendor.find?_addWebhook hn⟩
  · exact ⟨fun n h => by rwa [Vendor.setWebhook_names], fun n hn => Vendor.find?_setWebhook hn⟩
  · exact ⟨fun _ h => h, fun _ _ => rfl⟩

/-- A call leaves the monitors as they were, or as the loop wires them. -/
theorem setupWebhookAccount_monitors (f : Faults) (t u k : Str) (b : Bool) (v : Vendor) :
    (setupWebhookAccount f t u k b v).monitors = v.monitors ∨
      (setupWebhookAccount f t u k b v).monitors = v.monitors.map (wired f (webhookMention (webhookName t))) := by
  rcases setupWebhookAccount_cases f t u k b v with h | ⟨v₁, hreg, h | h⟩ <;> rw [h]
  · exact .inl rfl
  all_goals have hmon := (registerWebhook_frame hreg).1
  · exact .inl hmon
  · exact .inr (by rw [foldl_wireMonitor_monitors.2, hmon])

/-- A call keeps every registration name. -/
theorem setupWebhookAccount_names (f : Faults) (t u k : Str) (b : Bool) (v : Vendor) :
    ∀ n ∈ v.names, n ∈ (setupWebhookAccount f t u k b v).names := by
  rcases setupWebhookAccount_cases f t u k b v with h | ⟨v₁, hreg, h | h⟩ <;> rw [h]
  · exact fun _ h => h
  all_goals have hnames := (registerWebhook_frame hreg).2.1
  · exact hnames
  · intro n hn
    rw [Vendor.names, foldl_wireMonitor_monitors.1]
    exact hnames n hn

end Account

end Keep.DatadogProvider
