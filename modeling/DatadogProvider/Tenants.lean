/-
# DatadogProvider.Tenants — one tenant's registration and wiring along a run

Every tenant has a registration of its own, `keep-datadog-webhook-integration-<tenant>`,
and is wired when the registration is there and every monitor's message holds
`@webhook-<registration>`.  Only `setup_webhook` for the tenant writes the
registration; the other calls leave it, and keep the wiring when their new
monitors carry the handle.

* `run_wired`: an account wired for a tenant (the tenant's registration present,
  every monitor's message holding its handle) stays wired along every run whose
  deployed monitors mention the handle and whose scope validations did not
  leave their example monitor behind.
* `step_wired_iff`: the condition is exact — a call keeps a wired account wired
  only if it keeps the wiring.
* `run_wired_of_setup`: a `setup_webhook` with `setup_alerts` that the vendor
  lets through wires the account for its tenant, from any account, and the
  wiring lasts along every continuation that keeps it.
* `run_mention_appended_once`: however often a tenant is set up again, each
  monitor's message gains the tenant's handle at most once.
* `run_registration`: a tenant's registration changes only by `setup_webhook`
  for that tenant; another tenant's setup and the scope validation never touch
  it.
* `run_registration_last`: the last `setup_webhook` for a tenant decides the url
  its registration points at, when the vendor answered that call's lookup, or
  refused it with 404 or 403, and accepted its writes.
* `run_registration_eq_tenantSetup`: the account refines one register per
  tenant — a tenant's registration after any run is what its own setup calls,
  in order, make of it (`tenantSetup`), however other calls interleave.
-/
import DatadogProvider.Provider

namespace Keep.DatadogProvider

set_option autoImplicit false

/-! ## The tenant's wiring -/

/-- The account is wired for tenant `t`: the tenant's registration is there, and
every monitor's message holds the tenant's handle. -/
structure Vendor.Wired (t : Str) (v : Vendor) : Prop where
  registered : webhookName t ∈ v.names
  mentioned : ∀ m ∈ v.monitors, webhookMention (webhookName t) <:+: m.message

/-- The call leaves no monitor without tenant `t`'s handle: a deployed monitor
mentions it, and a scope validation that reached its probes and created its
example monitor deleted it. -/
def Call.KeepsWiring (t : Str) : Call → Prop
  | .validateScopes _ pf host now =>
      host.hourReadable now = true → pf.createMonitorError = none → pf.deleteMonitorError = none
  | .deployAlert createError message =>
      createError = none → webhookMention (webhookName t) <:+: message
  | _ => True

/-- Every call of `wiredRun` keeps tenant `a`'s wiring. -/
theorem wiredRun_keepsWiring : ∀ c ∈ wiredRun, c.KeepsWiring "a".toList := by
  intro c hc
  simp only [wiredRun, List.mem_cons, List.not_mem_nil, or_false] at hc
  rcases hc with rfl | rfl | rfl
  exacts [fun _ _ => rfl, fun _ => List.infix_refl _, trivial]

theorem wiredVendor_wired : wiredVendor.Wired "a".toList := ⟨by decide, by decide⟩

namespace Vendor.Wired

variable {t : Str} {v v' : Vendor}

theorem of_append {ms : List Monitor} (hw : v.Wired t) (hext : v.Extends v')
    (hm : v'.monitors = v.monitors ++ ms)
    (hms : ∀ m ∈ ms, webhookMention (webhookName t) <:+: m.message) : v'.Wired t where
  registered := hext.names _ hw.registered
  mentioned m hm' := by
    rw [hm, List.mem_append] at hm'
    exact hm'.elim (hw.mentioned m) (hms m)

theorem of_map {g : Monitor → Monitor} (hw : v.Wired t) (hext : v.Extends v')
    (hm : v'.monitors = v.monitors.map g) (hg : ∀ m, m.message <+: (g m).message) : v'.Wired t where
  registered := hext.names _ hw.registered
  mentioned m' hm' := by
    obtain ⟨m, hm, rfl⟩ := List.mem_map.mp (hm ▸ hm')
    exact (hw.mentioned m hm).trans (hg m).isInfix

end Vendor.Wired

section Wiring

variable (p : MonitorPolicy) (s : ProviderState) {t : Str}

theorem setupWebhookAccount_wired {f : Faults} {t' u k : Str} {b : Bool} {v : Vendor}
    (hw : v.Wired t) : (setupWebhookAccount f t' u k b v).Wired t := by
  have hext := setupWebhookAccount_extends f t' u k b v
  rcases setupWebhookAccount_monitors f t' u k b v with h | h
  · exact hw.of_append hext (by rw [h, List.append_nil]) (by simp)
  · exact hw.of_map hext h (wired_extends_message f _)

theorem applyMonitorCall_wired {call : Except PyError MonitorCall} {downtimes : List Downtime}
    {v : Vendor} (hw : v.Wired t) : (v.applyMonitorCall call downtimes).Wired t := by
  have hext := applyMonitorCall_extends v call downtimes
  unfold Vendor.applyMonitorCall at hext ⊢
  split
  · exact hw.of_map hext rfl fun m => by split <;> exact List.prefix_refl _
  · exact hw

/-- A call that keeps the wiring of tenant `t` leaves a wired account wired. -/
theorem step_wired (c : Call) (hw : s.vendor.Wired t) (hc : c.KeepsWiring t) :
    (s.step p c).vendor.Wired t := by
  have hext := step_extends p s c
  cases c with
  | query => exact hw
  | validateScopes f pf host now =>
      obtain ⟨-, hm, -⟩ := validateScopes_account p f pf host now s
      refine hw.of_append hext hm fun m hm' => ?_
      rw [if_neg fun h => by simp [hc h.1 h.2.1] at h] at hm'
      exact absurd hm' (List.not_mem_nil m)
  | setupWebhook => exact setupWebhookAccount_wired hw
  | deployAlert createError message =>
      refine hw.of_append hext (deployAlertAccount_eq p createError s.vendor message).2 fun m hm' => ?_
      split_ifs at hm' with hce
      · rw [List.mem_singleton.mp hm', p.record_message]
        exact hc hce
      · exact absurd hm' (List.not_mem_nil m)
  | muteMonitor => exact applyMonitorCall_wired hw
  | unmuteMonitor => exact applyMonitorCall_wired hw

end Wiring

/-- An account wired for tenant `t` stays wired along every run whose deployed
monitors mention the tenant's handle and whose scope validations did not leave
their example monitor behind. -/
theorem run_wired (p : MonitorPolicy) {t : Str} (calls : List Call) :
    ∀ s : ProviderState, s.vendor.Wired t → (∀ c ∈ calls, c.KeepsWiring t) →
      (s.run p calls).vendor.Wired t :=
  fun s hw hc => ProviderState.run_invariant p (P := fun s => s.vendor.Wired t)
    (fun s c hc hw => step_wired p s c hw hc) calls s hc hw

theorem run_wired_wiredRun :
    wiredVendor.Wired "a".toList ∧ (∀ c ∈ wiredRun, c.KeepsWiring "a".toList) ∧
      ((⟨Window.initial, wiredVendor⟩ : ProviderState).run sumPolicy wiredRun).vendor.Wired
        "a".toList :=
  ⟨wiredVendor_wired, wiredRun_keepsWiring,
    run_wired sumPolicy wiredRun _ wiredVendor_wired wiredRun_keepsWiring⟩

/-- No tenant's handle fits in the example monitor's message. -/
theorem exampleMonitorMessage_length_lt (t : Str) :
    exampleMonitorMessage.length < (webhookMention (webhookName t)).length := by
  have hex : exampleMonitorMessage.length = 37 := rfl
  have hmention : (webhookMention (webhookName t)).length = 42 + t.length := by
    simp only [webhookMention, webhookName, keepDatadogWebhookIntegrationName, List.length_append,
      List.length_cons]
    have : "@webhook-".toList.length = 9 := rfl
    have : "keep-datadog-webhook-integration".toList.length = 32 := rfl
    omega
  omega

/-- For an account wired for tenant `t`, a call leaves it wired exactly when it keeps
the wiring: a deployment without the handle, or a scope validation that leaves its
example monitor behind, unwires it. -/
theorem step_wired_iff (p : MonitorPolicy) (s : ProviderState) {t : Str} (c : Call)
    (hw : s.vendor.Wired t) : (s.step p c).vendor.Wired t ↔ c.KeepsWiring t := by
  refine ⟨fun hw' => ?_, step_wired p s c hw⟩
  cases c with
  | validateScopes f pf host now =>
      show host.hourReadable now = true → pf.createMonitorError = none → pf.deleteMonitorError = none
      intro hclock hc
      by_contra hd
      have hmem : p.record s.vendor exampleMonitorMessage ∈
          (validateScopes p f pf host now s).1.vendor.monitors := by
        rw [(validateScopes_account p f pf host now s).2.1,
          if_pos ⟨hclock, hc, Option.ne_none_iff_isSome.mp hd⟩]
        exact List.mem_append_right _ (List.mem_singleton_self _)
      have hinf := hw'.mentioned _ hmem
      rw [p.record_message] at hinf
      exact absurd hinf.length_le (Nat.not_le.mpr (exampleMonitorMessage_length_lt t))
  | deployAlert createError message =>
      show createError = none → _
      intro hc
      have hmem : p.record s.vendor message ∈ (deployAlertAccount p createError s.vendor message).monitors := by
        rw [(deployAlertAccount_eq p createError s.vendor message).2, if_pos hc]
        exact List.mem_append_right _ (List.mem_singleton_self _)
      simpa only [p.record_message] using hw'.mentioned _ hmem
  | query | setupWebhook | muteMonitor | unmuteMonitor => trivial

/-- A monitor deployed without tenant `a`'s handle. -/
theorem step_wired_iff_unmentioned :
    wiredVendor.Wired "a".toList ∧
      (((⟨Window.initial, wiredVendor⟩ : ProviderState).step sumPolicy
          (.deployAlert none "CPU".toList)).vendor.Wired "a".toList ↔
        (Call.deployAlert none "CPU".toList).KeepsWiring "a".toList) :=
  ⟨wiredVendor_wired, step_wired_iff sumPolicy _ _ wiredVendor_wired⟩

/-- `setup_webhook` for tenant `t` with `setup_alerts`, under a vendor that answers
the lookup (or refuses it with 404 or 403) and accepts every write, wires the
account for `t`, whatever it held before. -/
theorem step_setupWebhook_wired (p : MonitorPolicy) (s : ProviderState) {f : Faults} {t u k : Str}
    (hlookup : f.lookupError.all (·.notFoundOrForbidden)) (hu : f.updateError = none)
    (hc : f.createError = none) (hl : f.listMonitorsError = none)
    (hm : ∀ id, f.updateMonitorError id = none) :
    (s.step p (.setupWebhook f t u k true)).vendor.Wired t := by
  obtain ⟨v₁, hreg⟩ : ∃ v₁, registerWebhook f s.vendor (webhookName t) u k = .ok v₁ :=
    registerWebhook_isOk hlookup hu hc
  have hacc : setupWebhookAccount f t u k true s.vendor =
      v₁.monitors.foldl (wireMonitor f (webhookMention (webhookName t))) v₁ := by
    simp [setupWebhookAccount, hreg, Vendor.listMonitors, hl]
  show (setupWebhookAccount f t u k true s.vendor).Wired t
  obtain ⟨hweb, hmon⟩ := @foldl_wireMonitor_monitors f (webhookMention (webhookName t)) v₁
  rw [hacc]
  refine ⟨?_, fun m' hm' => ?_⟩
  · rw [Vendor.names, hweb]
    exact registerWebhook_registered hreg
  · obtain ⟨m, -, rfl⟩ := List.mem_map.mp (hmon ▸ hm')
    exact mention_infix_wired hm m

/-- A tenant's wiring, once set up, lasts: after a `setup_webhook` for the tenant
with `setup_alerts`, under a vendor that answers the lookup (or refuses it with
404 or 403) and accepts every write, and along any calls after it that keep the
wiring, the account is wired for the tenant — whatever it held before. -/
theorem run_wired_of_setup (p : MonitorPolicy) {t : Str} (s : ProviderState)
    (calls calls' : List Call) {f : Faults} {u k : Str}
    (hlookup : f.lookupError.all (·.notFoundOrForbidden)) (hu : f.updateError = none)
    (hc : f.createError = none) (hl : f.listMonitorsError = none)
    (hm : ∀ id, f.updateMonitorError id = none) (hcalls : ∀ c ∈ calls', c.KeepsWiring t) :
    (s.run p (calls ++ .setupWebhook f t u k true :: calls')).vendor.Wired t := by
  rw [ProviderState.run_append, ProviderState.run_cons]
  exact ProviderState.run_invariant p (P := fun s => s.vendor.Wired t)
    (fun s c hc hw => step_wired p s c hw hc) calls' _ hcalls
    (step_setupWebhook_wired p (s.run p calls) hlookup hu hc hl hm)

/-- Tenant `a` set up on a fresh account, then `wiredRun`. -/
theorem run_wired_of_setup_wiredRun :
    Faults.none.lookupError.all (·.notFoundOrForbidden) = true ∧ Faults.none.updateError = none ∧
      Faults.none.createError = none ∧ Faults.none.listMonitorsError = none ∧
      (∀ id, Faults.none.updateMonitorError id = none) ∧
      (∀ c ∈ wiredRun, c.KeepsWiring "a".toList) ∧
      ((⟨Window.initial, freshVendor⟩ : ProviderState).run sumPolicy
        ([] ++ .setupWebhook Faults.none "a".toList "u".toList "k".toList true :: wiredRun)).vendor.Wired
          "a".toList :=
  ⟨rfl, rfl, rfl, rfl, fun _ => rfl, wiredRun_keepsWiring,
    run_wired_of_setup sumPolicy _ [] wiredRun rfl rfl rfl rfl (fun _ => rfl) wiredRun_keepsWiring⟩

/-! ## Tenants -/

/-- The registration of tenant `t`, if the account holds one. -/
def Vendor.registration (v : Vendor) (t : Str) : Option WebhookIntegration :=
  v.webhooks.find? (·.name = webhookName t)

/-- The call is `setup_webhook` for tenant `t`. -/
def Call.SetsUp (t : Str) : Call → Prop
  | .setupWebhook _ t' _ _ _ => t' = t
  | _ => False

/-- No call of `wiredRun` sets tenant `a` up. -/
theorem wiredRun_not_setsUp : ∀ c ∈ wiredRun, ¬ c.SetsUp "a".toList := by
  intro c hc
  simp only [wiredRun, List.mem_cons, List.not_mem_nil, or_false] at hc
  rcases hc with rfl | rfl | rfl
  exacts [id, id, (by decide : ¬ "b".toList = "a".toList)]

/-- Two tenants have two registration names. -/
theorem webhookName_inj {t t' : Str} (h : webhookName t = webhookName t') : t = t' :=
  List.tail_eq_of_cons_eq (List.append_cancel_left h)

/-- The scope validation's registration is no tenant's. -/
theorem scopeValidationWebhook_name_ne (t : Str) : scopeValidationWebhook.name ≠ webhookName t := by
  intro h
  have h6 := congrArg (List.take 6) h
  rw [webhookName, List.take_append_of_le_length (by decide)] at h6
  exact absurd h6 (by decide)

section Tenants

variable (p : MonitorPolicy) (s : ProviderState) {t : Str}

theorem registration_of_webhooks {v v' : Vendor} (h : v'.webhooks = v.webhooks) :
    v'.registration t = v.registration t := by
  rw [Vendor.registration, h, Vendor.registration]

theorem setupWebhookAccount_registration {f : Faults} {t' u k : Str} {b : Bool} {v : Vendor}
    (ht : t' ≠ t) : (setupWebhookAccount f t' u k b v).registration t = v.registration t := by
  have hne : webhookName t ≠ webhookName t' := fun h => ht (webhookName_inj h).symm
  rcases setupWebhookAccount_cases f t' u k b v with h | ⟨v₁, hreg, h | h⟩ <;> rw [h]
  all_goals have hfind := (registerWebhook_frame hreg).2.2 _ hne
  · exact hfind
  · rw [registration_of_webhooks foldl_wireMonitor_monitors.1]
    exact hfind

/-- A call other than `setup_webhook` for tenant `t` leaves the tenant's
registration as it was. -/
theorem step_registration (c : Call) (hc : ¬ c.SetsUp t) :
    (s.step p c).vendor.registration t = s.vendor.registration t := by
  cases c with
  | query => rfl
  | validateScopes f pf host now =>
      show (validateScopes p f pf host now s).1.vendor.registration t = _
      rw [Vendor.registration, (validateScopes_account p f pf host now s).1, List.find?_append]
      split_ifs
      · simp [scopeValidationWebhook_name_ne t, Vendor.registration]
      · simp [Vendor.registration]
  | setupWebhook f t' u k b => exact setupWebhookAccount_registration hc
  | deployAlert createError message =>
      exact registration_of_webhooks (deployAlertAccount_eq p createError s.vendor message).1
  | muteMonitor => exact registration_of_webhooks (Vendor.applyMonitorCall_webhooks _ _ _)
  | unmuteMonitor => exact registration_of_webhooks (Vendor.applyMonitorCall_webhooks _ _ _)

end Tenants

/-- A tenant's registration changes only by `setup_webhook` for that tenant: along
every run without one, it stays as it was — absent, or with every field. -/
theorem run_registration (p : MonitorPolicy) {t : Str} (calls : List Call) :
    ∀ s : ProviderState, (∀ c ∈ calls, ¬ c.SetsUp t) →
      (s.run p calls).vendor.registration t = s.vendor.registration t :=
  fun s hc => ProviderState.run_invariant p (P := fun s' => s'.vendor.registration t = s.vendor.registration t)
    (fun s' c hc' h => (step_registration p s' c hc').trans h) calls s hc rfl

theorem run_registration_wiredRun :
    (∀ c ∈ wiredRun, ¬ c.SetsUp "a".toList) ∧
      ((⟨Window.initial, wiredVendor⟩ : ProviderState).run sumPolicy wiredRun).vendor.registration
        "a".toList = wiredVendor.registration "a".toList :=
  ⟨wiredRun_not_setsUp, run_registration sumPolicy wiredRun _ wiredRun_not_setsUp⟩

/-- A registration under the tenant's name is the tenant's registration. -/
theorem registration_eq_of_mem {t : Str} {v : Vendor} {w : WebhookIntegration} (hw : w ∈ v.webhooks)
    (hn : w.name = webhookName t) : v.registration t = some w := by
  rw [Vendor.registration, ← hn, Vendor.find?_name hw]

/-- `setup_webhook` for tenant `t`, under a vendor that answers the lookup (or
refuses it with 404 or 403) and accepts every registration write, leaves the
tenant's registration at the url it passed. -/
theorem step_setupWebhook_registration (p : MonitorPolicy) (s : ProviderState) {f : Faults}
    {t u k : Str} {b : Bool} (hl : f.lookupError.all (·.notFoundOrForbidden))
    (hu : f.updateError = none) (hc : f.createError = none) (hfu : f.fallbackUpdateError = none) :
    ∃ w, (s.step p (.setupWebhook f t u k b)).vendor.registration t = some w ∧ w.url = u := by
  obtain ⟨v₁, hreg⟩ : ∃ v₁, registerWebhook f s.vendor (webhookName t) u k = .ok v₁ :=
    registerWebhook_isOk hl hu hc
  obtain ⟨w, hw, hn, hurl⟩ := registerWebhook_url hreg hfu
  refine ⟨w, registration_eq_of_mem (v := setupWebhookAccount f t u k b s.vendor) ?_ hn, hurl⟩
  rw [setupWebhookAccount_webhooks hreg]
  exact hw

/-- The last `setup_webhook` for a tenant decides where its registration points:
after one whose vendor answers the lookup (or refuses it with 404 or 403) and
accepts every registration write, and any calls that do not set the tenant up
again, the registration holds that call's url. -/
theorem run_registration_last (p : MonitorPolicy) {t : Str} (s : ProviderState)
    (calls calls' : List Call) {f : Faults} {u k : Str} {b : Bool}
    (hl : f.lookupError.all (·.notFoundOrForbidden)) (hu : f.updateError = none)
    (hc : f.createError = none) (hfu : f.fallbackUpdateError = none)
    (hcalls : ∀ c ∈ calls', ¬ c.SetsUp t) :
    ∃ w, (s.run p (calls ++ .setupWebhook f t u k b :: calls')).vendor.registration t = some w ∧
      w.url = u := by
  obtain ⟨w, hw, hurl⟩ := step_setupWebhook_registration p (s.run p calls) (t := t) (k := k) (b := b)
    hl hu hc hfu
  refine ⟨w, ?_, hurl⟩
  rw [ProviderState.run_append, ProviderState.run_cons]
  exact ProviderState.run_invariant p (P := fun s' => s'.vendor.registration t = some w)
    (fun s' c hc' h => (step_registration p s' c hc').trans h) calls' _ hcalls hw

/-- Tenant `a` moved to url `v`, then `wiredRun`. -/
theorem run_registration_last_wiredRun :
    Faults.none.lookupError.all (·.notFoundOrForbidden) = true ∧ Faults.none.updateError = none ∧
      Faults.none.createError = none ∧ Faults.none.fallbackUpdateError = none ∧
      (∀ c ∈ wiredRun, ¬ c.SetsUp "a".toList) ∧
      ∃ w, ((⟨Window.initial, wiredVendor⟩ : ProviderState).run sumPolicy
          ([] ++ .setupWebhook Faults.none "a".toList "v".toList "k".toList true :: wiredRun)).vendor.registration
            "a".toList = some w ∧ w.url = "v".toList :=
  ⟨rfl, rfl, rfl, rfl, wiredRun_not_setsUp,
    run_registration_last sumPolicy _ [] wiredRun rfl rfl rfl rfl wiredRun_not_setsUp⟩

/-! ## A handle appended once -/

/-- The loop leaves a message as it is, or appends the handle it did not hold. -/
theorem wired_message (f : Faults) (mention : Str) (m : Monitor) :
    (wired f mention m).message = m.message ∨
      (¬ mention <:+: m.message ∧ (wired f mention m).message = m.message ++ ' ' :: mention) := by
  unfold wired
  split_ifs with h
  · exact .inl rfl
  · exact .inr ⟨fun hm => h (.inl hm), rfl⟩

/-- A call that sets up no tenant but `t` keeps every monitor, under its id, with its
message as it was or with `t`'s handle appended to a message that did not hold it. -/
theorem step_message (p : MonitorPolicy) (s : ProviderState) {t : Str} (c : Call)
    (hc : ∀ t', c.SetsUp t' → t' = t) :
    ∀ m ∈ s.vendor.monitors, ∃ m' ∈ (s.step p c).vendor.monitors, m'.id = m.id ∧
      (m'.message = m.message ∨ (¬ webhookMention (webhookName t) <:+: m.message ∧
        m'.message = m.message ++ ' ' :: webhookMention (webhookName t))) := by
  intro m hm
  cases c with
  | query => exact ⟨m, hm, rfl, .inl rfl⟩
  | validateScopes f pf host now =>
      refine ⟨m, ?_, rfl, .inl rfl⟩
      show m ∈ (validateScopes p f pf host now s).1.vendor.monitors
      rw [(validateScopes_account p f pf host now s).2.1]
      exact List.mem_append_left _ hm
  | deployAlert createError message =>
      refine ⟨m, ?_, rfl, .inl rfl⟩
      show m ∈ (deployAlertAccount p createError s.vendor message).monitors
      rw [(deployAlertAccount_eq p createError s.vendor message).2]
      exact List.mem_append_left _ hm
  | setupWebhook f t' u k b =>
      obtain rfl := hc t' rfl
      show ∃ m' ∈ (setupWebhookAccount f t' u k b s.vendor).monitors, _
      rcases setupWebhookAccount_monitors f t' u k b s.vendor with h | h <;> rw [h]
      · exact ⟨m, hm, rfl, .inl rfl⟩
      · exact ⟨_, List.mem_map_of_mem _ hm, wired_id m, wired_message f _ m⟩
  | muteMonitor | unmuteMonitor =>
      simp only [ProviderState.step, Vendor.applyMonitorCall]
      split
      · refine ⟨_, List.mem_map_of_mem _ hm, ?_, .inl ?_⟩ <;> split <;> rfl
      · exact ⟨m, hm, rfl, .inl rfl⟩

/-- Tenant `a` set up twice, with another url and key the second time. -/
def resetupRun : List Call :=
  [.setupWebhook Faults.none "a".toList "u".toList "k".toList true,
    .setupWebhook Faults.none "a".toList "v".toList "k2".toList true]

theorem resetupRun_setsUp : ∀ c ∈ resetupRun, ∀ t', c.SetsUp t' → t' = "a".toList := by
  intro c hc t' ht
  simp only [resetupRun, List.mem_cons, List.not_mem_nil, or_false] at hc
  rcases hc with rfl | rfl <;> exact ht.symm

/-- Setting one tenant up again and again — retries, a new url or key, other vendor
answers, with any other calls but other tenants' setups in between — appends the
tenant's handle to a monitor's message at most once. -/
theorem run_mention_appended_once (p : MonitorPolicy) {t : Str} (calls : List Call)
    (hc : ∀ c ∈ calls, ∀ t', c.SetsUp t' → t' = t) (s : ProviderState) :
    ∀ m ∈ s.vendor.monitors, ∃ m' ∈ (s.run p calls).vendor.monitors, m'.id = m.id ∧
      (m'.message = m.message ∨ m'.message = m.message ++ ' ' :: webhookMention (webhookName t)) := by
  intro m hm
  refine ProviderState.run_invariant p
    (P := fun s' => ∃ m' ∈ s'.vendor.monitors, m'.id = m.id ∧
      (m'.message = m.message ∨ m'.message = m.message ++ ' ' :: webhookMention (webhookName t)))
    (fun s' c hc' ⟨m', hm', hid, hmsg⟩ => ?_) calls s hc ⟨m, hm, rfl, .inl rfl⟩
  obtain ⟨m'', hm'', hid', hmsg'⟩ := step_message p s' c hc' m' hm'
  refine ⟨m'', hm'', hid'.trans hid, ?_⟩
  rcases hmsg with hmsg | hmsg <;> rcases hmsg' with hmsg' | ⟨hnot, hmsg'⟩
  · exact .inl (hmsg'.trans hmsg)
  · exact .inr (by rw [hmsg', hmsg])
  · exact .inr (hmsg'.trans hmsg)
  · exact absurd (hmsg ▸ infix_append_mention _ _) hnot

theorem run_mention_appended_once_resetup :
    (∀ c ∈ resetupRun, ∀ t', c.SetsUp t' → t' = "a".toList) ∧
      ∀ m ∈ freshVendor.monitors, ∃ m' ∈
          ((⟨Window.initial, freshVendor⟩ : ProviderState).run sumPolicy resetupRun).vendor.monitors,
        m'.id = m.id ∧
          (m'.message = m.message ∨ m'.message = m.message ++ ' ' :: webhookMention (webhookName "a".toList)) :=
  ⟨resetupRun_setsUp,
    run_mention_appended_once sumPolicy resetupRun resetupRun_setsUp ⟨Window.initial, freshVendor⟩⟩

/-! ## One register per tenant

Abstractly, each tenant has one register, its registration, and `setup_webhook`
for the tenant is a function on it (`tenantSetup`); no other call touches it.
`run_registration_eq_tenantSetup` says the account refines this model: after any
run, each tenant's registration is what the tenant's own setup calls, in order,
make of the one it had, however they interleave with other calls. -/

/-- What `setup_webhook` for tenant `t` makes of the tenant's registration.  A
tenant without one gets the new registration when the lookup answers or is
refused with 404 or 403, and the vendor lets it be created.  A tenant with one
gets url, headers and payload rewritten when the lookup found it at another url
and the update of line 537 is accepted, or when the call falls back to create
and the vendor lets the create reach the name check and accepts the update of
line 575; otherwise it keeps it. -/
def tenantSetup (f : Faults) (t u k : Str) : Option WebhookIntegration → Option WebhookIntegration
  | none =>
      if f.lookupError.all (·.notFoundOrForbidden) && f.createError.isNone then
        some (newWebhook (webhookName t) u k)
      else none
  | some w =>
      if (f.lookupError.isNone && w.url != u && f.updateError.isNone) ||
          (f.fallsBack w.url u && f.createError.isNone && f.fallbackUpdateError.isNone) then
        some { w with url := u, customHeaders := customHeaders k, payload := webhookPayload }
      else some w

/-- The vendor's answers and the arguments of a `setup_webhook` for tenant `t`. -/
def Call.setupFor (t : Str) : Call → Option (Faults × Str × Str)
  | .setupWebhook f t' u k _ => if t' = t then some (f, u, k) else none
  | _ => none

/-- Tenant `t`'s registration after a registration step on `v`: in the account the
step left, or in `v` when it raised. -/
def registrationAfter (t : Str) (v : Vendor) : Except ApiException Vendor → Option WebhookIntegration
  | .ok v₁ => v₁.registration t
  | .error _ => v.registration t

@[simp] theorem registrationAfter_ok (t : Str) (v v₁ : Vendor) :
    registrationAfter t v (.ok v₁) = v₁.registration t := rfl

@[simp] theorem registrationAfter_error (t : Str) (v : Vendor) (e : ApiException) :
    registrationAfter t v (.error e) = v.registration t := rfl

section Register

variable {t : Str}

theorem registration_eq_some {v : Vendor} {w : WebhookIntegration} :
    v.registration t = some w ↔ w ∈ v.webhooks ∧ w.name = webhookName t :=
  ⟨fun h => ⟨List.mem_of_find?_eq_some h, by simpa using List.find?_some h⟩,
    fun ⟨hw, hn⟩ => registration_eq_of_mem hw hn⟩

theorem registration_eq_none {v : Vendor} : v.registration t = none ↔ webhookName t ∉ v.names := by
  simp [Vendor.registration, Vendor.names]

theorem registration_setWebhook {v : Vendor} {w : WebhookIntegration} (hw : v.registration t = some w)
    (url : Str) (h : List (Str × Str)) (pl : List (Str × TemplateValue)) :
    (v.setWebhook w.name url h pl).registration t =
      some { w with url, customHeaders := h, payload := pl } := by
  obtain ⟨hmem, hn⟩ := registration_eq_some.mp hw
  refine registration_eq_of_mem (List.mem_map.mpr ⟨w, hmem, ?_⟩) hn
  simp

theorem registration_addWebhook {v : Vendor} {w : WebhookIntegration} (hw : w.name ∉ v.names)
    (hn : w.name = webhookName t) : (v.addWebhook w hw).registration t = some w :=
  registration_eq_of_mem (List.mem_append_right _ (List.mem_singleton_self _)) hn

/-- The fallback for a tenant without a registration creates it, or raises. -/
theorem createOrUpdate_registration_none {f : Faults} {u k : Str} {v : Vendor}
    (hr : v.registration t = none) :
    registrationAfter t v (createOrUpdate f v (webhookName t) u k) =
      if f.createError.isNone then some (newWebhook (webhookName t) u k) else none := by
  have hn := registration_eq_none.mp hr
  rw [createOrUpdate_of_not_mem hn]
  cases f.createError
  · exact registration_addWebhook hn rfl
  · exact hr

/-- The fallback for a tenant with a registration rewrites it when the vendor lets
the create reach the name check and accepts the update of line 575. -/
theorem createOrUpdate_registration_some {f : Faults} {u k : Str} {v : Vendor}
    {w : WebhookIntegration} (hr : v.registration t = some w) :
    registrationAfter t v (createOrUpdate f v w.name u k) =
      if f.createError.isNone && f.fallbackUpdateError.isNone then
        some { w with url := u, customHeaders := customHeaders k, payload := webhookPayload }
      else some w := by
  obtain ⟨hmem, -⟩ := registration_eq_some.mp hr
  rw [createOrUpdate_of_mem (Vendor.mem_names.mpr ⟨w, hmem, rfl⟩)]
  cases f.createError <;> cases f.fallbackUpdateError <;> simp [registration_setWebhook hr, hr]

/-- The registration step acts on the tenant's registration as `tenantSetup` does,
also when it raises. -/
theorem registerWebhook_registration (f : Faults) (u k : Str) (v : Vendor) :
    registrationAfter t v (registerWebhook f v (webhookName t) u k) =
      tenantSetup f t u k (v.registration t) := by
  cases hr : v.registration t with
  | none =>
      have hn := registration_eq_none.mp hr
      have hco := createOrUpdate_registration_none (f := f) (u := u) (k := k) hr
      cases hl : f.lookupError with
      | none => simp [registerWebhook_of_not_mem hl hn, hco, tenantSetup, hl]
      | some e =>
          by_cases he : e.notFoundOrForbidden <;>
            simp [registerWebhook_of_lookupError hl, he, hco, tenantSetup, hl, hr]
  | some w =>
      obtain ⟨hmem, hn⟩ := registration_eq_some.mp hr
      have hco := createOrUpdate_registration_some (f := f) (u := u) (k := k) hr
      rw [← hn]
      cases hl : f.lookupError with
      | some e =>
          by_cases he : e.notFoundOrForbidden <;>
            simp [registerWebhook_of_lookupError hl, he, hco, tenantSetup, Faults.fallsBack, hl, hr]
      | none =>
          rw [registerWebhook_of_mem hl hmem]
          -- the lookup found it: kept at the url, else updated (line 537) or falling back
          by_cases hurl : w.url = u
          · simp [tenantSetup, Faults.fallsBack, hl, hurl, hr]
          cases hup : f.updateError with
          | none => simp [tenantSetup, hl, hurl, hup, registration_setWebhook hr]
          | some e =>
              by_cases he : e.notFoundOrForbidden <;>
                simp [tenantSetup, Faults.fallsBack, hl, hurl, hup, he, hr, hco]

theorem setupWebhookAccount_registration_self (f : Faults) (u k : Str) (b : Bool) (v : Vendor) :
    (setupWebhookAccount f t u k b v).registration t = tenantSetup f t u k (v.registration t) := by
  rw [← registerWebhook_registration f u k v]
  cases h : registerWebhook f v (webhookName t) u k with
  | error e => simp only [setupWebhookAccount, registrationAfter, h]
  | ok v₁ => exact registration_of_webhooks (setupWebhookAccount_webhooks h)

/-- One call's effect on tenant `t`'s registration is the abstract model's. -/
theorem step_registration_eq (p : MonitorPolicy) (s : ProviderState) (c : Call) :
    (s.step p c).vendor.registration t =
      match c.setupFor t with
      | some (f, u, k) => tenantSetup f t u k (s.vendor.registration t)
      | none => s.vendor.registration t := by
  cases c with
  | setupWebhook f t' u k b =>
      by_cases ht : t' = t
      · subst ht
        simp only [Call.setupFor, if_pos rfl]
        exact setupWebhookAccount_registration_self f u k b s.vendor
      · simp only [Call.setupFor, if_neg ht]
        exact setupWebhookAccount_registration ht
  | query | validateScopes | deployAlert | muteMonitor | unmuteMonitor =>
      exact step_registration p s _ id

end Register

/-- The account refines one register per tenant: after any run, a tenant's
registration is what the tenant's own `setup_webhook` calls, in order, make of
the one it had — other tenants' calls, scope validations, deployments and mutes,
wherever they fall, change nothing. -/
theorem run_registration_eq_tenantSetup (p : MonitorPolicy) (t : Str) (calls : List Call) :
    ∀ s : ProviderState, (s.run p calls).vendor.registration t =
      (calls.filterMap (Call.setupFor t)).foldl (fun r (f, u, k) => tenantSetup f t u k r)
        (s.vendor.registration t) := by
  induction calls with
  | nil => exact fun _ => rfl
  | cons c calls ih =>
      intro s
      rw [ProviderState.run_cons, ih, step_registration_eq]
      cases hc : c.setupFor t with
      | none => rw [List.filterMap_cons, hc]
      | some setup => rw [List.filterMap_cons, hc]; rfl

end Keep.DatadogProvider
