/-
# DatadogProvider.Configuration — `get_alerts_configuration` and `deploy_alert`

`get_alerts_configuration(alert_id)` lists the monitors, serialises each with
`json.dumps(monitor.to_dict(), default=str)`, and, given an `alert_id`, keeps
those for which `monitor["id"] == alert_id`.  The filter runs over the
serialisations, which are strings: `monitor["id"]` subscripts a `str` with a
`str` and raises `TypeError` at the first monitor.

* `getAlertsConfiguration_eq`: everything the call can return — the
  `GetAlertException` of a failed `list_monitors`, `TypeError` for an
  `alert_id` on an account with monitors, and otherwise every serialisation.
* `getAlertsConfiguration_raises`: with an `alert_id`, no account that has a
  monitor gets an answer.

`deploy_alert(alert)` creates the monitor `Monitor(**alert)`; when the vendor
refuses it, the call raises a plain `Exception` carrying the first error of the
vendor's answer (`DeployError`), and `IndexError` when there is none
(`deployAlert_error`).
-/
import DatadogProvider.Vendor

namespace Keep.DatadogProvider

set_option autoImplicit false

/-- The predicate of the `filter` (line 437), on one serialised monitor. -/
def idMatches (alertId : PyVal) (monitor : Str) : Except PyError Bool := do
  let id ← (PyVal.str monitor).getItem "id".toList
  pure (decide (id = alertId))

/-- `get_alerts_configuration(alert_id)`; `serialise` is
`json.dumps(monitor.to_dict(), default=str)`. -/
def getAlertsConfiguration (f : Faults) (v : Vendor) (serialise : Monitor → Str)
    (alertId : PyVal) : Except PyError (List Str) := do
  let monitors ← (v.listMonitors f).mapError .getAlert
  let monitors := monitors.map serialise
  if alertId.truthy then monitors.filterM (idMatches alertId) else pure monitors

section Spec

variable {f : Faults} {v : Vendor} {serialise : Monitor → Str} {alertId : PyVal}

/-- The filter over serialised monitors raises at the first one. -/
theorem filterM_idMatches (alertId : PyVal) (monitors : List Str) :
    monitors.filterM (idMatches alertId) =
      if monitors = [] then .ok monitors else .error .typeError := by
  cases monitors <;> rfl

/-- What `get_alerts_configuration` returns, for every account and `alert_id`. -/
theorem getAlertsConfiguration_eq :
    getAlertsConfiguration f v serialise alertId =
      match f.listMonitorsError with
      | some e => .error (.getAlert e)
      | none =>
          if alertId.truthy ∧ v.monitors ≠ [] then .error .typeError
          else .ok (v.monitors.map serialise) := by
  unfold getAlertsConfiguration Vendor.listMonitors
  cases f.listMonitorsError with
  | some e => rfl
  | none =>
      by_cases ht : alertId.truthy <;>
        simp [ht, filterM_idMatches, Except.mapError, pure, Except.pure]

/-- With an `alert_id`, the call raises `TypeError` on every account that has a
monitor, whatever the serialisation. -/
theorem getAlertsConfiguration_raises (hl : f.listMonitorsError = none)
    (ht : alertId.truthy = true) (hm : v.monitors ≠ []) :
    getAlertsConfiguration f v serialise alertId = .error .typeError := by
  rw [getAlertsConfiguration_eq, hl]
  exact if_pos ⟨ht, hm⟩

/-- An account with the monitor `7`. -/
def sevenVendor : Vendor :=
  ⟨[], [{ id := 7, message := "CPU high".toList, creator := none, matchingDowntimes := [] }],
    List.nodup_nil, List.nodup_singleton _⟩

/-- The JSON of a monitor's id field, `{"id": 7}` for the monitor `7`. -/
def idJson (monitor : Monitor) : Str :=
  "\x7b\"id\": ".toList ++ (toString monitor.id).toList ++ "\x7d".toList

theorem getAlertsConfiguration_raises_seven :
    Faults.none.listMonitorsError = none ∧ (PyVal.str "7".toList).truthy = true ∧
      sevenVendor.monitors ≠ [] ∧
      getAlertsConfiguration Faults.none sevenVendor idJson (.str "7".toList) = .error .typeError :=
  ⟨rfl, rfl, List.cons_ne_nil _ _, getAlertsConfiguration_raises rfl rfl (List.cons_ne_nil _ _)⟩

end Spec

/-! ## `deploy_alert` -/

/-- What `deploy_alert` raises for a monitor the vendor refused: the
`Exception({"message": e.body["errors"][0]})` of line 675, or the Python error
that line itself raises. -/
inductive DeployError
  | exception (message : Str)
  | py (e : PyError)
  deriving DecidableEq, Repr

/-- `deploy_alert(alert)`; the body `Monitor(**alert)` is held by the message the
account records. -/
def deployAlert (p : MonitorPolicy) (createError : Option ApiException) (v : Vendor)
    (message : Str) : Except DeployError (Vendor × Monitor) :=
  match v.createMonitor p createError message with
  | .ok r => .ok r
  | .error e =>
      match e.errors with
      | error :: _ => .error (.exception error)
      | [] => .error (.py .indexError)

/-- A refused monitor raises the vendor's first error, and `IndexError` when the
vendor gave none. -/
theorem deployAlert_error (p : MonitorPolicy) (e : ApiException) (v : Vendor) (message : Str) :
    deployAlert p (some e) v message =
      .error (match e.errors.head? with
        | some error => .exception error
        | none => .py .indexError) := by
  obtain ⟨status, errors⟩ := e
  cases errors <;> rfl

/-- The account `deploy_alert` leaves: one monitor more, or, when the vendor refused
it, the account as it was. -/
def deployAlertAccount (p : MonitorPolicy) (createError : Option ApiException) (v : Vendor)
    (message : Str) : Vendor :=
  match deployAlert p createError v message with
  | .ok (v', _) => v'
  | .error _ => v

theorem deployAlertAccount_eq (p : MonitorPolicy) (createError : Option ApiException) (v : Vendor)
    (message : Str) :
    (deployAlertAccount p createError v message).webhooks = v.webhooks ∧
      (deployAlertAccount p createError v message).monitors =
        v.monitors ++ if createError = none then [p.record v message] else [] := by
  cases createError with
  | none => exact ⟨rfl, rfl⟩
  | some e => simp [deployAlertAccount, deployAlert_error]

end Keep.DatadogProvider
