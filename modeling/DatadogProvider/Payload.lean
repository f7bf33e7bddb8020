/-
# DatadogProvider.Payload — `WEBHOOK_PAYLOAD`, and what Datadog posts for it

`WEBHOOK_PAYLOAD` is the body template `setup_webhook` registers: a JSON object
whose values are Datadog `$VARIABLES` (and one nested object, `org`).  For every
alert Datadog posts the template with each variable replaced by its text
(`render`; that substitution is the vendor's, outside the repository), and
`format_alert` reads the posted object as a dict.

`dictLookup_render` reads one key of a posted payload back: the template's
value at that key, rendered.  The keys `format_alert` reads are listed in
`webhookPayload_lookup`.
-/
import DatadogProvider.Python

namespace Keep.DatadogProvider

set_option autoImplicit false

/-- A value of the template: a Datadog variable, or an object of them. -/
inductive TemplateValue
  | var (name : Str)
  | obj (fields : List (Str × Str))
  deriving DecidableEq, Repr

/-- `WEBHOOK_PAYLOAD`, before `json.dumps`. -/
def webhookPayload : List (Str × TemplateValue) :=
  [("body".toList, .var "$EVENT_MSG".toList),
   ("last_updated".toList, .var "$LAST_UPDATED".toList),
   ("event_type".toList, .var "$EVENT_TYPE".toList),
   ("title".toList, .var "$EVENT_TITLE".toList),
   ("severity".toList, .var "$ALERT_PRIORITY".toList),
   ("alert_type".toList, .var "$ALERT_TYPE".toList),
   ("alert_query".toList, .var "$ALERT_QUERY".toList),
   ("alert_transition".toList, .var "$ALERT_TRANSITION".toList),
   ("date".toList, .var "$DATE".toList),
   ("scopes".toList, .var "$ALERT_SCOPE".toList),
   ("org".toList, .obj [("id".toList, "$ORG_ID".toList), ("name".toList, "$ORG_NAME".toList)]),
   ("url".toList, .var "$LINK".toList),
   ("tags".toList, .var "$TAGS".toList),
   ("id".toList, .var "$ID".toList),
   ("monitor_id".toList, .var "$ALERT_ID".toList)]

/-- A template value with every variable replaced by its text. -/
def TemplateValue.render (values : Str → Str) : TemplateValue → PyVal
  | .var name => .str (values name)
  | .obj fields => .dict (fields.map fun field => (field.1, values field.2))

/-- The object Datadog posts for `template`, given the texts of its variables. -/
def render (values : Str → Str) (template : List (Str × TemplateValue)) : PyDict Str PyVal :=
  template.map fun entry => (entry.1, entry.2.render values)

theorem dictLookup_render (values : Str → Str) (template : List (Str × TemplateValue)) (key : Str) :
    dictLookup (render values template) key =
      (dictLookup template key).map (·.render values) := by
  induction template with
  | nil => rfl
  | cons entry template ih =>
      obtain ⟨k, v⟩ := entry
      simp only [render, List.map_cons, dictLookup_cons] at ih ⊢
      split <;> simp [ih]

/-- A key the template gives a variable reads back that variable's text. -/
theorem dictGet_render_of_var {template : List (Str × TemplateValue)} {key name : Str}
    (h : dictLookup template key = some (.var name)) (values : Str → Str) (default : PyVal) :
    dictGet (render values template) key default = .str (values name) := by
  simp [dictGet, dictLookup_render, h, TemplateValue.render]

/-- The variables behind the keys `format_alert` reads. -/
theorem webhookPayload_lookup :
    dictLookup webhookPayload "tags".toList = some (.var "$TAGS".toList) ∧
    dictLookup webhookPayload "last_updated".toList = some (.var "$LAST_UPDATED".toList) ∧
    dictLookup webhookPayload "title".toList = some (.var "$EVENT_TITLE".toList) ∧
    dictLookup webhookPayload "url".toList = some (.var "$LINK".toList) ∧
    dictLookup webhookPayload "scopes".toList = some (.var "$ALERT_SCOPE".toList) ∧
    dictLookup webhookPayload "id".toList = some (.var "$ID".toList) ∧
    dictLookup webhookPayload "body".toList = some (.var "$EVENT_MSG".toList) ∧
    dictLookup webhookPayload "severity".toList = some (.var "$ALERT_PRIORITY".toList) ∧
    dictLookup webhookPayload "monitor_id".toList = some (.var "$ALERT_ID".toList) := by
  decide

end Keep.DatadogProvider
