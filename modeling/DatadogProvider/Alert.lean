/-
# DatadogProvider.Alert — the canonical alert both normalizers build

`AlertDto` and `BaseProvider.get_alert_fingerprint` are declared outside `src/`;
both are modelled from the spec (§3, §4.2).  The alert's id, message,
monitor_id and url are strings there, so a vendor integer is held as its
`str` (`PyVal.asText`), and the fingerprint is the host's combination of
the values of the fingerprint fields, in order (`getAlertFingerprint`).

* `getAlertFingerprint_congr`: §4.2's contract — two alerts that agree on
  `groups` and `monitor_id` get the same fingerprint, whatever else differs.
* `getParsedSeverity` is `__get_parsed_severity`: `P1`..`P4`, and `None` for
  anything else, a value that is not a string included.

Python's time-zone conversion is outside the repository too: `Host` carries
it, with the fingerprint combination, as the parameters every normalizer takes.
-/
import DatadogProvider.Python
import Mathlib.Data.Rat.Defs

namespace Keep.DatadogProvider

set_option autoImplicit false

/-! ## Severity -/

/-- The severities `__get_parsed_severity` returns, by their strings. -/
inductive Severity
  | critical
  | high
  | medium
  | low
  deriving DecidableEq, Repr

/-- `__get_parsed_severity(priority)`. -/
def getParsedSeverity (priority : PyVal) : Option Severity :=
  if priority = .str "P1".toList then some .critical
  else if priority = .str "P2".toList then some .high
  else if priority = .str "P3".toList then some .medium
  else if priority = .str "P4".toList then some .low
  else none

/-! ## Times -/

/-- A naive `datetime`, by the two halves of its ISO rendering:
`YYYY-MM-DD` and `HH:MM:SS[.ffffff]`. -/
structure DateTime where
  date : Str
  time : Str
  deriving DecidableEq, Repr

/-- `dt.isoformat(sep)`. -/
def DateTime.isoformatSep (dt : DateTime) (sep : Char) : Str := dt.date ++ sep :: dt.time

/-- `dt.isoformat()`. -/
def DateTime.isoformat (dt : DateTime) : Str := dt.isoformatSep 'T'

/-- `str(dt)`, which Python renders as `dt.isoformat(" ")`. -/
def DateTime.str (dt : DateTime) : Str := dt.isoformatSep ' '

/-- `isoformat()` and `str()` of one datetime differ at the separator. -/
theorem DateTime.isoformat_ne_str (dt : DateTime) : dt.isoformat ≠ dt.str := fun h =>
  absurd (List.head_eq_of_cons_eq (List.append_cancel_left h)) (by decide)

/-! ## The alert -/

/-- The value of an alert field, as `alert.dict()` holds it. -/
inductive FieldValue
  | none
  | text (s : Str)
  | texts (xs : List Str)
  deriving DecidableEq, Repr

/-- What the provider takes from outside `src/`. -/
structure Host where
  /-- `datetime.datetime.fromtimestamp(t)` in the server's time zone; `none` where it raises. -/
  fromtimestamp : ℚ → Option DateTime
  /-- How `get_alert_fingerprint` combines the values of the fingerprint fields. -/
  combine : List FieldValue → Str

/-- `datetime.datetime.fromtimestamp(t)`, raising where the host has no time for `t`. -/
def Host.datetimeOf (host : Host) (t : ℚ) : Except PyError DateTime :=
  match host.fromtimestamp t with
  | some dt => .ok dt
  | none => .error .overflowError

theorem Host.datetimeOf_eq_ok {host : Host} {t : ℚ} {dt : DateTime} :
    host.datetimeOf t = .ok dt ↔ host.fromtimestamp t = some dt := by
  unfold Host.datetimeOf
  split <;> simp_all

/-- A host for concrete runs: every timestamp converts, to the epoch, and the
fingerprint is empty. -/
def epochHost : Host :=
  ⟨fun _ => some ⟨"1970-01-01".toList, "00:00:00".toList⟩, fun _ => []⟩

/-- `int(x)` of a float: truncation toward zero. -/
def truncate (q : ℚ) : Int := q.num.tdiv q.den

/-- Modelled from the spec: `AlertDto`, with the fields the provider sets and the
types §3 gives them. -/
structure AlertDto where
  id : Option Str
  name : Str
  status : Str
  severity : Option Severity
  lastReceived : Str
  message : Option Str
  monitorId : Option Str
  groups : List Str
  source : List Str
  tags : PyDict Str Str
  createdBy : Option Str
  url : Option Str
  fingerprint : Option Str
  deriving DecidableEq, Repr

/-- Modelled from the spec: how `AlertDto` holds a value given for one of its
string fields; an integer becomes its `str`, a mapping is refused. -/
def PyVal.asText : PyVal → Except PyError (Option Str)
  | .none => .ok Option.none
  | .str s => .ok (some s)
  | .int n => (strInt n).map some
  | .dict _ => .error .typeError

/-- `alert.dict().get(name)` for the two fields a fingerprint can name here. -/
def AlertDto.field (a : AlertDto) (name : Str) : FieldValue :=
  if name = "groups".toList then .texts a.groups
  else if name = "monitor_id".toList then (a.monitorId.map .text).getD .none
  else .none

/-- `FINGERPRINT_FIELDS`; modelled from the spec, `self.fingerprint_fields` of the
poll path is the same list. -/
def fingerprintFields : List Str := ["groups".toList, "monitor_id".toList]

/-- Modelled from the spec (§4.2): `get_alert_fingerprint(alert, fields)`. -/
def getAlertFingerprint (host : Host) (a : AlertDto) (fields : List Str) : Str :=
  host.combine (fields.map a.field)

/-- `alert.fingerprint = get_alert_fingerprint(alert, FINGERPRINT_FIELDS)`. -/
def AlertDto.withFingerprint (host : Host) (a : AlertDto) : AlertDto :=
  { a with fingerprint := some (getAlertFingerprint host a fingerprintFields) }

/-- The fingerprint depends on `groups` and `monitor_id` only. -/
theorem getAlertFingerprint_congr (host : Host) {a b : AlertDto} (hg : a.groups = b.groups)
    (hm : a.monitorId = b.monitorId) :
    getAlertFingerprint host a fingerprintFields = getAlertFingerprint host b fingerprintFields := by
  simp [getAlertFingerprint, fingerprintFields, AlertDto.field, hg, hm]

@[simp] theorem withFingerprint_groups (host : Host) (a : AlertDto) :
    (a.withFingerprint host).groups = a.groups := rfl

@[simp] theorem withFingerprint_monitorId (host : Host) (a : AlertDto) :
    (a.withFingerprint host).monitorId = a.monitorId := rfl

@[simp] theorem withFingerprint_name (host : Host) (a : AlertDto) :
    (a.withFingerprint host).name = a.name := rfl

@[simp] theorem withFingerprint_status (host : Host) (a : AlertDto) :
    (a.withFingerprint host).status = a.status := rfl

@[simp] theorem withFingerprint_severity (host : Host) (a : AlertDto) :
    (a.withFingerprint host).severity = a.severity := rfl

@[simp] theorem withFingerprint_tags (host : Host) (a : AlertDto) :
    (a.withFingerprint host).tags = a.tags := rfl

@[simp] theorem withFingerprint_createdBy (host : Host) (a : AlertDto) :
    (a.withFingerprint host).createdBy = a.createdBy := rfl

/-- The fingerprint `withFingerprint` stores is the alert's own: the fingerprint
field is not one of the fields it reads. -/
theorem withFingerprint_fingerprint (host : Host) (a : AlertDto) :
    (a.withFingerprint host).fingerprint =
      some (getAlertFingerprint host (a.withFingerprint host) fingerprintFields) := by
  rw [getAlertFingerprint_congr host (withFingerprint_groups host a) (withFingerprint_monitorId host a)]
  rfl

end Keep.DatadogProvider
