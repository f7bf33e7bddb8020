/-
# DatadogProvider.Query — `_query` and `expose`

`_query(query, timeframe, query_type)` turns the timeframe into seconds, reads
the clock, stores the request window on the provider (`self.to`, then
`self._from`) and calls the logs API; `expose()` reads the stored window back in
milliseconds.  The clock is a parameter: every `time.time()` of one call reads
`now`.  A datetime is held as its timestamp, and `datetime.fromtimestamp` raises
where the host has no time for it.

* `convertToSeconds_digits`: a timeframe of decimal digits and a unit is the
  number times the unit's seconds.
* `query_window`: the window `_query` leaves — `self.to` once the timeframe
  converts and the host represents the clock, `self._from` once it also
  represents the window's start (`queryTo`, `queryFrom`); a start out of range
  leaves the new end with the old start.
* `query_logs_call`: the logs call asks for exactly the stored window.
* `query_metrics_raises`: the metrics branch never returns; with the window
  stored it raises the client's `ApiTypeError` on its float bounds.
* `expose_query`: `expose` reports the stored window truncated to whole seconds,
  so exactly that window when the clock reads whole seconds
  (`expose_query_of_whole`), and not otherwise (`expose_query_truncated`).
* `expose_query_negative_timeframe`: a timeframe with a minus sign is accepted,
  and the stored window starts after it ends.

The window holds the clock's own timestamps: that `datetime.timestamp()` of a
`fromtimestamp` result gives back its argument is taken for granted (Python
rounds to microseconds, and a naive local time is ambiguous in a DST fold).
-/
import DatadogProvider.Alert

namespace Keep.DatadogProvider

set_option autoImplicit false

/-- `seconds_per_unit` of `convert_to_seconds`. -/
def secondsPerUnit : PyDict Char Int :=
  [('s', 1), ('m', 60), ('h', 3600), ('d', 86400), ('w', 604800)]

/-- `convert_to_seconds(s)`: `int(s[:-1]) * seconds_per_unit[s[-1]]`. -/
def convertToSeconds (s : Str) : Except PyError Int :=
  match parseInt s.dropLast, s.getLast? with
  | none, _ => .error .valueError
  | some _, none => .error .indexError
  | some n, some unit =>
      match dictLookup secondsPerUnit unit with
      | some k => .ok (n * k)
      | none => .error .keyError

/-- The request window the provider keeps (`self.to`, `self._from`), as timestamps. -/
structure Window where
  toTime : Option ℚ
  fromTime : Option ℚ
  deriving DecidableEq, Repr

/-- The window of a fresh provider (lines 171–172). -/
def Window.initial : Window := ⟨none, none⟩

/-- The vendor call `_query` sends, with its window in seconds. -/
inductive QueryCall
  /-- `LogsApi.list_logs(body={"query", "time": ...})`. -/
  | listLogs (query : Str) (fromTime toTime : ℚ)
  deriving DecidableEq, Repr

/-- `_query(query, timeframe, query_type)` with the clock at `now`: the window it
leaves on the provider, and the call it sends.  `self.to` is stored before
`self._from` is computed, so a window start the host cannot represent leaves the
new end with the old start.  The metrics branch passes float bounds where the
client takes integers and raises `ApiTypeError` before sending; any other
`query_type` reaches `return results` with `results` unbound. -/
def query (host : Host) (now : ℚ) (w : Window) (query timeframe queryType : Str) :
    Window × Except PyError QueryCall :=
  match convertToSeconds timeframe with
  | .error e => (w, .error e)
  | .ok timeframeInSeconds =>
      match host.datetimeOf now with
      | .error e => (w, .error e)
      | .ok _ =>
          match host.datetimeOf (now - timeframeInSeconds) with
          | .error e => ({ w with toTime := some now }, .error e)
          | .ok _ =>
              (⟨some now, some (now - timeframeInSeconds)⟩,
                if queryType = "logs".toList then
                  .ok (.listLogs query (now - timeframeInSeconds) now)
                else if queryType = "metrics".toList then .error .apiTypeError
                else .error .unboundLocalError)

/-- `expose()`: the window in milliseconds, `to` first; a bound never set raises. -/
def expose (w : Window) : Except PyError (Int × Int) :=
  match w.toTime, w.fromTime with
  | some toTime, some fromTime => .ok (truncate toTime * 1000, truncate fromTime * 1000)
  | _, _ => .error .attributeError

/-- The `self.to` a `_query` stores: the clock, once the timeframe converts and the
host can represent the clock. -/
def queryTo (host : Host) (now : ℚ) (timeframe : Str) : Option ℚ :=
  match convertToSeconds timeframe with
  | .ok _ => if (host.fromtimestamp now).isSome then some now else none
  | .error _ => none

/-- The `self._from` a `_query` stores: the start of the window, once the host can
represent both ends. -/
def queryFrom (host : Host) (now : ℚ) (timeframe : Str) : Option ℚ :=
  match convertToSeconds timeframe with
  | .ok n =>
      if (host.fromtimestamp now).isSome && (host.fromtimestamp (now - n)).isSome then
        some (now - n)
      else none
  | .error _ => none

/-! ## Timeframes -/

/-- A timeframe of decimal digits followed by a unit of the table. -/
theorem convertToSeconds_digits {ds : Str} {unit : Char} {k : Int} (hne : ds ≠ [])
    (hd : ∀ c ∈ ds, c.isDigit) (hlen : ds.length ≤ maxStrDigits)
    (hu : dictLookup secondsPerUnit unit = some k) :
    convertToSeconds (ds ++ [unit]) = .ok (digitsValue ds * k) := by
  simp only [convertToSeconds, List.dropLast_concat, List.getLast?_concat,
    parseInt_digits hne hd hlen, hu]

/-- `int()` takes a sign, so a count with a minus is a negative timeframe. -/
theorem convertToSeconds_neg_digits {ds : Str} {unit : Char} {k : Int} (hne : ds ≠ [])
    (hd : ∀ c ∈ ds, c.isDigit) (hlen : ds.length ≤ maxStrDigits)
    (hu : dictLookup secondsPerUnit unit = some k) :
    convertToSeconds (('-' :: ds) ++ [unit]) = .ok (-(digitsValue ds : Int) * k) := by
  simp only [convertToSeconds, List.dropLast_concat, List.getLast?_concat,
    parseInt_neg_digits hne hd hlen, hu]

/-- Every unit of the table is a positive number of seconds. -/
theorem secondsPerUnit_pos {unit : Char} {k : Int} (hu : dictLookup secondsPerUnit unit = some k) :
    0 < k := by
  have hmem := mem_of_dictLookup_eq_some hu
  simp only [secondsPerUnit, List.mem_cons, List.mem_singleton, Prod.mk.injEq,
    List.not_mem_nil, or_false] at hmem
  omega

/-! ## The window -/

section Window

variable {host : Host} {now : ℚ} {w : Window} {q tf qt : Str}

/-- The window `_query` leaves on the provider: each bound it stored, and the
provider's old bound otherwise. -/
theorem query_window :
    (query host now w q tf qt).1 =
      ⟨(queryTo host now tf).or w.toTime, (queryFrom host now tf).or w.fromTime⟩ := by
  unfold query queryTo queryFrom Host.datetimeOf
  cases convertToSeconds tf with
  | error e => rfl
  | ok n =>
      dsimp only
      cases host.fromtimestamp now <;> cases host.fromtimestamp (now - n) <;> rfl

/-- A timeframe that converts, at a clock whose window the host can represent: the
logs call asks for exactly the window `_query` stored. -/
theorem query_logs_call {n : Int} (h : convertToSeconds tf = .ok n)
    (hnow : (host.fromtimestamp now).isSome) (hfrom : (host.fromtimestamp (now - n)).isSome) :
    (query host now w q tf "logs".toList).1 = ⟨some now, some (now - n)⟩ ∧
      (query host now w q tf "logs".toList).2 = .ok (.listLogs q (now - n) now) := by
  obtain ⟨dt, hdt⟩ := Option.isSome_iff_exists.mp hnow
  obtain ⟨dt', hdt'⟩ := Option.isSome_iff_exists.mp hfrom
  simp [query, h, Host.datetimeOf, hdt, hdt']

/-- The metrics branch never returns: it raises whatever the timeframe and clock,
and once the window is stored in full the error is the client's `ApiTypeError`
on the float bounds, before anything is sent. -/
theorem query_metrics_raises :
    ∃ e, (query host now w q tf "metrics".toList).2 = .error e ∧
      ((queryFrom host now tf).isSome → e = .apiTypeError) := by
  unfold query queryFrom Host.datetimeOf
  cases convertToSeconds tf with
  | error e => exact ⟨e, rfl, fun h => absurd h (by simp)⟩
  | ok n =>
      dsimp only
      cases host.fromtimestamp now with
      | none => exact ⟨_, rfl, fun h => absurd h (by simp)⟩
      | some dt =>
          cases host.fromtimestamp (now - n) with
          | none => exact ⟨_, rfl, fun h => absurd h (by simp)⟩
          | some dt' => exact ⟨_, by simp, fun _ => rfl⟩

/-- `int(x)` is `x` on whole numbers. -/
@[simp] theorem truncate_intCast (n : Int) : truncate n = n := by
  simp [truncate]

/-- What `expose` reports after a `_query` that stored its window: the window,
truncated to whole seconds. -/
theorem expose_query {n : Int} (h : convertToSeconds tf = .ok n)
    (hnow : (host.fromtimestamp now).isSome) (hfrom : (host.fromtimestamp (now - n)).isSome) :
    expose (query host now w q tf qt).1 = .ok (truncate now * 1000, truncate (now - n) * 1000) := by
  rw [query_window, queryTo, queryFrom, h]
  simp only [hnow, hfrom, Bool.and_self, if_true]
  rfl

/-- With the clock on a whole second, `expose` reports the window itself. -/
theorem expose_query_of_whole {s n : Int} (h : convertToSeconds tf = .ok n)
    (hnow : (host.fromtimestamp s).isSome) (hfrom : (host.fromtimestamp ((s - n : Int) : ℚ)).isSome) :
    expose (query host s w q tf qt).1 = .ok (s * 1000, (s - n) * 1000) := by
  rw [Rat.intCast_sub] at hfrom
  rw [expose_query h hnow hfrom, ← Rat.intCast_sub, truncate_intCast, truncate_intCast]

/-- `_query` does not check the timeframe's sign: with `-<digits><unit>` it is
accepted, and the window it stores, which `expose()` reports, starts after it
ends, whatever the query type — for at most `maxStrDigits` digits, and a window
start the host can represent. -/
theorem expose_query_negative_timeframe {s : Int} {ds : Str} {unit : Char} {k : Int}
    (hne : ds ≠ []) (hd : ∀ c ∈ ds, c.isDigit) (hlen : ds.length ≤ maxStrDigits)
    (hu : dictLookup secondsPerUnit unit = some k) (hnow : (host.fromtimestamp s).isSome)
    (hfrom : (host.fromtimestamp ((s + digitsValue ds * k : Int) : ℚ)).isSome) :
    expose (query host s w q (('-' :: ds) ++ [unit]) qt).1 =
        .ok (s * 1000, (s + digitsValue ds * k) * 1000) ∧
      (0 < digitsValue ds → s * 1000 < (s + digitsValue ds * k) * 1000) := by
  have hsum : s - -(digitsValue ds : Int) * k = s + digitsValue ds * k := by
    rw [Int.neg_mul, Int.sub_neg]
  refine ⟨?_, fun hpos => ?_⟩
  · rw [expose_query_of_whole (convertToSeconds_neg_digits hne hd hlen hu) hnow (hsum ▸ hfrom), hsum]
  · have hk := secondsPerUnit_pos hu
    have : (0 : Int) < digitsValue ds * k := Int.mul_pos (by exact_mod_cast hpos) hk
    omega

/-- A timeframe of minus one hour. -/
theorem expose_query_negative_timeframe_hour :
    "1".toList ≠ [] ∧ (∀ c ∈ "1".toList, c.isDigit) ∧ "1".toList.length ≤ maxStrDigits ∧
      dictLookup secondsPerUnit 'h' = some 3600 ∧ (epochHost.fromtimestamp ((0 : Int) : ℚ)).isSome ∧
      (epochHost.fromtimestamp (((0 : Int) + digitsValue "1".toList * 3600 : Int) : ℚ)).isSome ∧
      expose (query epochHost ((0 : Int) : ℚ) Window.initial [] (('-' :: "1".toList) ++ ['h'])
          "logs".toList).1 =
          .ok ((0 : Int) * 1000, ((0 : Int) + digitsValue "1".toList * 3600) * 1000) ∧
        (0 < digitsValue "1".toList →
          (0 : Int) * 1000 < ((0 : Int) + digitsValue "1".toList * 3600) * 1000) :=
  ⟨by decide, by decide, by decide, rfl, rfl, rfl,
    expose_query_negative_timeframe (by decide) (by decide) (by decide)
      (rfl : dictLookup secondsPerUnit 'h' = some 3600) rfl rfl⟩

end Window

/-- At half past a second, a one-second logs query asks for the window
`[0.5, 1.5]`, and `expose` then reports `[0, 1000]` ms: it truncates both bounds
to whole seconds before scaling them. -/
theorem expose_query_truncated :
    (query epochHost (3 / 2) Window.initial [] "1s".toList "logs".toList).2 =
        .ok (.listLogs [] (1 / 2) (3 / 2)) ∧
      expose (query epochHost (3 / 2) Window.initial [] "1s".toList "logs".toList).1 = .ok (1000, 0) := by
  have h1 : convertToSeconds "1s".toList = .ok 1 :=
    convertToSeconds_digits (by decide : "1".toList ≠ []) (by decide) (by decide)
      (rfl : dictLookup secondsPerUnit 's' = some 1)
  have hnow : (epochHost.fromtimestamp (3 / 2)).isSome := rfl
  have hfrom : (epochHost.fromtimestamp (3 / 2 - ((1 : Int) : ℚ))).isSome := rfl
  have hhalf : (3 / 2 : ℚ) - ((1 : Int) : ℚ) = 1 / 2 := by with_unfolding_all decide
  refine ⟨(query_logs_call h1 hnow hfrom).2.trans ?_, (expose_query h1 hnow hfrom).trans ?_⟩
  · rw [hhalf]
  · simp only [Except.ok.injEq, Prod.mk.injEq]
    with_unfolding_all decide

end Keep.DatadogProvider
