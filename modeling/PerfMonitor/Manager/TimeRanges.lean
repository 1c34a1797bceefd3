import PerfMonitor.Manager.QueryService

set_option relaxedAutoImplicit false
set_option autoImplicit false

/-!
# Reversed time ranges

A historical query names its range by two protobuf timestamps, of the years 1 to 9999 and with
nanoseconds. `ConvertTimeRange` drops the nanoseconds of each and multiplies the seconds to a
64-bit count of nanoseconds, which reaches from 1677 to 2262 and is then all that
`ValidateTimeRange` compares.

## Main definitions

* `Monitor.QueryService.failure` — how the four calls fail.
* `Monitor.HistoryRequest.InOrder` — the ends of the range are placed in their order.

## Main results

* `Monitor.fromTimeT_lt_iff` — how converted seconds compare.
* `Monitor.QueryService.rejects_reversed_iff` — when exactly the reversed ranges are refused.
* `Monitor.QueryService.reversed_range_accepted` — a reversed range is accepted and another range
  is refused.
-/

namespace Monitor

/-! ## Timestamps -/

namespace Timestamp

/-- Which of the stretches of `2 ^ 64` nanoseconds the second is in. Stretch `0` is what a 64-bit
count holds. -/
def stretch (ts : Timestamp) : ℤ := (ts.seconds * second + 2 ^ 63) / 2 ^ 64

/-- How far the second is into its stretch. -/
def place (ts : Timestamp) : ℤ := (ts.seconds * second + 2 ^ 63) % 2 ^ 64

variable {a b : Timestamp}

lemma seconds_eq (ts : Timestamp) :
    ts.seconds * second = 2 ^ 64 * ts.stretch + ts.place - 2 ^ 63 := by
  unfold stretch place
  omega

lemma place_bounds (ts : Timestamp) : 0 ≤ ts.place ∧ ts.place < 2 ^ 64 := by
  unfold place
  omega

lemma seconds_lt_iff : a.seconds < b.seconds ↔
    a.stretch < b.stretch ∨ a.stretch = b.stretch ∧ a.place < b.place := by
  have hsecond : (0 : ℤ) < second := by decide
  have ha := place_bounds a
  have hb := place_bounds b
  rw [← Int.mul_lt_mul_right hsecond, seconds_eq, seconds_eq]
  omega

/-- Instants compare by the seconds first. -/
lemma Valid.instant_lt_iff (ha : a.Valid) (hb : b.Valid) : a.instant < b.instant ↔
    a.seconds < b.seconds ∨ a.seconds = b.seconds ∧ a.nanos < b.nanos := by
  have hanos := ha.nanos
  have hbnos := hb.nanos
  unfold instant second
  omega

end Timestamp

/-- What the conversion makes of a timestamp is its place. -/
lemma fromTimeT_seconds (ts : Timestamp) : fromTimeT ts.seconds = ts.place - 2 ^ 63 :=
  bmod_two_pow_sixtyFour (ts.seconds * second)

lemma fromTimeT_lt_iff (a b : Timestamp) :
    fromTimeT a.seconds < fromTimeT b.seconds ↔ a.place < b.place := by
  rw [fromTimeT_seconds, fromTimeT_seconds]
  exact sub_lt_sub_iff_right _

/-! ## Requests -/

/-- The ends of the range are placed in their order: within one stretch they are not reversed inside
one second, and in different stretches their places are in the order of the stretches. -/
def HistoryRequest.InOrder (req : HistoryRequest) : Prop :=
  (req.startTime.stretch = req.endTime.stretch ∧
      ¬ (req.startTime.seconds = req.endTime.seconds ∧ req.endTime.nanos < req.startTime.nanos)) ∨
    (req.startTime.stretch < req.endTime.stretch ∧ req.startTime.place ≤ req.endTime.place) ∨
    (req.endTime.stretch < req.startTime.stretch ∧ req.endTime.place < req.startTime.place)

/-- What the four calls answer to a time range they refuse. -/
def invalidTimeRange : RpcError :=
  ⟨.invalidArgument, "Invalid time range: start_time > end_time"⟩

/-- The failure in an answer. -/
def errorOf {α : Type} : Except RpcError α → Option RpcError
  | .error e => some e
  | .ok _ => none

/-- A request for a named server is refused for its range exactly when its converted ends are
reversed. -/
lemma errorOf_answerHistory {τ : Type} {req : HistoryRequest} (hname : req.serverName ≠ "")
    (run : TimeRange → ℤ → ℤ → List τ × Option ℤ) (fill : τ → τ) :
    errorOf (answerHistory (some true) req run fill) = some invalidTimeRange ↔
      fromTimeT req.endTime.seconds < fromTimeT req.startTime.seconds := by
  have hrange : (!validateTimeRange (convertTimeRange req)) = true ↔
      fromTimeT req.endTime.seconds < fromTimeT req.startTime.seconds := by
    rw [Bool.not_eq_true', validateTimeRange, decide_eq_false_iff_not, not_le]
    rfl
  unfold answerHistory validateHistoricalQueryBackend
  rw [← hrange]
  simp only [if_neg hname]
  split_ifs with h
  · exact iff_of_true rfl h
  · exact iff_of_false (by simp [errorOf]) h

namespace QueryService

/-- How a call fails, if it does. -/
def failure {γ δ : Type} [DecidableEq γ] [LinearOrder δ] (env : QueryEnv γ δ)
    (d : Database env.collate) (queryManager : Option Bool) (calls : QueryCalls)
    (orders : RowOrders) (req : HistoryRequest) : HistoryCall → Option RpcError
  | .performance => errorOf (queryPerformance env d queryManager calls orders.performance req)
  | .netDetail => errorOf (queryNetDetail env d queryManager calls orders.netDetail req)
  | .netProcessDetail =>
    errorOf (queryNetProcessDetail env d queryManager calls orders.netProcessDetail req)
  | .diskDetail => errorOf (queryDiskDetail env d queryManager calls orders.diskDetail req)

variable {γ δ : Type} [DecidableEq γ] [LinearOrder δ] {env : QueryEnv γ δ}
  {d : Database env.collate} {calls : QueryCalls} {orders : RowOrders} {req : HistoryRequest}
  {call : HistoryCall}

lemma failure_eq_invalidTimeRange_iff (hname : req.serverName ≠ "") :
    failure env d (some true) calls orders req call = some invalidTimeRange ↔
      fromTimeT req.endTime.seconds < fromTimeT req.startTime.seconds := by
  cases call with
  | performance | netDetail | netProcessDetail | diskDetail =>
    exact errorOf_answerHistory hname _ _

/-- **When exactly the reversed ranges are refused.** For every request with valid timestamps that
names a server, with the backend up, and every call: being refused for the time range is the same
as `start_time > end_time` exactly when the ends are placed in their order.

**Proof sketch.** A call refuses the range when the place of the end comes before that of the start.
Within one stretch this is the order of the seconds, in different stretches it must be the order of
the stretches. -/
theorem rejects_reversed_iff (env : QueryEnv γ δ) (d : Database env.collate) (calls : QueryCalls)
    (orders : RowOrders) (req : HistoryRequest) (hname : req.serverName ≠ "")
    (hstart : req.startTime.Valid) (hend : req.endTime.Valid) (call : HistoryCall) :
    (failure env d (some true) calls orders req call = some invalidTimeRange ↔
        req.endTime.instant < req.startTime.instant) ↔ req.InOrder := by
  have hseconds := Timestamp.seconds_lt_iff (a := req.endTime) (b := req.startTime)
  have hequal : req.startTime.seconds = req.endTime.seconds ↔
      req.startTime.stretch = req.endTime.stretch ∧ req.startTime.place = req.endTime.place := by
    have hconverse := Timestamp.seconds_lt_iff (a := req.startTime) (b := req.endTime)
    omega
  rw [failure_eq_invalidTimeRange_iff hname, fromTimeT_lt_iff, hend.instant_lt_iff hstart,
    hseconds, HistoryRequest.InOrder]
  omega

/-- A range reversed by a second is refused, and rightly. -/
theorem rejects_reversed_in_order :
    failure utcEnv twoInterfacesWritten.2.stored (some true) .succeed ⟨id, id, id, id⟩
        ⟨"h", { seconds := 1 }, { seconds := 0 }, 1, 10⟩ .performance = some invalidTimeRange ↔
      (Timestamp.mk 0 0).instant < (Timestamp.mk 1 0).instant :=
  (rejects_reversed_iff utcEnv _ .succeed ⟨id, id, id, id⟩
    ⟨"h", { seconds := 1 }, { seconds := 0 }, 1, 10⟩ (by decide) ⟨by decide, by decide⟩
    ⟨by decide, by decide⟩ .performance).mpr (Or.inl ⟨by decide, by decide⟩)

/-- A range that is reversed within one second is accepted, and a range from 2020 to 2300, which is
not reversed, is refused. -/
theorem reversed_range_accepted :
    let within : HistoryRequest := ⟨"h", ⟨0, 500000000⟩, ⟨0, 200000000⟩, 1, 10⟩
    let centuries : HistoryRequest := ⟨"h", ⟨1577836800, 0⟩, ⟨10413792000, 0⟩, 1, 10⟩
    ∀ call,
      within.endTime.instant < within.startTime.instant ∧
      failure utcEnv twoInterfacesWritten.2.stored (some true) .succeed ⟨id, id, id, id⟩ within
        call ≠ some invalidTimeRange ∧
      centuries.startTime.instant < centuries.endTime.instant ∧
      failure utcEnv twoInterfacesWritten.2.stored (some true) .succeed ⟨id, id, id, id⟩ centuries
        call = some invalidTimeRange := by
  intro within centuries call
  refine ⟨by decide, fun h => ?_, by decide, ?_⟩
  · have hlt := (failure_eq_invalidTimeRange_iff (show within.serverName ≠ "" by decide)).mp h
    exact absurd hlt (lt_irrefl _)
  · exact (failure_eq_invalidTimeRange_iff (show centuries.serverName ≠ "" by decide)).mpr
      (by decide)

end QueryService

end Monitor
