import PerfMonitor.Manager.QueryBestHost
import PerfMonitor.Manager.QueryPages
import PerfMonitor.Manager.TimeZones

set_option relaxedAutoImplicit false
set_option autoImplicit false

/-!
# The historical queries of the service

`QueryServiceImpl` (`manager/src/rpc/query_service.cpp`) refuses requests it can see to be wrong and
passes the others to the query manager. The latter reports no failures: a MySQL call that fails
leaves the records or the total at their defaults, and the answer is OK. The ends of the requested
range are converted to 64-bit counts of nanoseconds, which do not hold all that protobuf admits.

## Main definitions

* `Monitor.answerHistory` — what the four calls have in common.
* `Monitor.QueryService.queryPerformance`, `Monitor.QueryService.queryNetDetail`,
  `Monitor.QueryService.queryNetProcessDetail`, `Monitor.QueryService.queryDiskDetail` — the calls.
* `Monitor.HistoryRequest.matchingRows` — the rows that a request is about.
* `Monitor.HistoryRequest.ConvertsExactly` — the conversion leaves the range as it is.
* `Monitor.Truthful` — an answer is a failure, or the requested page and the number of rows.

## Main results

* `Monitor.HistoryRequest.convertsExactly_iff` — which ranges are left as they are.
* `Monitor.QueryService.truthful_iff` — when the answers are truthful.
-/

namespace Monitor

/-! ## Requests and answers -/

/-- `google.protobuf.Timestamp`. -/
structure Timestamp where
  seconds : ℤ
  nanos : ℤ := 0
  deriving DecidableEq, Repr

namespace Timestamp

/-- The instant in nanoseconds. -/
def instant (ts : Timestamp) : ℤ := ts.seconds * second + ts.nanos

/-- A valid `google.protobuf.Timestamp`: the years 1 to 9999, in nanoseconds. -/
structure Valid (ts : Timestamp) : Prop where
  seconds : -62135596800 ≤ ts.seconds ∧ ts.seconds ≤ 253402300799
  nanos : 0 ≤ ts.nanos ∧ ts.nanos ≤ 999999999

/-- The start of the second that the instant is in. -/
def wholeSecond (ts : Timestamp) : ℤ := ts.instant / second * second

lemma Valid.wholeSecond_eq {ts : Timestamp} (h : ts.Valid) :
    ts.wholeSecond = ts.seconds * second := by
  have hnanos := h.nanos
  unfold wholeSecond instant second
  omega

end Timestamp

/-- `QueryPerformanceRequest` and `QueryDetailRequest`, with their time range and pagination. -/
structure HistoryRequest where
  serverName : String
  startTime : Timestamp
  endTime : Timestamp
  page : ℤ
  pageSize : ℤ
  deriving DecidableEq, Repr

/-- The response of a historical query. -/
structure HistoryResponse (τ : Type) where
  records : List τ
  totalCount : ℤ
  page : ℤ
  pageSize : ℤ
  deriving DecidableEq, Repr

/-- `ConvertTimeRange`. -/
def convertTimeRange (req : HistoryRequest) : TimeRange where
  startTime := fromTimeT req.startTime.seconds
  endTime := fromTimeT req.endTime.seconds

/-- `SetTimestamp`: whole seconds. -/
def setTimestamp (tp : Time) : Time := tp.tdiv second * second

/-- `FillPerformanceRecord`. -/
def fillPerformanceRecord (rec : PerformanceRecord) : PerformanceRecord :=
  { rec with timestamp := setTimestamp rec.timestamp }

def fillNetDetailRecord (rec : NetDetailRecord) : NetDetailRecord :=
  { rec with timestamp := setTimestamp rec.timestamp }

def fillNetProcessDetailRecord (rec : NetProcessDetailRecord) : NetProcessDetailRecord :=
  { rec with timestamp := setTimestamp rec.timestamp }

def fillDiskDetailRecord (rec : DiskDetailRecord) : DiskDetailRecord :=
  { rec with timestamp := setTimestamp rec.timestamp }

/-- `ValidateHistoricalQueryBackend`. The query manager may be missing, and it may not be
initialized. -/
def validateHistoricalQueryBackend (queryManager : Option Bool) : Option RpcError :=
  match queryManager with
  | none => some ⟨.unavailable, "Historical query backend not initialized"⟩
  | some false => some ⟨.unavailable, "Historical query backend is unavailable"⟩
  | some true => none

/-- What the calls have in common; `run` is the method of the query manager, and `fill` copies a
record into the response. -/
def answerHistory {τ : Type} (queryManager : Option Bool) (req : HistoryRequest)
    (run : TimeRange → ℤ → ℤ → List τ × Option ℤ) (fill : τ → τ) :
    Except RpcError (HistoryResponse τ) :=
  match validateHistoricalQueryBackend queryManager with
  | some e => .error e
  | none =>
    if req.serverName = "" then .error ⟨.invalidArgument, "Missing server_name"⟩
    else if !validateTimeRange (convertTimeRange req) then
      .error ⟨.invalidArgument, "Invalid time range: start_time > end_time"⟩
    else
      let page := clampPage req.page
      let pageSize := clampPageSize req.pageSize
      let result := run (convertTimeRange req) page pageSize
      .ok
        { records := result.1.map fill
          totalCount := result.2.getD 0
          page := page
          pageSize := pageSize }

namespace QueryService

variable {γ δ : Type} [DecidableEq γ] [LinearOrder δ] (env : QueryEnv γ δ)
  (d : Database env.collate) (queryManager : Option Bool) (calls : QueryCalls)

/-- `QueryServiceImpl::QueryPerformance`. -/
def queryPerformance (orderBy : List ServerPerformance → List ServerPerformance)
    (req : HistoryRequest) : Except RpcError (HistoryResponse PerformanceRecord) :=
  answerHistory queryManager req (fun range page pageSize =>
    Monitor.queryPerformance env d (queryManager == some true) calls req.serverName range orderBy
      page pageSize) fillPerformanceRecord

/-- `QueryServiceImpl::QueryNetDetail`. -/
def queryNetDetail (orderBy : List ServerNetDetail → List ServerNetDetail)
    (req : HistoryRequest) : Except RpcError (HistoryResponse NetDetailRecord) :=
  answerHistory queryManager req (fun range page pageSize =>
    Monitor.queryNetDetail env d (queryManager == some true) calls req.serverName range orderBy
      page pageSize) fillNetDetailRecord

/-- `QueryServiceImpl::QueryNetProcessDetail`. -/
def queryNetProcessDetail
    (orderBy : List ServerNetProcessDetail → List ServerNetProcessDetail)
    (req : HistoryRequest) : Except RpcError (HistoryResponse NetProcessDetailRecord) :=
  answerHistory queryManager req (fun range page pageSize =>
    Monitor.queryNetProcessDetail env d (queryManager == some true) calls req.serverName range
      orderBy page pageSize) fillNetProcessDetailRecord

/-- `QueryServiceImpl::QueryDiskDetail`. -/
def queryDiskDetail (orderBy : List ServerDiskDetail → List ServerDiskDetail)
    (req : HistoryRequest) : Except RpcError (HistoryResponse DiskDetailRecord) :=
  answerHistory queryManager req (fun range page pageSize =>
    Monitor.queryDiskDetail env d (queryManager == some true) calls req.serverName range orderBy
      page pageSize) fillDiskDetailRecord

end QueryService

/-- The historical queries that the service offers. -/
inductive HistoryCall where
  | performance
  | netDetail
  | netProcessDetail
  | diskDetail
  deriving DecidableEq, Repr

/-- The orders in which MySQL gives the rows of the four tables. -/
structure RowOrders where
  performance : List ServerPerformance → List ServerPerformance
  netDetail : List ServerNetDetail → List ServerNetDetail
  netProcessDetail : List ServerNetProcessDetail → List ServerNetProcessDetail
  diskDetail : List ServerDiskDetail → List ServerDiskDetail

/-! ## The rows that a request is about -/

/-- The requested range, in whole seconds like the timestamps that are stored. -/
def HistoryRequest.requestedRange (req : HistoryRequest) : TimeRange where
  startTime := req.startTime.wholeSecond
  endTime := req.endTime.wholeSecond

/-- The rows that a request is about: those of the server with the local time of a second from that
of the start to that of the end. There are none if the end comes before the start. -/
def HistoryRequest.matchingRows {γ δ ρ τ κ : Type} [DecidableEq γ] [LinearOrder δ]
    (req : HistoryRequest) (env : QueryEnv γ δ) (spec : QuerySpec ρ τ κ) (rows : List ρ) :
    List ρ :=
  if req.startTime.instant ≤ req.endTime.instant then
    rows.filter (env.selects spec req.serverName req.requestedRange)
  else []

/-- The conversion leaves the range as it is: the ends are the requested ones, and leaving out the
nanoseconds does not turn a reversed range into one that is accepted. -/
structure HistoryRequest.ConvertsExactly (req : HistoryRequest) : Prop where
  range_eq : convertTimeRange req = req.requestedRange
  in_order : validateTimeRange (convertTimeRange req) = true →
    req.startTime.instant ≤ req.endTime.instant

/-! ## Truthful answers -/

/-- The number of rows in front of the requested page. -/
def HistoryRequest.offset (req : HistoryRequest) : ℤ :=
  (clampPage req.page - 1) * clampPageSize req.pageSize

/-- The requested page of some rows. -/
def HistoryRequest.pageOf {ρ : Type} (req : HistoryRequest) (rows : List ρ) : List ρ :=
  (rows.drop req.offset.toNat).take (clampPageSize req.pageSize).toNat

/-- An answer is a failure, or it has the records of the requested page of the matching rows, in
some order MySQL may give them, and their number. -/
def Truthful {ρ τ κ : Type} [LinearOrder κ] (key : ρ → κ) (shown : ρ → τ) (matching : List ρ)
    (req : HistoryRequest) (answer : Except RpcError (HistoryResponse τ)) : Prop :=
  match answer with
  | .error _ => True
  | .ok response => ∃ order, ResultOrder key matching order ∧
      response.records = (req.pageOf order).map shown ∧ response.totalCount = matching.length

/-- The service refuses the request. -/
def HistoryRequest.Refused (req : HistoryRequest) (queryManager : Option Bool) : Prop :=
  queryManager ≠ some true ∨ req.serverName = "" ∨
    validateTimeRange (convertTimeRange req) = false

/-- What the offset is as an `int` leads to the requested page of `total` rows: it is not negative,
and it is the offset unless both are behind the last row. -/
def HistoryRequest.OffsetHarmless (req : HistoryRequest) (total : ℕ) : Prop :=
  0 ≤ toInt req.offset ∧ (toInt req.offset = req.offset ∨ (total : ℤ) ≤ toInt req.offset)

/-- The request is refused, or nothing matches, or no call fails and the numbers fit. -/
def HistoryRequest.Answerable (req : HistoryRequest) (queryManager : Option Bool)
    (calls : QueryCalls) (total : ℕ) : Prop :=
  req.Refused queryManager ∨ total = 0 ∨
    (calls = .succeed ∧ total < 2 ^ 31 ∧ req.OffsetHarmless total)

/-! ## What a call returns -/

section Answer

variable {queryManager : Option Bool} {calls : QueryCalls} {req : HistoryRequest} {total : ℕ}

lemma one_le_clampPage (page : ℤ) : 1 ≤ clampPage page := by
  unfold clampPage
  split_ifs <;> omega

lemma one_le_clampPageSize (pageSize : ℤ) : 1 ≤ clampPageSize pageSize := by
  unfold clampPageSize
  split_ifs <;> omega

/-- The query manager finds the page raised already. -/
lemma clampPage_clampPage (page : ℤ) : clampPage (clampPage page) = clampPage page :=
  if_neg (by have := one_le_clampPage page; omega)

lemma clampPageSize_clampPageSize (pageSize : ℤ) :
    clampPageSize (clampPageSize pageSize) = clampPageSize pageSize :=
  if_neg (by have := one_le_clampPageSize pageSize; omega)

lemma offset_nonneg (req : HistoryRequest) : 0 ≤ req.offset := by
  have hpage := one_le_clampPage req.page
  have hsize := one_le_clampPageSize req.pageSize
  exact Int.mul_nonneg (by omega) (by omega)

/-- A number fits into an `int` exactly when it comes out unchanged. -/
lemma toInt_natCast_eq_iff {n : ℕ} : toInt n = n ↔ n < 2 ^ 31 := by
  refine ⟨fun h => ?_, fun h => toInt_of_nonneg (by omega) (by exact_mod_cast h)⟩
  have hlt := Int.bmod_lt (x := (n : ℤ)) (m := 2 ^ 32) (by norm_num)
  unfold toInt at h
  rw [h] at hlt
  omega

/-- An offset that does not fit, but does not come out negative, is far off. -/
lemma toInt_offset_cases (h0 : 0 ≤ toInt req.offset) :
    toInt req.offset = req.offset ∨ toInt req.offset + 2 ^ 32 ≤ req.offset := by
  have hoffset := offset_nonneg req
  have hmod : toInt req.offset % (2 ^ 32 : ℕ) = req.offset % (2 ^ 32 : ℕ) := Int.bmod_emod
  have hlt := Int.bmod_lt (x := req.offset) (m := 2 ^ 32) (by norm_num)
  unfold toInt at *
  omega

/-- The number of rows reported is right exactly when there are none, or both calls for it succeed
and it fits. -/
lemma fetchFoundRows_eq_iff : fetchFoundRows calls total = total ↔
    total = 0 ∨ (calls.foundRows = true ∧ calls.storeFoundRows = true ∧ total < 2 ^ 31) := by
  by_cases hboth : calls.foundRows = true ∧ calls.storeFoundRows = true
  · have hfetch : fetchFoundRows calls total = toInt total := by simp [fetchFoundRows, hboth]
    rw [hfetch, toInt_natCast_eq_iff]
    constructor
    · exact fun h => Or.inr ⟨hboth.1, hboth.2, h⟩
    · rintro (rfl | ⟨-, -, h⟩)
      · exact Nat.two_pow_pos 31
      · exact h
  · have hfetch : fetchFoundRows calls total = 0 := by
      unfold fetchFoundRows
      split_ifs with hquery hstore
      · rfl
      · rfl
      · exact absurd ⟨by simpa using hquery, by simpa using hstore⟩ hboth
    rw [hfetch]
    constructor
    · exact fun h => Or.inl (by omega)
    · rintro (rfl | ⟨hquery, hstore, -⟩)
      · rfl
      · exact absurd ⟨hquery, hstore⟩ hboth

/-- What the query manager returns for a request that is not refused. -/
lemma runQuery_request {ρ τ : Type} (hrange : validateTimeRange (convertTimeRange req) = true)
    (sorted : List ρ) (record : ρ → τ) :
    runQuery true calls (convertTimeRange req) (clampPage req.page) (clampPageSize req.pageSize)
        sorted record =
      if calls.query = true ∧ calls.storeResult = true ∧ 0 ≤ toInt req.offset then
        (((sorted.drop (toInt req.offset).toNat).take (clampPageSize req.pageSize).toNat).map
          record, some (fetchFoundRows calls sorted.length))
      else ([], none) := by
  simp only [runQuery, hrange, clampPage_clampPage, clampPageSize_clampPageSize,
    HistoryRequest.offset]
  cases calls.query <;> cases calls.storeResult <;> simp
  by_cases hneg : toInt ((clampPage req.page - 1) * clampPageSize req.pageSize) < 0
  · rw [if_pos hneg, if_neg (not_le.mpr hneg)]
  · rw [if_neg hneg, if_pos (not_lt.mp hneg)]

variable (queryManager req) in
/-- A request is answered or refused. -/
lemma answerHistory_eq {τ : Type} (run : TimeRange → ℤ → ℤ → List τ × Option ℤ) (fill : τ → τ) :
    (req.Refused queryManager ∧ ∃ e, answerHistory queryManager req run fill = .error e) ∨
      (¬ req.Refused queryManager ∧ queryManager = some true ∧
        validateTimeRange (convertTimeRange req) = true ∧
        answerHistory queryManager req run fill = .ok
          { records := (run (convertTimeRange req) (clampPage req.page)
              (clampPageSize req.pageSize)).1.map fill
            totalCount := (run (convertTimeRange req) (clampPage req.page)
              (clampPageSize req.pageSize)).2.getD 0
            page := clampPage req.page
            pageSize := clampPageSize req.pageSize }) := by
  unfold HistoryRequest.Refused answerHistory
  rcases queryManager with _ | _ | _
  · exact Or.inl ⟨Or.inl (by simp), _, rfl⟩
  · exact Or.inl ⟨Or.inl (by simp), _, rfl⟩
  · simp only [validateHistoricalQueryBackend]
    by_cases hname : req.serverName = ""
    · rw [if_pos hname]
      exact Or.inl ⟨Or.inr (Or.inl hname), _, rfl⟩
    · rw [if_neg hname]
      cases hvalid : validateTimeRange (convertTimeRange req) with
      | false =>
        exact Or.inl ⟨Or.inr (Or.inr rfl), _, rfl⟩
      | true =>
        refine Or.inr ⟨?_, trivial, rfl, rfl⟩
        rintro (hnone | hempty | hinvalid)
        · exact hnone rfl
        · exact hname hempty
        · exact absurd hinvalid (by decide)

/-- The page that comes back when no call fails is the requested one exactly when the offset is
harmless.

**Proof sketch.** An offset that fits is the requested one. One that does not is either negative,
or by at least `2 ^ 32` too small: the requested page is then behind the last row, and so must be
the one that comes back. -/
lemma pageOf_eq_iff {ρ τ κ : Type} [LinearOrder κ] {key : ρ → κ} {shown : ρ → τ}
    {matching sorted : List ρ} (hsorted : ResultOrder key matching sorted)
    (hfits : matching.length < 2 ^ 31) (h0 : 0 ≤ toInt req.offset) :
    (∃ order, ResultOrder key matching order ∧
        ((sorted.drop (toInt req.offset).toNat).take (clampPageSize req.pageSize).toNat).map shown =
          (req.pageOf order).map shown) ↔ req.OffsetHarmless matching.length := by
  have hlength := hsorted.1.length_eq
  have hsize := one_le_clampPageSize req.pageSize
  rcases toInt_offset_cases h0 with heq | hfar
  · rw [heq]
    exact ⟨fun _ => ⟨h0, Or.inl heq⟩, fun _ => ⟨sorted, hsorted, rfl⟩⟩
  · -- nothing is as far behind as the requested page
    have hbehind : ∀ order : List ρ, order.length = matching.length → req.pageOf order = [] := by
      intro order horder
      rw [HistoryRequest.pageOf, List.drop_eq_nil_of_le (by omega), List.take_nil]
    constructor
    · rintro ⟨order, horder, hpages⟩
      rw [hbehind order horder.1.length_eq, List.map_nil, List.map_eq_nil_iff,
        List.take_eq_nil_iff, List.drop_eq_nil_iff] at hpages
      refine ⟨h0, Or.inr ?_⟩
      omega
    · rintro ⟨-, heq | hle⟩
      · omega
      · refine ⟨sorted, hsorted, ?_⟩
        rw [hbehind sorted hlength, List.drop_eq_nil_of_le (by omega), List.take_nil]

/-- An answer that is not refused is truthful when nothing matches, or when no call fails and the
numbers fit.

**Proof sketch.** If the records are not read, the total stays `0`, and so must be the number of
matching rows. If they are, either the total is right because nothing matches, or both calls for
it succeed and it fits, and then the page decides. -/
lemma truthful_runQuery_iff {ρ τ κ : Type} [LinearOrder κ] {key : ρ → κ}
    {matching sorted : List ρ} (hsorted : ResultOrder key matching sorted)
    (hrange : validateTimeRange (convertTimeRange req) = true) (record : ρ → τ) (fill : τ → τ) :
    let result := runQuery true calls (convertTimeRange req) (clampPage req.page)
      (clampPageSize req.pageSize) sorted record
    Truthful key (fill ∘ record) matching req
        (.ok ⟨result.1.map fill, result.2.getD 0, clampPage req.page,
          clampPageSize req.pageSize⟩) ↔
      matching.length = 0 ∨
        (calls = .succeed ∧ matching.length < 2 ^ 31 ∧ req.OffsetHarmless matching.length) := by
  intro result
  have hlength := hsorted.1.length_eq
  -- with no rows at all, any order and any page will do
  have hempty : matching.length = 0 → matching = [] ∧ sorted = [] := fun h =>
    ⟨List.length_eq_zero_iff.mp h, List.length_eq_zero_iff.mp (hlength.trans h)⟩
  by_cases hread : calls.query = true ∧ calls.storeResult = true ∧ 0 ≤ toInt req.offset
  · have hresult : result = _ := (runQuery_request hrange sorted record).trans (if_pos hread)
    have hcount : Truthful key (fill ∘ record) matching req
        (.ok ⟨result.1.map fill, result.2.getD 0, clampPage req.page,
          clampPageSize req.pageSize⟩) ↔
        (∃ order, ResultOrder key matching order ∧
          ((sorted.drop (toInt req.offset).toNat).take (clampPageSize req.pageSize).toNat).map
            (fill ∘ record) = (req.pageOf order).map (fill ∘ record)) ∧
          fetchFoundRows calls matching.length = matching.length := by
      rw [hresult, ← exists_and_right]
      simp only [Truthful, List.map_map, Option.getD_some, hlength, and_assoc]
    rw [hcount, fetchFoundRows_eq_iff]
    constructor
    · rintro ⟨hpage, hzero | ⟨hfound, hstore, hfits⟩⟩
      · exact Or.inl hzero
      · refine Or.inr ⟨?_, hfits, (pageOf_eq_iff hsorted hfits hread.2.2).mp hpage⟩
        obtain ⟨query, storeResult, foundRows, storeFoundRows⟩ := calls
        obtain ⟨rfl, rfl, -⟩ := hread
        obtain ⟨rfl, rfl⟩ : foundRows = true ∧ storeFoundRows = true := ⟨hfound, hstore⟩
        rfl
    · rintro (hzero | ⟨rfl, hfits, hoffset⟩)
      · obtain ⟨rfl, rfl⟩ := hempty hzero
        exact ⟨⟨[], hsorted, by simp [HistoryRequest.pageOf]⟩, Or.inl rfl⟩
      · exact ⟨(pageOf_eq_iff hsorted hfits hread.2.2).mpr hoffset, Or.inr ⟨rfl, rfl, hfits⟩⟩
  · have hresult : result = ([], none) :=
      (runQuery_request hrange sorted record).trans (if_neg hread)
    rw [hresult]
    constructor
    · rintro ⟨order, -, -, hzero⟩
      have hzero' : (0 : ℤ) = matching.length := hzero
      exact Or.inl (by omega)
    · rintro (hzero | ⟨rfl, -, hoffset⟩)
      · obtain ⟨rfl, rfl⟩ := hempty hzero
        exact ⟨[], hsorted, by simp [HistoryRequest.pageOf], rfl⟩
      · exact absurd ⟨rfl, rfl, hoffset.1⟩ hread

/-- Of a range that is accepted and converts exactly, the query selects the rows that match. -/
lemma matchingRows_eq_filter {γ δ ρ τ κ : Type} [DecidableEq γ] [LinearOrder δ]
    (env : QueryEnv γ δ) (spec : QuerySpec ρ τ κ) (rows : List ρ) (hexact : req.ConvertsExactly)
    (hrange : validateTimeRange (convertTimeRange req) = true) :
    req.matchingRows env spec rows =
      rows.filter (env.selects spec req.serverName (convertTimeRange req)) := by
  rw [HistoryRequest.matchingRows, if_pos (hexact.in_order hrange), hexact.range_eq]

/-- Whatever calls fail, the answer to a request that is refused or converts exactly is truthful
exactly when the request is answerable. -/
lemma answerHistory_truthful_iff {γ δ ρ τ κ : Type} [DecidableEq γ] [LinearOrder δ]
    [LinearOrder κ] {env : QueryEnv γ δ} (spec : QuerySpec ρ τ κ) (rows : List ρ)
    {orderBy : List ρ → List ρ} (hsort : ∀ l, ResultOrder spec.key l (orderBy l)) (fill : τ → τ)
    (hreq : req.Refused queryManager ∨ req.ConvertsExactly) :
    Truthful spec.key (fill ∘ spec.record) (req.matchingRows env spec rows) req
        (answerHistory queryManager req (fun range page pageSize =>
          runQuery (queryManager == some true) calls range page pageSize
            (orderBy (rows.filter (env.selects spec req.serverName range))) spec.record) fill) ↔
      req.Answerable queryManager calls (req.matchingRows env spec rows).length := by
  rcases answerHistory_eq queryManager req (fun range page pageSize =>
    runQuery (queryManager == some true) calls range page pageSize
      (orderBy (rows.filter (env.selects spec req.serverName range))) spec.record) fill with
    ⟨hrefused, e, herror⟩ | ⟨hrefused, hmanager, hrange, hok⟩
  · rw [herror]
    exact ⟨fun _ => Or.inl hrefused, fun _ => trivial⟩
  · have hrows := matchingRows_eq_filter env spec rows
      (hreq.resolve_left hrefused) hrange
    subst hmanager
    rw [hok, hrows]
    exact (truthful_runQuery_iff (hsort _) hrange spec.record fill).trans
      (or_iff_right hrefused).symm

/-- An answer that is made from another number of rows than match is not truthful. -/
lemma answerHistory_not_truthful {γ δ ρ τ κ : Type} [DecidableEq γ] [LinearOrder δ]
    [LinearOrder κ] {env : QueryEnv γ δ} (spec : QuerySpec ρ τ κ) {row : ρ}
    {orderBy : List ρ → List ρ} (hsort : ∀ l, ResultOrder spec.key l (orderBy l)) (fill : τ → τ)
    (haccepted : ¬ req.Refused queryManager) (hoffset : 0 ≤ toInt req.offset)
    (hne : ([row].filter (env.selects spec req.serverName (convertTimeRange req))).length ≠
      (req.matchingRows env spec [row]).length) :
    ¬ Truthful spec.key (fill ∘ spec.record) (req.matchingRows env spec [row]) req
      (answerHistory queryManager req (fun range page pageSize =>
        runQuery (queryManager == some true) .succeed range page pageSize
          (orderBy ([row].filter (env.selects spec req.serverName range))) spec.record) fill) := by
  rcases answerHistory_eq queryManager req (fun range page pageSize =>
    runQuery (queryManager == some true) .succeed range page pageSize
      (orderBy ([row].filter (env.selects spec req.serverName range))) spec.record) fill with
    ⟨hrefused, -⟩ | ⟨-, hmanager, hrange, hok⟩
  · exact absurd hrefused haccepted
  · subst hmanager
    have hread : (QueryCalls.succeed.query = true ∧ QueryCalls.succeed.storeResult = true ∧
        0 ≤ toInt req.offset) := ⟨rfl, rfl, hoffset⟩
    rw [hok]
    simp only [beq_self_eq_true, runQuery_request hrange]
    rw [if_pos hread]
    rintro ⟨order, -, -, hcount⟩
    set selected := [row].filter (env.selects spec req.serverName (convertTimeRange req))
    have hlength : (orderBy selected).length = selected.length := (hsort _).1.length_eq
    have hone : selected.length ≤ 1 := List.length_filter_le _ _
    have hfits : selected.length < 2 ^ 31 := hone.trans_lt (by norm_num)
    have hfound : fetchFoundRows .succeed selected.length = selected.length :=
      fetchFoundRows_eq_iff.mpr (Or.inr ⟨rfl, rfl, hfits⟩)
    simp only [Option.getD_some, hlength, hfound] at hcount
    exact hne (by exact_mod_cast hcount)

end Answer

/-! ## Ranges that do not convert exactly -/

lemma bmod_two_pow_sixtyFour (n : ℤ) : n.bmod (2 ^ 64) = (n + 2 ^ 63) % 2 ^ 64 - 2 ^ 63 := by
  rw [Int.bmod_def]
  push_cast
  split_ifs <;> omega

lemma bmod_two_pow_sixtyFour_eq_self {n : ℤ} :
    n.bmod (2 ^ 64) = n ↔ -2 ^ 63 ≤ n ∧ n < 2 ^ 63 := by
  rw [bmod_two_pow_sixtyFour]
  omega

/-- Seconds convert exactly when their nanoseconds fit into 64 bits. -/
lemma fromTimeT_eq_iff {t : ℤ} :
    fromTimeT t = t * second ↔ -2 ^ 63 ≤ t * second ∧ t * second < 2 ^ 63 :=
  bmod_two_pow_sixtyFour_eq_self

/-- **Which ranges convert exactly**: those with both ends between the years 1677 and 2262, unless
they are reversed within one second. -/
lemma HistoryRequest.convertsExactly_iff {req : HistoryRequest} (hstart : req.startTime.Valid)
    (hend : req.endTime.Valid) : req.ConvertsExactly ↔
      (-2 ^ 63 ≤ req.startTime.seconds * second ∧ req.startTime.seconds * second < 2 ^ 63) ∧
      (-2 ^ 63 ≤ req.endTime.seconds * second ∧ req.endTime.seconds * second < 2 ^ 63) ∧
      ¬ (req.startTime.seconds = req.endTime.seconds ∧
        req.endTime.nanos < req.startTime.nanos) := by
  have hrange : convertTimeRange req = req.requestedRange ↔
      fromTimeT req.startTime.seconds = req.startTime.seconds * second ∧
        fromTimeT req.endTime.seconds = req.endTime.seconds * second := by
    rw [convertTimeRange, HistoryRequest.requestedRange, hstart.wholeSecond_eq,
      hend.wholeSecond_eq, TimeRange.mk.injEq]
  have hstartNanos := hstart.nanos
  have hendNanos := hend.nanos
  rw [← fromTimeT_eq_iff, ← fromTimeT_eq_iff]
  constructor
  · intro h
    obtain ⟨hs, he⟩ := hrange.mp h.range_eq
    refine ⟨hs, he, fun ⟨hseconds, hnanos⟩ => ?_⟩
    have hvalid : validateTimeRange (convertTimeRange req) = true := by
      rw [validateTimeRange, decide_eq_true_eq, convertTimeRange, hseconds]
    have hle := h.in_order hvalid
    unfold Timestamp.instant at hle
    rw [hseconds] at hle
    omega
  · rintro ⟨hs, he, hnot⟩
    refine ⟨hrange.mpr ⟨hs, he⟩, fun hvalid => ?_⟩
    rw [validateTimeRange, decide_eq_true_eq, convertTimeRange, hs, he] at hvalid
    replace hvalid : req.startTime.seconds * second ≤ req.endTime.seconds * second := hvalid
    unfold Timestamp.instant second at *
    omega

section Inexact

variable {γ δ : Type} [DecidableEq γ] [LinearOrder δ] (env : QueryEnv γ δ)

/-- The `DATETIME` value of the local time at a second. -/
def QueryEnv.stamp (t : ℤ) : δ := env.datetime (formatTimestamp env.localtime (t * second))

/-- The clock of the wall is not put back between any of some seconds. -/
def QueryEnv.ClockForward (ts : List ℤ) : Prop :=
  ∀ s ∈ ts, ∀ t ∈ ts, s < t → env.stamp s < env.stamp t

variable {env}

omit [DecidableEq γ] [LinearOrder δ] in
/-- A time is formatted by its second. -/
lemma datetime_formatTimestamp (tp : Time) :
    env.datetime (formatTimestamp env.localtime tp) = env.stamp (tp.tdiv second) := by
  have hsecond : (tp.tdiv second * second).tdiv second = tp.tdiv second :=
    Int.mul_tdiv_cancel _ (by decide)
  unfold QueryEnv.stamp formatTimestamp
  rw [hsecond]

omit [DecidableEq γ] in
lemma QueryEnv.ClockForward.le_iff {ts : List ℤ} (h : env.ClockForward ts) {s t : ℤ} (hs : s ∈ ts)
    (ht : t ∈ ts) : env.stamp s ≤ env.stamp t ↔ s ≤ t := by
  refine ⟨fun hle => ?_, fun hle => ?_⟩
  · by_contra hlt
    exact absurd (h t ht s hs (not_le.mp hlt)) (not_lt.mpr hle)
  · rcases hle.eq_or_lt with rfl | hlt
    · exact le_rfl
    · exact (h s hs t ht hlt).le

/-- The seconds of the ends of a request, and those of its converted ends. -/
def HistoryRequest.endSeconds (req : HistoryRequest) : List ℤ :=
  [req.startTime.seconds, req.endTime.seconds, (convertTimeRange req).startTime.tdiv second,
    (convertTimeRange req).endTime.tdiv second]

variable {req : HistoryRequest}

/-- Seconds that do not convert exactly are put into another second. -/
lemma fromTimeT_tdiv_ne {t : ℤ} (h : fromTimeT t ≠ t * second) :
    (fromTimeT t).tdiv second ≠ t := by
  have hnot := mt fromTimeT_eq_iff.mpr h
  intro heq
  rw [fromTimeT, bmod_two_pow_sixtyFour] at heq
  have hdiv := Int.tdiv_mul_add_tmod ((t * second + 2 ^ 63) % 2 ^ 64 - 2 ^ 63) second
  have hlt := Int.tmod_lt_of_pos ((t * second + 2 ^ 63) % 2 ^ 64 - 2 ^ 63)
    (show (0 : ℤ) < second by decide)
  have hgt := Int.lt_tmod_of_pos ((t * second + 2 ^ 63) % 2 ^ 64 - 2 ^ 63)
    (show (0 : ℤ) < second by decide)
  rw [heq] at hdiv
  unfold second at *
  omega

/-- **A range that does not convert exactly lets in or leaves out some second** at one of the ends
that play a part.

**Proof sketch.** If the converted range starts later than the requested one, the requested start is
left out, or nothing is requested; if it starts earlier, its own start is let in. With the same
starts the ends decide, and with the same ends as well nothing is requested. -/
lemma exists_second_told_apart (hstart : req.startTime.Valid) (hend : req.endTime.Valid)
    (hrange : validateTimeRange (convertTimeRange req) = true) (hinexact : ¬ req.ConvertsExactly) :
    ∃ t ∈ req.endSeconds,
      ((convertTimeRange req).startTime.tdiv second ≤ t ∧
          t ≤ (convertTimeRange req).endTime.tdiv second) ↔
        ¬ (req.startTime.instant ≤ req.endTime.instant ∧
          req.startTime.seconds ≤ t ∧ t ≤ req.endTime.seconds) := by
  have hstartNanos := hstart.nanos
  have hendNanos := hend.nanos
  have hle : (convertTimeRange req).startTime.tdiv second ≤
      (convertTimeRange req).endTime.tdiv second :=
    Int.tdiv_le_tdiv (by decide) (of_decide_eq_true hrange)
  have hdiffer : (convertTimeRange req).startTime.tdiv second ≠ req.startTime.seconds ∨
      (convertTimeRange req).endTime.tdiv second ≠ req.endTime.seconds ∨
        req.endTime.instant < req.startTime.instant := by
    by_contra hnone
    rw [not_or, not_or, not_not, not_not, not_lt] at hnone
    obtain ⟨hs, he, horder⟩ := hnone
    refine hinexact ⟨?_, fun _ => horder⟩
    rw [convertTimeRange, HistoryRequest.requestedRange, hstart.wholeSecond_eq,
      hend.wholeSecond_eq, TimeRange.mk.injEq]
    exact ⟨not_not.mp (mt fromTimeT_tdiv_ne (not_not.mpr hs)),
      not_not.mp (mt fromTimeT_tdiv_ne (not_not.mpr he))⟩
  unfold HistoryRequest.endSeconds
  generalize (convertTimeRange req).startTime.tdiv second = a' at *
  generalize (convertTimeRange req).endTime.tdiv second = b' at *
  unfold Timestamp.instant second at *
  simp only [List.mem_cons, List.not_mem_nil, or_false, exists_eq_or_imp, exists_eq_left]
  omega

/-- A row of the server with the local time of such a second is selected exactly if it does not
match. -/
lemma length_selected_ne {ρ τ κ : Type} (spec : QuerySpec ρ τ κ) {row : ρ} {t : ℤ}
    (hstart : req.startTime.Valid) (hend : req.endTime.Valid)
    (hclock : env.ClockForward req.endSeconds) (ht : t ∈ req.endSeconds)
    (hname : spec.serverName row = req.serverName.toUTF8.data.toList)
    (htime : spec.timestamp row = formatTimestamp env.localtime (t * second))
    (htold : ((convertTimeRange req).startTime.tdiv second ≤ t ∧
          t ≤ (convertTimeRange req).endTime.tdiv second) ↔
        ¬ (req.startTime.instant ≤ req.endTime.instant ∧
          req.startTime.seconds ≤ t ∧ t ≤ req.endTime.seconds)) :
    ([row].filter (env.selects spec req.serverName (convertTimeRange req))).length ≠
      (req.matchingRows env spec [row]).length := by
  have hrow : env.datetime (spec.timestamp row) = env.stamp t := by rw [htime, QueryEnv.stamp]
  have hselects : ∀ range : TimeRange, env.selects spec req.serverName range row = true ↔
      env.stamp (range.startTime.tdiv second) ≤ env.stamp t ∧
        env.stamp t ≤ env.stamp (range.endTime.tdiv second) := by
    intro range
    simp only [QueryEnv.selects, hname, hrow, datetime_formatTimestamp, decide_true,
      Bool.true_and, Bool.and_eq_true, decide_eq_true_eq]
  have hmem : ∀ s ∈ req.endSeconds, (env.stamp s ≤ env.stamp t ↔ s ≤ t) ∧
      (env.stamp t ≤ env.stamp s ↔ t ≤ s) :=
    fun s hs => ⟨hclock.le_iff hs ht, hclock.le_iff ht hs⟩
  have hconverted : env.selects spec req.serverName (convertTimeRange req) row = true ↔
      (convertTimeRange req).startTime.tdiv second ≤ t ∧
        t ≤ (convertTimeRange req).endTime.tdiv second := by
    rw [hselects, (hmem _ (by simp [HistoryRequest.endSeconds])).1,
      (hmem _ (by simp [HistoryRequest.endSeconds])).2]
  have hseconds : ∀ s : ℤ, (s * second).tdiv second = s := fun s =>
    Int.mul_tdiv_cancel _ (by decide)
  have hrequested : env.selects spec req.serverName req.requestedRange row = true ↔
      req.startTime.seconds ≤ t ∧ t ≤ req.endTime.seconds := by
    rw [hselects, HistoryRequest.requestedRange, hstart.wholeSecond_eq, hend.wholeSecond_eq,
      hseconds, hseconds, (hmem _ (by simp [HistoryRequest.endSeconds])).1,
      (hmem _ (by simp [HistoryRequest.endSeconds])).2]
  unfold HistoryRequest.matchingRows
  by_cases hsel : env.selects spec req.serverName (convertTimeRange req) row = true
  · have hnot := htold.mp (hconverted.mp hsel)
    rw [List.filter_cons_of_pos hsel]
    split_ifs with horder
    · have hout : ¬ env.selects spec req.serverName req.requestedRange row = true :=
        fun h => hnot ⟨horder, hrequested.mp h⟩
      rw [List.filter_cons_of_neg hout]
      simp
    · simp
  · have hin := not_not.mp (mt htold.mpr (mt hconverted.mpr hsel))
    rw [List.filter_cons_of_neg hsel, if_pos hin.1,
      List.filter_cons_of_pos (hrequested.mpr hin.2)]
    simp

end Inexact

namespace QueryService

variable {γ δ : Type} [DecidableEq γ] [LinearOrder δ]

/-- Every query may return its rows in these orders. -/
structure Admissible (env : QueryEnv γ δ) (orders : RowOrders) : Prop where
  performance : ∀ l, ResultOrder (performanceQuery env).key l (orders.performance l)
  netDetail : ∀ l, ResultOrder (netDetailQuery env).key l (orders.netDetail l)
  netProcessDetail : ∀ l, ResultOrder (netProcessDetailQuery env).key l (orders.netProcessDetail l)
  diskDetail : ∀ l, ResultOrder (diskDetailQuery env).key l (orders.diskDetail l)

/-- The answer of a call is truthful. -/
def AnswersTruthfully (env : QueryEnv γ δ) (d : Database env.collate) (queryManager : Option Bool)
    (calls : QueryCalls) (orders : RowOrders) (req : HistoryRequest) : HistoryCall → Prop
  | .performance =>
    let spec := performanceQuery env
    Truthful spec.key (fillPerformanceRecord ∘ spec.record)
      (req.matchingRows env spec d.performance.rows) req
      (queryPerformance env d queryManager calls orders.performance req)
  | .netDetail =>
    let spec := netDetailQuery env
    Truthful spec.key (fillNetDetailRecord ∘ spec.record)
      (req.matchingRows env spec d.netDetail.rows) req
      (queryNetDetail env d queryManager calls orders.netDetail req)
  | .netProcessDetail =>
    let spec := netProcessDetailQuery env
    Truthful spec.key (fillNetProcessDetailRecord ∘ spec.record)
      (req.matchingRows env spec d.netProcessDetail.rows) req
      (queryNetProcessDetail env d queryManager calls orders.netProcessDetail req)
  | .diskDetail =>
    let spec := diskDetailQuery env
    Truthful spec.key (fillDiskDetailRecord ∘ spec.record)
      (req.matchingRows env spec d.diskDetail.rows) req
      (queryDiskDetail env d queryManager calls orders.diskDetail req)

/-- The number of rows that a call is about. -/
def matchingCount (env : QueryEnv γ δ) (d : Database env.collate) (req : HistoryRequest) :
    HistoryCall → ℕ
  | .performance => (req.matchingRows env (performanceQuery env) d.performance.rows).length
  | .netDetail => (req.matchingRows env (netDetailQuery env) d.netDetail.rows).length
  | .netProcessDetail =>
    (req.matchingRows env (netProcessDetailQuery env) d.netProcessDetail.rows).length
  | .diskDetail => (req.matchingRows env (diskDetailQuery env) d.diskDetail.rows).length

/-- One row of a server in each of the tables. -/
def oneRowEach (env : QueryEnv γ δ) (serverName : List UInt8) (timestamp : String) :
    Database env.collate where
  performance :=
    ⟨[⟨serverName, 0, 0, 0, 0, 0, 0, 0, 0, 0, 0, 0, 0, 0, 0, 0, 1, timestamp⟩],
      List.nodup_singleton _⟩
  cpuDetail := .empty
  netDetail := ⟨[⟨serverName, [], 0, 0, 0, 0, 1, timestamp⟩], List.nodup_singleton _⟩
  diskDetail := ⟨[⟨serverName, [], 0, 0, 0, 0, 0, 0, 0, 1, timestamp⟩], List.nodup_singleton _⟩
  netProcessDetail :=
    ⟨[⟨serverName, 1, [], 0, 0, 0, 0, 1, timestamp⟩], List.nodup_singleton _⟩

/-- **When the four calls answer truthfully.** The answer to a request that is refused, or whose
range converts exactly, is a failure, or has the records of the requested page and the number of
matching rows, if and only if the request is refused, or no row matches, or no MySQL call fails,
the number of rows fits into an `int`, and the offset is harmless; and this for any content of the
tables and any order MySQL picks. A request that is accepted though its range does not convert
exactly is answered wrongly by every call for some content of the tables, though no MySQL call
fails.

**Proof sketch.** A range that converts exactly selects the matching rows, so that the calls of
MySQL and the numbers decide (`truthful_runQuery_iff`). One that does not tells some second apart
from the requested one (`exists_second_told_apart`), and so gets the number of rows wrong in tables
with a row of that second. -/
theorem truthful_iff (env : QueryEnv γ δ) (queryManager : Option Bool) (req : HistoryRequest) :
    (req.Refused queryManager ∨ req.ConvertsExactly → ∀ (d : Database env.collate)
        (calls : QueryCalls) (orders : RowOrders), Admissible env orders → ∀ call,
      (AnswersTruthfully env d queryManager calls orders req call ↔
        req.Answerable queryManager calls (matchingCount env d req call))) ∧
    (¬ (req.Refused queryManager ∨ req.ConvertsExactly) → req.startTime.Valid →
      req.endTime.Valid → env.ClockForward req.endSeconds → 0 ≤ toInt req.offset →
      ∃ d : Database env.collate, ∀ orders, Admissible env orders → ∀ call,
        ¬ AnswersTruthfully env d queryManager .succeed orders req call) := by
  constructor
  · intro hreq d calls orders hsort call
    cases call with
    | performance => exact answerHistory_truthful_iff _ _ hsort.performance _ hreq
    | netDetail => exact answerHistory_truthful_iff _ _ hsort.netDetail _ hreq
    | netProcessDetail => exact answerHistory_truthful_iff _ _ hsort.netProcessDetail _ hreq
    | diskDetail => exact answerHistory_truthful_iff _ _ hsort.diskDetail _ hreq
  · intro hnot hstart hend hclock hoffset
    obtain ⟨haccepted, hinexact⟩ := not_or.mp hnot
    have hrange : validateTimeRange (convertTimeRange req) = true := by
      by_contra hinvalid
      exact haccepted (Or.inr (Or.inr (Bool.not_eq_true _ ▸ hinvalid)))
    obtain ⟨t, ht, htold⟩ := exists_second_told_apart hstart hend hrange hinexact
    refine ⟨oneRowEach env req.serverName.toUTF8.data.toList
      (formatTimestamp env.localtime (t * second)), fun orders hsort call => ?_⟩
    cases call with
    | performance =>
      exact answerHistory_not_truthful _ hsort.performance _ haccepted hoffset
        (length_selected_ne (performanceQuery env) hstart hend hclock ht rfl rfl htold)
    | netDetail =>
      exact answerHistory_not_truthful _ hsort.netDetail _ haccepted hoffset
        (length_selected_ne (netDetailQuery env) hstart hend hclock ht rfl rfl htold)
    | netProcessDetail =>
      exact answerHistory_not_truthful _ hsort.netProcessDetail _ haccepted hoffset
        (length_selected_ne (netProcessDetailQuery env) hstart hend hclock ht rfl rfl htold)
    | diskDetail =>
      exact answerHistory_not_truthful _ hsort.diskDetail _ haccepted hoffset
        (length_selected_ne (diskDetailQuery env) hstart hend hclock ht rfl rfl htold)

/-- A query that fails is answered with OK, no records and a total of `0`, though a row matches. -/
theorem queryPerformance_hides_failure :
    let d := twoInterfacesWritten.2.stored
    let spec := performanceQuery utcEnv
    let req : HistoryRequest := ⟨"h", { seconds := 0 }, { seconds := 0 }, 1, 10⟩
    let calls : QueryCalls := { QueryCalls.succeed with query := false }
    let matching := req.matchingRows utcEnv spec d.performance.rows
    matching.length = 1 ∧ ∀ orderBy,
      queryPerformance utcEnv d (some true) calls orderBy req = .ok ⟨[], 0, 1, 10⟩ ∧
        ¬ Truthful spec.key (fillPerformanceRecord ∘ spec.record) matching req
          (queryPerformance utcEnv d (some true) calls orderBy req) := by
  intro d spec req calls matching
  have hlength : matching.length = 1 := by decide +kernel
  refine ⟨hlength, fun orderBy => ⟨rfl, ?_⟩⟩
  rintro ⟨order, -, -, hcount⟩
  rw [hlength] at hcount
  exact absurd hcount (show (0 : ℤ) ≠ (1 : ℕ) by decide)

/-- A manager whose clock shows UTC, with times compared by their digits. -/
def gmtEnv : QueryEnv (List UInt8) ℕ := { utcEnv with localtime := gmtime, mktime := timegm }

/-- The tables with one sample of two interfaces in UTC. -/
def gmtDatabase : Database gmtEnv.collate :=
  (Database.empty gmtEnv.collate).insertTask gmtEnv.localtime twoInterfaces

/-- For the first second of 1970 the rows of the two interfaces are returned; the range of all years
that protobuf admits is answered wrongly for some tables. -/
theorem truthful_iff_two_ranges :
    let req : HistoryRequest := ⟨"h", { seconds := 0 }, ⟨0, 999999999⟩, 1, 10⟩
    let allYears : HistoryRequest :=
      ⟨"h", { seconds := -62135596800 }, { seconds := 253402300799 }, 1, 10⟩
    matchingCount gmtEnv gmtDatabase req .netDetail = 2 ∧
      ∃ orders, Admissible gmtEnv orders ∧
        AnswersTruthfully gmtEnv gmtDatabase (some true) .succeed orders req .netDetail ∧
        ∃ d, ¬ AnswersTruthfully gmtEnv d (some true) .succeed orders allYears .performance := by
  intro req allYears
  choose performance hperformance using exists_resultOrder (performanceQuery gmtEnv).key
  choose netDetail hnetDetail using exists_resultOrder (netDetailQuery gmtEnv).key
  choose netProcessDetail hnetProcessDetail using
    exists_resultOrder (netProcessDetailQuery gmtEnv).key
  choose diskDetail hdiskDetail using exists_resultOrder (diskDetailQuery gmtEnv).key
  have hsort : Admissible gmtEnv ⟨performance, netDetail, netProcessDetail, diskDetail⟩ :=
    ⟨hperformance, hnetDetail, hnetProcessDetail, hdiskDetail⟩
  have hcount : matchingCount gmtEnv gmtDatabase req .netDetail = 2 := by decide +kernel
  have hexact : req.ConvertsExactly := ⟨by decide +kernel, by decide +kernel⟩
  have hharmless : req.OffsetHarmless 2 := ⟨by decide +kernel, Or.inl (by decide +kernel)⟩
  refine ⟨hcount, _, hsort, ?_, ?_⟩
  · refine ((truthful_iff gmtEnv (some true) req).1 (Or.inr hexact) gmtDatabase .succeed _ hsort
      .netDetail).mpr (Or.inr (Or.inr ⟨rfl, ?_⟩))
    rw [hcount]
    exact ⟨by decide, hharmless⟩
  · have haccepted : ¬ (allYears.Refused (some true) ∨ allYears.ConvertsExactly) := by
      rintro ((hmanager | hname | hrange) | hexact)
      · exact hmanager rfl
      · exact absurd hname (by decide)
      · exact absurd hrange (by decide +kernel)
      · exact absurd hexact.range_eq (by decide +kernel)
    obtain ⟨d, hd⟩ := (truthful_iff gmtEnv (some true) allYears).2 haccepted
      ⟨by decide, by decide⟩ ⟨by decide, by decide⟩
      (by unfold QueryEnv.ClockForward; decide +kernel) (by decide +kernel)
    exact ⟨d, hd _ hsort .performance⟩

end QueryService

end Monitor
