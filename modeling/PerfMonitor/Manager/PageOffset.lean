import Mathlib
import PerfMonitor.Manager.QueryService
import PerfMonitor.Manager.TimeZones

set_option relaxedAutoImplicit false
set_option autoImplicit false

/-!
# The offset of a page

The page and the page size of a request are 32-bit integers that nothing bounds from above. The
service and then the query manager raise them to at least `1`, or to `100`; their product is an
`int` and is written behind `OFFSET` in the text of the statement.

## Main definitions

* `Monitor.HistoryQuery` — the five queries, with what tells their texts apart.
* `Monitor.HistoryQuery.sql` — the text that a query sends to MySQL.
* `Monitor.OffsetExact` — the offset in the text is the number of rows before the page.

## Main results

* `Monitor.HistoryQuery.text_offset_inj` — the text tells the offset.
* `Monitor.offsetExact_iff` — when the offset is exact.
* `Monitor.negative_offset` — page 3 of pages of `2 ^ 30` rows has a negative offset.
-/

namespace Monitor

/-! ## The text of the queries -/

/-- The historical queries of `QueryManager`. -/
inductive HistoryQuery where
  | performance
  | netDetail
  | netProcessDetail
  | diskDetail
  | cpuDetail
  deriving DecidableEq, Repr

namespace HistoryQuery

/-- The columns after `SELECT SQL_CALC_FOUND_ROWS`. -/
def columns : HistoryQuery → List String
  | performance => kPerformanceSelectColumns
  | netDetail => netDetailSelectColumns
  | netProcessDetail => netProcessDetailSelectColumns
  | diskDetail => diskDetailSelectColumns
  | cpuDetail => cpuDetailSelectColumns

/-- The table after `FROM`. -/
def table : HistoryQuery → String
  | performance => "server_performance"
  | netDetail => "server_net_detail"
  | netProcessDetail => "server_net_process_detail"
  | diskDetail => "server_disk_detail"
  | cpuDetail => "server_cpu_detail"

/-- The keys after `ORDER BY`. -/
def orderKeys : HistoryQuery → String
  | netProcessDetail => "timestamp DESC, total_bytes_rate DESC"
  | performance | netDetail | diskDetail | cpuDetail => "timestamp DESC"

variable (query : HistoryQuery) (escape : String → String) (localtime : ℤ → Tm)

/-- The text of a query up to its offset. -/
def selectText (serverName : String) (range : TimeRange) (limit : ℤ) : String :=
  "SELECT SQL_CALC_FOUND_ROWS " ++ ", ".intercalate query.columns ++ " FROM " ++ query.table ++
    " WHERE server_name='" ++ escape serverName ++ "' AND timestamp BETWEEN '" ++
    escape (formatTime localtime range.startTime) ++ "' AND '" ++
    escape (formatTime localtime range.endTime) ++ "' ORDER BY " ++ query.orderKeys ++ " LIMIT " ++
    toString limit ++ " OFFSET "

/-- The text of a query for given numbers behind `LIMIT` and `OFFSET`. -/
def text (serverName : String) (range : TimeRange) (limit offset : ℤ) : String :=
  query.selectText escape localtime serverName range limit ++ toString offset

/-- The text that a query of the manager sends, `escape` being `EscapeString`. -/
def sql (serverName : String) (range : TimeRange) (page pageSize : ℤ) : String :=
  let page := clampPage page
  let pageSize := clampPageSize pageSize
  let offset := toInt ((page - 1) * pageSize)
  query.text escape localtime serverName range pageSize offset

/-- The text tells the offset. -/
lemma text_offset_inj {serverName : String} {range : TimeRange} {limit m n : ℤ} :
    query.text escape localtime serverName range limit m =
      query.text escape localtime serverName range limit n ↔ m = n := by
  unfold text
  rw [String.append_right_inj, Int.toString_eq_repr, Int.toString_eq_repr, Int.repr_inj]

end HistoryQuery

/-! ## The offset of a request -/

/-- The text a query sends for a request whose numbers the service has raised before. -/
def HistoryRequest.sql (req : HistoryRequest) (query : HistoryQuery) (escape : String → String)
    (localtime : ℤ → Tm) : String :=
  query.sql escape localtime req.serverName (convertTimeRange req) (clampPage req.page)
    (clampPageSize req.pageSize)

/-- The offset in the text is the number of rows before the requested page, computed as an `int`
that does not overflow, and not negative. -/
structure OffsetExact (req : HistoryRequest) (query : HistoryQuery) (escape : String → String)
    (localtime : ℤ → Tm) : Prop where
  written : req.sql query escape localtime =
    query.text escape localtime req.serverName (convertTimeRange req)
      (clampPageSize req.pageSize) ((clampPage req.page - 1) * clampPageSize req.pageSize)
  fits : toInt ((clampPage req.page - 1) * clampPageSize req.pageSize) =
    (clampPage req.page - 1) * clampPageSize req.pageSize
  nonneg : 0 ≤ toInt ((clampPage req.page - 1) * clampPageSize req.pageSize)

variable {req : HistoryRequest} {query : HistoryQuery} {escape : String → String}
  {localtime : ℤ → Tm}

lemma sql_request : req.sql query escape localtime =
    query.text escape localtime req.serverName (convertTimeRange req)
      (clampPageSize req.pageSize) (toInt req.offset) := by
  unfold HistoryRequest.sql HistoryQuery.sql
  simp only [clampPage_clampPage, clampPageSize_clampPageSize, HistoryRequest.offset]

/-- The offset fits exactly when it is below `2 ^ 31`. -/
lemma toInt_offset_eq_iff : toInt req.offset = req.offset ↔ req.offset < 2 ^ 31 := by
  obtain ⟨n, hn⟩ := Int.eq_ofNat_of_zero_le (offset_nonneg req)
  rw [hn, toInt_natCast_eq_iff]
  norm_cast

/-- **When the offset is exact.** For every request, and in each of the five queries, the offset in
the text is the exact one, without overflow and not negative, if and only if it is at most
`2 ^ 31 - 1`. -/
theorem offsetExact_iff (req : HistoryRequest) (query : HistoryQuery) (escape : String → String)
    (localtime : ℤ → Tm) : OffsetExact req query escape localtime ↔
      (clampPage req.page - 1) * clampPageSize req.pageSize < 2 ^ 31 := by
  constructor
  · intro h
    have hoffset : toInt req.offset = req.offset := by
      have hwritten := h.written
      rwa [sql_request, HistoryQuery.text_offset_inj] at hwritten
    exact toInt_offset_eq_iff.mp hoffset
  · intro h
    have hoffset : toInt req.offset = req.offset := toInt_offset_eq_iff.mpr h
    refine ⟨?_, hoffset, ?_⟩
    · rw [sql_request, hoffset]
      rfl
    · show 0 ≤ toInt req.offset
      rw [hoffset]
      exact offset_nonneg req

/-- Page 3 of pages of `2 ^ 30` rows begins after `2 ^ 31` rows, and the text of every query has the
offset `-2 ^ 31`. -/
theorem negative_offset :
    let req : HistoryRequest := ⟨"h", { seconds := 0 }, { seconds := 1 }, 3, 1073741824⟩
    req.offset = 2147483648 ∧ ∀ query,
      req.sql query id gmtime =
          query.text id gmtime "h" (convertTimeRange req) 1073741824 (-2147483648) ∧
        ¬ OffsetExact req query id gmtime := by
  intro req
  have hoffset : toInt req.offset = -2147483648 := by decide
  refine ⟨by decide, fun query => ?_⟩
  have hsql : req.sql query id gmtime =
      query.text id gmtime "h" (convertTimeRange req) 1073741824 (toInt req.offset) := sql_request
  rw [hoffset] at hsql
  refine ⟨hsql, fun h => ?_⟩
  have hneg : 0 ≤ toInt req.offset := h.nonneg
  rw [hoffset] at hneg
  exact absurd hneg (by decide)

/-- The second page of ten rows begins after ten rows. -/
example : HistoryQuery.cpuDetail.sql id gmtime "h" ⟨0, second⟩ 2 10 =
    "SELECT SQL_CALC_FOUND_ROWS server_name, timestamp, usr_percent, system_percent, " ++
    "nice_percent, idle_percent, io_wait_percent, irq_percent, soft_irq_percent " ++
    "FROM server_cpu_detail WHERE server_name='h' AND timestamp BETWEEN " ++
    "'1970-01-01 00:00:00' AND '1970-01-01 00:00:01' ORDER BY timestamp DESC LIMIT 10 OFFSET 10" := by
  decide +kernel

end Monitor
