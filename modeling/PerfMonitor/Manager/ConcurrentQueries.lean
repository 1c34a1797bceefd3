import PerfMonitor.Automaton.Sections
import PerfMonitor.Manager.PageOffset

set_option relaxedAutoImplicit false
set_option autoImplicit false

/-!
# Queries that run at the same time

The threads of the RPC server share one `QueryManager` (`manager/src/query_manager.cpp`), which has
one connection. A query is two statements on it: `SELECT SQL_CALC_FOUND_ROWS`, whose result is
stored, and `SELECT FOUND_ROWS()`, which is about the statement before it on the same connection.
`mtx_` is held from the first check to the return, while other clients of the database change it at
any time.

## Main definitions

* `Monitor.ManagerQuery.answer` — what a query returns if nothing happens while it runs.
* `Monitor.QueryManager`, `Monitor.CallPhase.execute` — the connection, and a call one access to it
  at a time.
* `Monitor.concurrentQueries` — any number of threads, each with its call, and the database.

## Main results

* `Monitor.concurrentQueries_atomic` — the connection is never misused, and every reply is that of a
  moment of its call.
-/

namespace Monitor

/-! ## A query on its own -/

/-- A record of one of the five queries. -/
inductive HistoryRecord where
  | performance (r : PerformanceRecord)
  | netDetail (r : NetDetailRecord)
  | netProcessDetail (r : NetProcessDetailRecord)
  | diskDetail (r : DiskDetailRecord)
  | cpuDetail (r : CpuDetailRecord)
  deriving DecidableEq, Repr

/-- How MySQL puts the rows of each table in order. -/
structure TableOrders where
  performance : List ServerPerformance → List ServerPerformance
  netDetail : List ServerNetDetail → List ServerNetDetail
  netProcessDetail : List ServerNetProcessDetail → List ServerNetProcessDetail
  diskDetail : List ServerDiskDetail → List ServerDiskDetail
  cpuDetail : List ServerCpuDetail → List ServerCpuDetail

/-- A call of a query: its arguments, which of the MySQL calls succeed, and the order of rows. -/
structure ManagerQuery where
  query : HistoryQuery
  serverName : String
  range : TimeRange
  page : ℤ
  pageSize : ℤ
  calls : QueryCalls
  orders : TableOrders

namespace ManagerQuery

variable {γ δ : Type} [DecidableEq γ] [LinearOrder δ] (env : QueryEnv γ δ) (q : ManagerQuery)
  (d : Database env.collate)

/-- The records of all rows that match, in the order MySQL gives them. -/
def rows : List HistoryRecord :=
  match q.query with
  | .performance =>
    (q.orders.performance (d.performance.rows.filter
      (env.selects (performanceQuery env) q.serverName q.range))).map
        fun r => .performance ((performanceQuery env).record r)
  | .netDetail =>
    (q.orders.netDetail (d.netDetail.rows.filter
      (env.selects (netDetailQuery env) q.serverName q.range))).map
        fun r => .netDetail ((netDetailQuery env).record r)
  | .netProcessDetail =>
    (q.orders.netProcessDetail (d.netProcessDetail.rows.filter
      (env.selects (netProcessDetailQuery env) q.serverName q.range))).map
        fun r => .netProcessDetail ((netProcessDetailQuery env).record r)
  | .diskDetail =>
    (q.orders.diskDetail (d.diskDetail.rows.filter
      (env.selects (diskDetailQuery env) q.serverName q.range))).map
        fun r => .diskDetail ((diskDetailQuery env).record r)
  | .cpuDetail =>
    (q.orders.cpuDetail (d.cpuDetail.rows.filter
      (env.selects (cpuDetailQuery env) q.serverName q.range))).map
        fun r => .cpuDetail ((cpuDetailQuery env).record r)

/-- The number behind `OFFSET`. -/
def offset : ℤ := toInt ((clampPage q.page - 1) * clampPageSize q.pageSize)

/-- The rows that the first statement selects. -/
def selected : List HistoryRecord :=
  ((q.rows env d).drop q.offset.toNat).take (clampPageSize q.pageSize).toNat

/-- The query called on the database `d`, with nothing else going on. -/
def answer (initialized : Bool) : List HistoryRecord × Option ℤ :=
  match q.query with
  | .performance =>
    (queryPerformance env d initialized q.calls q.serverName q.range q.orders.performance
      q.page q.pageSize).map (List.map .performance) id
  | .netDetail =>
    (queryNetDetail env d initialized q.calls q.serverName q.range q.orders.netDetail
      q.page q.pageSize).map (List.map .netDetail) id
  | .netProcessDetail =>
    (queryNetProcessDetail env d initialized q.calls q.serverName q.range
      q.orders.netProcessDetail q.page q.pageSize).map (List.map .netProcessDetail) id
  | .diskDetail =>
    (queryDiskDetail env d initialized q.calls q.serverName q.range q.orders.diskDetail
      q.page q.pageSize).map (List.map .diskDetail) id
  | .cpuDetail =>
    (queryCpuDetail env d initialized q.calls q.serverName q.range q.orders.cpuDetail
      q.page q.pageSize).map (List.map .cpuDetail) id

end ManagerQuery

/-! ## One access at a time -/

/-- A result that has not been fetched from the server. -/
inductive QueryResult where
  | rows (records : List HistoryRecord)
  /-- The row of `SELECT FOUND_ROWS()`. -/
  | count (found : ℕ)
  deriving DecidableEq, Repr

/-- A connection. A statement can only be sent when no result is left to fetch. -/
structure MysqlConnection where
  connected : Bool
  result : Option QueryResult
  /-- What `FOUND_ROWS()` is in this session. -/
  foundRows : ℕ
  deriving DecidableEq, Repr

/-- The members of `QueryManager` behind `mtx_`. -/
structure QueryManager where
  conn : Option MysqlConnection := none
  initialized : Bool := false
  deriving DecidableEq, Repr

/-- A call of a member function. -/
inductive ManagerCall where
  /-- `Init`: whether `mysql_init` and `mysql_real_connect` succeed. -/
  | init (allocates connects : Bool)
  | close
  | isInitialized
  | query (q : ManagerQuery)

/-- What a call returns. -/
inductive ManagerReply where
  | flag (b : Bool)
  | closed
  /-- The records and what is stored in `*total_count`, if anything. -/
  | page (records : List HistoryRecord) (totalCount : Option ℤ)
  deriving DecidableEq, Repr

/-- Where a thread is. It holds `mtx_` in all phases but the first two. -/
inductive CallPhase where
  | idle
  /-- In the constructor of the lock guard. -/
  | waiting (c : ManagerCall)
  | entered (c : ManagerCall)
  /-- In `Init`, after `mysql_init`. -/
  | allocated (allocates connects : Bool)
  /-- The query has passed its checks. -/
  | checked (q : ManagerQuery)
  /-- `mysql_query` has returned. -/
  | queried (q : ManagerQuery)
  /-- The rows have been stored and read. -/
  | stored (q : ManagerQuery) (records : List HistoryRecord)
  /-- `SELECT FOUND_ROWS()` has been sent. -/
  | counting (q : ManagerQuery) (records : List HistoryRecord)
  | returning (c : ManagerCall) (r : ManagerReply)

namespace CallPhase

/-- The call a thread is in. -/
def call : CallPhase → Option ManagerCall
  | idle => none
  | waiting c | entered c | returning c _ => some c
  | allocated allocates connects => some (.init allocates connects)
  | checked q | queried q | stored q _ | counting q _ => some (.query q)

/-- The thread holds `mtx_`. -/
def Inside : CallPhase → Prop
  | idle | waiting _ => False
  | _ => True

/-- The thread holds `mtx_` and has not computed its reply. -/
def Working : CallPhase → Prop
  | idle | waiting _ | returning _ _ => False
  | _ => True

variable {γ δ : Type} [DecidableEq γ] [LinearOrder δ] (env : QueryEnv γ δ)

/-- The code of a call up to its next access to the connection; `none` if the client library is used
against its rules there. -/
def execute (d : Database env.collate) (m : QueryManager) :
    CallPhase → Option (QueryManager × CallPhase)
  | entered .isInitialized => some (m, returning .isInitialized (.flag m.initialized))
  | entered .close => some (⟨none, false⟩, returning .close .closed)
  | entered (.init allocates connects) =>
    if m.initialized then some (m, returning (.init allocates connects) (.flag true))
    else if !allocates then
      some ({ m with conn := none }, returning (.init allocates connects) (.flag false))
    else some ({ m with conn := some ⟨false, none, 0⟩ }, allocated allocates connects)
  | allocated allocates connects =>
    match m.conn with
    | some ⟨false, _, _⟩ =>
      if !connects then
        some ({ m with conn := none }, returning (.init allocates connects) (.flag false))
      else some (⟨some ⟨true, none, 0⟩, true⟩, returning (.init allocates connects) (.flag true))
    | _ => none
  | entered (.query q) =>
    if !m.initialized || m.conn.isNone then some (m, returning (.query q) (.page [] none))
    else if !validateTimeRange q.range then some (m, returning (.query q) (.page [] none))
    else some (m, checked q)
  | checked q =>
    match m.conn with
    | some ⟨true, none, _⟩ =>
      if !q.calls.query || decide (q.offset < 0) then
        some (m, returning (.query q) (.page [] none))
      else
        some ({ m with conn := some ⟨true, some (.rows (q.selected env d)),
          (q.rows env d).length⟩ }, queried q)
    | _ => none
  | queried q =>
    match m.conn with
    | some ⟨true, some (.rows records), found⟩ =>
      if !q.calls.storeResult then
        some ({ m with conn := some ⟨true, none, found⟩ }, returning (.query q) (.page [] none))
      else some ({ m with conn := some ⟨true, none, found⟩ }, stored q records)
    | _ => none
  | stored q records =>
    match m.conn with
    | some ⟨true, none, found⟩ =>
      if !q.calls.foundRows then some (m, returning (.query q) (.page records (some 0)))
      -- this statement has one row, and the session counts it like any other
      else some ({ m with conn := some ⟨true, some (.count found), 1⟩ }, counting q records)
    | _ => none
  | counting q records =>
    match m.conn with
    | some ⟨true, some (.count found), last⟩ =>
      some ({ m with conn := some ⟨true, none, last⟩ }, returning (.query q)
        (.page records (some (if !q.calls.storeFoundRows then 0 else toInt found))))
    | _ => none
  | idle | waiting _ | returning _ _ => none

end CallPhase

/-! ## The machine -/

section Machine

variable {γ δ : Type} [DecidableEq γ] [LinearOrder δ] (env : QueryEnv γ δ) (θ : Type)
  [DecidableEq θ]

/-- The database, the query manager, and the threads that call it. -/
structure QuerySystem where
  database : Database env.collate
  manager : QueryManager
  threads : Mutex θ CallPhase

inductive QueryAction where
  /-- A thread starts a call. -/
  | call (t : θ) (c : ManagerCall)
  /-- A thread goes on to its next access. -/
  | run (t : θ)
  /-- Other clients change the database. -/
  | write (d : Database env.collate)

inductive QueryEvent where
  | replied (t : θ) (c : ManagerCall) (r : ManagerReply)
  /-- The client library is used against its rules. -/
  | misused (t : θ)

variable {θ}

/-- An action, if it is enabled. -/
def QuerySystem.step (s : QuerySystem env θ) :
    QueryAction env θ → Option (QuerySystem env θ × List (QueryEvent θ))
  | .write d => some ({ s with database := d }, [])
  | .call t c =>
    match s.threads.phase t with
    | .idle => some ({ s with threads := s.threads.moveTo t (.waiting c) }, [])
    | _ => none
  | .run t =>
    match s.threads.phase t with
    | .idle => none
    | .waiting c =>
      if s.threads.owner = none then
        some ({ s with threads := s.threads.acquire t (.entered c) }, [])
      else none
    | .returning c r =>
      some ({ s with threads := s.threads.release t .idle }, [.replied t c r])
    | p =>
      match p.execute env s.database s.manager with
      | none => some (s, [.misused t])
      | some (m, p') => some (⟨s.database, m, s.threads.moveTo t p'⟩, [])

/-- Any number of threads that share a query manager. -/
def concurrentQueries : EventMachine (QuerySystem env θ) (QueryAction env θ) (QueryEvent θ) where
  step := QuerySystem.step env

/-- No thread has called anything yet. -/
def QuerySystem.start (d : Database env.collate) : QuerySystem env θ :=
  ⟨d, {}, none, fun _ => .idle⟩

/-- A reply that is right for the system as it stands. -/
def QuerySystem.Answers (s : QuerySystem env θ) : ManagerCall → ManagerReply → Prop
  | .query q, r =>
    r = .page (q.answer env s.database s.manager.initialized).1
      (q.answer env s.database s.manager.initialized).2
  | .init _ _, r | .isInitialized, r => r = .flag s.manager.initialized
  | .close, r => r = .closed ∧ s.manager.initialized = false

end Machine

/-! ## The two statements together -/

section Answer

variable {γ δ : Type} [DecidableEq γ] [LinearOrder δ] {env : QueryEnv γ δ} {q : ManagerQuery}
  {d : Database env.collate}

/-- Whether records are wrapped before the page is cut or after. -/
lemma map_runQuery {ρ τ υ : Type} (initialized : Bool) (calls : QueryCalls) (range : TimeRange)
    (page pageSize : ℤ) (sorted : List ρ) (record : ρ → τ) (f : τ → υ) :
    (runQuery initialized calls range page pageSize sorted record).map (List.map f) id =
      runQuery initialized calls range page pageSize (sorted.map fun r => f (record r)) id := by
  unfold runQuery
  simp only [apply_ite (Prod.map (List.map f) id), Prod.map_apply, List.map_nil, id_eq,
    List.map_take, List.map_drop, List.map_map, List.length_map, Function.comp_def]

/-- The five queries differ in their rows only. -/
lemma answer_eq_runQuery (initialized : Bool) : q.answer env d initialized =
    runQuery initialized q.calls q.range q.page q.pageSize (q.rows env d) id := by
  unfold ManagerQuery.answer ManagerQuery.rows
  cases q.query <;> exact map_runQuery ..

/-- A query on a manager that is not initialized. -/
lemma answer_false : q.answer env d false = ([], none) := by
  rw [answer_eq_runQuery]
  rfl

/-- A query with a reversed range. -/
lemma answer_of_invalid (hrange : validateTimeRange q.range = false) (initialized : Bool) :
    q.answer env d initialized = ([], none) := by
  rw [answer_eq_runQuery, runQuery, hrange]
  simp

/-- A query that is not refused. -/
lemma answer_of_valid (hrange : validateTimeRange q.range = true) : q.answer env d true =
    if !q.calls.query || decide (q.offset < 0) then ([], none)
    else if !q.calls.storeResult then ([], none)
    else (q.selected env d, some (fetchFoundRows q.calls (q.rows env d).length)) := by
  rw [answer_eq_runQuery, runQuery, hrange]
  simp only [Bool.not_true, Bool.false_eq_true, if_false, List.map_id]
  rfl

end Answer

/-! ## What a thread relies on -/

section Invariant

variable {γ δ : Type} [DecidableEq γ] [LinearOrder δ] {env : QueryEnv γ δ} {θ : Type}

/-- There is no connection, or one that can be sent a statement. -/
def QueryManager.Settled (m : QueryManager) : Prop :=
  m.initialized = false ∧ m.conn = none ∨
    m.initialized = true ∧ ∃ n, m.conn = some ⟨true, none, n⟩

/-- The first statement of the query selects `records` among `found` rows. -/
structure QuerySystem.Selects (q : ManagerQuery) (records : List HistoryRecord) (found : ℕ)
    (s : QuerySystem env θ) : Prop where
  initialized : s.manager.initialized = true
  valid : validateTimeRange q.range = true
  succeeds : (!q.calls.query || decide (q.offset < 0)) = false
  records_eq : records = q.selected env s.database
  found_eq : found = (q.rows env s.database).length

/-- What a thread in a phase relies on, `dated c Q` saying that `Q` held since the thread is in its
call `c`. -/
def CallPhase.Fits (dated : ManagerCall → (QuerySystem env θ → Prop) → Prop) (m : QueryManager) :
    CallPhase → Prop
  | idle | waiting _ => True
  | entered _ => m.Settled
  | allocated _ _ => m.initialized = false ∧ m.conn = some ⟨false, none, 0⟩
  | checked q =>
    m.initialized = true ∧ validateTimeRange q.range = true ∧ ∃ n, m.conn = some ⟨true, none, n⟩
  | queried q => m.initialized = true ∧ ∃ records found,
    m.conn = some ⟨true, some (.rows records), found⟩ ∧
      dated (.query q) (QuerySystem.Selects q records found)
  | stored q records => m.initialized = true ∧ ∃ found, m.conn = some ⟨true, none, found⟩ ∧
    q.calls.storeResult = true ∧ dated (.query q) (QuerySystem.Selects q records found)
  | counting q records => m.initialized = true ∧ ∃ found last,
    m.conn = some ⟨true, some (.count found), last⟩ ∧ q.calls.storeResult = true ∧
      q.calls.foundRows = true ∧ dated (.query q) (QuerySystem.Selects q records found)
  | returning c r => m.Settled ∧ dated c fun s => s.Answers env c r

/-- The first statement decides the answer. -/
lemma QuerySystem.Selects.answer {q : ManagerQuery} {records : List HistoryRecord} {found : ℕ}
    {s : QuerySystem env θ} (h : s.Selects q records found) :
    q.answer env s.database s.manager.initialized =
      if !q.calls.storeResult then ([], none)
      else (records, some (fetchFoundRows q.calls found)) := by
  rw [h.initialized, answer_of_valid h.valid, h.succeeds, h.records_eq, h.found_eq]
  rfl

/-- What is dated stays dated. -/
lemma CallPhase.Fits.mono {dated dated' : ManagerCall → (QuerySystem env θ → Prop) → Prop}
    {m : QueryManager} {p : CallPhase} (h : p.Fits dated m)
    (hdated : ∀ c Q, dated c Q → dated' c Q) : p.Fits dated' m := by
  cases p with
  | idle | waiting | entered | allocated | checked => exact h
  | queried q =>
    obtain ⟨hinit, records, found, hconn, hsel⟩ := h
    exact ⟨hinit, records, found, hconn, hdated _ _ hsel⟩
  | stored q records =>
    obtain ⟨hinit, found, hconn, hstore, hsel⟩ := h
    exact ⟨hinit, found, hconn, hstore, hdated _ _ hsel⟩
  | counting q records =>
    obtain ⟨hinit, found, last, hconn, hstore, hcount, hsel⟩ := h
    exact ⟨hinit, found, last, hconn, hstore, hcount, hdated _ _ hsel⟩
  | returning c r => exact ⟨h.1, hdated _ _ h.2⟩

/-- A thread outside the section relies on nothing. -/
lemma CallPhase.fits_of_not_inside {dated : ManagerCall → (QuerySystem env θ → Prop) → Prop}
    {m : QueryManager} {p : CallPhase} (hp : ¬ p.Inside) : p.Fits dated m := by
  cases p with
  | idle | waiting => trivial
  | _ => exact absurd trivial hp

lemma CallPhase.Working.inside {p : CallPhase} (hp : p.Working) : p.Inside := by
  cases p with
  | idle | waiting | returning => exact hp.elim
  | _ => trivial

variable [DecidableEq θ]

/-- What is dated before an access of a thread, and what is dated after it. -/
structure Dating (dated dated' : ManagerCall → (QuerySystem env θ → Prop) → Prop)
    (s : QuerySystem env θ) (t : θ) (p : CallPhase) : Prop where
  keep : ∀ c Q, dated c Q → dated' c Q
  mono : ∀ c Q R, dated' c Q → (∀ u, Q u → R u) → dated' c R
  before : ∀ c Q, p.call = some c → Q s → dated' c Q
  after : ∀ c Q m p', p.execute env s.database s.manager = some (m, p') → p'.call = some c →
    Q ⟨s.database, m, s.threads.moveTo t p'⟩ → dated' c Q

/-- The access of a phase is one the client library allows, and it leaves what the next phase relies
on. -/
def CallPhase.Advances (dated' : ManagerCall → (QuerySystem env θ → Prop) → Prop)
    (s : QuerySystem env θ) (p : CallPhase) : Prop :=
  ∃ m p', p.execute env s.database s.manager = some (m, p') ∧ p'.Inside ∧ p'.Fits dated' m

section Accesses

variable {dated dated' : ManagerCall → (QuerySystem env θ → Prop) → Prop}
  {s : QuerySystem env θ} {t : θ}

/-- `Init` up to `mysql_init`. -/
lemma init_advances {allocates connects : Bool}
    (h : Dating dated dated' s t (.entered (.init allocates connects)))
    (hfits : s.manager.Settled) :
    (CallPhase.entered (.init allocates connects)).Advances dated' s := by
  rcases hfits with ⟨hinit, hconn⟩ | ⟨hinit, hconn⟩
  · cases allocates with
    | false =>
      refine ⟨{ s.manager with conn := none }, .returning _ (.flag false),
        by simp [CallPhase.execute, hinit], trivial, Or.inl ⟨hinit, rfl⟩, h.before _ _ rfl ?_⟩
      exact congrArg ManagerReply.flag hinit.symm
    | true =>
      exact ⟨{ s.manager with conn := some ⟨false, none, 0⟩ }, .allocated true connects,
        by simp [CallPhase.execute, hinit], trivial, hinit, rfl⟩
  · refine ⟨s.manager, .returning _ (.flag true), by simp [CallPhase.execute, hinit], trivial,
      Or.inr ⟨hinit, hconn⟩, h.before _ _ rfl ?_⟩
    exact congrArg ManagerReply.flag hinit.symm

/-- `Init` from `mysql_init`. -/
lemma allocated_advances {allocates connects : Bool}
    (h : Dating dated dated' s t (.allocated allocates connects))
    (hinit : s.manager.initialized = false) (hconn : s.manager.conn = some ⟨false, none, 0⟩) :
    (CallPhase.allocated allocates connects).Advances dated' s := by
  cases connects with
  | false =>
    refine ⟨{ s.manager with conn := none }, .returning _ (.flag false),
      by simp [CallPhase.execute, hconn], trivial, Or.inl ⟨hinit, rfl⟩, h.before _ _ rfl ?_⟩
    exact congrArg ManagerReply.flag hinit.symm
  | true =>
    have hexec : (CallPhase.allocated allocates true).execute env s.database s.manager =
        some (⟨some ⟨true, none, 0⟩, true⟩, .returning (.init allocates true) (.flag true)) := by
      simp [CallPhase.execute, hconn]
    exact ⟨_, _, hexec, trivial, Or.inr ⟨rfl, 0, rfl⟩, h.after _ _ _ _ hexec rfl rfl⟩

variable {q : ManagerQuery} {records : List HistoryRecord} {found n : ℕ}

/-- A query that fails its checks returns nothing, and that is its answer. -/
lemma query_advances (h : Dating dated dated' s t (.entered (.query q)))
    (hfits : s.manager.Settled) : (CallPhase.entered (.query q)).Advances dated' s := by
  have hrefused {initialized : Bool} (hinit : s.manager.initialized = initialized)
      (hanswer : q.answer env s.database initialized = ([], none)) :
      s.Answers env (.query q) (.page [] none) := by
    show _ = _
    rw [hinit, hanswer]
  rcases hfits with ⟨hinit, hconn⟩ | ⟨hinit, n, hconn⟩
  · exact ⟨s.manager, .returning _ (.page [] none), by simp [CallPhase.execute, hinit], trivial,
      Or.inl ⟨hinit, hconn⟩, h.before _ _ rfl (hrefused hinit answer_false)⟩
  · cases hrange : validateTimeRange q.range with
    | false =>
      exact ⟨s.manager, .returning _ (.page [] none),
        by simp [CallPhase.execute, hinit, hconn, hrange], trivial, Or.inr ⟨hinit, n, hconn⟩,
        h.before _ _ rfl (hrefused hinit (answer_of_invalid hrange true))⟩
    | true =>
      exact ⟨s.manager, .checked q, by simp [CallPhase.execute, hinit, hconn, hrange], trivial,
        hinit, hrange, n, hconn⟩

/-- `mysql_query` with the first statement. -/
lemma checked_advances (h : Dating dated dated' s t (.checked q))
    (hinit : s.manager.initialized = true) (hrange : validateTimeRange q.range = true)
    (hconn : s.manager.conn = some ⟨true, none, n⟩) :
    (CallPhase.checked q).Advances dated' s := by
  cases hrefused : (!q.calls.query || decide (q.offset < 0)) with
  | true =>
    refine ⟨s.manager, .returning _ (.page [] none),
      by simp only [CallPhase.execute, hconn, hrefused, if_true], trivial,
      Or.inr ⟨hinit, n, hconn⟩, h.before _ _ rfl ?_⟩
    show _ = _
    rw [hinit, answer_of_valid hrange, hrefused, if_pos rfl]
  | false =>
    refine ⟨{ s.manager with conn := some ⟨true, some (.rows (q.selected env s.database)),
      (q.rows env s.database).length⟩ }, .queried q, ?_, trivial, hinit, _, _, rfl,
      h.before _ _ rfl ⟨hinit, hrange, hrefused, rfl, rfl⟩⟩
    simp only [CallPhase.execute, hconn, hrefused, Bool.false_eq_true, if_false]

/-- `mysql_store_result`. -/
lemma queried_advances (h : Dating dated dated' s t (.queried q))
    (hinit : s.manager.initialized = true)
    (hconn : s.manager.conn = some ⟨true, some (.rows records), found⟩)
    (hsel : dated (.query q) (QuerySystem.Selects q records found)) :
    (CallPhase.queried q).Advances dated' s := by
  cases hstore : q.calls.storeResult with
  | false =>
    refine ⟨{ s.manager with conn := some ⟨true, none, found⟩ }, .returning _ (.page [] none),
      by simp [CallPhase.execute, hconn, hstore], trivial, Or.inr ⟨hinit, found, rfl⟩,
      h.mono _ _ _ (h.keep _ _ hsel) fun u hu => ?_⟩
    show _ = _
    rw [hu.answer, hstore]
    rfl
  | true =>
    exact ⟨{ s.manager with conn := some ⟨true, none, found⟩ }, .stored q records,
      by simp [CallPhase.execute, hconn, hstore], trivial, hinit, found, rfl, hstore,
      h.keep _ _ hsel⟩

/-- `mysql_query` in `FetchFoundRows`. -/
lemma stored_advances (h : Dating dated dated' s t (.stored q records))
    (hinit : s.manager.initialized = true) (hconn : s.manager.conn = some ⟨true, none, found⟩)
    (hstore : q.calls.storeResult = true)
    (hsel : dated (.query q) (QuerySystem.Selects q records found)) :
    (CallPhase.stored q records).Advances dated' s := by
  cases hcount : q.calls.foundRows with
  | false =>
    refine ⟨s.manager, .returning _ (.page records (some 0)),
      by simp [CallPhase.execute, hconn, hcount], trivial, Or.inr ⟨hinit, found, hconn⟩,
      h.mono _ _ _ (h.keep _ _ hsel) fun u hu => ?_⟩
    show _ = _
    rw [hu.answer, hstore, fetchFoundRows, hcount]
    rfl
  | true =>
    exact ⟨{ s.manager with conn := some ⟨true, some (.count found), 1⟩ }, .counting q records,
      by simp [CallPhase.execute, hconn, hcount], trivial, hinit, found, 1, rfl, hstore, hcount,
      h.keep _ _ hsel⟩

/-- The rest of `FetchFoundRows`. -/
lemma counting_advances (h : Dating dated dated' s t (.counting q records))
    (hinit : s.manager.initialized = true)
    (hconn : s.manager.conn = some ⟨true, some (.count found), n⟩)
    (hstore : q.calls.storeResult = true) (hcount : q.calls.foundRows = true)
    (hsel : dated (.query q) (QuerySystem.Selects q records found)) :
    (CallPhase.counting q records).Advances dated' s := by
  refine ⟨{ s.manager with conn := some ⟨true, none, n⟩ }, .returning _ (.page records
    (some (if !q.calls.storeFoundRows then 0 else toInt found))),
    by simp only [CallPhase.execute, hconn], trivial, Or.inr ⟨hinit, n, rfl⟩,
    h.mono _ _ _ (h.keep _ _ hsel) fun u hu => ?_⟩
  show _ = _
  rw [hu.answer, hstore, fetchFoundRows, hcount]
  simp only [Bool.not_true, Bool.false_eq_true, if_false]

/-- **One access.** A thread that finds what it relies on uses the client library by its rules, and
leaves what its next phase relies on. -/
lemma execute_fits {p : CallPhase} (h : Dating dated dated' s t p) (hwork : p.Working)
    (hfits : p.Fits dated s.manager) : p.Advances dated' s := by
  cases p with
  | idle | waiting | returning => exact hwork.elim
  | entered c =>
    cases c with
    | isInitialized => exact ⟨_, _, rfl, trivial, hfits, h.before _ _ rfl rfl⟩
    | close => exact ⟨_, _, rfl, trivial, Or.inl ⟨rfl, rfl⟩, h.after _ _ _ _ rfl rfl ⟨rfl, rfl⟩⟩
    | init => exact init_advances h hfits
    | query => exact query_advances h hfits
  | allocated => exact allocated_advances h hfits.1 hfits.2
  | checked q =>
    obtain ⟨hinit, hrange, n, hconn⟩ := hfits
    exact checked_advances h hinit hrange hconn
  | queried q =>
    obtain ⟨hinit, records, found, hconn, hsel⟩ := hfits
    exact queried_advances h hinit hconn hsel
  | stored q records =>
    obtain ⟨hinit, found, hconn, hstore, hsel⟩ := hfits
    exact stored_advances h hinit hconn hstore hsel
  | counting q records =>
    obtain ⟨hinit, found, last, hconn, hstore, hcount, hsel⟩ := hfits
    exact counting_advances h hinit hconn hstore hcount hsel

end Accesses

/-! ## Runs -/

variable {d : Database env.collate} {s s' : QuerySystem env θ} {a : QueryAction env θ}
  {es : List (QueryEvent θ)}

/-- What a step can do. -/
lemma QuerySystem.step_cases (h : (concurrentQueries env).step s a = some (s', es)) :
    (∃ d, a = .write d ∧ s' = { s with database := d } ∧ es = []) ∨
    (∃ t c, a = .call t c ∧ s.threads.phase t = .idle ∧
      s' = { s with threads := s.threads.moveTo t (.waiting c) } ∧ es = []) ∨
    (∃ t c, a = .run t ∧ s.threads.phase t = .waiting c ∧ s.threads.owner = none ∧
      s' = { s with threads := s.threads.acquire t (.entered c) } ∧ es = []) ∨
    (∃ t c r, a = .run t ∧ s.threads.phase t = .returning c r ∧
      s' = { s with threads := s.threads.release t .idle } ∧ es = [.replied t c r]) ∨
    (∃ t, a = .run t ∧ (s.threads.phase t).Working ∧
      (s.threads.phase t).execute env s.database s.manager = none ∧ es = [.misused t]) ∨
    (∃ t m p', a = .run t ∧ (s.threads.phase t).Working ∧
      (s.threads.phase t).execute env s.database s.manager = some (m, p') ∧
      s' = ⟨s.database, m, s.threads.moveTo t p'⟩ ∧ es = []) := by
  change s.step env a = _ at h
  cases a with
  | write d =>
    cases h
    exact Or.inl ⟨d, rfl, rfl, rfl⟩
  | call t c =>
    refine Or.inr (Or.inl ⟨t, c, rfl, ?_⟩)
    cases hp : s.threads.phase t with
    | idle =>
      simp only [QuerySystem.step, hp] at h
      cases h
      exact ⟨rfl, rfl, rfl⟩
    | _ => simp [QuerySystem.step, hp] at h
  | run t =>
    refine Or.inr (Or.inr ?_)
    cases hp : s.threads.phase t with
    | idle => simp [QuerySystem.step, hp] at h
    | waiting c =>
      simp only [QuerySystem.step, hp] at h
      split_ifs at h with howner
      cases h
      exact Or.inl ⟨t, c, rfl, hp, howner, rfl, rfl⟩
    | returning c r =>
      simp only [QuerySystem.step, hp] at h
      cases h
      exact Or.inr (Or.inl ⟨t, c, r, rfl, hp, rfl, rfl⟩)
    | entered | allocated | checked | queried | stored | counting =>
      refine Or.inr (Or.inr ?_)
      simp only [QuerySystem.step, hp] at h
      split at h
      · next hexec =>
        cases h
        exact Or.inl ⟨t, rfl, hp ▸ trivial, hp ▸ hexec, rfl⟩
      · next m p' hexec =>
        cases h
        exact Or.inr ⟨t, m, p', rfl, hp ▸ trivial, hp ▸ hexec, rfl, rfl⟩

/-- The action starts a call of thread `t`. -/
def StartsCall (t : θ) (a : QueryAction env θ) : Prop := ∃ c, a = .call t c

/-- `Q` held in a state of the run that thread `t` passed through during its call `c`. -/
def HeldDuring (d : Database env.collate) (as : List (QueryAction env θ)) (t : θ) (c : ManagerCall)
    (Q : QuerySystem env θ → Prop) : Prop :=
  (concurrentQueries env).HeldSince (StartsCall t)
    (fun s => (s.threads.phase t).call = some c ∧ Q s) (.start env d) as

/-- What holds after every run of `as`. -/
structure QuerySystem.Sound (d : Database env.collate) (as : List (QueryAction env θ))
    (s : QuerySystem env θ) : Prop where
  exclusive : s.threads.Exclusive CallPhase.Inside
  settled : s.threads.owner = none → s.manager.Settled
  fits : ∀ t, (s.threads.phase t).Fits (HeldDuring d as t) s.manager

variable {as : List (QueryAction env θ)} {t : θ}

/-- No action but a call of the thread lets what is dated be forgotten. -/
lemma HeldDuring.concat {c : ManagerCall} {Q : QuerySystem env θ → Prop}
    (h : HeldDuring d as t c Q) (ha : ¬ StartsCall t a) : HeldDuring d (as ++ [a]) t c Q :=
  EventMachine.HeldSince.concat h ha

lemma HeldDuring.mono {c : ManagerCall} {Q R : QuerySystem env θ → Prop}
    (h : HeldDuring d as t c Q) (hQR : ∀ s, Q s → R s) : HeldDuring d as t c R :=
  EventMachine.HeldSince.mono h fun u hu => ⟨hu.1, hQR u hu.2⟩

/-- The other threads go on relying on what they relied on. -/
lemma QuerySystem.Sound.fits_concat {u : θ} (h : s.Sound d as) (ha : ¬ StartsCall u a) :
    (s.threads.phase u).Fits (HeldDuring d (as ++ [a]) u) s.manager :=
  (h.fits u).mono fun _ _ hdated => hdated.concat ha

/-- A thread that is allowed its access makes it. -/
lemma step_run_of_execute {m : QueryManager} {p' : CallPhase}
    (hwork : (s.threads.phase t).Working)
    (hexec : (s.threads.phase t).execute env s.database s.manager = some (m, p')) :
    (concurrentQueries env).step s (.run t) =
      some (⟨s.database, m, s.threads.moveTo t p'⟩, []) := by
  show s.step env (.run t) = _
  cases hp : s.threads.phase t with
  | idle | waiting | returning =>
    rw [hp] at hwork
    exact hwork.elim
  | _ =>
    rw [hp] at hexec
    simp only [QuerySystem.step, hp, hexec]

/-- The thread's own access changes what is dated as it should. -/
lemma dating_run (hrun : (concurrentQueries env).run (.start env d) as = some (s, es))
    (hwork : (s.threads.phase t).Working) :
    Dating (HeldDuring d as t) (HeldDuring d (as ++ [.run t]) t) s t (s.threads.phase t) where
  keep c Q hdated := hdated.concat (by rintro ⟨c, hc⟩; cases hc)
  mono c Q R hdated hQR := hdated.mono hQR
  before c Q hc hQ :=
    (EventMachine.HeldSince.now hrun ⟨hc, hQ⟩).concat (by rintro ⟨c, hc⟩; cases hc)
  after c Q m p' hexec hc hQ := by
    have hone := ((concurrentQueries env).run_singleton _ _).trans (step_run_of_execute hwork hexec)
    refine EventMachine.HeldSince.now ((concurrentQueries env).run_append hrun hone) ⟨?_, hQ⟩
    simpa [Mutex.phase_moveTo] using hc

lemma sound_start (d : Database env.collate) :
    (QuerySystem.start env d : QuerySystem env θ).Sound d [] where
  exclusive t := ⟨fun h => h.elim, fun h => by cases h⟩
  settled _ := Or.inl ⟨rfl, rfl⟩
  fits _ := trivial

/-- **The step.** Whatever happens next, every thread finds what it relies on, and no thread misuses
the client library. -/
lemma QuerySystem.Sound.step (h : s.Sound d as)
    (hrun : (concurrentQueries env).run (.start env d) as = some (s, es))
    {fs : List (QueryEvent θ)} (ha : (concurrentQueries env).step s a = some (s', fs)) :
    s'.Sound d (as ++ [a]) ∧ ∀ t, .misused t ∉ fs := by
  rcases QuerySystem.step_cases ha with ⟨d, rfl, rfl, rfl⟩ | ⟨t, c, rfl, hp, rfl, rfl⟩ |
    ⟨t, c, rfl, hp, hfree, rfl, rfl⟩ | ⟨t, c, r, rfl, hp, rfl, rfl⟩ |
    ⟨t, rfl, hwork, hexec, rfl⟩ | ⟨t, m, p', rfl, hwork, hexec, rfl, rfl⟩
  · refine ⟨⟨h.exclusive, h.settled, fun u => h.fits_concat ?_⟩, by simp⟩
    rintro ⟨c, hc⟩
    cases hc
  · refine ⟨⟨h.exclusive.moveTo (by simp [hp, CallPhase.Inside]), h.settled, fun u => ?_⟩, by simp⟩
    by_cases hu : u = t
    · subst hu
      simp [Mutex.phase_moveTo, CallPhase.Fits]
    · simp only [Mutex.phase_moveTo, Function.update_of_ne hu]
      refine h.fits_concat ?_
      rintro ⟨c', hc⟩
      cases hc
      exact hu rfl
  · refine ⟨⟨h.exclusive.acquire hfree trivial, by simp, fun u => ?_⟩, by simp⟩
    by_cases hu : u = t
    · subst hu
      simpa [Mutex.phase_acquire, CallPhase.Fits] using h.settled hfree
    · simp only [Mutex.phase_acquire, Function.update_of_ne hu]
      refine h.fits_concat ?_
      rintro ⟨c', hc⟩
      cases hc
  · have hin : (s.threads.phase t).Inside := hp ▸ trivial
    have hfits := h.fits t
    rw [hp] at hfits
    refine ⟨⟨h.exclusive.release hin (fun h => h), fun _ => hfits.1, fun u => ?_⟩, by simp⟩
    by_cases hu : u = t
    · subst hu
      simp [Mutex.phase_release, CallPhase.Fits]
    · simp only [Mutex.phase_release, Function.update_of_ne hu]
      refine h.fits_concat ?_
      rintro ⟨c', hc⟩
      cases hc
  · obtain ⟨m, p', hsome, -, -⟩ := execute_fits (dating_run hrun hwork) hwork (h.fits t)
    rw [hexec] at hsome
    cases hsome
  · obtain ⟨m', q', hsome, hin, hfits⟩ := execute_fits (dating_run hrun hwork) hwork (h.fits t)
    rw [hexec] at hsome
    cases hsome
    refine ⟨⟨h.exclusive.moveTo (iff_of_true hin hwork.inside), fun hfree => ?_, fun u => ?_⟩,
      by simp⟩
    · have howner := (h.exclusive t).mp hwork.inside
      rw [show s.threads.owner = none from hfree] at howner
      cases howner
    · by_cases hu : u = t
      · subst hu
        simpa [Mutex.phase_moveTo] using hfits
      · simp only [Mutex.phase_moveTo, Function.update_of_ne hu]
        exact CallPhase.fits_of_not_inside fun huin => hu (h.exclusive.eq huin hwork.inside)

/-- After every run each thread finds what it relies on, and the connection has not been misused. -/
lemma run_sound (hrun : (concurrentQueries env).run (.start env d) as = some (s, es)) :
    s.Sound d as ∧ ∀ t, .misused t ∉ es := by
  refine (concurrentQueries env).run_induction
    (P := fun as s es => s.Sound d as ∧ ∀ t, .misused t ∉ es) ⟨sound_start d, by simp⟩ ?_ hrun
  rintro as s es a s' fs has ⟨hsound, hes⟩ ha
  obtain ⟨hsound', hfs⟩ := hsound.step has ha
  refine ⟨hsound', fun t ht => ?_⟩
  rcases List.mem_append.mp ht with ht | ht
  · exact hes t ht
  · exact hfs t ht

/-- **Concurrent queries are atomic.** However the threads interleave, and however the database is
changed meanwhile, the connection is never used when it is closed or has a result left to fetch; and
every reply, records and total count alike, is the answer of a single moment between the start of
its call and the reply.

**Proof sketch.** Between two accesses of the thread that holds the mutex only the database changes,
so the thread finds the connection as it left it. The answer is that of the moment of the first
statement; the count is kept in the session until `FOUND_ROWS()` asks for it. -/
theorem concurrentQueries_atomic
    (hrun : (concurrentQueries env).run (.start env d) as = some (s, es)) :
    (∀ t, .misused t ∉ es) ∧
      ∀ t c r fs, (concurrentQueries env).step s (.run t) = some (s', fs) → .replied t c r ∈ fs →
        HeldDuring d as t c fun u => u.Answers env c r := by
  obtain ⟨hsound, hes⟩ := run_sound hrun
  refine ⟨hes, fun t c r fs hstep hmem => ?_⟩
  rcases QuerySystem.step_cases hstep with ⟨_, ha, -⟩ | ⟨_, _, ha, -⟩ | ⟨_, _, -, -, -, -, rfl⟩ |
    ⟨t', c', r', ha, hp, -, rfl⟩ | ⟨_, -, -, -, rfl⟩ | ⟨_, _, _, -, -, -, -, rfl⟩
  · cases ha
  · cases ha
  · cases hmem
  · cases ha
    obtain ⟨-, rfl, rfl⟩ : t = t ∧ c = c' ∧ r = r' := by simpa using hmem
    have hfits := hsound.fits t
    rw [hp] at hfits
    exact hfits.2
  · simp at hmem
  · cases hmem

end Invariant

/-! ## A sample written during a query -/

/-- A query for the network details of server `h`. -/
def netDetailCall : ManagerQuery where
  query := .netDetail
  serverName := "h"
  range := ⟨0, 0⟩
  page := 1
  pageSize := 10
  calls := .succeed
  orders := ⟨id, id, id, id, id⟩

/-- The manager is initialized, and a sample is written between the two statements of a query. -/
def writeBetween : List (QueryAction utcEnv Bool) :=
  [.call true (.init true true), .run true, .run true, .run true, .run true,
    .call true (.query netDetailCall), .call false .close, .run true, .run true, .run true,
    .write twoInterfacesWritten.2.stored, .run true, .run true, .run true]

/-- The reply to it has no rows and says that there are none. -/
theorem concurrentQueries_atomic_writeBetween : ∃ s es s' c,
    (concurrentQueries utcEnv).run (.start utcEnv (.empty _)) writeBetween = some (s, es) ∧
      (concurrentQueries utcEnv).step s (.run true) =
        some (s', [.replied true c (.page [] (some 0))]) ∧
      HeldDuring (.empty _) writeBetween true c
        fun u => u.Answers utcEnv c (.page [] (some 0)) := by
  obtain ⟨s, es, hrun⟩ : ∃ s es, (concurrentQueries utcEnv).run
      (QuerySystem.start utcEnv (.empty _)) writeBetween = some (s, es) := ⟨_, _, rfl⟩
  have hreply : (match s.threads.phase true with
      | .returning _ r => decide (r = .page [] (some 0))
      | _ => false) = true := by
    cases hrun
    decide +kernel
  obtain ⟨c, s', hstep⟩ : ∃ c s', (concurrentQueries utcEnv).step s (.run true) =
      some (s', [.replied true c (.page [] (some 0))]) := by
    split at hreply
    · next c r hp =>
      rw [decide_eq_true_iff] at hreply
      refine ⟨c, { s with threads := s.threads.release true .idle }, ?_⟩
      show s.step utcEnv (.run true) = _
      simp only [QuerySystem.step, hp, hreply]
    · cases hreply
  exact ⟨s, es, s', c, hrun, hstep,
    (concurrentQueries_atomic hrun).2 true c _ _ hstep (List.mem_singleton.mpr rfl)⟩

end Monitor
