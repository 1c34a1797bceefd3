import PerfMonitor.Manager.Service
import PerfMonitor.Manager.WriteToMysql

set_option relaxedAutoImplicit false
set_option autoImplicit false

/-!
# The MySQL write thread

`HostManager::MysqlWriteLoop` (`manager/src/host_manager.cpp`). An iteration takes the task at the
front of `mysql_write_queue_`, connects if there is no connection, and writes the task in one
transaction. A task whose connection attempt or write fails is gone with the iteration: it is
neither put back nor tried again.

## Main definitions

* `Monitor.connectAndPrepare` — the connection attempt with its five prepared statements.
* `Monitor.MysqlWriter`, `Monitor.mysqlWriteLoop` — the thread as an event machine, with other
  threads enqueueing tasks and calling `Stop`.
* `Monitor.MysqlWriter.NoTaskLost` — every task taken is committed or being written.

## Main results

* `Monitor.MysqlWriter.run_taken` — tasks are taken in the order they were enqueued.
* `Monitor.MysqlWriter.run_writtenAll` — the tables hold what the committed tasks wrote.
* `Monitor.MysqlWriter.no_task_lost_iff` — exactly when no task is lost.
-/

namespace Monitor

/-! ## Connecting -/

/-- `Prepare` of one statement, its calls `mysql_stmt_init`, `mysql_stmt_prepare` and
`mysql_stmt_bind_param` being numbered from `n` on. -/
def prepare (ok : ℕ → Bool) (n : ℕ) : Bool := ok n && ok (n + 1) && ok (n + 2)

/-- `connect_and_prepare` when there is no connection, `ok n` telling whether its `n`th call
succeeds. -/
def connectAndPrepare (ok : ℕ → Bool) : Bool :=
  -- `mysql_init` and `mysql_real_connect`; what `mysql_set_character_set` returns is ignored
  ok 0 && ok 1 &&
    -- the statements for the main table, CPUs, interfaces, disks and processes
    prepare ok 2 && prepare ok 5 && prepare ok 8 && prepare ok 11 && prepare ok 14

/-- The number of calls of a successful connection attempt. -/
def connectCalls : ℕ := 17

lemma connectAndPrepare_eq_true_iff {ok : ℕ → Bool} :
    connectAndPrepare ok = true ↔ ∀ n < connectCalls, ok n = true := by
  simp only [connectAndPrepare, prepare, connectCalls, Bool.and_eq_true, Nat.forall_lt_succ_right,
    Nat.not_lt_zero, false_implies, implies_true, true_and, and_assoc]

/-! ## The machine -/

/-- Where the loop is: waiting for a task, with a task in hand, or returned. -/
inductive WriterPhase where
  | waiting
  | writing (task : MysqlWriteTask)
  | finished
  deriving DecidableEq

/-- The task in hand. -/
def WriterPhase.current : WriterPhase → List MysqlWriteTask
  | .writing task => [task]
  | _ => []

section Machine

variable {γ : Type} [DecidableEq γ] {collate : List UInt8 → γ}

/-- The queue (in the manager's memory), the running flag, the loop, and the database as its
connection sees it. -/
structure MysqlWriter (collate : List UInt8 → γ) where
  manager : HostManager := {}
  running : Bool := true
  phase : WriterPhase := .waiting
  connected : Bool := false
  session : Session (Database collate)

/-- A locked section or an attempt of the write thread, `EnqueueMysqlWrite`, or `Stop`. -/
inductive WriterAction where
  | enqueue (task : MysqlWriteTask)
  | stop
  | take
  | exit
  | connect (ok : ℕ → Bool)
  | write (ok : ℕ → Bool)

inductive WriterEvent where
  /-- A task left the queue. -/
  | taken (task : MysqlWriteTask)
  /-- A task was committed. -/
  | committed (task : MysqlWriteTask)
  /-- `connect_and_prepare` returned false. -/
  | connectFailed
  /-- `WriteToMysql` returned false for a task of this host. -/
  | writeFailed (host : String)

/-- The tasks that have left the queue. -/
def takenTasks (es : List WriterEvent) : List MysqlWriteTask :=
  es.filterMap fun
    | .taken task => some task
    | _ => none

/-- The tasks that have been committed. -/
def committedTasks (es : List WriterEvent) : List MysqlWriteTask :=
  es.filterMap fun
    | .committed task => some task
    | _ => none

lemma takenTasks_append (es fs : List WriterEvent) :
    takenTasks (es ++ fs) = takenTasks es ++ takenTasks fs :=
  List.filterMap_append

lemma committedTasks_append (es fs : List WriterEvent) :
    committedTasks (es ++ fs) = committedTasks es ++ committedTasks fs :=
  List.filterMap_append

namespace MysqlWriter

/-- One section or attempt. -/
def step (localtime : ℤ → Tm) (s : MysqlWriter collate) :
    WriterAction → Option (MysqlWriter collate × List WriterEvent)
  | .enqueue task => some ({ s with manager := s.manager.enqueueMysqlWrite task }, [])
  | .stop => some ({ s with running := false }, [])
  | .take =>
    match s.phase, s.manager.mysqlWriteQueue with
    | .waiting, task :: rest =>
      some ({ s with
              manager := { s.manager with mysqlWriteQueue := rest }
              phase := .writing task },
        [.taken task])
    | _, _ => none
  | .exit =>
    if s.phase = .waiting ∧ s.running = false ∧ s.manager.mysqlWriteQueue = [] then
      some ({ s with phase := .finished, connected := false, session := s.session.rollback }, [])
    else none
  | .connect ok =>
    match s.phase, s.connected with
    | .writing _, false =>
      if connectAndPrepare ok then some ({ s with connected := true }, [])
      -- `continue`: the local variable `task` goes out of scope
      else some ({ s with phase := .waiting }, [.connectFailed])
    | _, _ => none
  | .write ok =>
    match s.phase, s.connected with
    | .writing task, true =>
      match writeToMysql localtime ok task s.session with
      | (true, session) =>
        some ({ s with phase := .waiting, session := session }, [.committed task])
      | (false, session) =>
        some ({ s with phase := .waiting, connected := false, session := session.rollback },
          [.writeFailed task.hostName])
    | _, _ => none

/-- The steps as a relation. -/
inductive Step (localtime : ℤ → Tm) (s : MysqlWriter collate) :
    WriterAction → MysqlWriter collate → List WriterEvent → Prop where
  | enqueue (task : MysqlWriteTask) :
    Step localtime s (.enqueue task) { s with manager := s.manager.enqueueMysqlWrite task } []
  | stop : Step localtime s .stop { s with running := false } []
  | take (task : MysqlWriteTask) (rest : List MysqlWriteTask) (hphase : s.phase = .waiting)
      (hqueue : s.manager.mysqlWriteQueue = task :: rest) :
    Step localtime s .take
      { s with manager := { s.manager with mysqlWriteQueue := rest }, phase := .writing task }
      [.taken task]
  | exit (hphase : s.phase = .waiting) (hstop : s.running = false)
      (hqueue : s.manager.mysqlWriteQueue = []) :
    Step localtime s .exit
      { s with phase := .finished, connected := false, session := s.session.rollback } []
  | connect (ok : ℕ → Bool) (task : MysqlWriteTask) (hphase : s.phase = .writing task)
      (hconn : s.connected = false) (hok : connectAndPrepare ok = true) :
    Step localtime s (.connect ok) { s with connected := true } []
  | connectFailed (ok : ℕ → Bool) (task : MysqlWriteTask) (hphase : s.phase = .writing task)
      (hconn : s.connected = false) (hok : connectAndPrepare ok = false) :
    Step localtime s (.connect ok) { s with phase := .waiting } [.connectFailed]
  | write (ok : ℕ → Bool) (task : MysqlWriteTask) (hphase : s.phase = .writing task)
      (hconn : s.connected = true) (hok : (writeToMysql localtime ok task s.session).1 = true) :
    Step localtime s (.write ok)
      { s with phase := .waiting, session := (writeToMysql localtime ok task s.session).2 }
      [.committed task]
  | writeFailed (ok : ℕ → Bool) (task : MysqlWriteTask) (hphase : s.phase = .writing task)
      (hconn : s.connected = true) (hok : (writeToMysql localtime ok task s.session).1 = false) :
    Step localtime s (.write ok)
      { s with
        phase := .waiting
        connected := false
        session := (writeToMysql localtime ok task s.session).2.rollback }
      [.writeFailed task.hostName]

variable {localtime : ℤ → Tm} {s s' : MysqlWriter collate} {a : WriterAction}
  {as : List WriterAction} {es : List WriterEvent}

/-- **What one step can do**: the relation describes the step function. -/
theorem step_iff : s.step localtime a = some (s', es) ↔ Step localtime s a s' es := by
  constructor
  · intro h
    cases a with
    | enqueue task => cases h; exact .enqueue task
    | stop => cases h; exact .stop
    | take =>
      simp only [step] at h
      split at h
      · next task rest hphase hqueue => cases h; exact .take task rest hphase hqueue
      · cases h
    | exit =>
      simp only [step] at h
      split_ifs at h with hexit
      cases h
      exact .exit hexit.1 hexit.2.1 hexit.2.2
    | connect ok =>
      simp only [step] at h
      split at h
      · next task hphase hconn =>
        split_ifs at h with hok
        · cases h
          exact .connect ok task hphase hconn hok
        · cases h
          exact .connectFailed ok task hphase hconn (Bool.eq_false_iff.mpr hok)
      · cases h
    | write ok =>
      simp only [step] at h
      split at h
      · next task hphase hconn =>
        rcases hwrite : writeToMysql localtime ok task s.session with ⟨_ | _, session⟩
        · rw [hwrite] at h
          cases h
          have hstep := Step.writeFailed ok task hphase hconn (congrArg Prod.fst hwrite)
          rwa [hwrite] at hstep
        · rw [hwrite] at h
          cases h
          have hstep := Step.write ok task hphase hconn (congrArg Prod.fst hwrite)
          rwa [hwrite] at hstep
      · cases h
  · intro h
    cases h with
    | enqueue task => rfl
    | stop => rfl
    | take task rest hphase hqueue => simp [step, hphase, hqueue]
    | exit hphase hstop hqueue => simp [step, hphase, hstop, hqueue]
    | connect ok task hphase hconn hok => simp [step, hphase, hconn, hok]
    | connectFailed ok task hphase hconn hok => simp [step, hphase, hconn, hok]
    | write ok task hphase hconn hok =>
      rcases hwrite : writeToMysql localtime ok task s.session with ⟨b, session⟩
      rw [hwrite] at hok
      cases hok
      simp [step, hphase, hconn, hwrite]
    | writeFailed ok task hphase hconn hok =>
      rcases hwrite : writeToMysql localtime ok task s.session with ⟨b, session⟩
      rw [hwrite] at hok
      cases hok
      simp [step, hphase, hconn, hwrite]

end MysqlWriter

/-- The write thread and its callers as an event machine. -/
def mysqlWriteLoop (localtime : ℤ → Tm) :
    EventMachine (MysqlWriter collate) WriterAction WriterEvent where
  step s a := s.step localtime a

namespace MysqlWriter

variable {localtime : ℤ → Tm} {s s' : MysqlWriter collate} {a : WriterAction}
  {as : List WriterAction} {es : List WriterEvent} {m : HostManager} {stored : Database collate}

lemma mysqlWriteLoop_step_iff :
    (mysqlWriteLoop localtime).step s a = some (s', es) ↔ Step localtime s a s' es :=
  step_iff

/-- The thread as `Start` creates it. -/
def start (m : HostManager) (stored : Database collate) : MysqlWriter collate where
  manager := m
  session := ⟨stored, none⟩

/-! ## What the tables hold -/

/-- A step writes the tasks it commits and leaves no transaction open. -/
lemma Step.writtenAll (hstep : Step localtime s a s' es) (hs : s.session.working = none) :
    WrittenAll localtime (committedTasks es) s.session s'.session ∧
      s'.session.working = none := by
  cases hstep with
  | enqueue | stop | take | connect | connectFailed => exact ⟨.nil _, hs⟩
  | exit =>
    have hsame : s.session.rollback = s.session := by rw [Session.rollback, ← hs]
    rw [hsame]
    exact ⟨.nil _, hs⟩
  | write ok task hphase hconn hok =>
    exact ⟨.cons (Prod.ext hok rfl) (.nil _), (performance_writeToMysql hs hok).2⟩
  | writeFailed ok task hphase hconn hok =>
    dsimp only
    rw [rollback_writeToMysql hs hok]
    exact ⟨.nil _, hs⟩

/-- **The tables hold what the committed tasks wrote**: successful writes of these tasks, one after
the other, lead from the tables at the start to those of any reachable state. -/
theorem run_writtenAll (hrun : (mysqlWriteLoop localtime).run (start m stored) as = some (s, es)) :
    WrittenAll localtime (committedTasks es) ⟨stored, none⟩ s.session := by
  refine ((mysqlWriteLoop localtime).run_induction (P := fun _ s es =>
    WrittenAll localtime (committedTasks es) ⟨stored, none⟩ s.session ∧
      s.session.working = none) ⟨.nil _, rfl⟩ ?_ hrun).1
  intro as s es a s' fs _ ⟨hwritten, hwork⟩ hstep
  obtain ⟨hnew, hwork'⟩ := (mysqlWriteLoop_step_iff.mp hstep).writtenAll hwork
  rw [committedTasks_append]
  exact ⟨hwritten.append hnew, hwork'⟩

/-! ## The queue -/

/-- The tasks that an action enqueues. -/
def enqueuedTasks (as : List WriterAction) : List MysqlWriteTask :=
  as.filterMap fun
    | .enqueue task => some task
    | _ => none

/-- **Tasks are taken in the order they were enqueued.** -/
theorem run_taken (hrun : (mysqlWriteLoop localtime).run (start m stored) as = some (s, es)) :
    takenTasks es ++ s.manager.mysqlWriteQueue = m.mysqlWriteQueue ++ enqueuedTasks as := by
  refine (mysqlWriteLoop localtime).run_induction (P := fun as s es =>
    takenTasks es ++ s.manager.mysqlWriteQueue = m.mysqlWriteQueue ++ enqueuedTasks as) ?_ ?_ hrun
  · exact (List.append_nil _).symm
  · intro as s es a s' fs _ h hstep
    have henq : enqueuedTasks (as ++ [a]) = enqueuedTasks as ++ enqueuedTasks [a] :=
      List.filterMap_append
    rw [takenTasks_append, henq, ← List.append_assoc, ← h]
    cases mysqlWriteLoop_step_iff.mp hstep with
    | enqueue task => simp [takenTasks, enqueuedTasks, HostManager.enqueueMysqlWrite]
    | take task rest _ hqueue => simp [takenTasks, enqueuedTasks, hqueue]
    | _ => simp [takenTasks, enqueuedTasks]

/-! ## Losing tasks -/

/-- Every task that has left the queue is committed or in hand, each as often as it was taken. -/
def NoTaskLost (s : MysqlWriter collate) (es : List WriterEvent) : Prop :=
  (committedTasks es ++ s.phase.current).Perm (takenTasks es)

/-- Every call that the attempt makes to MySQL succeeds. -/
def CallsSucceed (s : MysqlWriter collate) : WriterAction → Prop
  | .connect ok => ∀ n < connectCalls, ok n = true
  | .write ok => ∀ task, s.phase = .writing task → ∀ n < writeCalls task, ok n = true
  | _ => True

instance : ∀ (s : MysqlWriter collate) a, Decidable (CallsSucceed s a)
  | _, .connect ok => inferInstanceAs (Decidable (∀ n < connectCalls, ok n = true))
  | s, .write ok =>
    match hphase : s.phase with
    | .writing task =>
      decidable_of_iff (∀ n < writeCalls task, ok n = true) <| by
        simp only [CallsSucceed, hphase, WriterPhase.writing.injEq, forall_eq']
    | .waiting | .finished => isTrue fun task htask => by simp [hphase] at htask
  | _, .enqueue _ | _, .stop | _, .take | _, .exit => isTrue trivial

/-- A step drops a task exactly when a call of its attempt fails.

**Proof sketch.** Only the two failing branches end an iteration without a commit, and by
`connectAndPrepare_eq_true_iff` and `writeToMysql_eq_true_iff` they are taken when a call
fails. -/
lemma Step.dropped (hstep : Step localtime s a s' es) :
    ∃ dropped, (takenTasks es ++ s.phase.current).Perm
        (committedTasks es ++ dropped ++ s'.phase.current) ∧
      (dropped = [] ↔ CallsSucceed s a) := by
  cases hstep with
  | enqueue | stop => exact ⟨[], .refl _, by simp [CallsSucceed]⟩
  | take task rest hphase | exit hphase =>
    rw [hphase]
    exact ⟨[], .refl _, by simp [CallsSucceed]⟩
  | connect ok task hphase hconn hok =>
    exact ⟨[], .refl _, by simpa [CallsSucceed] using connectAndPrepare_eq_true_iff.mp hok⟩
  | connectFailed ok task hphase hconn hok =>
    rw [hphase]
    refine ⟨[task], .refl _, ?_⟩
    simp only [List.cons_ne_nil, CallsSucceed, ← connectAndPrepare_eq_true_iff, hok,
      Bool.false_eq_true]
  | write ok task hphase hconn hok =>
    rw [hphase]
    refine ⟨[], .refl _, iff_of_true rfl fun task' htask => ?_⟩
    obtain rfl : task = task' := WriterPhase.writing.inj (hphase.symm.trans htask)
    exact writeToMysql_eq_true_iff.mp hok
  | writeFailed ok task hphase hconn hok =>
    rw [hphase]
    refine ⟨[task], .refl _, iff_of_false (List.cons_ne_nil _ _) fun hall => ?_⟩
    rw [writeToMysql_eq_true_iff.mpr (hall task hphase)] at hok
    exact absurd hok (by decide)

/-- In every run the tasks taken are those committed, those dropped and the one in hand, and
none is dropped exactly when every call succeeds. -/
lemma run_dropped (hrun : (mysqlWriteLoop localtime).run (start m stored) as = some (s, es)) :
    ∃ dropped, (takenTasks es).Perm (committedTasks es ++ dropped ++ s.phase.current) ∧
      (dropped = [] ↔ (mysqlWriteLoop localtime).Meets CallsSucceed (start m stored) as) := by
  refine (mysqlWriteLoop localtime).run_induction (P := fun as s es =>
    ∃ dropped, (takenTasks es).Perm (committedTasks es ++ dropped ++ s.phase.current) ∧
      (dropped = [] ↔ (mysqlWriteLoop localtime).Meets CallsSucceed (start m stored) as))
    ⟨[], .refl _, iff_of_true rfl (EventMachine.meets_nil _ _)⟩ ?_ hrun
  intro as s es a s' fs hrun ⟨dropped, hperm, hmeets⟩ hstep
  obtain ⟨now, hnow, hcalls⟩ := (mysqlWriteLoop_step_iff.mp hstep).dropped
  refine ⟨dropped ++ now, List.perm_iff_count.mpr fun x => ?_, ?_⟩
  · have hx := hperm.count_eq x
    have hy := hnow.count_eq x
    rw [takenTasks_append, committedTasks_append]
    simp only [List.count_append] at hx hy ⊢
    omega
  · rw [List.append_eq_nil_iff, hmeets, hcalls, EventMachine.meets_concat_iff hrun]

/-- **When no task is lost.** In every state the write thread reaches, with any tasks enqueued and
any calls to MySQL failing, every task that has left the queue is committed or in hand exactly
when every call that the attempts so far have made to MySQL succeeded. -/
theorem no_task_lost_iff
    (hrun : (mysqlWriteLoop localtime).run (start m stored) as = some (s, es)) :
    NoTaskLost s es ↔ (mysqlWriteLoop localtime).Meets CallsSucceed (start m stored) as := by
  obtain ⟨dropped, hperm, hmeets⟩ := run_dropped hrun
  rw [← hmeets, NoTaskLost]
  constructor
  · intro hkept
    have hlen := (hkept.trans hperm).length_eq
    simp only [List.length_append] at hlen
    exact List.length_eq_zero_iff.mp (by omega)
  · rintro rfl
    rw [List.append_nil] at hperm
    exact hperm.symm

end MysqlWriter

end Machine

/-! ## Runs of the thread -/

/-- The write task of a report that carries no metrics. -/
def idleTask (host : String) (seq : ℕ) : MysqlWriteTask :=
  HostManager.writeTask host ⟨idleInfo host seq, 100, 0⟩ {}

/-- The clock at the epoch. -/
def epoch (_ : ℤ) : Tm := ⟨70, 0, 1, 0, 0, 0⟩

namespace MysqlWriter

/-- The tables right after initialisation, names compared byte by byte. -/
def freshStart : MysqlWriter (id : List UInt8 → List UInt8) := start {} (.empty id)

/-- One task is enqueued and taken, and the connection attempt goes as `ok` says. -/
def connectActions (ok : ℕ → Bool) : List WriterAction :=
  [.enqueue (idleTask "a" 1), .take, .connect ok]

/-- Three tasks of two hosts: the first one is written, the calls to write the second one go as `ok`
says, and the third one is taken. -/
def threeTasks (ok : ℕ → Bool) : List WriterAction :=
  connectActions (fun _ => true) ++ [.write fun _ => true, .enqueue (idleTask "b" 1),
    .enqueue (idleTask "a" 2), .take, .write ok, .take]

/-- Nothing is lost while all calls succeed; one failing call loses the second task. -/
theorem no_task_lost_iff_three_tasks :
    (∃ s es, (mysqlWriteLoop epoch).run freshStart (threeTasks fun _ => true) = some (s, es) ∧
      committedTasks es = [idleTask "a" 1, idleTask "b" 1] ∧
      s.phase = .writing (idleTask "a" 2) ∧ NoTaskLost s es) ∧
    ∃ s es, (mysqlWriteLoop epoch).run freshStart (threeTasks fun n => n != 1) = some (s, es) ∧
      committedTasks es = [idleTask "a" 1] ∧ s.phase = .writing (idleTask "a" 2) ∧
      ¬ NoTaskLost s es := by
  constructor
  · have hend : ((mysqlWriteLoop epoch).run freshStart (threeTasks fun _ => true)).map
        (fun p => (committedTasks p.2, p.1.phase)) =
        some ([idleTask "a" 1, idleTask "b" 1], .writing (idleTask "a" 2)) := by
      decide +kernel
    obtain ⟨⟨s, es⟩, hrun, hs⟩ := Option.map_eq_some_iff.mp hend
    simp only [Prod.mk.injEq] at hs
    exact ⟨s, es, hrun, hs.1, hs.2, (no_task_lost_iff hrun).mpr (by decide +kernel)⟩
  · have hend : ((mysqlWriteLoop epoch).run freshStart (threeTasks fun n => n != 1)).map
        (fun p => (committedTasks p.2, p.1.phase)) =
        some ([idleTask "a" 1], .writing (idleTask "a" 2)) := by
      decide +kernel
    obtain ⟨⟨s, es⟩, hrun, hs⟩ := Option.map_eq_some_iff.mp hend
    simp only [Prod.mk.injEq] at hs
    exact ⟨s, es, hrun, hs.1, hs.2, mt (no_task_lost_iff hrun).mp (by decide +kernel)⟩

/-- **A task is lost when the connection attempt fails**: it has left the queue, is not committed
and not in hand. -/
theorem failed_connect_loses_task :
    ¬ ∀ (localtime : ℤ → Tm) (m : HostManager) (stored : Database (id : List UInt8 → List UInt8))
      (as : List WriterAction) (s : MysqlWriter id) (es : List WriterEvent),
      (mysqlWriteLoop localtime).run (start m stored) as = some (s, es) → NoTaskLost s es := by
  intro halways
  have hend : ((mysqlWriteLoop epoch).run freshStart (connectActions fun _ => false)).map
      (fun p => (takenTasks p.2, committedTasks p.2, p.1.phase)) =
      some ([idleTask "a" 1], [], .waiting) := by decide +kernel
  obtain ⟨⟨s, es⟩, hrun, hs⟩ := Option.map_eq_some_iff.mp hend
  simp only [Prod.mk.injEq] at hs
  obtain ⟨htaken, hcommitted, hphase⟩ := hs
  have hlost := (halways epoch {} (.empty id) _ s es hrun).length_eq
  rw [htaken, hcommitted, hphase] at hlost
  exact absurd hlost (by decide)

end MysqlWriter

end Monitor
