import PerfMonitor.Manager.MysqlWriteLoop

set_option relaxedAutoImplicit false
set_option autoImplicit false

/-!
# A sample is written as a whole or not at all

A call to MySQL can fail anywhere in `WriteToMysql`, the `ROLLBACK` of its error exits included. The
write thread then closes the connection, which discards whatever the transaction has done, so the
tables only ever hold whole samples and every task finds the session without an open transaction.

## Main results

* `Monitor.MysqlWriter.run_session` — the session in every reachable state: the tables are what
  the insertions of the committed tasks make of them, and no transaction is open.
* `Monitor.MysqlWriter.write_atomic` — one task's write.
-/

namespace Monitor

variable {γ : Type} [DecidableEq γ] {collate : List UInt8 → γ} {localtime : ℤ → Tm}

/-- Successful writes execute all insertions of all their tasks, in order. -/
lemma session_writtenAll {tasks : List MysqlWriteTask} {s s₁ : Session (Database collate)}
    (h : WrittenAll localtime tasks s s₁) (hs : s.working = none) :
    s₁ = ⟨tasks.foldl (fun d task => d.insertTask localtime task) s.stored, none⟩ := by
  induction h with
  | nil s => rw [List.foldl_nil, ← hs]
  | cons hwrite hrest ih =>
    have hone := writeToMysql_of_true hs (congrArg Prod.fst hwrite)
    rw [hwrite] at hone
    dsimp only at hone
    rw [List.foldl_cons, ih (congrArg Session.working hone), hone]

namespace MysqlWriter

variable {s s' : MysqlWriter collate} {as : List WriterAction} {es fs : List WriterEvent}
  {m : HostManager} {stored : Database collate} {ok : ℕ → Bool}

/-- **The tables hold whole samples.** In every state the write thread reaches, with any calls to
MySQL failing, the tables are what the insertions of the committed tasks make of the tables at the
start, and no transaction is open. -/
theorem run_session (hrun : (mysqlWriteLoop localtime).run (start m stored) as = some (s, es)) :
    s.session =
      ⟨(committedTasks es).foldl (fun d task => d.insertTask localtime task) stored, none⟩ :=
  session_writtenAll (run_writtenAll hrun) rfl

/-- **A task is written as a whole or not at all.** In every state the write thread reaches no
transaction is open. When it writes a task there, with any calls failing, then afterwards the
tables are the result of all the task's insertions if `WriteToMysql` returned true and are
unchanged otherwise, and again no transaction is open.

**Proof sketch.** The session before is known from `run_session`. A write that returns true has
executed and committed every statement (`writeToMysql_of_true`); after one that returns false the
connection is closed, which undoes it even if its own rollback failed
(`rollback_writeToMysql`). -/
theorem write_atomic (hrun : (mysqlWriteLoop localtime).run (start m stored) as = some (s, es)) :
    s.session.working = none ∧
      ∀ ok s' fs, (mysqlWriteLoop localtime).step s (.write ok) = some (s', fs) →
        ∃ task, s.phase = .writing task ∧ s'.session.working = none ∧
          s'.session.stored =
            if (writeToMysql localtime ok task s.session).1 then
              s.session.stored.insertTask localtime task
            else s.session.stored := by
  have hwork : s.session.working = none := by rw [run_session hrun]
  refine ⟨hwork, fun ok s' fs hstep => ?_⟩
  cases mysqlWriteLoop_step_iff.mp hstep with
  | write _ task hphase hconn hok =>
    have hwritten := writeToMysql_of_true hwork hok
    refine ⟨task, hphase, ?_, ?_⟩
    · dsimp only
      rw [hwritten]
    · rw [if_pos hok]
      dsimp only
      rw [hwritten]
  | writeFailed _ task hphase hconn hok =>
    have hundone := rollback_writeToMysql hwork hok
    refine ⟨task, hphase, ?_, ?_⟩
    · dsimp only
      rw [hundone, hwork]
    · rw [hok, if_neg Bool.false_ne_true]
      dsimp only
      rw [hundone]

/-- One task is connected for and written; its `COMMIT` fails and then its `ROLLBACK`. -/
theorem write_atomic_failing_commit :
    ∃ s es s' fs task,
      (mysqlWriteLoop epoch).run freshStart (connectActions fun _ => true) = some (s, es) ∧
      (mysqlWriteLoop epoch).step s (.write fun n => decide (n < 3)) = some (s', fs) ∧
      s.session.working = none ∧ s.phase = .writing task ∧ s'.session.working = none ∧
      s'.session.stored =
        if (writeToMysql epoch (fun n => decide (n < 3)) task s.session).1 then
          s.session.stored.insertTask epoch task
        else s.session.stored := by
  have hsome : ((mysqlWriteLoop epoch).run freshStart (connectActions (fun _ => true) ++
      [.write fun n => decide (n < 3)])).isSome = true := by decide +kernel
  obtain ⟨⟨s', es'⟩, hrun'⟩ := Option.isSome_iff_exists.mp hsome
  obtain ⟨s, es, fs, hrun, hstep, -⟩ := (mysqlWriteLoop epoch).run_append_iff.mp hrun'
  rw [EventMachine.run_singleton] at hstep
  obtain ⟨hwork, hwrite⟩ := write_atomic hrun
  obtain ⟨task, hphase, hwork', hstored⟩ := hwrite _ s' fs hstep
  exact ⟨s, es, s', fs, task, hrun, hstep, hwork, hphase, hwork', hstored⟩

end MysqlWriter

end Monitor
