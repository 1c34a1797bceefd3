import PerfMonitor.Automaton.Run
import PerfMonitor.Manager.HostManager

set_option relaxedAutoImplicit false
set_option autoImplicit false

/-!
# Waking the write thread to stop it

`MysqlWriteLoop` waits on `mysql_queue_cv_` for `!running_ || !mysql_write_queue_.empty()`. It
evaluates the predicate while it holds `mysql_queue_mtx_`, and blocks, releasing the mutex, if the
predicate is false; a notification wakes it only while it is blocked. `EnqueueMysqlWrite` changes
the queue under the mutex. `Stop` clears `running_` without the mutex, so it can do that, and
notify, after the thread has evaluated the predicate and before it has blocked. Then nothing wakes
the thread any more, and `Stop` waits for it forever.

## Main definitions

* `Monitor.StopWakeup`, `Monitor.stopWakeup` — the write thread, calls of `EnqueueMysqlWrite`, and
  one call of `Stop`, with every access to shared state a step of its own.
* `Monitor.StopWakeup.Hung` — the thread is blocked with nothing to wake it.
* `Monitor.StopWakeup.NotifiesOutsideWindow` — `Stop` does not notify between the evaluation of
  the predicate and the blocking.

## Main results

* `Monitor.StopWakeup.never_hung_outside_window` — if `Stop` keeps out of the window the thread is
  never hung, and if it does not, the thread can hang.
-/

namespace Monitor

/-! ## The machine -/

/-- Where the write thread is. It holds the mutex in `locked`, `deciding` and `passed`. -/
inductive WaitPhase where
  /-- About to lock the mutex, at the start of an iteration or when woken. -/
  | outside
  /-- About to evaluate the predicate. -/
  | locked
  /-- The predicate was false: about to release the mutex and block. -/
  | deciding
  | blocked
  /-- The predicate was true: about to take a task or to leave the loop. -/
  | passed
  /-- With a task in hand. -/
  | working
  | finished
  deriving DecidableEq

/-- The write thread holds `mysql_queue_mtx_`. -/
def WaitPhase.holdsMutex : WaitPhase → Bool
  | .locked | .deciding | .passed => true
  | _ => false

/-- How far the call of `Stop` has got. -/
inductive StopPhase where
  | notStarted
  /-- `running_` is false. -/
  | cleared
  /-- `notify_all` has been called. -/
  | notified
  /-- The write thread has been joined. -/
  | joined
  deriving DecidableEq

/-- What the threads share, and where each of them is. -/
structure StopWakeup where
  running : Bool := true
  mysqlWriteQueue : List MysqlWriteTask := []
  phase : WaitPhase := .outside
  stop : StopPhase := .notStarted
  /-- Calls of `EnqueueMysqlWrite` that have not pushed their task yet. -/
  calls : List MysqlWriteTask := []
  /-- Calls that have pushed their task and still have to call `notify_one`. -/
  notifying : ℕ := 0

inductive StopWakeupAction where
  /-- `EnqueueMysqlWrite` is called; this happens before `Stop`. -/
  | call (task : MysqlWriteTask)
  /-- A call pushes its task, with the mutex locked. -/
  | push (task : MysqlWriteTask)
  | notifyOne
  | clearRunning
  | notifyAll
  | join
  | lock
  | evaluate
  | block
  | takeOrLeave
  | finishTask

namespace StopWakeup

/-- The write thread after a notification: only a blocked thread is woken. -/
def wake (s : StopWakeup) : StopWakeup :=
  if s.phase = .blocked then { s with phase := .outside } else s

/-- One access. -/
def step (s : StopWakeup) : StopWakeupAction → Option StopWakeup
  | .call task =>
    if s.stop = .notStarted then some { s with calls := s.calls ++ [task] } else none
  | .push task =>
    if task ∈ s.calls ∧ s.phase.holdsMutex = false then
      some { s with
        calls := s.calls.erase task
        mysqlWriteQueue := s.mysqlWriteQueue ++ [task]
        notifying := s.notifying + 1 }
    else none
  | .notifyOne =>
    if 0 < s.notifying then some { s.wake with notifying := s.notifying - 1 } else none
  | .clearRunning =>
    -- `running_.compare_exchange_strong(expected, false)`, without the mutex
    if s.stop = .notStarted ∧ s.running = true then
      some { s with running := false, stop := .cleared }
    else none
  | .notifyAll => if s.stop = .cleared then some { s.wake with stop := .notified } else none
  | .join =>
    if s.stop = .notified ∧ s.phase = .finished then some { s with stop := .joined } else none
  | .lock => if s.phase = .outside then some { s with phase := .locked } else none
  | .evaluate =>
    if s.phase = .locked then
      if s.running = false ∨ s.mysqlWriteQueue ≠ [] then some { s with phase := .passed }
      else some { s with phase := .deciding }
    else none
  | .block => if s.phase = .deciding then some { s with phase := .blocked } else none
  | .takeOrLeave =>
    if s.phase = .passed then
      if s.running = false ∧ s.mysqlWriteQueue = [] then some { s with phase := .finished }
      else
        match s.mysqlWriteQueue with
        | _ :: rest => some { s with phase := .working, mysqlWriteQueue := rest }
        | [] => none
    else none
  | .finishTask => if s.phase = .working then some { s with phase := .outside } else none

/-- `Stop` has notified, and the write thread is blocked with its predicate true because of the
running flag alone and no notification to come. -/
structure Hung (s : StopWakeup) : Prop where
  notified : s.stop = .notified
  blocked : s.phase = .blocked
  stopped : s.running = false
  empty : s.mysqlWriteQueue = []
  noCalls : s.calls = []
  noNotification : s.notifying = 0

/-- `notify_all` is not called between the evaluation of the predicate and the blocking. -/
def NotifiesOutsideWindow (s : StopWakeup) : StopWakeupAction → Prop
  | .notifyAll => s.phase ≠ .deciding
  | _ => True

/-- The write thread as `Start` creates it, with tasks in the queue. -/
def start (queue : List MysqlWriteTask) : StopWakeup := { mysqlWriteQueue := queue }

end StopWakeup

/-- The threads as an event machine; no events are shown. -/
def stopWakeup : EventMachine StopWakeup StopWakeupAction Unit where
  step s a := (s.step a).map fun s' => (s', [])

namespace StopWakeup

variable {s s' : StopWakeup} {a : StopWakeupAction} {as : List StopWakeupAction} {es : List Unit}
  {queue : List MysqlWriteTask}

lemma stopWakeup_step_iff : stopWakeup.step s a = some (s', es) ↔ s.step a = some s' ∧ es = [] := by
  simp only [stopWakeup, Option.map_eq_some_iff, Prod.mk.injEq]
  constructor
  · rintro ⟨_, hstep, rfl, rfl⟩
    exact ⟨hstep, rfl⟩
  · rintro ⟨hstep, rfl⟩
    exact ⟨s', hstep, rfl, rfl⟩

/-- What an access does, with the conditions under which it happens. -/
inductive Step (s : StopWakeup) : StopWakeupAction → StopWakeup → Prop where
  | call (task : MysqlWriteTask) (hstop : s.stop = .notStarted) :
      Step s (.call task) { s with calls := s.calls ++ [task] }
  | push (task : MysqlWriteTask) (hcall : task ∈ s.calls) (hfree : s.phase.holdsMutex = false) :
      Step s (.push task)
        { s with
          calls := s.calls.erase task
          mysqlWriteQueue := s.mysqlWriteQueue ++ [task]
          notifying := s.notifying + 1 }
  | notifyOne (hnotifying : 0 < s.notifying) :
      Step s .notifyOne { s.wake with notifying := s.notifying - 1 }
  | clearRunning (hstop : s.stop = .notStarted) (hrunning : s.running = true) :
      Step s .clearRunning { s with running := false, stop := .cleared }
  | notifyAll (hstop : s.stop = .cleared) : Step s .notifyAll { s.wake with stop := .notified }
  | join (hstop : s.stop = .notified) (hphase : s.phase = .finished) :
      Step s .join { s with stop := .joined }
  | lock (hphase : s.phase = .outside) : Step s .lock { s with phase := .locked }
  | evaluateTrue (hphase : s.phase = .locked)
      (hpred : s.running = false ∨ s.mysqlWriteQueue ≠ []) :
      Step s .evaluate { s with phase := .passed }
  | evaluateFalse (hphase : s.phase = .locked) (hrunning : s.running = true)
      (hempty : s.mysqlWriteQueue = []) : Step s .evaluate { s with phase := .deciding }
  | block (hphase : s.phase = .deciding) : Step s .block { s with phase := .blocked }
  | leave (hphase : s.phase = .passed) (hrunning : s.running = false)
      (hempty : s.mysqlWriteQueue = []) : Step s .takeOrLeave { s with phase := .finished }
  | take (hphase : s.phase = .passed) (task : MysqlWriteTask) (rest : List MysqlWriteTask)
      (hqueue : s.mysqlWriteQueue = task :: rest) :
      Step s .takeOrLeave { s with phase := .working, mysqlWriteQueue := rest }
  | finishTask (hphase : s.phase = .working) : Step s .finishTask { s with phase := .outside }

lemma step_cases (hstep : s.step a = some s') : Step s a s' := by
  cases a with
  | evaluate =>
    simp only [step] at hstep
    split_ifs at hstep with hphase hpred
    · cases hstep
      exact .evaluateTrue hphase hpred
    · cases hstep
      rw [not_or, Bool.not_eq_false, not_not] at hpred
      exact .evaluateFalse hphase hpred.1 hpred.2
  | takeOrLeave =>
    simp only [step] at hstep
    split_ifs at hstep with hphase hleave
    · cases hstep
      exact .leave hphase hleave.1 hleave.2
    · split at hstep
      · cases hstep
        exact .take hphase _ _ ‹_›
      · cases hstep
  | push | clearRunning | join =>
    simp only [step] at hstep
    split_ifs at hstep with h
    cases hstep
    constructor
    · exact h.1
    · exact h.2
  | call | notifyOne | notifyAll | lock | block | finishTask =>
    simp only [step] at hstep
    split_ifs at hstep with h
    cases hstep
    constructor
    exact h

/-! ## Invariants -/

/-- The running flag is what `Stop` has made of it, and a predicate found false stays false, but for
the running flag, as long as the mutex is held. -/
structure Consistent (s : StopWakeup) : Prop where
  running : s.running = true ↔ s.stop = .notStarted
  empty : s.phase = .deciding → s.mysqlWriteQueue = []

/-- After `notify_all` the write thread neither is blocked nor will be. -/
structure Awake (s : StopWakeup) : Prop where
  deciding : s.stop = .notified → s.phase ≠ .deciding
  blocked : s.stop = .notified → s.phase ≠ .blocked

lemma wake_phase_ne_blocked : s.wake.phase ≠ .blocked := by
  unfold wake
  split_ifs with h
  · exact WaitPhase.noConfusion
  · exact h

lemma wake_phase_eq_deciding_iff : s.wake.phase = .deciding ↔ s.phase = .deciding := by
  unfold wake
  split_ifs with h
  · simp [h]
  · rfl

@[simp] lemma wake_running : s.wake.running = s.running := by unfold wake; split_ifs <;> rfl
@[simp] lemma wake_stop : s.wake.stop = s.stop := by unfold wake; split_ifs <;> rfl
@[simp] lemma wake_queue : s.wake.mysqlWriteQueue = s.mysqlWriteQueue := by
  unfold wake; split_ifs <;> rfl

/-- Every access keeps the state consistent. -/
lemma Consistent.step (h : Consistent s) (hstep : s.step a = some s') : Consistent s' := by
  obtain ⟨hrunning, hempty⟩ := h
  cases step_cases hstep with
  | push task hcall hfree =>
    refine ⟨hrunning, fun hphase => ?_⟩
    -- the mutex is free, so the thread is not in the window
    have hheld : s.phase.holdsMutex = true := by rw [show s.phase = .deciding from hphase]; rfl
    exact absurd (hfree.symm.trans hheld) Bool.false_ne_true
  | notifyOne hnotifying =>
    refine ⟨by simpa using hrunning, fun hphase => ?_⟩
    simpa using hempty (wake_phase_eq_deciding_iff.mp hphase)
  | notifyAll hstop =>
    refine ⟨by simp [hrunning, hstop], fun hphase => ?_⟩
    simpa using hempty (wake_phase_eq_deciding_iff.mp hphase)
  | evaluateFalse _ _ hqueue => exact ⟨hrunning, fun _ => hqueue⟩
  | clearRunning hstop _ => exact ⟨by simp, hempty⟩
  | join hstop _ => exact ⟨by simp [hrunning, hstop], hempty⟩
  | call _ _ => exact ⟨hrunning, hempty⟩
  | lock | evaluateTrue | block | leave | take | finishTask =>
    exact ⟨hrunning, fun hphase => WaitPhase.noConfusion hphase⟩

/-- If `notify_all` keeps out of the window, the write thread stays awake after it. -/
lemma Awake.step (h : Awake s) (hs : Consistent s) (hout : NotifiesOutsideWindow s a)
    (hstep : s.step a = some s') : Awake s' := by
  obtain ⟨hdeciding, hblocked⟩ := h
  cases step_cases hstep with
  | notifyAll _ =>
    refine ⟨fun _ hphase => hout (wake_phase_eq_deciding_iff.mp hphase), fun _ => ?_⟩
    exact wake_phase_ne_blocked
  | notifyOne _ =>
    refine ⟨fun hstop hphase => ?_, fun _ => wake_phase_ne_blocked⟩
    exact hdeciding (wake_stop.symm.trans hstop) (wake_phase_eq_deciding_iff.mp hphase)
  | evaluateFalse _ hrunning _ =>
    -- the flag was found true, so `Stop` has not even cleared it
    have hstop := hs.running.mp hrunning
    refine ⟨fun hnotified => ?_, fun _ => WaitPhase.noConfusion⟩
    exact absurd (hstop.symm.trans hnotified) (by decide)
  | block hphase =>
    exact ⟨fun _ => WaitPhase.noConfusion, fun hstop => absurd hphase (hdeciding hstop)⟩
  | clearRunning | join =>
    exact ⟨fun hstop => StopPhase.noConfusion hstop, fun hstop => StopPhase.noConfusion hstop⟩
  | call | push => exact ⟨hdeciding, hblocked⟩
  | lock | evaluateTrue | leave | take | finishTask =>
    exact ⟨fun _ => WaitPhase.noConfusion, fun _ => WaitPhase.noConfusion⟩

/-- In every run the state stays consistent. -/
lemma run_consistent (hrun : stopWakeup.run (start queue) as = some (s, es)) : Consistent s := by
  refine stopWakeup.run_invariant (A := fun _ => True) ?_ ⟨by simp [start], ?_⟩
    (fun _ _ => trivial) hrun
  · intro s a s' fs _ h hstep
    exact h.step (stopWakeup_step_iff.mp hstep).1
  · exact fun hphase => WaitPhase.noConfusion hphase

/-- In every run in which `notify_all` keeps out of the window, the write thread stays awake after
it. -/
lemma run_awake (hrun : stopWakeup.run (start queue) as = some (s, es))
    (hout : stopWakeup.Meets NotifiesOutsideWindow (start queue) as) : Awake s := by
  refine (stopWakeup.run_invariant_of_meets (I := fun s => Consistent s ∧ Awake s)
    ?_ ⟨run_consistent (stopWakeup.run_nil _), ?_⟩ hout hrun).2
  · intro s a s' fs hC ⟨hs, h⟩ hstep
    have hone := (stopWakeup_step_iff.mp hstep).1
    exact ⟨hs.step hone, h.step hs hC hone⟩
  · exact ⟨fun hstop => StopPhase.noConfusion hstop, fun hstop => StopPhase.noConfusion hstop⟩

/-! ## Hanging -/

/-- A hung thread hangs forever, and so does `Stop`: nothing can happen any more. -/
lemma Hung.stuck (h : Hung s) (a : StopWakeupAction) : s.step a = none := by
  obtain ⟨hstop, hphase, -, -, hcalls, hnotifying⟩ := h
  cases a <;> simp [step, hstop, hphase, hcalls, hnotifying]

/-- Notifying in the window is in vain: the thread blocks afterwards. -/
lemma hung_of_notify_in_window (hs : Consistent s) (hstop : s.stop = .cleared)
    (hphase : s.phase = .deciding) (hcalls : s.calls = []) (hnotifying : s.notifying = 0) :
    ∃ s', stopWakeup.run s [.notifyAll, .block] = some (s', []) ∧ Hung s' := by
  have hwake : s.wake = s := if_neg fun hblocked =>
    WaitPhase.noConfusion (hphase.symm.trans hblocked)
  have hrunning : s.running = false := by
    rw [← Bool.not_eq_true, hs.running, hstop]
    exact StopPhase.noConfusion
  refine ⟨{ s with stop := .notified, phase := .blocked }, ?_, ?_⟩
  · simp [EventMachine.run, stopWakeup, step, hstop, hwake, hphase]
  · exact ⟨rfl, rfl, hrunning, hs.empty hphase, hcalls, hnotifying⟩

/-- **When `Stop` can lose the wake-up.** In every run of the write thread, calls of
`EnqueueMysqlWrite` and `Stop`: if `notify_all` is never called between the evaluation of the
predicate and the blocking, the thread is not hung. If the thread is in this window when `Stop`
is about to call it, and no call of `EnqueueMysqlWrite` still has to notify, then the call may
come first, the thread hangs, and nothing can happen any more.

**Proof sketch.** A predicate found false says that the flag was still set, so before `notify_all`
the thread is awake, in the window, or blocked and about to be woken. Outside the window the
call leaves it awake, and it finds the predicate true from then on (`Awake.step`). -/
theorem never_hung_outside_window (hrun : stopWakeup.run (start queue) as = some (s, es)) :
    (stopWakeup.Meets NotifiesOutsideWindow (start queue) as → ¬ Hung s) ∧
      (s.stop = .cleared → s.phase = .deciding → s.calls = [] → s.notifying = 0 →
        ∃ s', stopWakeup.run s [.notifyAll, .block] = some (s', []) ∧ Hung s' ∧
          ∀ a, stopWakeup.step s' a = none) := by
  constructor
  · intro hout hhung
    exact (run_awake hrun hout).blocked hhung.notified hhung.blocked
  · intro hstop hphase hcalls hnotifying
    obtain ⟨s', hend, hhung⟩ :=
      hung_of_notify_in_window (run_consistent hrun) hstop hphase hcalls hnotifying
    refine ⟨s', hend, hhung, fun a => ?_⟩
    exact Option.map_eq_none_iff.mpr (hhung.stuck a)

/-- The thread finds the queue empty, and `Stop` clears the flag. -/
def windowActions : List StopWakeupAction := [.lock, .evaluate, .clearRunning]

/-- The thread is in the window when `Stop` is about to notify. -/
lemma run_windowActions :
    stopWakeup.run (start []) windowActions =
      some ({ phase := .deciding, running := false, stop := .cleared }, []) := rfl

/-- The flag is cleared while the thread is in the window. -/
theorem never_hung_outside_window_in_window :
    ∃ s es, stopWakeup.run (start []) windowActions = some (s, es) ∧
      (stopWakeup.Meets NotifiesOutsideWindow (start []) windowActions → ¬ Hung s) ∧
      ∃ s', stopWakeup.run s [.notifyAll, .block] = some (s', []) ∧ Hung s' ∧
        ∀ a, stopWakeup.step s' a = none := by
  obtain ⟨hsafe, hhang⟩ := never_hung_outside_window run_windowActions
  exact ⟨_, _, run_windowActions, hsafe, hhang rfl rfl rfl rfl⟩

/-- **`Stop` can lose the wake-up**: it notifies while the thread, having seen the flag still set
and the queue empty, is about to block. -/
theorem stop_loses_wakeup :
    ¬ ∀ (queue : List MysqlWriteTask) (as : List StopWakeupAction) (s : StopWakeup)
      (es : List Unit), stopWakeup.run (start queue) as = some (s, es) → ¬ Hung s := by
  intro halways
  refine halways [] (windowActions ++ [.notifyAll, .block])
    { phase := .blocked, running := false, stop := .notified } [] rfl ?_
  exact ⟨rfl, rfl, rfl, rfl, rfl, rfl⟩

end StopWakeup

end Monitor
