import PerfMonitor.Automaton.Run
import PerfMonitor.Proto.MonitorInfo
import PerfMonitor.Worker.RingBuffer

set_option relaxedAutoImplicit false
set_option autoImplicit false

/-!
# The push loop of a worker

`MonitorPusher` (`worker/src/rpc/monitor_pusher.cpp`) with the sequence counter of its
`MetricCollector`. What a `SetMonitorInfo` call does and whether its answer arrives is up to the
world outside, which `PushData` is a parameter for: a function on a state `ω` of that world. The
samples collected, the outcomes of `PushData` and the samples overwritten in the buffer are shown
as events.

`collect_seq_` is seeded with the time in milliseconds and counts on in 64 bits; a natural number
stands for it.

## Main definitions

* `Monitor.Worker` — a worker process and the world it talks to.
* `Monitor.Worker.flushBacklog`, `Monitor.Worker.pushOnce`, `Monitor.Worker.iteration` — the parts
  of `PushLoop`.
* `Monitor.worker` — the push loop as an event machine, one iteration a step.

## Main results

* `Monitor.Worker.send_cases` — a send delivers the sample or pushes it into the buffer.
* `Monitor.Worker.replay_spec`, `Monitor.Worker.flushPhase_spec` — replaying delivers some of the
  samples and keeps the others, in order.
* `Monitor.Worker.iteration_world` — what an iteration does to the world outside.
-/

namespace Monitor

/-- A worker process, and the state of the world outside it. -/
structure Worker (ω : Type) where
  hostname : String
  collectSeq : ℕ
  backlog : RingBuffer MonitorInfo 120
  world : ω

/-- What a worker does that can be told from outside. -/
inductive WorkerEvent where
  /-- A sample was collected. -/
  | collected (info : MonitorInfo)
  /-- `PushData` returned this for the sample. -/
  | pushed (info : MonitorInfo) (ok : Bool)
  /-- The sample was overwritten in the buffer. -/
  | evicted (info : MonitorInfo)

namespace Worker

variable {ω : Type} (pushData : ω → MonitorInfo → Bool × ω)

/-- A worker process as it starts. -/
def start (hostname : String) (seed : ℕ) (world : ω) : Worker ω :=
  { hostname := hostname, collectSeq := seed, backlog := .new, world := world }

/-- The samples in the buffer, oldest first. -/
def items (w : Worker ω) : List MonitorInfo := w.backlog.toQueue.items

/-- `CollectAll`. What the monitors fill in is taken from `metrics`. -/
def collectAll (w : Worker ω) (metrics : MonitorInfo) : MonitorInfo × Worker ω :=
  ({ metrics with name := w.hostname, sequence := w.collectSeq + 1 },
    { w with collectSeq := w.collectSeq + 1 })

/-- `backlog_.Push`. -/
def keep (w : Worker ω) (info : MonitorInfo) : Worker ω × List WorkerEvent :=
  ({ w with backlog := w.backlog.push info }, w.backlog.toQueue.evicted.toList.map .evicted)

/-- `PushData`, and `backlog_.Push` if it fails: what `FlushBacklog` does for each drained sample
and `PushOnce` for the new one. -/
def send (w : Worker ω) (info : MonitorInfo) : Worker ω × List WorkerEvent :=
  let (ok, world) := pushData w.world info
  if ok then ({ w with world := world }, [.pushed info true])
  else
    let (w, es) := keep { w with world := world } info
    (w, .pushed info false :: es)

/-- The loop of `FlushBacklog`. -/
def replay (w : Worker ω) : List MonitorInfo → Worker ω × List WorkerEvent
  | [] => (w, [])
  | info :: pending =>
    let (w, es) := w.send pushData info
    let (w, es') := w.replay pending
    (w, es ++ es')

/-- `FlushBacklog`. -/
def flushBacklog (w : Worker ω) : Worker ω × List WorkerEvent :=
  let (pending, drained) := w.backlog.drain
  replay pushData { w with backlog := drained } pending

/-- The first part of an iteration: `FlushBacklog` unless the buffer is empty. -/
def flushPhase (w : Worker ω) : Worker ω × List WorkerEvent :=
  if w.backlog.isEmpty then (w, []) else w.flushBacklog pushData

/-- `PushOnce`. -/
def pushOnce (w : Worker ω) (metrics : MonitorInfo) : Worker ω × List WorkerEvent :=
  let (info, w) := w.collectAll metrics
  let (w, es) := w.send pushData info
  (w, .collected info :: es)

/-- One iteration of `PushLoop`. -/
def iteration (w : Worker ω) (metrics : MonitorInfo) : Worker ω × List WorkerEvent :=
  let (w, es) := w.flushPhase pushData
  let (w, es') := w.pushOnce pushData metrics
  (w, es ++ es')

end Worker

/-- The push loop: one iteration a step, with what the monitors read in it. -/
def worker {ω : Type} (pushData : ω → MonitorInfo → Bool × ω) :
    EventMachine (Worker ω) MonitorInfo WorkerEvent :=
  ⟨fun w metrics => some (w.iteration pushData metrics)⟩

lemma worker_step_iff {ω : Type} {pushData : ω → MonitorInfo → Bool × ω} {w w' : Worker ω}
    {metrics : MonitorInfo} {es : List WorkerEvent} :
    (worker pushData).step w metrics = some (w', es) ↔
      w' = (w.iteration pushData metrics).1 ∧ es = (w.iteration pushData metrics).2 := by
  unfold worker
  rw [Option.some.injEq, eq_comm, Prod.ext_iff]

lemma worker_run_singleton {ω : Type} (pushData : ω → MonitorInfo → Bool × ω) (w : Worker ω)
    (metrics : MonitorInfo) :
    (worker pushData).run w [metrics] =
      some ((w.iteration pushData metrics).1, (w.iteration pushData metrics).2) :=
  ((worker pushData).run_singleton w metrics).trans (worker_step_iff.mpr ⟨rfl, rfl⟩)

/-! ## Samples in events -/

/-- The samples collected. -/
def collected (es : List WorkerEvent) : List MonitorInfo :=
  es.filterMap fun | .collected info => some info | _ => none

/-- The samples `PushData` returned true for. -/
def delivered (es : List WorkerEvent) : List MonitorInfo :=
  es.filterMap fun | .pushed info true => some info | _ => none

/-- The samples overwritten in the buffer. -/
def evicted (es : List WorkerEvent) : List MonitorInfo :=
  es.filterMap fun | .evicted info => some info | _ => none

section Events

variable (es fs : List WorkerEvent) (l : List MonitorInfo) (info : MonitorInfo) (ok : Bool)

@[simp] lemma collected_nil : collected [] = [] := rfl
@[simp] lemma delivered_nil : delivered [] = [] := rfl
@[simp] lemma evicted_nil : evicted [] = [] := rfl

@[simp] lemma collected_append : collected (es ++ fs) = collected es ++ collected fs :=
  List.filterMap_append
@[simp] lemma delivered_append : delivered (es ++ fs) = delivered es ++ delivered fs :=
  List.filterMap_append
@[simp] lemma evicted_append : evicted (es ++ fs) = evicted es ++ evicted fs :=
  List.filterMap_append

@[simp] lemma collected_cons_collected : collected (.collected info :: es) = info :: collected es :=
  rfl
@[simp] lemma delivered_cons_collected : delivered (.collected info :: es) = delivered es := rfl
@[simp] lemma evicted_cons_collected : evicted (.collected info :: es) = evicted es := rfl

@[simp] lemma collected_cons_pushed : collected (.pushed info ok :: es) = collected es := rfl
@[simp] lemma delivered_cons_true :
    delivered (.pushed info true :: es) = info :: delivered es := rfl
@[simp] lemma delivered_cons_false : delivered (.pushed info false :: es) = delivered es := rfl
@[simp] lemma evicted_cons_pushed : evicted (.pushed info ok :: es) = evicted es := rfl

@[simp] lemma collected_map_evicted : collected (l.map .evicted) = [] := by
  induction l with
  | nil => rfl
  | cons x l ih => exact ih
@[simp] lemma delivered_map_evicted : delivered (l.map .evicted) = [] := by
  induction l with
  | nil => rfl
  | cons x l ih => exact ih
@[simp] lemma evicted_map_evicted : evicted (l.map .evicted) = l := by
  induction l with
  | nil => rfl
  | cons x l ih => exact congrArg (x :: ·) ih

end Events

namespace Worker

variable {ω : Type} (pushData : ω → MonitorInfo → Bool × ω) (w : Worker ω) (info : MonitorInfo)

/-! ## Sending -/

/-- A send delivers the sample or pushes it into the buffer. -/
lemma send_cases :
    ((w.send pushData info).1 = { w with world := (pushData w.world info).2 } ∧
      (w.send pushData info).2 = [.pushed info true]) ∨
    ((w.send pushData info).1 =
        { w with backlog := w.backlog.push info, world := (pushData w.world info).2 } ∧
      (w.send pushData info).2 =
        .pushed info false :: w.backlog.toQueue.evicted.toList.map .evicted) := by
  unfold send keep
  rcases pushData w.world info with ⟨_ | _, world⟩
  · exact Or.inr ⟨rfl, rfl⟩
  · exact Or.inl ⟨rfl, rfl⟩

/-- A send moves neither the name nor the counter and collects nothing. -/
lemma send_frame :
    (w.send pushData info).1.hostname = w.hostname ∧
      (w.send pushData info).1.collectSeq = w.collectSeq ∧
      collected (w.send pushData info).2 = [] := by
  rcases w.send_cases pushData info with ⟨hw, hes⟩ | ⟨hw, hes⟩ <;> rw [hw, hes] <;> simp

/-- What the buffer, the deliveries and the evictions are after a send. -/
lemma send_spec :
    ((w.send pushData info).1.items = w.items ∧ delivered (w.send pushData info).2 = [info] ∧
      evicted (w.send pushData info).2 = []) ∨
    ((w.send pushData info).1.items = (w.backlog.toQueue.push info).items ∧
      delivered (w.send pushData info).2 = [] ∧
      evicted (w.send pushData info).2 = w.backlog.toQueue.evicted.toList) := by
  rcases w.send_cases pushData info with ⟨hw, hes⟩ | ⟨hw, hes⟩
  · rw [hw, hes]
    exact Or.inl ⟨rfl, rfl, rfl⟩
  · rw [hw, hes]
    refine Or.inr ⟨?_, by simp, by simp⟩
    rw [items, RingBuffer.toQueue_push]

/-! ## Replaying -/

/-- **Replaying delivers some samples and keeps the others, in order**, as long as there is room
for all.

**Proof sketch.** Induction on the samples. Each one is delivered or takes one of the free places
counted for it, so no push finds the buffer full. -/
lemma replay_spec (pending : List MonitorInfo) (w : Worker ω)
    (hroom : w.items.length + pending.length ≤ 120) :
    ∃ failed, failed.Sublist pending ∧ (w.replay pushData pending).1.items = w.items ++ failed ∧
      (delivered (w.replay pushData pending).2 ++ failed).Perm pending ∧
      evicted (w.replay pushData pending).2 = [] ∧
      collected (w.replay pushData pending).2 = [] ∧
      (w.replay pushData pending).1.hostname = w.hostname ∧
      (w.replay pushData pending).1.collectSeq = w.collectSeq := by
  induction pending generalizing w with
  | nil => exact ⟨[], .slnil, by simp [replay], by simp [replay], rfl, rfl, rfl, rfl⟩
  | cons info pending ih =>
    simp only [List.length_cons] at hroom
    have hfree : w.backlog.toQueue.items.length < 120 := by
      have hlen : w.items.length = w.backlog.toQueue.items.length := rfl
      omega
    obtain ⟨hname, hseq, hcol⟩ := w.send_frame pushData info
    simp only [replay, delivered_append, evicted_append, collected_append, hcol, List.nil_append]
    rcases w.send_spec pushData info with ⟨hitems, hdel, hev⟩ | ⟨hitems, hdel, hev⟩
    · obtain ⟨failed, hsub, hkept, hperm, hev', hcol', hname', hseq'⟩ :=
        ih (w.send pushData info).1 (by rw [hitems]; omega)
      refine ⟨failed, hsub.cons info, by rw [hkept, hitems], ?_, by rw [hev, hev']; rfl, hcol',
        hname'.trans hname, hseq'.trans hseq⟩
      rw [hdel]
      exact hperm.cons info
    · rw [BoundedQueue.push_items_of_lt hfree] at hitems
      rw [BoundedQueue.evicted_of_lt hfree] at hev
      obtain ⟨failed, hsub, hkept, hperm, hev', hcol', hname', hseq'⟩ :=
        ih (w.send pushData info).1 (by
          rw [hitems, List.length_append, List.length_singleton]
          have hlen : w.items.length = w.backlog.toQueue.items.length := rfl
          omega)
      refine ⟨info :: failed, hsub.cons_cons info, ?_, ?_, by rw [hev, hev']; rfl, hcol',
        hname'.trans hname, hseq'.trans hseq⟩
      · rw [hkept, hitems, List.append_assoc]
        rfl
      · rw [hdel, List.nil_append]
        exact List.perm_middle.trans (hperm.cons info)

/-- **The flush of an iteration** delivers some of the samples in the buffer and keeps the others,
in order, and evicts none. -/
lemma flushPhase_spec :
    (w.flushPhase pushData).1.items.Sublist w.items ∧
      (delivered (w.flushPhase pushData).2 ++ (w.flushPhase pushData).1.items).Perm w.items ∧
      evicted (w.flushPhase pushData).2 = [] ∧ collected (w.flushPhase pushData).2 = [] ∧
      (w.flushPhase pushData).1.hostname = w.hostname ∧
      (w.flushPhase pushData).1.collectSeq = w.collectSeq := by
  unfold flushPhase
  split_ifs
  · exact ⟨.refl _, .refl _, rfl, rfl, rfl, rfl⟩
  · obtain ⟨failed, hsub, hkept, hperm, hev, hcol, hname, hseq⟩ :=
      replay_spec pushData w.items { w with backlog := w.backlog.drain.2 } (by
        have hle := w.backlog.toQueue.length_le
        have hempty : ({ w with backlog := w.backlog.drain.2 } : Worker ω).items = [] := rfl
        rw [hempty, List.length_nil, Nat.zero_add]
        exact hle)
    have hflush : w.flushBacklog pushData =
        replay pushData { w with backlog := w.backlog.drain.2 } w.items := rfl
    rw [hflush]
    have hitems : (replay pushData { w with backlog := w.backlog.drain.2 } w.items).1.items =
        failed := hkept.trans (List.nil_append failed)
    rw [hitems]
    exact ⟨hsub, hperm, hev, hcol, hname, hseq⟩

/-! ## The world along an iteration -/

/-- The new sample of an iteration. -/
def newSample (metrics : MonitorInfo) : MonitorInfo := (w.collectAll metrics).1

lemma pushOnce_eq (metrics : MonitorInfo) :
    w.pushOnce pushData metrics =
      ((send pushData (w.collectAll metrics).2 (w.newSample metrics)).1,
        .collected (w.newSample metrics) ::
          (send pushData (w.collectAll metrics).2 (w.newSample metrics)).2) := rfl

lemma send_world : (w.send pushData info).1.world = (pushData w.world info).2 := by
  rcases w.send_cases pushData info with ⟨hw, -⟩ | ⟨hw, -⟩ <;> rw [hw]

/-- The world after `PushData` of each of some samples. -/
def pushAll (world : ω) (l : List MonitorInfo) : ω := l.foldl (fun e x => (pushData e x).2) world

lemma replay_world (pending : List MonitorInfo) (w : Worker ω) :
    (w.replay pushData pending).1.world = pushAll pushData w.world pending := by
  induction pending generalizing w with
  | nil => rfl
  | cons info pending ih =>
    simp only [replay, pushAll, List.foldl_cons]
    rw [ih, send_world]
    rfl

lemma iteration_eq (metrics : MonitorInfo) :
    w.iteration pushData metrics =
      (((w.flushPhase pushData).1.pushOnce pushData metrics).1,
        (w.flushPhase pushData).2 ++ ((w.flushPhase pushData).1.pushOnce pushData metrics).2) := rfl

/-- The flush does not change what the new sample will be. -/
lemma newSample_flushPhase (metrics : MonitorInfo) :
    (w.flushPhase pushData).1.newSample metrics = w.newSample metrics := by
  obtain ⟨-, -, -, -, hname, hseq⟩ := w.flushPhase_spec pushData
  simp only [newSample, collectAll, hname, hseq]

/-- An iteration collects one sample. -/
lemma collected_iteration (metrics : MonitorInfo) :
    collected (w.iteration pushData metrics).2 = [w.newSample metrics] := by
  obtain ⟨-, -, -, hcol, -⟩ := w.flushPhase_spec pushData
  obtain ⟨-, -, hsend⟩ := send_frame pushData ((w.flushPhase pushData).1.collectAll metrics).2
    ((w.flushPhase pushData).1.newSample metrics)
  rw [iteration_eq, pushOnce_eq, collected_append, hcol, collected_cons_collected, hsend,
    newSample_flushPhase, List.nil_append]

/-- **An iteration sends the samples in the buffer, in order, and then the new one.** -/
lemma iteration_world (metrics : MonitorInfo) :
    (w.iteration pushData metrics).1.world =
      pushAll pushData w.world (w.items ++ [w.newSample metrics]) := by
  have hflush : (w.flushPhase pushData).1.world = pushAll pushData w.world w.items := by
    unfold flushPhase
    split_ifs with hempty
    · rw [items, (w.backlog.isEmpty_iff).mp hempty]
      rfl
    · exact replay_world pushData w.items { w with backlog := w.backlog.drain.2 }
  have hpush : (w.iteration pushData metrics).1.world =
      (pushData (w.flushPhase pushData).1.world
        ((w.flushPhase pushData).1.newSample metrics)).2 := by
    rw [iteration_eq, pushOnce_eq, send_world]
    rfl
  rw [hpush, newSample_flushPhase, hflush, pushAll, pushAll, List.foldl_append]
  rfl

end Worker

end Monitor
