import Mathlib.Data.List.Chain
import PerfMonitor.Worker.MonitorPusher

set_option relaxedAutoImplicit false
set_option autoImplicit false

/-!
# Sequences across restarts

`MetricCollector` (`worker/src/monitor/metric_collector.cpp`) seeds `collect_seq_` with the wall
clock in milliseconds when it is constructed and counts on by one for every sample. The counter
runs ahead of its seed, but by no more than the clock does, as long as samples are a millisecond
apart.

## Main definitions

* `Monitor.ClockReading` — what `system_clock` shows.
* `Monitor.MetricCollector` — the collector of a worker process.
* `Monitor.CollectorAction`, `Monitor.metricCollector` — the processes of one host, one after the
  other, as an event machine.
* `Monitor.CollectorAction.Paced` — what the clock does from one action to the next.

## Main results

* `Monitor.MetricCollector.collectAll_eq` — the counter of a worker stands for that of a collector.
* `Monitor.MetricCollector.run_numbered` — the counter stays within the clock, over all processes.
* `Monitor.MetricCollector.run_increasing` — all samples of a host have increasing sequences.
-/

namespace Monitor

/-- A reading of `system_clock`: the nanoseconds since the epoch, which no reading precedes, as a
signed number of 64 bits. -/
abbrev ClockReading := Fin (2 ^ 63)

/-- `duration_cast<milliseconds>` of the time since the epoch. -/
def ClockReading.millis (now : ClockReading) : ℕ := now.val / 1000000

/-- The fields of `MetricCollector` that samples are numbered with. -/
structure MetricCollector where
  hostname : String
  collectSeq : UInt64
  deriving DecidableEq, Repr

namespace MetricCollector

/-- The constructor, `gethostname` giving a name or failing. -/
def new (gethostname : Option String) (now : ClockReading) : MetricCollector where
  hostname := gethostname.getD "unknown"
  collectSeq := UInt64.ofNat now.millis

/-- `CollectAll`. What the monitors fill in is taken from `metrics`. -/
def collectAll (c : MetricCollector) (metrics : MonitorInfo) : MonitorInfo × MetricCollector :=
  let seq := c.collectSeq + 1
  ({ metrics with name := c.hostname, sequence := seq.toNat }, { c with collectSeq := seq })

/-- The natural number that counts the samples of a worker stands for the counter of a collector, as
long as this does not overflow. -/
lemma collectAll_eq {ω : Type} {c : MetricCollector} {w : Worker ω}
    (hname : w.hostname = c.hostname) (hseq : w.collectSeq = c.collectSeq.toNat)
    (hlt : c.collectSeq.toNat + 1 < 2 ^ 64)
    (metrics : MonitorInfo) :
    (c.collectAll metrics).1 = (w.collectAll metrics).1 ∧
      (c.collectAll metrics).2.collectSeq.toNat = (w.collectAll metrics).2.collectSeq := by
  have hnext : (c.collectSeq + 1).toNat = w.collectSeq + 1 := by
    rw [UInt64.toNat_add, hseq]
    exact Nat.mod_eq_of_lt hlt
  refine ⟨?_, hnext⟩
  show ({ metrics with name := c.hostname, sequence := (c.collectSeq + 1).toNat } : MonitorInfo) =
    { metrics with name := w.hostname, sequence := w.collectSeq + 1 }
  rw [hname, hnext]

end MetricCollector

/-! ## The processes of a host -/

/-- What happens to the collectors of a host. -/
inductive CollectorAction where
  /-- A worker process starts; any process before it is gone. -/
  | construct (now : ClockReading) (gethostname : Option String)
  /-- The process takes a sample. -/
  | collectAll (now : ClockReading) (metrics : MonitorInfo)

namespace CollectorAction

/-- The wall clock at an action. -/
def now : CollectorAction → ClockReading
  | construct now _ => now
  | collectAll now _ => now

/-- The first millisecond that the next action can fall into. -/
def ready : CollectorAction → ℕ
  | construct now _ => now.millis
  | collectAll now _ => now.millis + 1

/-- From one action to the next the wall clock does not step back, and after a sample it advances by
at least a millisecond. -/
def Paced : CollectorAction → CollectorAction → Prop
  | construct now _, b => now ≤ b.now
  | collectAll now _, b => now.val + 1000000 ≤ b.now.val

/-- The next action does not fall into an earlier millisecond. -/
lemma Paced.ready_le {a b : CollectorAction} (h : Paced a b) : a.ready ≤ b.now.millis := by
  cases a with
  | construct now host =>
    have hle : now.val ≤ b.now.val := h
    show now.val / 1000000 ≤ b.now.val / 1000000
    omega
  | collectAll now metrics =>
    have hle : now.val + 1000000 ≤ b.now.val := h
    show now.val / 1000000 + 1 ≤ b.now.val / 1000000
    omega

end CollectorAction

/-- The collectors of a host. The state is the collector of the running process, the events are the
samples. -/
def metricCollector : EventMachine (Option MetricCollector) CollectorAction MonitorInfo where
  step
    | _, .construct now gethostname => some (some (.new gethostname now), [])
    | none, .collectAll _ _ => none
    | some c, .collectAll _ metrics =>
      some (some (c.collectAll metrics).2, [(c.collectAll metrics).1])

namespace MetricCollector

variable {c : Option MetricCollector} {actions : List CollectorAction} {samples : List MonitorInfo}

lemma millis_lt (now : ClockReading) : now.millis + 2 < 2 ^ 64 := by
  have h := now.isLt
  unfold ClockReading.millis
  omega

/-- All samples have been numbered in order, the counter has reached the last of them, and is within
the millisecond of the next action. -/
structure Numbered (actions : List CollectorAction) (c : Option MetricCollector)
    (samples : List MonitorInfo) : Prop where
  sorted : samples.Pairwise fun x y => x.sequence < y.sequence
  idle : c = none → actions = [] ∧ samples = []
  reached : ∀ c', c = some c' → ∀ x ∈ samples, x.sequence ≤ c'.collectSeq.toNat
  within : ∀ c', c = some c' → ∃ a, actions.getLast? = some a ∧ c'.collectSeq.toNat ≤ a.ready

/-- The next action of a paced run falls into a millisecond that the counter has not passed. -/
lemma Numbered.le_millis {a : CollectorAction} {c' : MetricCollector}
    (h : Numbered actions (some c') samples)
    (hpaced : (actions ++ [a]).IsChain CollectorAction.Paced) :
    c'.collectSeq.toNat ≤ a.now.millis := by
  obtain ⟨b, hb, hready⟩ := h.within c' rfl
  have hba : CollectorAction.Paced b a :=
    (List.isChain_append.mp hpaced).2.2 b hb a rfl
  exact hready.trans hba.ready_le

/-- A construction seeds the counter with a number that no sample has passed. -/
lemma Numbered.construct {now : ClockReading} {gethostname : Option String}
    (h : Numbered actions c samples)
    (hpaced :
      (actions ++ [CollectorAction.construct now gethostname]).IsChain CollectorAction.Paced) :
    Numbered (actions ++ [CollectorAction.construct now gethostname])
      (some (.new gethostname now)) samples := by
  have hseed : (UInt64.ofNat now.millis).toNat = now.millis := by
    have hlt := millis_lt now
    rw [UInt64.toNat_ofNat', Nat.mod_eq_of_lt (by omega)]
  refine ⟨h.sorted, ?_, ?_, ?_⟩
  · intro hnone
    cases hnone
  · intro c' hc' x hx
    cases hc'
    show x.sequence ≤ (UInt64.ofNat now.millis).toNat
    rw [hseed]
    cases hc : c with
    | none =>
      rw [(h.idle hc).2] at hx
      cases hx
    | some c₀ =>
      subst hc
      exact (h.reached c₀ rfl x hx).trans (h.le_millis hpaced)
  · intro c' hc'
    cases hc'
    refine ⟨_, List.getLast?_concat, ?_⟩
    show (UInt64.ofNat now.millis).toNat ≤ now.millis
    rw [hseed]

/-- A sample is numbered above all others, and the counter does not overflow. -/
lemma Numbered.collectAll {now : ClockReading} {metrics : MonitorInfo} {c' : MetricCollector}
    (h : Numbered actions (some c') samples)
    (hpaced : (actions ++ [CollectorAction.collectAll now metrics]).IsChain CollectorAction.Paced) :
    Numbered (actions ++ [CollectorAction.collectAll now metrics]) (some (c'.collectAll metrics).2)
      (samples ++ [(c'.collectAll metrics).1]) := by
  have hmillis : c'.collectSeq.toNat ≤ now.millis := h.le_millis hpaced
  have hlt := millis_lt now
  have hnext : (c'.collectSeq + 1).toNat = c'.collectSeq.toNat + 1 := by
    rw [UInt64.toNat_add]
    exact Nat.mod_eq_of_lt (by rw [UInt64.toNat_one]; omega)
  refine ⟨List.pairwise_append.mpr ⟨h.sorted, List.pairwise_singleton _ _, ?_⟩, ?_, ?_, ?_⟩
  · intro x hx y hy
    rw [List.mem_singleton.mp hy]
    show x.sequence < (c'.collectSeq + 1).toNat
    have hle := h.reached c' rfl x hx
    omega
  · intro hnone
    cases hnone
  · intro c₁ hc₁ x hx
    cases hc₁
    show x.sequence ≤ (c'.collectSeq + 1).toNat
    rcases List.mem_append.mp hx with hx | hx
    · have hle := h.reached c' rfl x hx
      omega
    · rw [List.mem_singleton.mp hx]
      exact Nat.le_refl _
  · intro c₁ hc₁
    cases hc₁
    refine ⟨_, List.getLast?_concat, ?_⟩
    show (c'.collectSeq + 1).toNat ≤ now.millis + 1
    omega

/-- **The counter stays within the clock** in every paced run of the processes of a host.

**Proof sketch.** Induction on the last action. A construction raises the counter to the millisecond
of the clock, which no sample has passed; a sample raises it by one, and the next action falls
into a later millisecond. -/
theorem run_numbered (hrun : metricCollector.run none actions = some (c, samples))
    (hpaced : actions.IsChain CollectorAction.Paced) : Numbered actions c samples := by
  refine metricCollector.run_induction (P := fun actions c samples =>
    actions.IsChain CollectorAction.Paced → Numbered actions c samples) ?_ ?_ hrun hpaced
  · intro _
    refine ⟨List.Pairwise.nil, fun _ => ⟨rfl, rfl⟩, ?_, ?_⟩
    · intro c' hc'
      cases hc'
    · intro c' hc'
      cases hc'
  · intro actions c samples a c₁ fresh _ ih hstep hpaced
    have hnum := ih (List.isChain_append.mp hpaced).1
    cases a with
    | construct now gethostname =>
      obtain ⟨rfl, rfl⟩ := Prod.ext_iff.mp (Option.some.inj hstep)
      rw [List.append_nil]
      exact hnum.construct hpaced
    | collectAll now metrics =>
      cases c with
      | none => cases hstep
      | some c' =>
        obtain ⟨rfl, rfl⟩ := Prod.ext_iff.mp (Option.some.inj hstep)
        exact hnum.collectAll hpaced

/-- **Sequences never repeat across restarts**: the samples of all processes of a host have
increasing sequences. -/
lemma run_increasing (hrun : metricCollector.run none actions = some (c, samples))
    (hpaced : actions.IsChain CollectorAction.Paced) :
    samples.Pairwise fun x y => x.sequence < y.sequence :=
  (run_numbered hrun hpaced).sorted

end MetricCollector

end Monitor
