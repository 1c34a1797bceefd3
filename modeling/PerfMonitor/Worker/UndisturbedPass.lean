import PerfMonitor.Worker.NetEbpfMonitor

set_option relaxedAutoImplicit false
set_option autoImplicit false

/-!
# A pass that nothing disturbs

The machine `Monitor.procStats` takes every reading and every liveness probe of
`CollectProcessStats` as a step of its own, between which processes may transfer, start and exit;
`Monitor.NetEbpfCaches.walkProcesses` is the walk as one function. When nothing happens between
the steps of a walk, the two agree.

## Main definitions

* `Monitor.ProcStats.Simulates` — the machine and the variables of the walk hold the same.
* `Monitor.ProcStats.walkActions` — the steps of a walk over some keys.

## Main results

* `Monitor.ProcStats.run_walkActions` — an undisturbed walk of the machine computes the walk.
* `Monitor.ProcStats.procReports_info` — and its reports are the messages of its rates.
-/

namespace Monitor

variable {n : ℕ}

namespace ProcStats

/-- An entry of the cache without what nobody knows. -/
def forget (c : ProcStatCache) : NetEbpfCaches.ProcStatCache :=
  ⟨c.reading.sndBytes, c.reading.rcvBytes, c.timestamp⟩

/-- The machine in the course of a pass and the variables of the walk hold the same. -/
structure Simulates (s : ProcStats n) (pass : ProcPass) (w : NetEbpfCaches.ProcWalk) : Prop where
  phase : s.phase = .walking pass
  cache : ∀ k, w.cache.lookup k = (s.procCache.lookup k).map forget
  rates : w.allRates = pass.rates.map MeasuredRate.rate
  deadPids : w.deadPids = pass.deadPids

/-- The steps of a walk over some keys. -/
def walkActions (keys : List ℕ) : List (ProcAction n) := keys.flatMap fun k => [.visit k, .probe]

/-- The entry that the walk meets under a key. -/
def entryOf (s : ProcStats n) (e : Σ _ : ℕ, Fin n → ProcNetStats) : Σ _ : ℕ, ProcEntry n :=
  ⟨e.1, some e.2, decide (e.1 ∈ s.processes)⟩

variable {s : ProcStats n} {pass : ProcPass} {w : NetEbpfCaches.ProcWalk} {fd : ℤ}

/-- A visit of the machine and its probe, with nothing in between, are the body of the loop. -/
lemma Simulates.visit (h : Simulates s pass w) (hfd : ¬ (fd < 0 ∨ n = 0)) {k : ℕ}
    {slots : Fin n → ProcNetStats} (hslots : s.procNetMap.lookup k = some slots)
    (hnew : k ∉ pass.visited) :
    ∃ s' pass', (procStats n).run s [.visit k, .probe] = some (s', []) ∧
      s'.procNetMap = s.procNetMap ∧ s'.processes = s.processes ∧ pass'.now = pass.now ∧
      pass'.visited = pass.visited ++ [k] ∧
      Simulates s' pass' (NetEbpfCaches.visitProcess fd pass.now w (s.entryOf ⟨k, slots⟩)) := by
  obtain ⟨hphase, hcache, hrates, hdead⟩ := h
  have hlookup : NetEbpfCaches.lookupPerCpuValue fd (some slots) = some slots := if_neg hfd
  simp only [EventMachine.run, procStats, step, hphase, hslots, if_neg hnew, Option.bind_some,
    NetEbpfCaches.visitProcess, entryOf, hlookup]
  by_cases halive : k ∈ s.processes
  · simp only [if_pos halive, decide_eq_true halive, Bool.true_eq_false, if_false, visitLive,
      hcache k]
    generalize (if mergeName slots = "" then "unknown" else mergeName slots) = name
    cases hlast : s.procCache.lookup k with
    | none =>
      refine ⟨_, { pass with visited := pass.visited ++ [k] }, rfl, rfl, rfl, rfl, rfl,
        rfl, fun j => ?_, hrates, hdead⟩
      dsimp only [Option.map_none]
      rw [UnorderedMap.lookup_insert_ite, UnorderedMap.lookup_insert_ite, hcache j]
      split_ifs <;> rfl
    | some last =>
      simp only [Option.map_some, forget]
      by_cases helapsed : pass.now - last.timestamp ≤ 0
      · rw [if_pos helapsed, if_pos helapsed]
        exact ⟨_, { pass with visited := pass.visited ++ [k] }, rfl, rfl, rfl, rfl, rfl, rfl,
          hcache, hrates, hdead⟩
      · rw [if_neg helapsed, if_neg helapsed]
        refine ⟨_, { pass with
            visited := pass.visited ++ [k]
            rates := pass.rates ++ [measureRate k name (pass.now - last.timestamp) last.reading
              (s.readEntry k slots)] }, rfl, rfl, rfl, rfl, rfl, rfl, fun j => ?_, ?_, hdead⟩
        · dsimp only
          rw [UnorderedMap.lookup_insert_ite, UnorderedMap.lookup_insert_ite, hcache j]
          split_ifs <;> rfl
        · dsimp only
          rw [hrates, List.map_append]
          rfl
  · simp only [if_neg halive, decide_eq_false halive, if_true]
    refine ⟨_, { pass with visited := pass.visited ++ [k], deadPids := pass.deadPids ++ [k] }, rfl,
      rfl, rfl, rfl, rfl, rfl, fun j => ?_, hrates, congrArg (· ++ [k]) hdead⟩
    dsimp only
    rw [UnorderedMap.lookup_erase_ite, UnorderedMap.lookup_erase_ite, hcache j]
    split_ifs <;> rfl

/-- **An undisturbed walk of the machine computes the walk.** -/
theorem run_walkActions (h : Simulates s pass w) (hfd : ¬ (fd < 0 ∨ n = 0))
    {l : List (Σ _ : ℕ, Fin n → ProcNetStats)} (hl : l.NodupKeys)
    (hmem : ∀ e ∈ l, s.procNetMap.lookup e.1 = some e.2 ∧ e.1 ∉ pass.visited) :
    ∃ s' pass', (procStats n).run s (walkActions l.keys) = some (s', []) ∧
      Simulates s' pass'
        ((l.map s.entryOf).foldl (NetEbpfCaches.visitProcess fd pass.now) w) := by
  induction l generalizing s pass w with
  | nil => exact ⟨s, pass, rfl, h⟩
  | cons e l ih =>
    obtain ⟨hfresh, hl⟩ := List.nodupKeys_cons.mp hl
    obtain ⟨hslots, hnew⟩ := hmem e List.mem_cons_self
    obtain ⟨s₁, pass₁, hrun, hmap, hprocs, hnow, hvisited, hsim⟩ := h.visit hfd hslots hnew
    have hmem₁ : ∀ e' ∈ l, s₁.procNetMap.lookup e'.1 = some e'.2 ∧ e'.1 ∉ pass₁.visited := by
      intro e' he'
      obtain ⟨hslots', hnew'⟩ := hmem e' (List.mem_cons_of_mem e he')
      rw [hmap, hvisited, List.mem_append, List.mem_singleton, not_or]
      refine ⟨hslots', hnew', ?_⟩
      rintro heq
      exact hfresh (heq ▸ List.mem_keys_of_mem he')
    obtain ⟨s₂, pass₂, hrest, hsim₂⟩ := ih hsim hl hmem₁
    refine ⟨s₂, pass₂, (procStats n).run_append hrun hrest, ?_⟩
    have hentry : s₁.entryOf = s.entryOf := by
      funext e'
      rw [entryOf, entryOf, hprocs]
    rw [hentry, hnow] at hsim₂
    exact hsim₂

/-- The reports of a pass are the messages of its first ten rates. -/
theorem procReports_info (rates sorted : List MeasuredRate) :
    (procReports rates sorted).map ProcReport.info =
      (((sorted.map MeasuredRate.rate).take kTopProcessCount).map
        (processNetInfo ((rates.map MeasuredRate.rate).map ProcRate.total).sum)) := by
  rw [procReports, List.map_map, ← List.map_take, List.map_map, List.map_map]
  rfl

end ProcStats

end Monitor
