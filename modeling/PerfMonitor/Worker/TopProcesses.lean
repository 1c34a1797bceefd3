import PerfMonitor.Ranking.Top
import PerfMonitor.Worker.NetEbpfMonitor

set_option relaxedAutoImplicit false
set_option autoImplicit false

/-!
# The processes that are reported

`CollectProcessStats` measures the rate of every process that is alive and has an earlier reading,
sorts the rates by their totals and reports the first ten, each with its share in the total over all
measured rates.

## Main definitions

* `Monitor.NetEbpfCaches.measuredRates` — the rates of all measured processes.
* `Monitor.TopProcesses` — the messages are those of the ten largest of some rates.

## Main results

* `Monitor.NetEbpfCaches.walkProcesses_allRates`, `walkProcesses_totalRate` — what the walk over the
  map collects.
* `Monitor.NetEbpfCaches.collectProcessStats_topProcesses` — what a pass reports and remembers.
-/

namespace Monitor

variable {n : ℕ}

namespace NetEbpfCaches

/-- A process is measured: it is alive and has a reading from before `now`. -/
def Measured (m : NetEbpfCaches) (now : ℚ) (e : Σ _ : ℕ, ProcEntry n) : Prop :=
  e.2.alive = true ∧ ∃ last ∈ m.procCache.lookup e.1, last.timestamp < now

instance (m : NetEbpfCaches) (now : ℚ) (e : Σ _ : ℕ, ProcEntry n) : Decidable (m.Measured now e) :=
  inferInstanceAs (Decidable (_ ∧ _))

/-- The rate of a measured process between its reading in the cache and the merged counters. -/
def measuredRate (m : NetEbpfCaches) (now : ℚ) (e : Σ _ : ℕ, ProcEntry n) : Option ProcRate :=
  match e.2.slots, m.procCache.lookup e.1 with
  | some slots, some last =>
    if e.2.alive = true ∧ last.timestamp < now then
      some (procRate e.1 (if mergeName slots = "" then "unknown" else mergeName slots)
        (now - last.timestamp) (mergeBytes fun cpu => (slots cpu).sndBytes)
        (mergeBytes fun cpu => (slots cpu).rcvBytes) last)
    else none
  | _, _ => none

/-- The rates of all measured processes. -/
def measuredRates (m : NetEbpfCaches) (now : ℚ) (procNetMap : UnorderedMap ℕ (ProcEntry n)) :
    List ProcRate :=
  procNetMap.entries.filterMap (m.measuredRate now)

variable {m : NetEbpfCaches} {now : ℚ} {procNetMap : UnorderedMap ℕ (ProcEntry n)}

/-! ## What the walk collects -/

/-- The slots of an entry whose lookup succeeds. -/
lemma slots_of_isSome {fd : ℤ} {entry : ProcEntry n}
    (h : (lookupPerCpuValue fd entry.slots).isSome) :
    ∃ slots, entry.slots = some slots ∧ lookupPerCpuValue fd entry.slots = some slots := by
  obtain ⟨slots, hslots⟩ := Option.isSome_iff_exists.mp h
  refine ⟨slots, ?_, hslots⟩
  unfold lookupPerCpuValue at hslots
  split_ifs at hslots
  exact hslots

/-- The body of the loop measures the processes that `measuredRate` describes. -/
lemma bind_rate_visitOutcome {e : Σ _ : ℕ, ProcEntry n}
    (hfound : (lookupPerCpuValue m.procMapFd e.2.slots).isSome) :
    (visitOutcome m.procMapFd now e.1 e.2 (m.procCache.lookup e.1)).2.bind ProcSample.rate =
      m.measuredRate now e := by
  obtain ⟨slots, hvalue, hslots⟩ := slots_of_isSome hfound
  rw [visitOutcome, hslots, measuredRate, hvalue]
  cases halive : e.2.alive with
  | false => cases m.procCache.lookup e.1 <;> simp
  | true =>
    cases m.procCache.lookup e.1 with
    | none => rfl
    | some last =>
      by_cases h : last.timestamp < now
      · have hpos : ¬ now - last.timestamp ≤ 0 := not_le.mpr (sub_pos.mpr h)
        simp [h, hpos]
      · have hneg : now - last.timestamp ≤ 0 := sub_nonpos.mpr (not_lt.mp h)
        simp [h, hneg]

lemma walkProcesses_allRates
    (hfound : ∀ e ∈ procNetMap.entries, (lookupPerCpuValue m.procMapFd e.2.slots).isSome) :
    (m.walkProcesses now procNetMap).allRates = m.measuredRates now procNetMap := by
  have hout := UnorderedMap.foldl_out Sigma.fst
    (fun (w : ProcWalk) k => w.cache.lookup k) ProcWalk.allRates
    (fun (e : Σ _ : ℕ, ProcEntry n) last =>
      ((visitOutcome m.procMapFd now e.1 e.2 last).2.bind ProcSample.rate).toList)
    (fun w e k h => by rw [(visitProcess_eq m.procMapFd now w e).1, if_neg (Ne.symm h)])
    (fun w e => (visitProcess_eq m.procMapFd now w e).2.2.1) procNetMap.keys_nodup
    { cache := m.procCache }
  refine hout.trans ?_
  show [] ++ _ = _
  rw [List.nil_append, measuredRates, List.filterMap_eq_flatMap_toList]
  apply List.flatMap_congr
  intro e he
  exact congrArg Option.toList (bind_rate_visitOutcome (hfound e he))

/-- The total is the sum over the collected rates. -/
lemma walkProcesses_totalRate (m : NetEbpfCaches) (now : ℚ)
    (procNetMap : UnorderedMap ℕ (ProcEntry n)) :
    (m.walkProcesses now procNetMap).totalRate =
      ((m.walkProcesses now procNetMap).allRates.map ProcRate.total).sum := by
  have hfold : ∀ (l : List (Σ _ : ℕ, ProcEntry n)) (w : ProcWalk),
      w.totalRate = (w.allRates.map ProcRate.total).sum →
      (l.foldl (visitProcess m.procMapFd now) w).totalRate =
        ((l.foldl (visitProcess m.procMapFd now) w).allRates.map ProcRate.total).sum := by
    intro l
    induction l with
    | nil => exact fun w h => h
    | cons e l ih =>
      intro w h
      apply ih
      obtain ⟨-, -, hrates, htotal⟩ := visitProcess_eq m.procMapFd now w e
      rw [htotal, hrates, h, List.map_append, List.sum_append]
  exact hfold _ _ rfl

lemma measuredRate_isSome_iff {e : Σ _ : ℕ, ProcEntry n}
    (hfound : (lookupPerCpuValue m.procMapFd e.2.slots).isSome) :
    (m.measuredRate now e).isSome ↔ m.Measured now e := by
  obtain ⟨slots, hvalue, -⟩ := slots_of_isSome hfound
  rw [measuredRate, hvalue, Measured]
  cases m.procCache.lookup e.1 with
  | none => simp
  | some last =>
    by_cases h : e.2.alive = true ∧ last.timestamp < now
    · simp [h]
    · simp [h]

lemma mem_measuredRate {e : Σ _ : ℕ, ProcEntry n} {r : ProcRate}
    (h : m.measuredRate now e = some r) : r.pid = e.1 ∧ 0 ≤ r.total := by
  unfold measuredRate at h
  cases hslots : e.2.slots with
  | none => simp [hslots] at h
  | some slots =>
    cases hlast : m.procCache.lookup e.1 with
    | none => simp [hslots, hlast] at h
    | some last =>
      simp only [hslots, hlast] at h
      by_cases hmeasured : e.2.alive = true ∧ last.timestamp < now
      · rw [if_pos hmeasured] at h
        cases h
        have hpos : 0 < now - last.timestamp := sub_pos.mpr hmeasured.2
        refine ⟨rfl, ?_⟩
        unfold ProcRate.total procRate
        positivity
      · rw [if_neg hmeasured] at h
        cases h

/-- Every process is measured once at most. -/
lemma nodup_measuredRates (m : NetEbpfCaches) (now : ℚ)
    (procNetMap : UnorderedMap ℕ (ProcEntry n)) :
    ((m.measuredRates now procNetMap).map ProcRate.pid).Nodup := by
  refine List.Nodup.sublist ?_ procNetMap.keys_nodup
  have hsub : ∀ l : List (Σ _ : ℕ, ProcEntry n),
      ((l.filterMap (m.measuredRate now)).map ProcRate.pid).Sublist l.keys := by
    intro l
    induction l with
    | nil => exact List.Sublist.refl []
    | cons e l ih =>
      rw [List.keys_cons, List.filterMap_cons]
      cases hr : m.measuredRate now e with
      | none => exact ih.cons e.1
      | some r =>
        rw [List.map_cons, (mem_measuredRate hr).1]
        exact ih.cons_cons e.1
  exact hsub procNetMap.entries

lemma measuredRates_nonneg {r : ProcRate} (h : r ∈ m.measuredRates now procNetMap) :
    0 ≤ r.total := by
  obtain ⟨e, -, hr⟩ := List.mem_filterMap.mp h
  exact (mem_measuredRate hr).2

/-- The number of rates is that of the measured processes. -/
lemma length_measuredRates
    (hfound : ∀ e ∈ procNetMap.entries, (lookupPerCpuValue m.procMapFd e.2.slots).isSome) :
    (m.measuredRates now procNetMap).length =
      procNetMap.entries.countP fun e => m.Measured now e := by
  rw [measuredRates, List.length_filterMap_eq_countP]
  apply List.countP_congr
  intro e he
  rw [decide_eq_true_iff]
  exact measuredRate_isSome_iff (hfound e he)

end NetEbpfCaches

/-! ## The ten largest rates -/

/-- The messages `added` are those of the ten largest of `rates`, in descending order, with shares
in the total over all `rates`. -/
structure TopProcesses (rates : List ProcRate) (added : List ProcessNetInfo) : Prop where
  length : added.length = min kTopProcessCount rates.length
  nodup : (added.map ProcessNetInfo.pid).Nodup
  sorted : added.Pairwise fun a b => a.totalRate ≥ b.totalRate
  ofRate : ∀ p ∈ added, ∃ r ∈ rates, p.pid = r.pid ∧ p.name = r.name ∧ p.sendRate = r.sndRate ∧
    p.rcvRate = r.rcvRate
  top : ∀ r ∈ rates, r.pid ∉ added.map ProcessNetInfo.pid → ∀ p ∈ added, r.total ≤ p.totalRate
  total : ∀ p ∈ added, p.totalRate = p.sendRate + p.rcvRate
  share : ∀ p ∈ added, p.sharePercent =
    Ranking.share (rates.map ProcRate.total).sum p.totalRate
  share_le : (added.map ProcessNetInfo.sharePercent).sum ≤ 100
  share_eq : rates.length ≤ kTopProcessCount → 0 < (rates.map ProcRate.total).sum →
    (added.map ProcessNetInfo.sharePercent).sum = 100

/-- The code's guard against a zero total gives the share that a division by zero would. -/
lemma sharePercent_processNetInfo {S : ℚ} (hS : 0 ≤ S) (r : ProcRate) :
    (processNetInfo S r).sharePercent = Ranking.share S r.total := by
  unfold processNetInfo Ranking.share
  dsimp only
  split_ifs with h
  · rfl
  · rw [le_antisymm (not_lt.mp h) hS, div_zero, zero_mul]

/-- The first ten of the sorted rates, with their messages. -/
lemma topProcesses_of_sort (std : RateSort) {rates : List ProcRate}
    (hpids : (rates.map ProcRate.pid).Nodup) (hnonneg : ∀ r ∈ rates, 0 ≤ r.total) :
    TopProcesses rates (((std.sort rates).take kTopProcessCount).map
      (processNetInfo (rates.map ProcRate.total).sum)) := by
  have hperm := std.perm rates
  have hsorted := std.sorted rates
  have hS : 0 ≤ (rates.map ProcRate.total).sum := by
    apply List.sum_nonneg
    intro x hx
    obtain ⟨r, hr, rfl⟩ := List.mem_map.mp hx
    exact hnonneg r hr
  have hsum : ((std.sort rates).map ProcRate.total).sum = (rates.map ProcRate.total).sum :=
    (hperm.map ProcRate.total).sum_eq
  have hshares : (((std.sort rates).take kTopProcessCount).map
      (processNetInfo (rates.map ProcRate.total).sum)).map ProcessNetInfo.sharePercent =
      ((std.sort rates).take kTopProcessCount).map fun r =>
        Ranking.share ((std.sort rates).map ProcRate.total).sum r.total := by
    rw [List.map_map, hsum]
    exact List.map_congr_left fun r _ => sharePercent_processNetInfo hS r
  constructor
  case length => rw [List.length_map, List.length_take, hperm.length_eq]
  case nodup =>
    rw [List.map_map]
    exact ((hperm.map ProcRate.pid).nodup_iff.mpr hpids).sublist
      ((List.take_sublist _ _).map ProcRate.pid)
  case sorted => exact List.pairwise_map.mpr (hsorted.sublist (List.take_sublist _ _))
  case ofRate =>
    intro p hp
    obtain ⟨r, hr, rfl⟩ := List.mem_map.mp hp
    exact ⟨r, hperm.mem_iff.mp (List.mem_of_mem_take hr), rfl, rfl, rfl, rfl⟩
  case top =>
    intro r hr hout p hp
    obtain ⟨q, hq, rfl⟩ := List.mem_map.mp hp
    -- a rate that is not among the first ten is among the rest
    have hdrop : r ∈ (std.sort rates).drop kTopProcessCount := by
      have hmem := hperm.mem_iff.mpr hr
      rw [← List.take_append_drop kTopProcessCount (std.sort rates), List.mem_append] at hmem
      refine hmem.resolve_left fun htake => hout ?_
      rw [List.map_map]
      exact List.mem_map_of_mem htake
    exact Ranking.le_of_mem_drop hsorted hdrop hq
  case total =>
    intro p hp
    obtain ⟨r, -, rfl⟩ := List.mem_map.mp hp
    rfl
  case share =>
    intro p hp
    obtain ⟨r, -, rfl⟩ := List.mem_map.mp hp
    exact sharePercent_processNetInfo hS r
  case share_le =>
    rw [hshares]
    exact Ranking.sum_share_take_le (fun r hr => hnonneg r (hperm.mem_iff.mp hr)) _
  case share_eq =>
    intro hlen hpos
    rw [hshares, List.take_of_length_le (hperm.length_eq.trans_le hlen)]
    exact Ranking.sum_share_eq (hsum.symm ▸ hpos)

lemma topProcesses_nil : TopProcesses [] [] := by
  constructor <;> simp

namespace NetEbpfCaches

/-! ## A pass -/

variable {m : NetEbpfCaches} {now : ℚ} {procNetMap : UnorderedMap ℕ (ProcEntry n)}

/-- Where every lookup fails, a map whose lookups succeed is empty. -/
lemma entries_eq_nil_of_closed (hclosed : m.procMapFd < 0 ∨ n = 0)
    (hfound : ∀ e ∈ procNetMap.entries, (lookupPerCpuValue m.procMapFd e.2.slots).isSome) :
    procNetMap.entries = [] := by
  apply List.eq_nil_iff_forall_not_mem.mpr
  intro e he
  have h := hfound e he
  rw [lookupPerCpuValue, if_pos hclosed] at h
  exact Bool.false_ne_true h

/-- The body of the loop leaves a reading in the cache exactly for a process that is alive. -/
lemma visitOutcome_isSome_iff {fd : ℤ} {k : ℕ} {entry : ProcEntry n}
    (hfound : (lookupPerCpuValue fd entry.slots).isSome) (last : Option ProcStatCache) :
    (visitOutcome fd now k entry last).1.isSome ↔ entry.alive = true := by
  obtain ⟨slots, -, hslots⟩ := slots_of_isSome hfound
  rw [visitOutcome, hslots]
  cases entry.alive with
  | false => simp
  | true =>
    cases last with
    | none => simp
    | some last =>
      by_cases h : now - last.timestamp ≤ 0
      · simp [h]
      · simp [h]

/-- After a pass the cache has a reading of every process found alive in the map, and none of those
found dead. -/
lemma mem_procCache_collectProcessStats (std : RateSort)
    (hfound : ∀ e ∈ procNetMap.entries, (lookupPerCpuValue m.procMapFd e.2.slots).isSome)
    {e : Σ _ : ℕ, ProcEntry n} (he : e ∈ procNetMap.entries) :
    e.1 ∈ (m.collectProcessStats std now procNetMap).1.procCache ↔ e.2.alive = true := by
  have hview := congrArg Prod.fst (collectProcessStats_view std m now procNetMap e.1)
  rw [UnorderedMap.mem_entries_iff.mp he] at hview
  rw [← AList.lookup_isSome, show AList.lookup e.1 _ = _ from hview]
  exact visitOutcome_isSome_iff (hfound e he) _

/-- **The reported processes.** If every lookup succeeds, a pass reports the ten largest rates of
the processes that are alive and have an earlier reading, in descending order and with their shares
in the total over all of them. Afterwards the cache has a reading of every process found alive, and
none of those found dead.

**Proof sketch.** The walk collects the rates of the measured processes, once each since keys are
distinct, and their sum (`walkProcesses_allRates`, `walkProcesses_totalRate`); the rest is about
the first ten of a sorted list (`topProcesses_of_sort`). -/
theorem collectProcessStats_topProcesses (std : RateSort) (m : NetEbpfCaches) (now : ℚ)
    (procNetMap : UnorderedMap ℕ (ProcEntry n))
    (hfound : ∀ e ∈ procNetMap.entries, (lookupPerCpuValue m.procMapFd e.2.slots).isSome) :
    TopProcesses (m.measuredRates now procNetMap)
        (m.collectProcessStats std now procNetMap).2.processNetInfo ∧
      (m.measuredRates now procNetMap).length =
        procNetMap.entries.countP (fun e => m.Measured now e) ∧
      ∀ e ∈ procNetMap.entries,
        e.1 ∈ (m.collectProcessStats std now procNetMap).1.procCache ↔ e.2.alive = true := by
  refine ⟨?_, length_measuredRates hfound,
    fun e he => mem_procCache_collectProcessStats std hfound he⟩
  unfold collectProcessStats
  split_ifs with hclosed
  · rw [measuredRates, entries_eq_nil_of_closed hclosed hfound]
    exact topProcesses_nil
  · dsimp only
    rw [walkProcesses_totalRate, walkProcesses_allRates hfound]
    exact topProcesses_of_sort std (nodup_measuredRates m now procNetMap)
      fun r hr => measuredRates_nonneg hr

/-- A pass over three processes: one measured, one seen for the first time and one that is gone. -/
theorem collectProcessStats_three :
    let m : NetEbpfCaches :=
      { procCache := (AList.singleton 7 ⟨0, 1024, 0⟩).insert 9 ⟨0, 0, 0⟩ }
    let procNetMap : UnorderedMap ℕ (ProcEntry 1) :=
      ((AList.singleton 7 ⟨some fun _ => { rcvBytes := 5120, comm := "sshd" }, true⟩).insert 8
        ⟨some fun _ => { sndBytes := 512, comm := "curl" }, true⟩).insert 9
          ⟨some fun _ => {}, false⟩
    TopProcesses (m.measuredRates 2 procNetMap)
        (m.collectProcessStats .stable 2 procNetMap).2.processNetInfo ∧
      (m.collectProcessStats .stable 2 procNetMap).2.processNetInfo =
        [⟨7, "sshd", 0, 2, 2, 100⟩] := by
  intro m procNetMap
  have h := collectProcessStats_topProcesses .stable m 2 procNetMap (by decide +kernel)
  exact ⟨h.1, by decide +kernel⟩

end NetEbpfCaches

end Monitor
