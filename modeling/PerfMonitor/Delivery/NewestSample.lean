import Mathlib.Order.Bounds.Basic
import PerfMonitor.Delivery.Link

set_option relaxedAutoImplicit false
set_option autoImplicit false

/-!
# The record and the newest sample

The record of a host is the last sample accepted from it. An iteration replays the old samples
before it sends the new one, so what it delivers is in order; the record falls back when an
iteration delivers old samples only, after a newer one was delivered before.

## Main definitions

* `Monitor.Link.NewestStored` — the record carries the greatest sequence accepted.
* `Monitor.Link.DeliversNewest` — an iteration that delivers a sample of a host delivers one that is
  not older than all before.

## Main results

* `Monitor.Link.newestStored_iteration_iff` — one iteration.
* `Monitor.Link.newest_stored_iff` — whole runs.
-/

namespace Monitor.Link

variable {pattern : ℕ → RpcOutcome} {w : Worker Link} {es : List WorkerEvent}
  {ms : List MonitorInfo} {hostname : String} {seed : ℕ} {l : Link}

/-- For every host a sample of which was accepted, the record carries the greatest sequence among
the samples accepted from it. -/
def NewestStored (l : Link) : Prop :=
  ∀ x ∈ l.accepted, ∃ r, l.manager.hostScores.lookup (hostName x) = some r ∧
    IsGreatest {n | ∃ y ∈ l.accepted, hostName y = hostName x ∧ y.sequence = n} r.info.sequence

/-- The samples that reach the manager in an iteration. -/
def newlyProcessed (pattern : ℕ → RpcOutcome) (w : Worker Link) (metrics : MonitorInfo) :
    List MonitorInfo :=
  (w.iteration (Link.pushData pattern) metrics).1.world.processed.drop w.world.processed.length

/-- If the iteration delivers a sample of a host that has delivered before, it delivers one at
least as new as every one before. -/
def DeliversNewest (pattern : ℕ → RpcOutcome) (w : Worker Link) (metrics : MonitorInfo) : Prop :=
  ∀ x ∈ w.world.processed, ∀ y ∈ newlyProcessed pattern w metrics, hostName y = hostName x →
    ∃ z ∈ newlyProcessed pattern w metrics, hostName z = hostName x ∧ x.sequence ≤ z.sequence

/-- The record is the newest when the last sample processed from each host is. -/
lemma Logged.newestStored_iff (hl : Logged l) :
    NewestStored l ↔ ∀ h last, (seqsOf h l.processed).getLast? = some last →
      ∀ n ∈ seqsOf h l.processed, n ≤ last := by
  have hset : ∀ h, {n | ∃ y ∈ l.accepted, hostName y = h ∧ y.sequence = n} =
      {n | n ∈ seqsOf h l.processed} := fun h => Set.ext fun n =>
    mem_seqsOf.symm.trans (hl.changes h).mem_iff
  have hrecord : ∀ h, (l.manager.hostScores.lookup h).map (fun r => r.info.sequence) =
      (seqsOf h l.processed).getLast? := fun h =>
    (hl.record h).trans (hl.changes h).getLast?_eq
  constructor
  · intro hnew h last hlast n hn
    obtain ⟨x, hx, rfl, -⟩ := mem_seqsOf.mp ((hl.changes h).mem_iff.mpr hn)
    obtain ⟨r, hr, hgreatest⟩ := hnew x hx
    have hr' := hrecord (hostName x)
    rw [hr, hlast, Option.map_some, Option.some.injEq] at hr'
    rw [hset] at hgreatest
    exact hr' ▸ hgreatest.2 hn
  · intro hlast x hx
    have hmem : x.sequence ∈ seqsOf (hostName x) l.processed :=
      (hl.changes _).mem_iff.mp (mem_seqsOf.mpr ⟨x, hx, rfl, rfl⟩)
    have hr := hrecord (hostName x)
    cases hend : (seqsOf (hostName x) l.processed).getLast? with
    | none =>
      rw [List.getLast?_eq_none_iff] at hend
      rw [hend] at hmem
      exact absurd hmem List.not_mem_nil
    | some last =>
      rw [hend, Option.map_eq_some_iff] at hr
      obtain ⟨r, hr, rfl⟩ := hr
      refine ⟨r, hr, ?_⟩
      rw [hset]
      exact ⟨List.mem_of_getLast? hend, fun n hn => hlast _ _ hend n hn⟩

/-- The last item of an increasing list is the greatest. -/
lemma le_of_getLast? {D : List ℕ} (hD : D.Pairwise (· < ·)) {last : ℕ}
    (hlast : D.getLast? = some last) : ∀ n ∈ D, n ≤ last := by
  obtain ⟨front, rfl⟩ := List.getLast?_eq_some_iff.mp hlast
  intro n hn
  rcases List.mem_append.mp hn with hn | hn
  · exact ((List.pairwise_append.mp hD).2.2 n hn last List.mem_cons_self).le
  · exact (List.mem_singleton.mp hn).le

/-- **One iteration keeps the record newest exactly when what it delivers includes a newest
sample.**

**Proof sketch.** What an iteration delivers is increasing, so for each host the last sample
processed is the greatest of those just delivered, and it remains to compare it with those
before. -/
lemma newestStored_iteration_iff (hrun : (worker (Link.pushData pattern)).run
    (Worker.start hostname seed {}) ms = some (w, es)) (hnew : NewestStored w.world)
    (metrics : MonitorInfo) :
    NewestStored (w.iteration (Link.pushData pattern) metrics).1.world ↔
      DeliversNewest pattern w metrics := by
  have hafter := run_logged ((worker (Link.pushData pattern)).run_append hrun
    (worker_run_singleton (Link.pushData pattern) w metrics))
  obtain ⟨new, hsorted, hprocessed⟩ := processed_iteration hrun metrics
  have hdrop : newlyProcessed pattern w metrics = new := by
    rw [newlyProcessed, hprocessed, List.drop_left]
  have hincreasing : ∀ h, (seqsOf h new).Pairwise (· < ·) := fun h =>
    List.pairwise_map.mpr (hsorted.sublist List.filter_sublist)
  rw [hafter.newestStored_iff, DeliversNewest, hdrop]
  rw [(run_logged hrun).newestStored_iff] at hnew
  simp only [hprocessed, seqsOf_append]
  constructor
  · intro hall x hx y hy hhost
    have hmem : y.sequence ∈ seqsOf (hostName x) new := mem_seqsOf.mpr ⟨y, hy, hhost, rfl⟩
    cases hend : (seqsOf (hostName x) new).getLast? with
    | none =>
      rw [List.getLast?_eq_none_iff] at hend
      rw [hend] at hmem
      exact absurd hmem List.not_mem_nil
    | some last =>
      obtain ⟨z, hz, hzhost, rfl⟩ := mem_seqsOf.mp (List.mem_of_getLast? hend)
      refine ⟨z, hz, hzhost, hall (hostName x) _ ?_ _ ?_⟩
      · rw [List.getLast?_append, hend]
        rfl
      · exact List.mem_append_left _ (mem_seqsOf.mpr ⟨x, hx, rfl, rfl⟩)
  · intro hdeliver h last hlast n hn
    cases hend : (seqsOf h new).getLast? with
    | none =>
      rw [List.getLast?_eq_none_iff] at hend
      rw [hend, List.append_nil] at hlast hn
      exact hnew h last hlast n hn
    | some last' =>
      rw [List.getLast?_append, hend, Option.some_or, Option.some.injEq] at hlast
      subst hlast
      rcases List.mem_append.mp hn with hn | hn
      · obtain ⟨x, hx, rfl, rfl⟩ := mem_seqsOf.mp hn
        obtain ⟨y, hy, hyhost, -⟩ := mem_seqsOf.mp (List.mem_of_getLast? hend)
        obtain ⟨z, hz, hzhost, hle⟩ := hdeliver x hx y hy hyhost
        exact hle.trans (le_of_getLast? (hincreasing _) hend _
          (mem_seqsOf.mpr ⟨z, hz, hzhost, rfl⟩))
      · exact le_of_getLast? (hincreasing h) hend n hn

/-- **When the record is never rolled back.** At the end of every iteration the record of each host
carries the greatest sequence accepted from it, exactly when every iteration that delivers a
sample of a host delivers one at least as new as every sample of the host delivered before. -/
theorem newest_stored_iff (pattern : ℕ → RpcOutcome) (hostname : String) (seed : ℕ)
    (ms : List MonitorInfo) :
    (worker (Link.pushData pattern)).Throughout (fun w => NewestStored w.world)
        (Worker.start hostname seed {}) ms ↔
      (worker (Link.pushData pattern)).Meets (DeliversNewest pattern)
        (Worker.start hostname seed {}) ms := by
  refine (worker (Link.pushData pattern)).throughout_iff_meets ?_
    (fun t a => ⟨_, worker_step_iff.mpr ⟨rfl, rfl⟩⟩) ?_ ms
  · intro x hx
    exact absurd hx List.not_mem_nil
  · intro ms w es metrics w' fs hrun hnew hstep
    obtain ⟨rfl, -⟩ := worker_step_iff.mp hstep
    exact newestStored_iteration_iff hrun hnew metrics

/-- Only the third call and the fourth get through. -/
def thirdAndFourth : ℕ → RpcOutcome
  | 2 => .answered 0 .stored
  | 3 => .answered 0 .stored
  | _ => .lost

/-- **The record is rolled back**: the first sample is lost twice, the second one is delivered, then
the first one, and the third is lost. -/
theorem record_rolled_back :
    ¬ ∀ (pattern : ℕ → RpcOutcome) (hostname : String) (seed : ℕ) (ms : List MonitorInfo)
      (w : Worker Link) (es : List WorkerEvent),
      (worker (Link.pushData pattern)).run (Worker.start hostname seed {}) ms = some (w, es) →
      NewestStored w.world := by
  intro halways
  have hend : ((worker (Link.pushData thirdAndFourth)).run (Worker.start "a" 0 {})
      [{}, {}, {}]).map (fun p => (p.1.world.accepted.map fun x => (hostName x, x.sequence),
        (p.1.world.manager.hostScores.lookup "a").map fun r => r.info.sequence)) =
      some ([("a", 2), ("a", 1)], some 1) := by decide +kernel
  obtain ⟨⟨w, es⟩, hrun, hends⟩ := Option.map_eq_some_iff.mp hend
  obtain ⟨hkeys, hrecord⟩ := Prod.ext_iff.mp hends
  dsimp only at hkeys hrecord
  have hmem : ("a", 2) ∈ w.world.accepted.map fun x => (hostName x, x.sequence) := by
    rw [hkeys]
    exact List.mem_cons_self
  obtain ⟨x, hx, hkey⟩ := List.mem_map.mp hmem
  obtain ⟨hhost, hseq⟩ := Prod.ext_iff.mp hkey
  dsimp only at hhost hseq
  obtain ⟨r, hr, hgreatest⟩ := halways thirdAndFourth "a" 0 _ w es hrun x hx
  rw [hhost] at hr
  rw [hr, Option.map_some, Option.some.injEq] at hrecord
  have hle := hgreatest.2 ⟨x, hx, rfl, hseq⟩
  rw [hrecord] at hle
  exact absurd hle (by decide)

end Monitor.Link
