import PerfMonitor.Delivery.Link

set_option relaxedAutoImplicit false
set_option autoImplicit false

/-!
# At-most-once acceptance

The manager remembers the last sequence of each host, so it recognises a retry of the sample it
processed last. A worker that has missed two answers replays both samples; whichever comes first
is no longer the last one.

## Main definitions

* `Monitor.Link.AcceptedOnce` — no sample passes the duplicate check twice.

## Main results

* `Monitor.Link.accepted_once_iff` — exactly when no sample reaches the manager again after a
  different one of the same host.
-/

namespace Monitor.Link

variable {pattern : ℕ → RpcOutcome} {w : Worker Link} {es : List WorkerEvent}
  {ms : List MonitorInfo} {hostname : String} {seed : ℕ}

/-- The samples that passed the duplicate check are distinct, by host and sequence. -/
def AcceptedOnce (l : Link) : Prop :=
  (l.accepted.map fun x => (hostName x, x.sequence)).Nodup

/-- Samples are distinct by host and sequence when those of each host are distinct by sequence. -/
lemma nodup_keys_iff (log : List MonitorInfo) :
    (log.map fun x => (hostName x, x.sequence)).Nodup ↔ ∀ h, (seqsOf h log).Nodup := by
  unfold seqsOf List.Nodup
  simp only [List.pairwise_map, List.pairwise_filter, decide_eq_true_eq]
  constructor
  · exact fun hall h => hall.imp fun hne hx hy hseq => hne (Prod.ext (hx.trans hy.symm) hseq)
  · intro hall
    induction log with
    | nil => exact .nil
    | cons x log ih =>
      refine List.Pairwise.cons (fun y hy heq => ?_) (ih fun h => (hall h).of_cons)
      obtain ⟨hhost, hseq⟩ := Prod.ext_iff.mp heq
      exact List.rel_of_pairwise_cons (hall (hostName x)) hy rfl hhost.symm hseq

/-- **When samples are accepted at most once.** In every state that the push loop reaches, whatever
becomes of its calls, no sample has passed the duplicate check twice exactly when no sample has
reached the manager again after a different sample of the same host.

**Proof sketch.** The samples accepted from a host are the changes of those processed
(`Link.run_logged`), and changes are distinct when nothing comes back (`Changes.nodup_iff`). -/
theorem accepted_once_iff (hrun : (worker (Link.pushData pattern)).run
    (Worker.start hostname seed {}) ms = some (w, es)) :
    w.world.AcceptedOnce ↔ ∀ h, ¬ Returns (seqsOf h w.world.processed) := by
  have hlog := run_logged hrun
  rw [AcceptedOnce, nodup_keys_iff]
  exact forall_congr' fun h => (hlog.changes h).nodup_iff

/-- The first call is processed without an answer. -/
def oneAnswerMissing : ℕ → RpcOutcome
  | 0 => .unanswered 0 .stored
  | _ => .answered 0 .stored

/-- The first sample is replayed at once, and the check catches it. -/
theorem accepted_once_iff_replayed : ∃ w es,
    (worker (Link.pushData oneAnswerMissing)).run (Worker.start "a" 0 {}) [{}, {}, {}] =
        some (w, es) ∧
      seqsOf "a" w.world.processed = [1, 1, 2, 3] ∧ seqsOf "a" w.world.accepted = [1, 2, 3] ∧
      w.world.AcceptedOnce ∧ ∀ h, ¬ Returns (seqsOf h w.world.processed) := by
  have hend : ((worker (Link.pushData oneAnswerMissing)).run (Worker.start "a" 0 {})
      [{}, {}, {}]).map (fun p => (seqsOf "a" p.1.world.processed, seqsOf "a" p.1.world.accepted,
        p.1.world.accepted.map fun x => (hostName x, x.sequence))) =
      some ([1, 1, 2, 3], [1, 2, 3], [("a", 1), ("a", 2), ("a", 3)]) := by decide +kernel
  obtain ⟨⟨w, es⟩, hrun, hs⟩ := Option.map_eq_some_iff.mp hend
  simp only [Prod.mk.injEq] at hs
  obtain ⟨hprocessed, haccepted, hkeys⟩ := hs
  have honce : w.world.AcceptedOnce := by
    rw [AcceptedOnce, hkeys]
    decide
  exact ⟨w, es, hrun, hprocessed, haccepted, honce, (accepted_once_iff hrun).mp honce⟩

/-- The first call and the third are processed without an answer, the second is lost. -/
def twoAnswersMissing : ℕ → RpcOutcome
  | 0 => .unanswered 0 .stored
  | 1 => .lost
  | 2 => .unanswered 0 .stored
  | _ => .answered 0 .stored

/-- **Two samples are accepted twice**: the first two, both replayed when the calls go through. -/
theorem accepted_twice :
    ¬ ∀ (pattern : ℕ → RpcOutcome) (hostname : String) (seed : ℕ) (ms : List MonitorInfo)
      (w : Worker Link) (es : List WorkerEvent),
      (worker (Link.pushData pattern)).run (Worker.start hostname seed {}) ms = some (w, es) →
      w.world.AcceptedOnce := by
  intro halways
  have hend : ((worker (Link.pushData twoAnswersMissing)).run (Worker.start "a" 0 {})
      [{}, {}, {}]).map (fun p => p.1.world.accepted.map fun x => (hostName x, x.sequence)) =
      some [("a", 1), ("a", 2), ("a", 1), ("a", 2), ("a", 3)] := by decide +kernel
  obtain ⟨⟨w, es⟩, hrun, hkeys⟩ := Option.map_eq_some_iff.mp hend
  have hnodup := halways twoAnswersMissing "a" 0 _ w es hrun
  rw [AcceptedOnce] at hnodup
  dsimp only at hkeys
  rw [hkeys] at hnodup
  exact absurd hnodup (by decide)

end Monitor.Link
