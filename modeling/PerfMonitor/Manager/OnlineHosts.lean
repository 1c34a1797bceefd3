import Mathlib.Algebra.Order.Archimedean.Basic
import PerfMonitor.Manager.SchedulingFairness

set_option relaxedAutoImplicit false
set_option autoImplicit false

/-!
# Whether the host named is online

A host that stops reporting stays registered, with its weight, until a cleanup pass finds it
older than the window; passes are a window apart, so it may be named for up to two windows
after its last report. `QueryBestHost` is right whenever every host of positive score has
reported within the window, and whenever one has not, repeated requests come to name it.

## Main definitions

* `Monitor.Service.QueryCall` — a `QueryBestHost` call with anything between its sections.
* `Monitor.Service.ScoresRecently` — a host of positive score that has reported within the window.
* `Monitor.Service.requests` — requests made one after the other.

## Main results

* `Monitor.Service.queryCall_namesOnlineHost` — the answer is an online host if no host of positive
  score is overdue.
* `Monitor.Service.exists_request_overdue` — an overdue host is named in the end.
* `Monitor.Service.online_when_none_overdue` — both, in every reachable state.
-/

namespace Monitor

open SmoothRoundRobin

namespace Service

variable {s s' t u : Service} {a : ServiceAction} {as bs mid : List ServiceAction}
  {es fs : List ServiceEvent} {clock : Time} {q : ℕ} {ord : HashOrder} {h : String}
  {answer : Except RpcError ServerOverviewRecord}

/-- A `QueryBestHost` call from `s`: its first section, then `mid`, then the answer, given in
state `t`. -/
inductive QueryCall (s : Service) (q : ℕ) (ord : HashOrder) :
    List ServiceAction → Service → Except RpcError ServerOverviewRecord → Prop where
  /-- No host was named and the answer follows at once. -/
  | refused {t : Service} {es : List ServiceEvent} {answer : Except RpcError ServerOverviewRecord}
      (hselect : service.step s (.select q ord) = some (t, es)) (hreply : .replied q answer ∈ es) :
      QueryCall s q ord [] t answer
  /-- The second section comes after `mid`. -/
  | answered {u t v : Service} {es fs : List ServiceEvent} {mid : List ServiceAction}
      {answer : Except RpcError ServerOverviewRecord}
      (hselect : service.step s (.select q ord) = some (u, es))
      (hmid : service.run u mid = some (t, fs))
      (hpending : .respond q ∉ mid)
      (hrespond : service.step t (.respond q) = some (v, [.replied q answer])) :
      QueryCall s q ord mid t answer

/-- The latest score of the host is positive. -/
def Scores (s : Service) (h : String) : Prop :=
  ∃ r, s.manager.hostScores.lookup h = some r ∧ 0 < r.score

/-- The latest score of the host is positive and it has reported within the window. -/
def ScoresRecently (s : Service) (h : String) : Prop :=
  s.Scores h ∧ s.manager.ReportedRecently s.clock h

/-- The host, unless it is not registered, has reported within the window. -/
def NotOverdue (s : Service) (h : String) : Prop :=
  h ∈ s.manager.hostScores → s.manager.ReportedRecently s.clock h

instance (s : Service) (h : String) : Decidable (s.NotOverdue h) :=
  inferInstanceAs (Decidable (_ → _))

lemma mem_eligible_iff_scores (hm : s.manager.Consistent) :
    h ∈ s.manager.eligible ↔ s.Scores h := by
  rw [HostManager.mem_eligible]
  constructor
  · rintro ⟨hin, hpos⟩
    obtain ⟨r, hr⟩ := UnorderedMap.mem_iff_lookup.mp hin
    exact ⟨r, hr, (hm.baseWeight_pos_iff hr).mp hpos⟩
  · rintro ⟨r, hr, hpos⟩
    exact ⟨UnorderedMap.mem_iff_lookup.mpr ⟨r, hr⟩, (hm.baseWeight_pos_iff hr).mpr hpos⟩

/-! ## One call -/

/-- A host that is not overdue is not removed: a pass removes only hosts older than the window at
a clock reading that has passed. -/
lemma Step.mem_of_notOverdue (hstep : Step s a s' fs) (hin : h ∈ s.manager.hostScores)
    (hdue : s.NotOverdue h) : h ∈ s'.manager.hostScores := by
  cases hstep with
  | store t r now rates ht => exact UnorderedMap.mem_insert_of_mem hin
  | cleanup now hnow =>
    obtain ⟨r, hr, hage⟩ := hdue hin
    have hfresh : s.manager.isStale now h = false := by
      simp only [HostManager.isStale, hr, Option.any_some, HostManager.stale, gt_iff_lt,
        decide_eq_false_iff_not, not_lt]
      exact (Int.sub_le_sub_right hnow _).trans hage
    refine UnorderedMap.mem_iff_lookup.mpr ⟨r, ?_⟩
    rw [HostManager.lookup_removeStaleHosts, hfresh]
    exact hr
  | pick | selectNone | select => rwa [HostManager.getBestHost_hostScores]
  | checkAccept t r m ht hd =>
    obtain ⟨-, rfl⟩ := HostManager.checkDuplicate_eq_some_iff.mp hd
    exact hin
  | receive | checkUnnamed | checkDuplicate | score | sample | enqueue | respond | tick =>
    exact hin

/-- A query between its sections keeps the name it was given. -/
lemma Step.queries_lookup (hstep : Step s a s' fs) {b : String}
    (hq : s.queries.lookup q = some b) (ha : a ≠ .respond q) : s'.queries.lookup q = some b := by
  cases hstep with
  | select q' ord hq' hb =>
    have hne : q ≠ q' := by
      rintro rfl
      exact hq' (UnorderedMap.mem_iff_lookup.mpr ⟨b, hq⟩)
    rwa [UnorderedMap.lookup_insert_ite, if_neg hne]
  | respond q' best hq' =>
    have hne : q ≠ q' := by
      rintro rfl
      exact ha rfl
    rwa [UnorderedMap.lookup_erase_ite, if_neg hne]
  | receive | checkUnnamed | checkDuplicate | checkAccept | score | sample | store | pick | enqueue
  | selectNone | cleanup | tick => exact hq

/-- **The answer is an online host** when every host that had a positive score as the call began
is not overdue until the answer, and there was one.

**Proof sketch.** The host named had a positive score. Not being overdue, it survives every step in
between, so it is found again and it is not overdue then. -/
theorem queryCall_namesOnlineHost (hm : s.manager.Consistent)
    (hcall : QueryCall s q ord mid t answer) (hsome : ∃ h, s.Scores h)
    (hdue : ∀ h, s.Scores h →
      service.Throughout (fun u => u.NotOverdue h) s (.select q ord :: mid)) :
    HostManager.NamesOnlineHost t.clock answer := by
  obtain ⟨h₀, hh₀⟩ := hsome
  have hchoice := HostManager.getBestHost_isChoice hm ord
    ⟨h₀, (mem_eligible_iff_scores hm).mpr hh₀⟩
  have hscores := (mem_eligible_iff_scores hm).mp hchoice.mem
  have hin := (HostManager.mem_eligible.mp hchoice.mem).1
  have hname : (s.manager.getBestHost ord).1 ≠ "" := fun hempty => hm.name_ne (hempty ▸ hin)
  cases hcall with
  | refused hselect hreply =>
    cases service_step_iff.mp hselect with
    | selectNone _ _ hq hb => exact absurd hb hname
    | select _ _ hq hb => simp at hreply
  | @answered u t v es fs mid answer hselect hmid hpending hrespond =>
    cases service_step_iff.mp hselect with
    | selectNone _ _ hq hb => exact absurd hb hname
    | select _ _ hq hb =>
      set b := (s.manager.getBestHost ord).1
      have hkept : .respond q ∉ mid →
          service.Throughout (fun u => u.NotOverdue b) s (.select q ord :: mid) →
          b ∈ t.manager.hostScores ∧ t.queries.lookup q = some b := by
        refine service.run_induction (P := fun mid t _ => .respond q ∉ mid →
          service.Throughout (fun u => u.NotOverdue b) s (.select q ord :: mid) →
          b ∈ t.manager.hostScores ∧ t.queries.lookup q = some b) ?_ ?_ hmid
        · intro _ _
          refine ⟨?_, AList.lookup_insert _⟩
          dsimp only
          rwa [HostManager.getBestHost_hostScores]
        · intro mid t' es' a v' fs' hrun ih hstep hpend hthru
          have hbefore : service.Throughout (fun u => u.NotOverdue b) s (.select q ord :: mid) :=
            EventMachine.Throughout.of_append (List.cons_append ▸ hthru)
          obtain ⟨hin', hq'⟩ := ih (fun hr => hpend (List.mem_append_left [a] hr)) hbefore
          have hstep' := service_step_iff.mp hstep
          refine ⟨hstep'.mem_of_notOverdue hin' ?_, hstep'.queries_lookup hq' ?_⟩
          · exact hbefore.last (service.run_cons hselect hrun)
          · rintro rfl
            exact hpend (by simp)
      obtain ⟨hin', hq'⟩ := hkept hpending (hdue b hscores)
      have hrecent := (hdue b hscores).last (service.run_cons hselect hmid) hin'
      cases service_step_iff.mp hrespond with
      | respond _ best hbest =>
        rw [hq'] at hbest
        cases hbest
        exact HostManager.namesOnlineHost_answerBestHost_iff.mpr ⟨hname, hrecent⟩

/-! ## Repeated requests -/

/-- `k` requests made one after the other. -/
def requests (q : ℕ) (ord : HashOrder) : ℕ → List ServiceAction
  | 0 => []
  | k + 1 => requests q ord k ++ [.select q ord, .respond q]

/-- The host named to a request made without interference. -/
lemma run_request (hm : s.manager.Consistent) (hsome : ∃ h, s.Scores h) (hq : q ∉ s.queries)
    (ord : HashOrder) :
    service.run s [.select q ord, .respond q] =
      some ({ s with manager := (s.manager.getBestHost ord).2 },
        [.selected q (s.manager.getBestHost ord).1,
          .replied q (s.manager.answerBestHost (s.manager.getBestHost ord).1 s.clock)]) := by
  obtain ⟨h, hh⟩ := hsome
  have hchoice := HostManager.getBestHost_isChoice hm ord ⟨h, (mem_eligible_iff_scores hm).mpr hh⟩
  have hname : (s.manager.getBestHost ord).1 ≠ "" := fun hempty =>
    hm.name_ne (hempty ▸ (HostManager.mem_eligible.mp hchoice.mem).1)
  have hselect := service_step_iff.mpr (Step.select q ord hq hname)
  have hrespond := service_step_iff.mpr (Step.respond
    (s := { s with
      manager := (s.manager.getBestHost ord).2
      queries := s.queries.insert q (s.manager.getBestHost ord).1 })
    q _ (AList.lookup_insert _))
  refine (service.run_cons hselect (service.run_cons hrespond (service.run_nil _))).trans ?_
  simp only [UnorderedMap.erase_insert hq, HostManager.answerBestHost,
    HostManager.getBestHost_hostScores]
  rfl

/-- Requests without interference are rounds: only the credits move, and each answer is about the
host the round chose. -/
lemma run_requests (hm : s.manager.Consistent) (hsome : ∃ h, s.Scores h) (hq : q ∉ s.queries)
    (ord : HashOrder) (k : ℕ) :
    ∃ m' names, service.run s (requests q ord k) =
        some ({ s with manager := m' },
          names.flatMap fun b => [.selected q b, .replied q (s.manager.answerBestHost b s.clock)]) ∧
      m'.Consistent ∧ m'.hostScores = s.manager.hostScores ∧
      (∀ h, m'.baseWeight h = s.manager.baseWeight h) ∧ names.length = k ∧
      Rounds s.manager.eligible s.manager.baseWeight s.manager.currentWeight names
        m'.currentWeight := by
  induction k with
  | zero =>
    refine ⟨s.manager, [], ?_, hm, rfl, fun _ => rfl, rfl, .nil fun _ _ => rfl⟩
    rw [requests, EventMachine.run_nil, List.flatMap_nil]
  | succ k ih =>
    obtain ⟨m', names, hrun, hm', hscores, hbase, hlen, hrounds⟩ := ih
    have hel : m'.eligible = s.manager.eligible := by
      ext h
      rw [HostManager.mem_eligible, HostManager.mem_eligible, hscores, hbase h]
    have hsome' : ∃ h, ({ s with manager := m' } : Service).Scores h := by
      obtain ⟨h, r, hr, hpos⟩ := hsome
      exact ⟨h, r, hscores ▸ hr, hpos⟩
    have hone := @run_request { s with manager := m' } q hm' hsome' hq ord
    have hne : m'.eligible.Nonempty := by
      obtain ⟨h, hh⟩ := hsome
      exact ⟨h, hel ▸ (mem_eligible_iff_scores hm).mpr hh⟩
    have hchoice := HostManager.getBestHost_isChoice hm' ord hne
    refine ⟨(m'.getBestHost ord).2, names ++ [(m'.getBestHost ord).1],
      (service.run_append hrun hone).trans ?_, hm'.getBestHost ord, ?_, fun h => ?_, ?_, ?_⟩
    · simp only [List.flatMap_append, List.flatMap_singleton, HostManager.answerBestHost, hscores]
    · rw [HostManager.getBestHost_hostScores, hscores]
    · rw [HostManager.getBestHost_baseWeight hm', hbase h]
    · rw [List.length_append, hlen, List.length_singleton]
    · rw [hel, funext hbase] at hchoice
      refine hrounds.snoc hchoice fun i _ => ?_
      rw [HostManager.currentWeight_getBestHost hm', hel, funext hbase]

/-- **An overdue host is named in the end**, by requests alone.

**Proof sketch.** The requests are rounds of constant weights, and in rounds of constant weights no
candidate waits for ever (`Rounds.length_mul_le`). -/
theorem exists_request_overdue (hm : s.manager.Consistent) (hq : q ∉ s.queries) (ord : HashOrder)
    (hh : s.Scores h) (hdue : ¬ s.manager.ReportedRecently s.clock h) :
    ∃ k t fs answer, service.run s (requests q ord k) = some (t, fs) ∧ .replied q answer ∈ fs ∧
      ¬ HostManager.NamesOnlineHost s.clock answer := by
  have hel := (mem_eligible_iff_scores hm).mpr hh
  have hpos : ∀ i ∈ s.manager.eligible, 0 < s.manager.baseWeight i :=
    fun i hi => (HostManager.mem_eligible.mp hi).2
  set A := s.manager.eligible
  set w := s.manager.baseWeight
  set c := s.manager.currentWeight
  -- a lower bound of the credits, a total weight below that of the waiting host
  set l := min (A.inf' ⟨h, hel⟩ c) (c h - totalWeight A w)
  have hl : ∀ j ∈ A, l ≤ c j := fun j hj =>
    (min_le_left _ _).trans (Finset.inf'_le c hj)
  obtain ⟨k, hk⟩ := exists_nat_gt ((∑ j ∈ A, c j - c h - (A.card - 1) * l) / w h)
  obtain ⟨m', names, hrun, -, -, -, hlen, hrounds⟩ := run_requests hm ⟨h, hh⟩ hq ord k
  have hnamed : h ∈ names := by
    by_contra hwait
    have hle := hrounds.length_mul_le hpos hel hl (min_le_right _ _) hwait
    rw [div_lt_iff₀ (hpos h hel)] at hk
    rw [hlen] at hle
    exact absurd hle (not_le.mpr hk)
  refine ⟨k, _, _, s.manager.answerBestHost h s.clock, hrun, ?_, fun honline => ?_⟩
  · exact List.mem_flatMap.mpr ⟨h, hnamed, by simp⟩
  · exact hdue (HostManager.namesOnlineHost_answerBestHost_iff.mp honline).2

/-! ## In every reachable state -/

/-- Every answer to requests made one after the other from `s` names an online host. -/
def RequestsNameOnlineHosts (s : Service) (q : ℕ) (ord : HashOrder) : Prop :=
  ∀ k t fs answer, service.run s (requests q ord k) = some (t, fs) → .replied q answer ∈ fs →
    HostManager.NamesOnlineHost s.clock answer

/-- **When `QueryBestHost` names online hosts.** In every reachable state in which some host of
positive score has reported within the window: a call, whatever happens between its sections,
is answered with an online host if no host of positive score becomes overdue before the answer;
and requests made at once are all answered with online hosts exactly when no host of positive
score is overdue.

**Proof sketch.** The memory is consistent (`run_consistent`). One direction is
`queryCall_namesOnlineHost`, and for repeated requests that every round chooses a host of positive
score. The other direction is `exists_request_overdue`. -/
theorem online_when_none_overdue (hpre : service.run (start clock) as = some (s, es))
    (hsome : ∃ h, s.ScoresRecently h) (ord : HashOrder) :
    (∀ q mid t answer, QueryCall s q ord mid t answer →
      (∀ h, s.Scores h →
        service.Throughout (fun u => u.NotOverdue h) s (.select q ord :: mid)) →
      HostManager.NamesOnlineHost t.clock answer) ∧
    (∀ q, q ∉ s.queries →
      (RequestsNameOnlineHosts s q ord ↔ ∀ h, s.Scores h → s.NotOverdue h)) := by
  have hm := run_consistent hpre
  have hsome' : ∃ h, s.Scores h := hsome.imp fun _ hh => hh.1
  refine ⟨fun q mid t answer hcall hdue => queryCall_namesOnlineHost hm hcall hsome' hdue,
    fun q hq => ⟨fun hall h hh _ => ?_, fun hdue k t fs answer hrun hreply => ?_⟩⟩
  · by_contra hover
    obtain ⟨k, t, fs, answer, hrun, hreply, hnot⟩ := exists_request_overdue hm hq ord hh hover
    exact hnot (hall k t fs answer hrun hreply)
  · obtain ⟨m', names, hrun', -, -, -, -, hrounds⟩ := run_requests hm hsome' hq ord k
    rw [hrun'] at hrun
    cases hrun
    obtain ⟨b, hb, hreply⟩ := List.mem_flatMap.mp hreply
    obtain rfl : answer = s.manager.answerBestHost b s.clock := by simpa using hreply
    have hel := hrounds.mem_of_mem hb
    have hscores := (mem_eligible_iff_scores hm).mp hel
    have hin := (HostManager.mem_eligible.mp hel).1
    exact HostManager.namesOnlineHost_answerBestHost_iff.mpr
      ⟨fun hempty => hm.name_ne (hempty ▸ hin), hdue b hscores hin⟩

/-- Host `"a"` reports, `"b"` forty seconds later; ten more seconds pass. -/
def recentActions : List ServiceAction :=
  reportActions 0 (idleInfo "a" 1) .stored ++ [.tick 40000000000] ++
    reportActions 0 (busyInfo "b" 1) .stored ++ [.tick 10000000000]

/-- The process after `recentActions`. -/
def recentService : Service := ((service.run (start 0) recentActions).getD (start 0, [])).1

/-- What happens between the sections of a query: time passes, `"b"` reports again, another query
chooses its host. -/
def meanwhile : List ServiceAction :=
  [.tick 5000000000] ++ reportActions 0 (busyInfo "b" 2) .stored ++ [.select 1 .stored]

/-- Two hosts, neither overdue when a query is answered at `55` s, with a report and another query
between its sections; nor are they overdue for requests made at `50` s. -/
theorem online_when_none_overdue_two_hosts : recentService.manager.hosts = {"a", "b"} ∧
    (∃ t answer, QueryCall recentService 0 .stored meanwhile t answer ∧ t.clock = 55 * second ∧
      HostManager.NamesOnlineHost t.clock answer) ∧
    RequestsNameOnlineHosts recentService 0 .stored := by
  obtain ⟨p, hp⟩ := Option.isSome_iff_exists.mp
    (by decide +kernel : (service.run (start 0) recentActions).isSome = true)
  have hrun : service.run (start 0) recentActions = some (recentService, p.2) := by
    rw [recentService, hp]
    rfl
  have hhosts : recentService.manager.hosts = {"a", "b"} := by decide +kernel
  have hregistered : ∀ h, recentService.Scores h → h ∈ ({"a", "b"} : Finset String) := fun h hh =>
    hhosts ▸ HostManager.mem_hosts.mpr
      (HostManager.mem_eligible.mp ((mem_eligible_iff_scores (run_consistent hrun)).mpr hh)).1
  -- before each section of the call, and before the answer
  have hdue : ∀ h ∈ ({"a", "b"} : Finset String), service.Meets (fun u _ => u.NotOverdue h)
      recentService (.select 0 .stored :: (meanwhile ++ [.respond 0])) := by
    decide +kernel
  have hsome : recentService.ScoresRecently "a" :=
    ⟨⟨⟨idleInfo "a" 1, 100, 0⟩, by decide +kernel, by norm_num⟩, by decide +kernel⟩
  obtain ⟨hcalls, hrequests⟩ := online_when_none_overdue hrun ⟨"a", hsome⟩ .stored
  refine ⟨hhosts, ?_, (hrequests 0 (by decide +kernel)).mpr fun h hh => ?_⟩
  · have hcall : (service.run recentService (.select 0 .stored :: (meanwhile ++ [.respond 0]))).map
        (fun q => q.1.clock) = some (55 * second) := by decide +kernel
    obtain ⟨⟨v, gs⟩, hcall, hclock⟩ := Option.map_eq_some_iff.mp hcall
    obtain ⟨u, es, fs, hselect, hrest, -⟩ := service.run_cons_iff.mp hcall
    obtain ⟨t, fs, hs, hmid, hrespond, -⟩ := service.run_append_iff.mp hrest
    rw [service.run_singleton] at hrespond
    have hrespond' := service_step_iff.mp hrespond
    cases hrespond' with
    | respond _ best hq =>
      have hquery := QueryCall.answered hselect hmid (by simp [meanwhile, reportActions]) hrespond
      refine ⟨t, _, hquery, hclock, hcalls _ _ _ _ hquery fun h hh => ?_⟩
      rw [EventMachine.throughout_iff (service.run_cons hselect hmid),
        ← EventMachine.meets_concat_iff (a := .respond 0) (service.run_cons hselect hmid)]
      exact hdue h (hregistered h hh)
  · exact hdue h (hregistered h hh) [] _ _ _ _ rfl rfl

/-! ## An overdue host named -/

/-- Host `"a"` reports once, `"b"` again and again. The pass at sixty seconds finds `"a"` exactly
as old as the window, and leaves it for the next one. -/
def overdueActions : List ServiceAction :=
  reportActions 0 (idleInfo "a" 1) .stored ++ reportActions 0 (idleInfo "b" 1) .stored ++
    [.tick 60000000000, .cleanup (60 * second)] ++ reportActions 0 (idleInfo "b" 2) .stored ++
    [.tick 20000000000] ++ reportActions 0 (idleInfo "b" 3) .stored ++ [.tick 10000000000]

/-- The process after `overdueActions`. -/
def overdueService : Service := ((service.run (start 0) overdueActions).getD (start 0, [])).1

/-- **An overdue host is named** ninety seconds after its only report, while another host of
positive score has reported ten seconds ago. -/
theorem names_overdue_host :
    ¬ ∀ (clock : Time) (as : List ServiceAction) (s : Service) (es : List ServiceEvent) (q : ℕ)
      (ord : HashOrder) (mid : List ServiceAction) (t : Service)
      (answer : Except RpcError ServerOverviewRecord),
      service.run (start clock) as = some (s, es) → QueryCall s q ord mid t answer →
      (∃ h, service.Throughout (fun u => u.ScoresRecently h) s (.select q ord :: mid)) →
      HostManager.NamesOnlineHost t.clock answer := by
  intro halways
  obtain ⟨p, hp⟩ := Option.isSome_iff_exists.mp
    (by decide +kernel : (service.run (start 0) overdueActions).isSome = true)
  have hrun : service.run (start 0) overdueActions = some (overdueService, p.2) := by
    rw [overdueService, hp]
    rfl
  have hclock : overdueService.clock = 90 * second := by decide +kernel
  have hname : (overdueService.manager.getBestHost .stored).1 = "a" := by decide +kernel
  have ha : overdueService.manager.hostScores.lookup "a" = some ⟨idleInfo "a" 1, 100, 0⟩ := by
    decide +kernel
  have hb : overdueService.manager.hostScores.lookup "b" =
      some ⟨idleInfo "b" 3, 100, 80 * second⟩ := by decide +kernel
  have hselect := service_step_iff.mpr
    (Step.select (s := overdueService) 0 .stored (by decide +kernel) (by rw [hname]; decide))
  have hrespond := service_step_iff.mpr (Step.respond
    (s := { overdueService with
      manager := (overdueService.manager.getBestHost .stored).2
      queries := overdueService.queries.insert 0 (overdueService.manager.getBestHost .stored).1 })
    0 _ (AList.lookup_insert _))
  have honline := halways 0 overdueActions overdueService p.2 0 .stored [] _ _ hrun
    (.answered hselect (service.run_nil _) List.not_mem_nil hrespond) ⟨"b", ?_⟩
  · obtain ⟨-, r, hr, hage⟩ := HostManager.namesOnlineHost_answerBestHost_iff.mp honline
    dsimp only at hr hage
    rw [HostManager.getBestHost_hostScores, hname, ha] at hr
    cases hr
    rw [hclock] at hage
    exact absurd hage (by decide)
  · -- the records and the clock stay through the call
    have hrecent : ∀ u : Service, u.manager.hostScores = overdueService.manager.hostScores →
        u.clock = overdueService.clock → u.ScoresRecently "b" := by
      intro u hscores hu
      refine ⟨⟨_, hscores ▸ hb, by norm_num⟩, _, hscores ▸ hb, ?_⟩
      rw [hu, hclock]
      decide
    exact EventMachine.throughout_singleton hselect (hrecent _ rfl rfl)
      (hrecent _ (HostManager.getBestHost_hostScores _ _) rfl)

end Service

end Monitor
