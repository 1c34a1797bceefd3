import PerfMonitor.Manager.ScheduleInvariant

set_option relaxedAutoImplicit false
set_option autoImplicit false

/-!
# Balance and fairness of the schedule

In a run without cleanup in which every stored score is positive, every registered host takes
part in every `GetBestHost` call, so each call is a round of smooth weighted round-robin over
all registered hosts, and reports only add hosts and move weights. The credits stay balanced.
While the weights stay put the calls name each host by its share.

## Main definitions

* `Monitor.HostManager.Scoring` — every registered host scores above `0`.
* `Monitor.choices` — the hosts named by `GetBestHost`, whoever called it.
* `Monitor.Service.Undisturbed` — no cleanup, and only positive scores stored.

## Main results

* `Monitor.Service.Step.round` — a step is a round, or leaves the credits.
* `Monitor.Service.run_balanced` — the credits of every reachable state are balanced.
* `Monitor.Service.run_accounts` — the credits after calls under constant weights.
* `Monitor.Service.balance_and_shares` — the bounds on the credits and on the shares.
-/

namespace Monitor

open SmoothRoundRobin

namespace HostManager

variable {m : HostManager} {host : String} {r : HostScore}

/-- Every registered host's latest score is positive. -/
def Scoring (m : HostManager) : Prop := ∀ h r, m.hostScores.lookup h = some r → 0 < r.score

/-- When every score is positive, every registered host takes part in a round. -/
lemma Consistent.eligible_eq_hosts (hm : Consistent m) (hs : m.Scoring) : m.eligible = m.hosts := by
  refine Finset.filter_true_of_mem fun h hh => ?_
  obtain ⟨r, hr⟩ := UnorderedMap.mem_iff_lookup.mp (mem_hosts.mp hh)
  exact (hm.baseWeight_pos_iff hr).mpr (hs h r hr)

lemma Consistent.baseWeight_pos (hm : Consistent m) (hs : m.Scoring) {h : String}
    (hh : h ∈ m.hosts) : 0 < m.baseWeight h :=
  (mem_eligible.mp (hm.eligible_eq_hosts hs ▸ hh)).2

/-- The registered hosts are those with a positive weight. -/
lemma Consistent.mem_hosts_iff_pos (hm : Consistent m) (hs : m.Scoring) {h : String} :
    h ∈ m.hosts ↔ 0 < m.baseWeight h := by
  refine ⟨hm.baseWeight_pos hs, fun hpos => ?_⟩
  by_contra hnot
  have hst : h ∉ m.scheduleStates := fun hin => hnot (mem_hosts.mpr (hm.mem_iff.mp hin))
  rw [baseWeight, UnorderedMap.get, AList.lookup_eq_none.mpr hst] at hpos
  exact lt_irrefl _ hpos

/-- Equal weights mean equal hosts. -/
lemma hosts_eq_of_baseWeight {m' : HostManager} (hm : Consistent m) (hs : m.Scoring)
    (hm' : Consistent m') (hs' : m'.Scoring) (hbase : ∀ h, m.baseWeight h = m'.baseWeight h) :
    m.hosts = m'.hosts := by
  ext h
  rw [hm.mem_hosts_iff_pos hs, hm'.mem_hosts_iff_pos hs', hbase h]

lemma Consistent.totalWeight_le (hm : Consistent m) :
    totalWeight m.hosts m.baseWeight ≤ 100 * m.hosts.card := by
  have hsum := Finset.sum_le_card_nsmul m.hosts m.baseWeight 100 fun h _ => hm.baseWeight_le h
  rwa [nsmul_eq_mul, mul_comm] at hsum

/-! ## The sections on hosts, weights and credits -/

lemma hosts_storeReport : (m.storeReport host r).hosts = insert host m.hosts := by
  ext h
  rw [mem_hosts, Finset.mem_insert, mem_hosts]
  exact AList.mem_insert _

@[simp] lemma hosts_getBestHost (ord : HashOrder) : (m.getBestHost ord).2.hosts = m.hosts :=
  hosts_congr (getBestHost_hostScores ord m)

/-- A report of positive score leaves every credit; a newcomer's is `0`. -/
lemma currentWeight_storeReport (hpos : 0 < r.score) (h : String) :
    (m.storeReport host r).currentWeight h = m.currentWeight h := by
  unfold currentWeight storeReport
  rw [calcSchedulingWeight_of_nonneg hpos.le, UnorderedMap.get_insert_ite]
  split_ifs with hh
  · rw [hh, ScheduleState.report, if_neg (not_le.mpr hpos)]
    split_ifs <;> rfl
  · rfl

/-- The credits after `GetBestHost` are settled. -/
lemma currentWeight_getBestHost (hm : Consistent m) (ord : HashOrder) (h : String) :
    (m.getBestHost ord).2.currentWeight h =
      settle m.eligible m.baseWeight m.currentWeight (m.getBestHost ord).1 h := by
  have hnone : m.scheduleStates.lookup h = none → m.currentWeight h =
      settle m.eligible m.baseWeight m.currentWeight (m.getBestHost ord).1 h := by
    intro hst
    have hnot : h ∉ m.eligible := fun hel =>
      AList.lookup_eq_none.mp hst (hm.mem_iff.mpr (mem_eligible.mp hel).1)
    rw [settle, if_neg hnot]
  cases hst : m.scheduleStates.lookup h with
  | none =>
    rw [← hnone hst]
    unfold currentWeight UnorderedMap.get
    rw [lookup_getBestHost hm, hst]
    rfl
  | some st =>
    have hafter := lookup_getBestHost hm ord h
    rw [hst, Option.map_some] at hafter
    rw [currentWeight, UnorderedMap.get_of_lookup hafter]

lemma Scoring.storeReport (hs : m.Scoring) (hpos : 0 < r.score) :
    (m.storeReport host r).Scoring := by
  intro h r' hr'
  simp only [HostManager.storeReport, UnorderedMap.lookup_insert_ite] at hr'
  split_ifs at hr' with hh
  · cases hr'
    exact hpos
  · exact hs h r' hr'

end HostManager

/-! ## Rounds of a run -/

/-- The host named by a `GetBestHost` call. -/
def ServiceEvent.choice : ServiceEvent → Option String
  | .picked host => some host
  | .selected _ host => some host
  | _ => none

/-- The hosts named by `GetBestHost`, in order, whether for a report or for a query. -/
def choices (es : List ServiceEvent) : List String := es.filterMap ServiceEvent.choice

lemma choices_append (es fs : List ServiceEvent) : choices (es ++ fs) = choices es ++ choices fs :=
  List.filterMap_append

lemma choices_of_quiet {es : List ServiceEvent} (hes : ∀ e ∈ es, e.isSchedule = false) :
    choices es = [] := by
  refine List.filterMap_eq_nil_iff.mpr fun e he => ?_
  have hquiet := hes e he
  cases e <;> first | rfl | simp [ServiceEvent.isSchedule] at hquiet

namespace Service

variable {s s' t : Service} {a : ServiceAction} {as bs : List ServiceAction}
  {es fs : List ServiceEvent} {clock : Time}

/-- No cleanup pass runs and every stored score is positive. -/
structure Undisturbed (as : List ServiceAction) (es : List ServiceEvent) : Prop where
  no_cleanup : ∀ now, .cleanup now ∉ as
  scores_pos : ∀ host score, .stored host score ∈ es → 0 < score

lemma Undisturbed.left (h : Undisturbed (as ++ bs) (es ++ fs)) : Undisturbed as es :=
  ⟨fun now hin => h.no_cleanup now (List.mem_append_left bs hin),
    fun host score hin => h.scores_pos host score (List.mem_append_left fs hin)⟩

lemma Undisturbed.right (h : Undisturbed (as ++ bs) (es ++ fs)) : Undisturbed bs fs :=
  ⟨fun now hin => h.no_cleanup now (List.mem_append_right as hin),
    fun host score hin => h.scores_pos host score (List.mem_append_right es hin)⟩

lemma Undisturbed.append (h : Undisturbed as es) (h' : Undisturbed bs fs) :
    Undisturbed (as ++ bs) (es ++ fs) :=
  ⟨fun now hin => (List.mem_append.mp hin).elim (h.no_cleanup now) (h'.no_cleanup now),
    fun host score hin =>
      (List.mem_append.mp hin).elim (h.scores_pos host score) (h'.scores_pos host score)⟩

/-- A step that keeps scores positive. -/
lemma Step.scoring (h : Step s a s' fs) (hs : s.manager.Scoring) (hu : Undisturbed [a] fs) :
    s'.manager.Scoring := by
  have hstep := h.scheduleStep
  generalize s'.manager = m' at hstep ⊢
  cases hstep with
  | keep hscores hstates hes => intro h r hr; exact hs h r (hscores ▸ hr)
  | store t r now => exact hs.storeReport (hu.scores_pos _ _ List.mem_cons_self)
  | pick t ord => intro h r hr; exact hs h r (by rwa [HostManager.getBestHost_hostScores] at hr)
  | select q ord hrest =>
    intro h r hr
    exact hs h r (by rwa [HostManager.getBestHost_hostScores] at hr)
  | cleanup now => exact absurd List.mem_cons_self (hu.no_cleanup now)

/-- What `GetBestHost` does to hosts, weights and credits when every score is positive. -/
lemma round_getBestHost {m : HostManager} (hm : m.Consistent) (hs : m.Scoring) (ord : HashOrder) :
    (m.getBestHost ord).2.hosts = m.hosts ∧
      (∀ h, (m.getBestHost ord).2.baseWeight h = m.baseWeight h) ∧
      (∀ h, (m.getBestHost ord).2.currentWeight h =
        settle m.hosts m.baseWeight m.currentWeight (m.getBestHost ord).1 h) ∧
      (m.hosts.Nonempty →
        IsChoice m.hosts m.baseWeight m.currentWeight (m.getBestHost ord).1) := by
  have heq := hm.eligible_eq_hosts hs
  refine ⟨HostManager.hosts_getBestHost ord, HostManager.getBestHost_baseWeight hm ord, ?_, ?_⟩
  · rw [← heq]
    exact HostManager.currentWeight_getBestHost hm ord
  · rw [← heq]
    exact HostManager.getBestHost_isChoice hm ord

/-- **A step of an undisturbed run is a round, or leaves the credits** and at most adds a host of
credit `0`. -/
lemma Step.round (h : Step s a s' fs) (hm : s.manager.Consistent) (hs : s.manager.Scoring)
    (hu : Undisturbed [a] fs) :
    (choices fs = [] ∧ (∀ h, s'.manager.currentWeight h = s.manager.currentWeight h) ∧
      (s'.manager.hosts = s.manager.hosts ∨
        ∃ host, s'.manager.hosts = insert host s.manager.hosts)) ∨
    ∃ b, choices fs = [b] ∧ s'.manager.hosts = s.manager.hosts ∧
      (∀ h, s'.manager.baseWeight h = s.manager.baseWeight h) ∧
      (∀ h, s'.manager.currentWeight h =
        settle s.manager.hosts s.manager.baseWeight s.manager.currentWeight b h) ∧
      (s.manager.hosts.Nonempty →
        IsChoice s.manager.hosts s.manager.baseWeight s.manager.currentWeight b) := by
  have hstep := h.scheduleStep
  generalize s'.manager = m' at hstep ⊢
  cases hstep with
  | keep hscores hstates hes =>
    exact Or.inl ⟨choices_of_quiet hes, HostManager.currentWeight_congr hstates,
      Or.inl (HostManager.hosts_congr hscores)⟩
  | store t r now =>
    exact Or.inl ⟨rfl, HostManager.currentWeight_storeReport
      (hu.scores_pos _ _ List.mem_cons_self), Or.inr ⟨r.host, HostManager.hosts_storeReport⟩⟩
  | pick t ord => exact Or.inr ⟨_, rfl, round_getBestHost hm hs ord⟩
  | select q ord hrest =>
    refine Or.inr ⟨_, ?_, round_getBestHost hm hs ord⟩
    rw [← List.singleton_append, choices_append, choices_of_quiet hrest]
    rfl
  | cleanup now => exact absurd List.mem_cons_self (hu.no_cleanup now)

/-! ## Balance -/

/-- A host without a schedule state has credit `0`. -/
lemma currentWeight_of_notMem {m : HostManager} (hm : m.Consistent) {h : String}
    (hh : h ∉ m.hosts) : m.currentWeight h = 0 := by
  have hnot : h ∉ m.scheduleStates := fun hin => hh (HostManager.mem_hosts.mpr (hm.mem_iff.mp hin))
  rw [HostManager.currentWeight, UnorderedMap.get, AList.lookup_eq_none.mpr hnot]
  rfl

/-- A step keeps the credits balanced within any `L` that is at least the total weight before and
positive.

**Proof sketch.** A round is `Balanced.settle`; a host that joins has credit `0`. -/
lemma Step.balanced (h : Step s a s' fs) (hm : s.manager.Consistent) (hs : s.manager.Scoring)
    (hu : Undisturbed [a] fs) {L : ℚ} (hL : 0 < L)
    (hW : totalWeight s.manager.hosts s.manager.baseWeight ≤ L)
    (hb : Balanced s.manager.hosts L s.manager.currentWeight) :
    Balanced s'.manager.hosts L s'.manager.currentWeight := by
  rcases h.round hm hs hu with ⟨-, hcw, hhosts | ⟨host, hhosts⟩⟩ | ⟨b, -, hhosts, -, hcw, hchoice⟩
  · rw [hhosts]
    exact hb.congr fun i _ => hcw i
  · rw [hhosts]
    refine Balanced.congr ?_ fun i _ => hcw i
    by_cases hin : host ∈ s.manager.hosts
    · rwa [Finset.insert_eq_of_mem hin]
    · exact hb.insert hin (currentWeight_of_notMem hm hin) hL
  · rw [hhosts]
    rcases s.manager.hosts.eq_empty_or_nonempty with hempty | hne
    · rw [hempty]
      exact balanced_empty L _
    · have hset := hb.settle (fun i hi => hm.baseWeight_pos hs hi) (hchoice hne) hW
      exact hset.congr fun i _ => hcw i

/-- No host is ever unregistered without cleanup. -/
lemma Step.hosts_subset (h : Step s a s' fs) (hm : s.manager.Consistent)
    (hs : s.manager.Scoring) (hu : Undisturbed [a] fs) : s.manager.hosts ⊆ s'.manager.hosts := by
  rcases h.round hm hs hu with ⟨-, -, hhosts | ⟨host, hhosts⟩⟩ | ⟨b, -, hhosts, -⟩
  · exact hhosts.ge
  · rw [hhosts]
    exact Finset.subset_insert host _
  · exact hhosts.ge

lemma run_scoring (hrun : service.run (start clock) as = some (s, es)) (hu : Undisturbed as es) :
    s.manager.Scoring := by
  refine service.run_induction (P := fun as t es => Undisturbed as es → t.manager.Scoring)
    ?_ ?_ hrun hu
  · intro _ h r hr
    cases hr
  · intro as t es a u fs _ ih ha hu
    exact (service_step_iff.mp ha).scoring (ih hu.left) hu.right

/-- **The credits of every reachable state are balanced**, within a hundred times the number of
hosts. -/
theorem run_balanced (hrun : service.run (start clock) as = some (s, es))
    (hu : Undisturbed as es) :
    Balanced s.manager.hosts (100 * (s.manager.hosts.card : ℚ)) s.manager.currentWeight := by
  refine service.run_induction (P := fun as t es => Undisturbed as es →
    Balanced t.manager.hosts (100 * (t.manager.hosts.card : ℚ)) t.manager.currentWeight)
    ?_ ?_ hrun hu
  · intro _
    exact balanced_empty _ _
  · intro as t es a u fs has ih ha hu
    have hstep := service_step_iff.mp ha
    have hm := run_consistent has
    have hs := run_scoring has hu.left
    rcases u.manager.hosts.eq_empty_or_nonempty with hempty | hne
    · rw [hempty]
      exact balanced_empty _ _
    · have hcard : (t.manager.hosts.card : ℚ) ≤ u.manager.hosts.card :=
        Nat.cast_le.mpr (Finset.card_le_card (hstep.hosts_subset hm hs hu.right))
      have hpos : (0 : ℚ) < u.manager.hosts.card := Nat.cast_pos.mpr (Finset.card_pos.mpr hne)
      exact hstep.balanced hm hs hu.right (by linarith)
        (hm.totalWeight_le.trans (by linarith)) ((ih hu.left).mono (by linarith))

/-! ## Shares -/

/-- **The credits after a sequence of calls under constant weights**, from a reachable state:
they account for the calls, and stay balanced within the total weight if they were.

**Proof sketch.** Induction on the run. Weights that stay put keep the hosts, since a host that
joins gets a positive weight. A round is then one more entry of the account. -/
theorem run_accounts (hpre : service.run (start clock) as = some (s, es))
    (hrun : service.run s bs = some (t, fs)) (hu : Undisturbed (as ++ bs) (es ++ fs))
    (hconst : service.Throughout
      (fun u => ∀ h, u.manager.baseWeight h = s.manager.baseWeight h) s bs) :
    Accounts s.manager.hosts s.manager.baseWeight s.manager.currentWeight (choices fs)
        t.manager.currentWeight ∧
      (Balanced s.manager.hosts (totalWeight s.manager.hosts s.manager.baseWeight)
          s.manager.currentWeight →
        Balanced s.manager.hosts (totalWeight s.manager.hosts s.manager.baseWeight)
          t.manager.currentWeight) := by
  have hhosts : ∀ cs u gs, service.run s cs = some (u, gs) → Undisturbed cs gs →
      (∀ h, u.manager.baseWeight h = s.manager.baseWeight h) →
      u.manager.hosts = s.manager.hosts := fun cs u gs hcs hucs hbase =>
    HostManager.hosts_eq_of_baseWeight (run_consistent (service.run_append hpre hcs))
      (run_scoring (service.run_append hpre hcs) (hu.left.append hucs)) (run_consistent hpre)
      (run_scoring hpre hu.left) hbase
  refine service.run_induction (P := fun cs u gs =>
    Undisturbed cs gs →
    service.Throughout (fun v => ∀ h, v.manager.baseWeight h = s.manager.baseWeight h) s cs →
    Accounts s.manager.hosts s.manager.baseWeight s.manager.currentWeight (choices gs)
        u.manager.currentWeight ∧
      (Balanced s.manager.hosts (totalWeight s.manager.hosts s.manager.baseWeight)
          s.manager.currentWeight →
        Balanced s.manager.hosts (totalWeight s.manager.hosts s.manager.baseWeight)
          u.manager.currentWeight)) ?_ ?_ hrun hu.right hconst
  · exact fun _ _ => ⟨Accounts.refl _ _ _, id⟩
  · intro cs u gs a v ks hcs ih ha hucs hthru
    obtain ⟨hacc, hbal⟩ := ih hucs.left hthru.of_append
    have hfull := service.run_append hpre hcs
    have hm := run_consistent hfull
    have hs := run_scoring hfull (hu.left.append hucs.left)
    have hstep := service_step_iff.mp ha
    have hbase := hthru.of_append.last hcs
    have huh := hhosts cs u gs hcs hucs.left hbase
    have hvh := hhosts _ v _ (service.run_append hcs (service.run_singleton u a ▸ ha)) hucs
      (hthru.last (service.run_append hcs (service.run_singleton u a ▸ ha)))
    have hw : u.manager.baseWeight = s.manager.baseWeight := funext hbase
    constructor
    · rw [choices_append]
      rcases hstep.round hm hs hucs.right with ⟨hnil, hcw, -⟩ | ⟨b, hb, -, -, hcw, -⟩
      · rw [hnil, List.append_nil]
        exact hacc.congr fun i _ => hcw i
      · rw [hb]
        refine hacc.settle.congr fun i _ => ?_
        rw [hcw i, huh, hw]
    · intro hstart
      rcases s.manager.hosts.eq_empty_or_nonempty with hempty | ⟨i, hi⟩
      · rw [hempty]
        exact balanced_empty _ _
      · have hL : 0 < totalWeight s.manager.hosts s.manager.baseWeight :=
          totalWeight_pos (fun i hi => (run_consistent hpre).baseWeight_pos
            (run_scoring hpre hu.left) hi) hi
        have hb := hstep.balanced hm hs hucs.right hL (by rw [huh, hw]) (huh ▸ hbal hstart)
        rwa [hvh] at hb

/-- The credits sum to `0` and are bounded in terms of the number of hosts. -/
structure CreditBounds (m : HostManager) : Prop where
  sum_eq_zero : ∑ h ∈ m.hosts, m.currentWeight h = 0
  lower : ∀ h ∈ m.hosts, -100 * (m.hosts.card : ℚ) < m.currentWeight h
  upper : ∀ h ∈ m.hosts,
    m.currentWeight h ≤ 100 * (m.hosts.card : ℚ) * ((m.hosts.card : ℚ) - 1)

/-- The calls that named `names` gave every host its share by weight, up to fewer than one call
more and up to as many calls less as there are other hosts. -/
structure FairShares (m : HostManager) (names : List String) : Prop where
  lower : ∀ h ∈ m.hosts,
    names.length * m.baseWeight h / totalWeight m.hosts m.baseWeight - ((m.hosts.card : ℚ) - 1) ≤
      names.count h
  upper : ∀ h ∈ m.hosts,
    (names.count h : ℚ) <
      names.length * m.baseWeight h / totalWeight m.hosts m.baseWeight + 1
  named : ∀ h ∈ m.hosts,
    (m.hosts.card : ℚ) - 1 < names.length * m.baseWeight h / totalWeight m.hosts m.baseWeight →
      h ∈ names

/-- **Balance and fairness.** In every state reached from the empty memory by reports of positive
score and `GetBestHost` calls, interleaved in any way and with any iteration orders, the credits
sum to `0` and are bounded; and calls from there on name every host by its share, if all
credits are `0` and while the weights stay put.

**Proof sketch.** The bounds are `run_balanced` and `Balanced.le`. With zero credits at the start
the calls keep the credits balanced within the total weight (`run_accounts`), and the shares are
`Accounts.count_lt` and `Accounts.le_count`. -/
theorem balance_and_shares (hpre : service.run (start clock) as = some (s, es))
    (hu : Undisturbed as es) :
    CreditBounds s.manager ∧
      ∀ bs t fs, service.run s bs = some (t, fs) → Undisturbed bs fs →
        service.Throughout (fun u => ∀ h, u.manager.baseWeight h = s.manager.baseWeight h) s bs →
        (∀ h ∈ s.manager.hosts, s.manager.currentWeight h = 0) →
        FairShares s.manager (choices fs) := by
  have hb := run_balanced hpre hu
  have hm := run_consistent hpre
  have hs := run_scoring hpre hu
  have hpos : ∀ i ∈ s.manager.hosts, 0 < s.manager.baseWeight i :=
    fun i hi => hm.baseWeight_pos hs hi
  refine ⟨⟨hb.sum_eq, fun h hh => ?_, fun h hh => ?_⟩, fun bs t fs hrun hubs hconst hzero => ?_⟩
  · linarith [hb.lower h hh]
  · linarith [hb.le hh]
  · obtain ⟨hacc, hbal⟩ := run_accounts hpre hrun (hu.append hubs) hconst
    have hacc₀ : Accounts s.manager.hosts s.manager.baseWeight (fun _ => 0) (choices fs)
        t.manager.currentWeight := fun i hi => by rw [hacc i hi, hzero i hi]
    have hend : s.manager.hosts.Nonempty →
        Balanced s.manager.hosts (totalWeight s.manager.hosts s.manager.baseWeight)
          t.manager.currentWeight := fun ⟨i, hi⟩ =>
      hbal ⟨Finset.sum_eq_zero hzero, fun j hj => by
        rw [hzero j hj]; exact neg_lt_zero.mpr (totalWeight_pos hpos hi)⟩
    refine ⟨fun h hh => hacc₀.le_count hpos (hend ⟨h, hh⟩) hh,
      fun h hh => hacc₀.count_lt hpos (hend ⟨h, hh⟩) hh, fun h hh hlong => ?_⟩
    have hle := hacc₀.le_count hpos (hend ⟨h, hh⟩) hh
    have hcount : (0 : ℚ) < (choices fs).count h := by linarith
    exact List.count_pos_iff.mp (by exact_mod_cast hcount)

/-- `GetBestHost` calls for queries leave every weight. -/
lemma throughout_select (hpre : service.run (start clock) as = some (s, es))
    (hbs : ∀ a ∈ bs, ∃ q ord, a = .select q ord) :
    service.Throughout (fun u => ∀ h, u.manager.baseWeight h = s.manager.baseWeight h) s bs := by
  rintro pre post u gs rfl hrun
  refine service.run_induction (P := fun cs u _ => (∀ a ∈ cs, ∃ q ord, a = .select q ord) →
    ∀ h, u.manager.baseWeight h = s.manager.baseWeight h) (fun _ _ => rfl) ?_ hrun
    fun a ha => hbs a (List.mem_append_left post ha)
  intro cs u gs a v ks hcs ih ha hsel h
  have hm := run_consistent (service.run_append hpre hcs)
  have hbase := ih (fun b hb => hsel b (List.mem_append_left _ hb)) h
  obtain ⟨q, ord, rfl⟩ := hsel a (by simp)
  cases service_step_iff.mp ha with
  | selectNone _ _ hq hb => exact (HostManager.getBestHost_baseWeight hm ord h).trans hbase
  | select _ _ hq hb => exact (HostManager.getBestHost_baseWeight hm ord h).trans hbase

/-- Host `"a"` of score `100` and host `"b"` of score `50` report, then two queries are made. -/
def weightedActions : List ServiceAction :=
  reportActions 0 (idleInfo "a" 1) .stored ++ reportActions 0 (busyInfo "b" 1) .stored ++
    [.select 0 .stored, .select 1 .stored]

/-- Three further queries. -/
def furtherQueries : List ServiceAction :=
  [.select 2 .stored, .select 3 .stored, .select 4 .stored]

/-- Two hosts, of weights `100` and `50`: after four calls all credits are `0`, and the next three
calls name the first host twice and the second one once. -/
theorem balance_and_shares_two_hosts : ∃ s es t fs,
    service.run (start 0) weightedActions = some (s, es) ∧
      service.run s furtherQueries = some (t, fs) ∧
      choices es = ["a", "a", "b", "a"] ∧ choices fs = ["a", "b", "a"] ∧
      s.manager.hosts = {"a", "b"} ∧ CreditBounds s.manager ∧
      FairShares s.manager ["a", "b", "a"] := by
  obtain ⟨⟨t, gs⟩, hrun⟩ := Option.isSome_iff_exists.mp
    (by decide +kernel : (service.run (start 0) (weightedActions ++ furtherQueries)).isSome = true)
  obtain ⟨s, es, fs, has, hbs, -⟩ := service.run_append_iff.mp hrun
  have hfirst : (service.run (start 0) weightedActions).map (fun p => (choices p.2,
      p.1.manager.hosts, decide (∀ h ∈ p.1.manager.hosts, p.1.manager.currentWeight h = 0))) =
      some (["a", "a", "b", "a"], {"a", "b"}, true) := by
    decide +kernel
  have hall : (service.run (start 0) (weightedActions ++ furtherQueries)).map
      (fun p => (choices p.2,
        p.2.all fun e => match e with | .stored _ score => decide (0 < score) | _ => true)) =
      some (["a", "a", "b", "a"] ++ ["a", "b", "a"], true) := by
    decide +kernel
  rw [has, Option.map_some, Option.some.injEq, Prod.mk.injEq, Prod.mk.injEq] at hfirst
  rw [service.run_append has hbs, Option.map_some, Option.some.injEq, Prod.mk.injEq,
    choices_append, hfirst.1, List.append_cancel_left_eq] at hall
  obtain ⟨hes, hhosts, hzero⟩ := hfirst
  obtain ⟨hnames, hscores⟩ := hall
  have hu : Undisturbed (weightedActions ++ furtherQueries) (es ++ fs) :=
    ⟨by simp [weightedActions, furtherQueries, reportActions], fun host score hin => by
      simpa using List.all_eq_true.mp hscores _ hin⟩
  obtain ⟨hbounds, hshares⟩ := balance_and_shares has hu.left
  exact ⟨s, es, t, fs, has, hbs, hes, hnames, hhosts, hbounds,
    hnames ▸ hshares _ t fs hbs hu.right (throughout_select has (by simp [furtherQueries]))
      (of_decide_eq_true hzero)⟩

end Service

end Monitor
