import Mathlib.Algebra.Order.Archimedean.Basic
import PerfMonitor.Manager.SchedulingFairness

set_option relaxedAutoImplicit false
set_option autoImplicit false

/-!
# Fairness of the query answers

`GetBestHost` advances the schedule, and two callers share it: `QueryBestHost`, and
`OnDataReceived`, which calls it at the end of every report for its log line. All calls together
are fair, so the answers to queries are as fair as the hosts that the reports name are: with no
report in between they are within `n` of their shares, and if the reports' own hosts stay near
their shares so do the answers. Reports can also take all turns of a host, for ever.

## Main definitions

* `Monitor.answers`, `Monitor.ownPicks` — the hosts named for queries, and for reports.
* `Monitor.Service.Steady` — a run in which each host always reports the same score.
* `Monitor.Service.SteadyRun` — such a run after the hosts have registered.
* `Monitor.Service.NearShares` — names that are shared out by score, up to a bound.
* `Monitor.Service.Cycling` — a state in which two reports hide host `"a"` from the next query.

## Main results

* `Monitor.Service.SteadyRun.nearShares_choices` — all calls together are within `n`.
* `Monitor.Service.Cycling.exists_starving_run` — two hosts, of scores `100` and `50`, and a run
  of any length whose queries are all answered with the second.
* `Monitor.Service.exists_fair_bound_iff` — the answers are near their shares exactly when the
  reports' own hosts are.
-/

namespace Monitor

open SmoothRoundRobin

/-- The host named for a query. -/
def ServiceEvent.answer : ServiceEvent → Option String
  | .selected _ host => some host
  | _ => none

/-- The host named at the end of a report. -/
def ServiceEvent.ownPick : ServiceEvent → Option String
  | .picked host => some host
  | _ => none

/-- The hosts named for queries, in order. -/
def answers (es : List ServiceEvent) : List String := es.filterMap ServiceEvent.answer

/-- The hosts named at the end of reports, in order. -/
def ownPicks (es : List ServiceEvent) : List String := es.filterMap ServiceEvent.ownPick

lemma answers_append (es fs : List ServiceEvent) : answers (es ++ fs) = answers es ++ answers fs :=
  List.filterMap_append

lemma ownPicks_append (es fs : List ServiceEvent) :
    ownPicks (es ++ fs) = ownPicks es ++ ownPicks fs :=
  List.filterMap_append

/-- The calls of `GetBestHost` are those of queries and those of reports. -/
lemma choices_perm (es : List ServiceEvent) : (choices es).Perm (answers es ++ ownPicks es) := by
  induction es with
  | nil => exact .refl _
  | cons e es ih =>
    cases e with
    | picked host => exact (ih.cons host).trans List.perm_middle.symm
    | selected q host => exact ih.cons host
    | accepted | duplicate | stored | replied | removed => exact ih

/-- The `GetBestHost` call at the end of a report. -/
def ServiceAction.isPick : ServiceAction → Bool
  | .pick _ _ => true
  | _ => false

namespace Service

variable {s s' t : Service} {a : ServiceAction} {as bs : List ServiceAction}
  {es fs : List ServiceEvent} {clock : Time} {score : String → ℚ}

/-- Without a `GetBestHost` call at the end of a report no host is named for one. -/
lemma run_ownPicks_eq_nil (hrun : service.run s bs = some (t, fs))
    (hno : ∀ a ∈ bs, a.isPick = false) : ownPicks fs = [] := by
  refine service.run_induction
    (P := fun bs _ fs => (∀ a ∈ bs, a.isPick = false) → ownPicks fs = []) (fun _ => rfl) ?_ hrun hno
  intro bs t es a u fs _ ih ha hno
  have hlast := hno a (List.mem_append_right bs (List.mem_singleton_self a))
  rw [ownPicks_append, ih fun b hb => hno b (List.mem_append_left [a] hb), List.nil_append]
  cases service_step_iff.mp ha <;> first | rfl | cases hlast

/-- No cleanup pass runs, and a host's stored score is always the same positive number. -/
structure Steady (score : String → ℚ) (as : List ServiceAction) (es : List ServiceEvent) :
    Prop where
  no_cleanup : ∀ now, .cleanup now ∉ as
  stored : ∀ host sc, .stored host sc ∈ es → sc = score host ∧ 0 < sc

lemma Steady.undisturbed (h : Steady score as es) : Undisturbed as es :=
  ⟨h.no_cleanup, fun host sc hin => (h.stored host sc hin).2⟩

lemma Steady.left (h : Steady score (as ++ bs) (es ++ fs)) : Steady score as es :=
  ⟨h.undisturbed.left.no_cleanup, fun host sc hin => h.stored host sc (List.mem_append_left fs hin)⟩

lemma Steady.right (h : Steady score (as ++ bs) (es ++ fs)) : Steady score bs fs :=
  ⟨h.undisturbed.right.no_cleanup,
    fun host sc hin => h.stored host sc (List.mem_append_right es hin)⟩

/-! ## The schedule under steady scores -/

/-- Smoothing does not move a weight that equals the reported score. -/
lemma baseWeight_storeReport {m : HostManager} {host : String} {r : HostScore}
    (hpos : 0 < r.score) (hold : m.baseWeight host = r.score ∨ m.baseWeight host = 0) (h : String) :
    (m.storeReport host r).baseWeight h = if h = host then r.score else m.baseWeight h := by
  unfold HostManager.baseWeight HostManager.storeReport at *
  rw [calcSchedulingWeight_of_nonneg hpos.le, UnorderedMap.get_insert_ite]
  split_ifs with hh
  · rw [ScheduleState.report, if_neg (not_le.mpr hpos)]
    rcases hold with hold | hold
    · rw [hold, if_neg (not_le.mpr hpos)]
      unfold kScheduleWeightSmoothing
      dsimp only
      ring
    · rw [if_pos hold.le]
  · rfl

/-- Under steady scores every weight is its host's score. -/
lemma run_baseWeight (hrun : service.run (start clock) as = some (s, es))
    (hst : Steady score as es) (h : String) :
    s.manager.baseWeight h = if h ∈ s.manager.hosts then score h else 0 := by
  refine service.run_induction (P := fun as t es => Steady score as es →
    ∀ h, t.manager.baseWeight h = if h ∈ t.manager.hosts then score h else 0) ?_ ?_ hrun hst h
  · intro _ h
    rfl
  · intro as t es a u fs has ih ha hst h
    have hstep := (service_step_iff.mp ha).scheduleStep
    have hm := run_consistent has
    have hold := ih hst.left
    generalize u.manager = m' at hstep ⊢
    cases hstep with
    | keep hscores hstates hes =>
      rw [HostManager.baseWeight_congr hstates, HostManager.hosts_congr hscores, hold h]
    | store i r now =>
      obtain ⟨hsc, hpos⟩ := hst.right.stored _ _ List.mem_cons_self
      have hbefore : t.manager.baseWeight r.host = (r.hostScore now).score ∨
          t.manager.baseWeight r.host = 0 := by
        rw [hold r.host]
        split_ifs
        · exact Or.inl hsc.symm
        · exact Or.inr rfl
      rw [baseWeight_storeReport hpos hbefore, HostManager.hosts_storeReport]
      by_cases hh : h = r.host
      · rw [if_pos hh, if_pos (hh ▸ Finset.mem_insert_self _ _), hh]
        exact hsc
      · rw [if_neg hh, hold h]
        simp only [Finset.mem_insert, hh, false_or]
    | pick i ord =>
      rw [HostManager.getBestHost_baseWeight hm, HostManager.hosts_getBestHost, hold h]
    | select q ord hrest =>
      rw [HostManager.getBestHost_baseWeight hm, HostManager.hosts_getBestHost, hold h]
    | cleanup now => exact absurd List.mem_cons_self (hst.right.no_cleanup now)

lemma run_totalWeight (hrun : service.run (start clock) as = some (s, es))
    (hst : Steady score as es) :
    totalWeight s.manager.hosts s.manager.baseWeight = ∑ h ∈ s.manager.hosts, score h :=
  Finset.sum_congr rfl fun h hh => by rw [run_baseWeight hrun hst, if_pos hh]

/-- Under steady scores the credits are balanced within the total weight.

**Proof sketch.** The total weight only grows, as hosts join, so each step keeps the balance
within the total weight after it. -/
lemma run_balanced_steady (hrun : service.run (start clock) as = some (s, es))
    (hst : Steady score as es) :
    Balanced s.manager.hosts (totalWeight s.manager.hosts s.manager.baseWeight)
      s.manager.currentWeight := by
  refine service.run_induction (P := fun as t es => Steady score as es →
    Balanced t.manager.hosts (totalWeight t.manager.hosts t.manager.baseWeight)
      t.manager.currentWeight) ?_ ?_ hrun hst
  · intro _
    exact balanced_empty _ _
  · intro as t es a u fs has ih ha hst
    rcases u.manager.hosts.eq_empty_or_nonempty with hempty | ⟨i, hi⟩
    · rw [hempty]
      exact balanced_empty _ _
    · have hstep := service_step_iff.mp ha
      have hafter := service.run_append has (service.run_singleton t a ▸ ha)
      have hm := run_consistent has
      have hs := run_scoring has hst.left.undisturbed
      have hpos : ∀ h ∈ u.manager.hosts, 0 < u.manager.baseWeight h := fun h hh =>
        (run_consistent hafter).baseWeight_pos (run_scoring hafter hst.undisturbed) hh
      have hsub := hstep.hosts_subset hm hs hst.right.undisturbed
      have hgrow : totalWeight t.manager.hosts t.manager.baseWeight ≤
          totalWeight u.manager.hosts u.manager.baseWeight := by
        rw [run_totalWeight has hst.left, run_totalWeight hafter hst]
        refine Finset.sum_le_sum_of_subset_of_nonneg hsub fun h hh _ => ?_
        have hw := hpos h hh
        rw [run_baseWeight hafter hst, if_pos hh] at hw
        exact hw.le
      exact hstep.balanced hm hs hst.right.undisturbed (totalWeight_pos hpos hi) hgrow
        ((ih hst.left).mono hgrow)

/-- If only registered hosts report, no host joins. -/
lemma run_hosts_eq (hrun : service.run s bs = some (t, fs)) (hu : Undisturbed bs fs)
    (hreg : ∀ host sc, .stored host sc ∈ fs → host ∈ s.manager.hosts) :
    t.manager.hosts = s.manager.hosts := by
  refine service.run_induction (P := fun bs t fs => Undisturbed bs fs →
    (∀ host sc, .stored host sc ∈ fs → host ∈ s.manager.hosts) →
    t.manager.hosts = s.manager.hosts) (fun _ _ => rfl) ?_ hrun hu hreg
  intro bs t fs a u gs _ ih ha hubs hreg
  have hold := ih hubs.left fun host sc hin => hreg host sc (List.mem_append_left gs hin)
  have hstep := (service_step_iff.mp ha).scheduleStep
  generalize u.manager = m' at hstep ⊢
  cases hstep with
  | keep hscores hstates hes =>
    rw [HostManager.hosts_congr hscores, hold]
  | store i r now =>
    have hin := hreg r.host _ (List.mem_append_right fs List.mem_cons_self)
    rw [HostManager.hosts_storeReport, hold, Finset.insert_eq_of_mem hin]
  | pick i ord => rw [HostManager.hosts_getBestHost, hold]
  | select q ord hrest => rw [HostManager.hosts_getBestHost, hold]
  | cleanup now => exact absurd List.mem_cons_self (hubs.right.no_cleanup now)

/-! ## The answers and the other calls -/

/-- The hosts have registered. From then on only they report, each always with the same positive
score and fresh sequences, and the sections of the reports and of the queries interleave in any
way; no cleanup pass runs. -/
structure SteadyRun where
  score : String → ℚ
  clock : Time
  registration : List ServiceAction
  registered : Service
  registrationEvents : List ServiceEvent
  actions : List ServiceAction
  last : Service
  events : List ServiceEvent
  run_registration :
    service.run (start clock) registration = some (registered, registrationEvents)
  run_actions : service.run registered actions = some (last, events)
  steady : Steady score (registration ++ actions) (registrationEvents ++ events)
  mem_hosts : ∀ host sc, .stored host sc ∈ events → host ∈ registered.manager.hosts
  fresh : ∀ host seq, .duplicate host seq ∉ events

/-- The registered hosts. -/
def SteadyRun.hosts (r : SteadyRun) : Finset String := r.registered.manager.hosts

/-- Every host is named within `D` of its share, which is by score. -/
def NearShares (score : String → ℚ) (hosts : Finset String) (names : List String) (D : ℚ) : Prop :=
  ∀ h ∈ hosts,
    |(names.count h : ℚ) - names.length * score h / ∑ i ∈ hosts, score i| ≤ D

section NearShares

variable {hosts : Finset String} {names mine others : List String} {D E : ℚ}

lemma NearShares.mono (h : NearShares score hosts names D) (hle : D ≤ E) :
    NearShares score hosts names E :=
  fun i hi => (h i hi).trans hle

lemma nearShares_nil (score : String → ℚ) (hosts : Finset String) :
    NearShares score hosts [] 0 := by
  intro h _
  simp

/-- Names that are near their shares, less others that are, are near theirs. -/
lemma NearShares.of_perm_append (h : NearShares score hosts names D)
    (hperm : names.Perm (mine ++ others)) (hothers : NearShares score hosts others E) :
    NearShares score hosts mine (D + E) := by
  intro i hi
  have hcount : (names.count i : ℚ) = mine.count i + others.count i := by
    rw [hperm.count_eq, List.count_append, Nat.cast_add]
  have hlength : (names.length : ℚ) = mine.length + others.length := by
    rw [hperm.length_eq, List.length_append, Nat.cast_add]
  have hsplit : (mine.count i : ℚ) - mine.length * score i / ∑ j ∈ hosts, score j =
      (names.count i - names.length * score i / ∑ j ∈ hosts, score j) -
        (others.count i - others.length * score i / ∑ j ∈ hosts, score j) := by
    rw [hcount, hlength]
    ring
  rw [hsplit]
  exact (abs_sub _ _).trans (add_le_add (h i hi) (hothers i hi))

end NearShares

namespace SteadyRun

variable (r : SteadyRun) {D : ℚ}

/-- The weights stay those of the registration. -/
lemma throughout_baseWeight : service.Throughout
    (fun u => ∀ h, u.manager.baseWeight h = r.registered.manager.baseWeight h)
    r.registered r.actions := by
  rintro pre post u gs hsplit hpre h
  have hrun := r.run_actions
  have hst := r.steady
  rw [hsplit] at hrun hst
  obtain ⟨u', gs₁, gs₂, hpre', -, hevents⟩ := service.run_append_iff.mp hrun
  obtain ⟨rfl, rfl⟩ : u = u' ∧ gs = gs₁ := by simpa [hpre] using hpre'
  rw [hevents, ← List.append_assoc, ← List.append_assoc] at hst
  have hreg : ∀ host sc, .stored host sc ∈ gs → host ∈ r.registered.manager.hosts :=
    fun host sc hin => r.mem_hosts host sc (hevents ▸ List.mem_append_left gs₂ hin)
  rw [run_baseWeight (service.run_append r.run_registration hpre) hst.left,
    run_baseWeight r.run_registration r.steady.left,
    run_hosts_eq hpre hst.left.right.undisturbed hreg]

/-- **All calls together are fair**: within `n` of the shares, whoever calls.

**Proof sketch.** The weights are the scores and stay put, and the credits of the registered hosts
are balanced within the total weight, so `Accounts.abs_count_sub_lt` applies. -/
theorem nearShares_choices : NearShares r.score r.hosts (choices r.events) r.hosts.card := by
  intro h hh
  replace hh : h ∈ r.registered.manager.hosts := hh
  obtain ⟨hacc, hbal⟩ := run_accounts r.run_registration r.run_actions r.steady.undisturbed
    r.throughout_baseWeight
  have hb := run_balanced_steady r.run_registration r.steady.left
  have hpos : ∀ i ∈ r.registered.manager.hosts, 0 < r.registered.manager.baseWeight i := fun i hi =>
    (run_consistent r.run_registration).baseWeight_pos
      (run_scoring r.run_registration r.steady.left.undisturbed) hi
  have hnear := hacc.abs_count_sub_lt hpos hb (hbal hb) hh
  rw [run_totalWeight r.run_registration r.steady.left,
    run_baseWeight r.run_registration r.steady.left, if_pos hh] at hnear
  exact hnear.le

/-- The answers are as near their shares as the reports' own hosts are, up to `n`. -/
lemma nearShares_answers (hown : NearShares r.score r.hosts (ownPicks r.events) D) :
    NearShares r.score r.hosts (answers r.events) (r.hosts.card + D) :=
  r.nearShares_choices.of_perm_append (choices_perm r.events) hown

/-- The reports' own hosts are as near their shares as the answers are, up to `n`. -/
lemma nearShares_ownPicks (hanswers : NearShares r.score r.hosts (answers r.events) D) :
    NearShares r.score r.hosts (ownPicks r.events) (r.hosts.card + D) :=
  r.nearShares_choices.of_perm_append ((choices_perm r.events).trans List.perm_append_comm) hanswers

end SteadyRun

/-! ## Unbounded interference -/

/-- Hosts `"a"` of weight `100` and `"b"` of weight `50`, with credits `x` and `y`. -/
structure TwoHosts (m : HostManager) (x y : ℚ) : Prop where
  consistent : m.Consistent
  hosts_eq : m.hosts = {"a", "b"}
  weight_a : m.baseWeight "a" = 100
  weight_b : m.baseWeight "b" = 50
  credit_a : m.currentWeight "a" = x
  credit_b : m.currentWeight "b" = y

variable {m : HostManager} {x y : ℚ}

lemma TwoHosts.eligible_eq (h : TwoHosts m x y) : m.eligible = {"a", "b"} := by
  unfold HostManager.eligible
  rw [h.hosts_eq]
  refine Finset.filter_true_of_mem fun i hi => ?_
  rcases Finset.mem_insert.mp hi with rfl | hi
  · rw [h.weight_a]; norm_num
  · rw [Finset.mem_singleton.mp hi, h.weight_b]; norm_num

lemma TwoHosts.totalWeight_eq (h : TwoHosts m x y) :
    totalWeight m.eligible m.baseWeight = 150 := by
  unfold totalWeight
  rw [h.eligible_eq, Finset.sum_pair (by decide), h.weight_a, h.weight_b]
  norm_num

/-- The call names the host whose raised credit is greater, which pays. -/
lemma TwoHosts.getBestHost (h : TwoHosts m x y) (ord : HashOrder) :
    (y + 50 < x + 100 → (m.getBestHost ord).1 = "a" ∧
      TwoHosts (m.getBestHost ord).2 (x - 50) (y + 50)) ∧
    (x + 100 < y + 50 → (m.getBestHost ord).1 = "b" ∧
      TwoHosts (m.getBestHost ord).2 (x + 100) (y - 100)) := by
  have hel := h.eligible_eq
  have ha : "a" ∈ m.eligible := by rw [hel]; decide
  have hb : "b" ∈ m.eligible := by rw [hel]; decide
  have hchoice := HostManager.getBestHost_isChoice h.consistent ord ⟨"a", ha⟩
  have hname : (m.getBestHost ord).1 = "a" ∨ (m.getBestHost ord).1 = "b" := by
    simpa [hel] using hchoice.mem
  have hle_a := hchoice.le "a" ha
  have hle_b := hchoice.le "b" hb
  rw [h.credit_a, h.weight_a] at hle_a
  rw [h.credit_b, h.weight_b] at hle_b
  have hafter : ∀ x' y', (m.getBestHost ord).2.currentWeight "a" = x' →
      (m.getBestHost ord).2.currentWeight "b" = y' → TwoHosts (m.getBestHost ord).2 x' y' :=
    fun x' y' hx hy => ⟨h.consistent.getBestHost ord,
      (HostManager.hosts_getBestHost ord).trans h.hosts_eq,
      (HostManager.getBestHost_baseWeight h.consistent ord "a").trans h.weight_a,
      (HostManager.getBestHost_baseWeight h.consistent ord "b").trans h.weight_b, hx, hy⟩
  have hpay := HostManager.currentWeight_getBestHost h.consistent ord
  constructor
  · intro hlt
    have hbest : (m.getBestHost ord).1 = "a" := by
      refine hname.resolve_right fun hbest => ?_
      rw [hbest, h.credit_b, h.weight_b] at hle_a
      linarith
    refine ⟨hbest, hafter _ _ ?_ ?_⟩
    · rw [hpay, hbest, settle, if_pos ha, if_pos rfl, h.totalWeight_eq, h.credit_a, h.weight_a]
      ring
    · rw [hpay, hbest, settle, if_pos hb, if_neg (by decide), h.credit_b, h.weight_b]
      ring
  · intro hlt
    have hbest : (m.getBestHost ord).1 = "b" := by
      refine hname.resolve_left fun hbest => ?_
      rw [hbest, h.credit_a, h.weight_a] at hle_b
      linarith
    refine ⟨hbest, hafter _ _ ?_ ?_⟩
    · rw [hpay, hbest, settle, if_pos ha, if_neg (by decide), h.credit_a, h.weight_a]
      ring
    · rw [hpay, hbest, settle, if_pos hb, if_pos rfl, h.totalWeight_eq, h.credit_b, h.weight_b]
      ring

/-- A query is answered with the host whose raised credit is greater. -/
lemma TwoHosts.select {s : Service} (h : TwoHosts s.manager x y) {q : ℕ} (hq : q ∉ s.queries) :
    (y + 50 < x + 100 → ∃ m', service.step s (.select q .stored) =
        some ({ s with manager := m', queries := s.queries.insert q "a" }, [.selected q "a"]) ∧
      TwoHosts m' (x - 50) (y + 50) ∧ m'.lastSequences = s.manager.lastSequences) ∧
    (x + 100 < y + 50 → ∃ m', service.step s (.select q .stored) =
        some ({ s with manager := m', queries := s.queries.insert q "b" }, [.selected q "b"]) ∧
      TwoHosts m' (x + 100) (y - 100) ∧ m'.lastSequences = s.manager.lastSequences) := by
  have hstep := @Step.select s q .stored hq
  have hlast := HostManager.getBestHost_lastSequences .stored s.manager
  constructor
  · intro hlt
    obtain ⟨hname, hafter⟩ := (h.getBestHost .stored).1 hlt
    rw [hname] at hstep
    exact ⟨_, service_step_iff.mpr (hstep (by decide)), hafter, hlast⟩
  · intro hlt
    obtain ⟨hname, hafter⟩ := (h.getBestHost .stored).2 hlt
    rw [hname] at hstep
    exact ⟨_, service_step_iff.mpr (hstep (by decide)), hafter, hlast⟩

/-- Another report of host `"a"` moves neither weights nor credits. -/
lemma TwoHosts.storedManager (h : TwoHosts m x y) {r : NamedReport} (hr : r.host = "a")
    (hscore : calcScore r.info = 100) (now : Time) : TwoHosts (storedManager m r now) x y := by
  have hpos : 0 < (r.hostScore now).score := by
    rw [NamedReport.hostScore, hscore]; norm_num
  have hreplaced : (m.replaceSample r.host r.sample).2.Consistent := h.consistent.congr rfl rfl
  have hweight : ∀ i, (Service.storedManager m r now).baseWeight i = m.baseWeight i := by
    intro i
    refine (baseWeight_storeReport hpos (Or.inl ?_) i).trans ?_
    · exact (hr ▸ h.weight_a).trans hscore.symm
    · split_ifs with hi
      · rw [hi, hr, h.weight_a]
        exact hscore
      · rfl
  have hcredit : ∀ i, (Service.storedManager m r now).currentWeight i = m.currentWeight i :=
    HostManager.currentWeight_storeReport hpos
  have hin : r.host ∈ m.hosts := by rw [hr, h.hosts_eq]; decide
  refine ⟨hreplaced.storeReport r.named (calcScore_nonneg _) (calcScore_le _), ?_,
    (hweight "a").trans h.weight_a, (hweight "b").trans h.weight_b,
    (hcredit "a").trans h.credit_a, (hcredit "b").trans h.credit_b⟩
  have hhosts : (Service.storedManager m r now).hosts = insert r.host m.hosts :=
    HostManager.hosts_storeReport
  rw [hhosts, Finset.insert_eq_of_mem hin, h.hosts_eq]

/-- A report of `"a"` that leads the schedule names `"a"` for its log line. -/
lemma TwoHosts.report {s : Service} (h : TwoHosts s.manager x y) {q : ℕ}
    (hreports : s.reports = ∅) (hseq : s.manager.lastSequences.lookup "a" = some q)
    (hlt : y + 50 < x + 100) :
    ∃ m', service.run s (reportActions 0 (idleInfo "a" (q + 1)) .stored) =
        some ({ s with manager := m' },
          [.accepted "a" (q + 1), .stored "a" 100, .picked "a"]) ∧
      TwoHosts m' (x - 50) (y + 50) ∧ m'.lastSequences.lookup "a" = some (q + 1) := by
  set r : NamedReport := ⟨idleInfo "a" (q + 1), by rw [hostName_idleInfo]; decide⟩
  set m₁ : HostManager :=
    { s.manager with lastSequences := s.manager.lastSequences.insert "a" (q + 1) }
  have hcheck : s.manager.checkDuplicate r.host r.info.sequence = some m₁ := by
    refine HostManager.checkDuplicate_eq_some_iff.mpr ⟨fun _ => ?_, rfl⟩
    have hne : s.manager.lastSequences.lookup "a" ≠ some (q + 1) := by rw [hseq]; simp
    exact hne
  have hrun := @run_reportActions s 0 r .stored m₁ (hreports ▸ AList.notMem_empty 0) hcheck
  have htwo : TwoHosts m₁ x y :=
    ⟨h.consistent.congr rfl rfl, h.hosts_eq, h.weight_a, h.weight_b, h.credit_a, h.credit_b⟩
  have hscore : calcScore r.info = 100 := calcScore_idleInfo "a" (q + 1)
  obtain ⟨hname, hafter⟩ :=
    ((htwo.storedManager (r := r) rfl hscore s.clock).getBestHost .stored).1 hlt
  rw [hname, hscore, onDataReceived_eq hcheck] at hrun
  refine ⟨_, hrun, ?_, ?_⟩
  · exact ⟨hafter.consistent.congr rfl rfl, hafter.hosts_eq, hafter.weight_a, hafter.weight_b,
      hafter.credit_a, hafter.credit_b⟩
  · have hlast :
        ((Service.storedManager m₁ r s.clock).getBestHost .stored).2.lastSequences.lookup "a" =
          some (q + 1) := by
      rw [HostManager.getBestHost_lastSequences]
      exact AList.lookup_insert _
    exact hlast

/-- No call is in progress, the last report of `"a"` had sequence `q`, and `"b"` has the greater
raised credit. -/
structure Cycling (s : Service) (q : ℕ) : Prop where
  reports_eq : s.reports = ∅
  queries_eq : s.queries = ∅
  last_eq : s.manager.lastSequences.lookup "a" = some q
  schedule : TwoHosts s.manager (-50) 50

/-- A query, then two reports of `"a"`. -/
def cycle (q : ℕ) : List ServiceAction :=
  [.select 0 .stored, .respond 0] ++ reportActions 0 (idleInfo "a" (q + 1)) .stored ++
    reportActions 0 (idleInfo "a" (q + 2)) .stored

/-- What one cycle shows besides its answer: fresh reports of `"a"`. -/
def cycleEvents (q : ℕ) (answer : Except RpcError ServerOverviewRecord) : List ServiceEvent :=
  [.selected 0 "b", .replied 0 answer, .accepted "a" (q + 1), .stored "a" 100, .picked "a",
    .accepted "a" (q + 2), .stored "a" 100, .picked "a"]

/-- **One cycle names `"b"` and returns to where it began.** The query is the first call of a
period of three, and the reports are the other two. -/
lemma Cycling.cycle {s : Service} {q : ℕ} (h : Cycling s q) :
    ∃ t answer, service.run s (cycle q) = some (t, cycleEvents q answer) ∧ Cycling t (q + 2) := by
  have hfree : 0 ∉ s.queries := h.queries_eq ▸ AList.notMem_empty 0
  obtain ⟨m, hselect, hquery, hlast⟩ := (h.schedule.select hfree).2 (by norm_num)
  have hrespond := @Step.respond { s with manager := m, queries := s.queries.insert 0 "b" }
    0 "b" (AList.lookup_insert _)
  obtain ⟨m₁, hrun₁, htwo₁, hlast₁⟩ := @TwoHosts.report _ _
    { s with manager := m, queries := (s.queries.insert 0 "b").erase 0 } hquery q h.reports_eq
    ((congrArg (AList.lookup "a") hlast).trans h.last_eq) (by norm_num)
  obtain ⟨m₂, hrun₂, htwo₂, hlast₂⟩ := @TwoHosts.report _ _
    { s with manager := m₁, queries := (s.queries.insert 0 "b").erase 0 } htwo₁ (q + 1)
    h.reports_eq hlast₁ (by norm_num)
  have hprefix := service.run_cons hselect
    (service.run_cons (service_step_iff.mpr hrespond) (service.run_nil _))
  refine ⟨_, _, service.run_append (service.run_append hprefix hrun₁) hrun₂, h.reports_eq, ?_,
    hlast₂, ?_⟩
  · exact (UnorderedMap.erase_insert hfree).trans h.queries_eq
  · norm_num at htwo₂
    exact htwo₂

/-- The hosts `"a"` and `"b"` register. -/
def registerTwo : List ServiceAction :=
  reportActions 0 (idleInfo "a" 1) .stored ++ reportActions 0 (busyInfo "b" 1) .stored

/-- What the registration shows. -/
def registerTwoEvents : List ServiceEvent :=
  [.accepted "a" 1, .stored "a" 100, .picked "a", .accepted "b" 1, .stored "b" 50, .picked "a"]

/-- After the registration `"a"` has been named twice and `"b"` is due. -/
lemma run_registerTwo :
    ∃ s, service.run (start 0) registerTwo = some (s, registerTwoEvents) ∧ Cycling s 1 := by
  set m := ({} : HostManager).onDataReceived .stored (idleInfo "a" 1) 0 with hm
  set r : NamedReport := ⟨busyInfo "b" 1, by decide⟩
  set m₁ : HostManager := { m with lastSequences := m.lastSequences.insert "b" 1 }
  have hcheck : m.checkDuplicate r.host r.info.sequence = some m₁ :=
    HostManager.checkDuplicate_eq_some_iff.mpr ⟨fun _ => by decide +kernel, rfl⟩
  have hone := run_one_report
  rw [calcScore_idleInfo] at hone
  have hrun := @run_reportActions { start 0 with manager := m } 0 r .stored m₁
    (AList.notMem_empty 0) hcheck
  have hpick : ((storedManager m₁ r 0).getBestHost .stored).1 = "a" := by decide +kernel
  have hscore : calcScore r.info = 50 := calcScore_busyInfo "b" 1
  have hclock : ({ start 0 with manager := m } : Service).clock = 0 := rfl
  rw [hclock, hpick, hscore] at hrun
  have hboth := service.run_append hone hrun
  refine ⟨_, hboth, rfl, rfl, ?_, run_consistent hboth, ?_, ?_, ?_, ?_, ?_⟩
  all_goals decide +kernel

/-- `n` cycles in a row. -/
def cycles (q : ℕ) : ℕ → List ServiceAction
  | 0 => []
  | n + 1 => cycle q ++ cycles (q + 2) n

lemma cleanup_notMem_cycles (q n : ℕ) (now : Time) : .cleanup now ∉ cycles q n := by
  induction n generalizing q with
  | zero => exact List.not_mem_nil
  | succ n ih => simp [cycles, Service.cycle, reportActions, ih]

/-- **Host `"a"`, with two thirds of the weight, is never named to a query**, however long the
run: every query falls on the turn of `"b"`. All reports are fresh reports of `"a"`.

**Proof sketch.** Induction on the number of cycles, each `Cycling.cycle`. -/
lemma Cycling.exists_starving_run (n : ℕ) {s : Service} {q : ℕ} (h : Cycling s q) :
    ∃ t fs, service.run s (cycles q n) = some (t, fs) ∧
      answers fs = List.replicate n "b" ∧
      (∀ host sc, .stored host sc ∈ fs → host = "a" ∧ sc = 100) ∧
      (∀ host seq, .duplicate host seq ∉ fs) := by
  induction n generalizing s q with
  | zero => exact ⟨s, [], rfl, rfl, by simp, by simp⟩
  | succ n ih =>
    obtain ⟨u, answer, hcycle, hu⟩ := h.cycle
    obtain ⟨t, fs, hrest, hanswers, hstored, hfresh⟩ := ih hu
    refine ⟨t, _, service.run_append hcycle hrest, ?_, ?_, ?_⟩
    · rw [answers_append, hanswers]
      rfl
    · intro host sc hin
      rcases List.mem_append.mp hin with hin | hin
      · simpa [cycleEvents] using hin
      · exact hstored host sc hin
    · intro host seq hin
      rcases List.mem_append.mp hin with hin | hin
      · simp [cycleEvents] at hin
      · exact hfresh host seq hin

/-! ## When a bound exists -/

/-- The starving run of `n` cycles. -/
lemma exists_starving_steadyRun (n : ℕ) : ∃ r : SteadyRun,
    r.hosts = {"a", "b"} ∧ r.score "a" = 100 ∧ r.score "b" = 50 ∧
      answers r.events = List.replicate n "b" := by
  obtain ⟨s, hreg, hcyc⟩ := run_registerTwo
  obtain ⟨t, fs, hrun, hanswers, hstored, hfresh⟩ := hcyc.exists_starving_run n
  set score : String → ℚ := fun h => if h = "b" then 50 else 100
  have hscore_a : score "a" = 100 := if_neg (by decide)
  have hscore_b : score "b" = 50 := if_pos rfl
  have hsteady : Steady score (registerTwo ++ cycles 1 n) (registerTwoEvents ++ fs) := by
    refine ⟨fun now hin => ?_, fun host sc hin => ?_⟩
    · rcases List.mem_append.mp hin with hin | hin
      · simp [registerTwo, reportActions] at hin
      · exact cleanup_notMem_cycles 1 n now hin
    · rcases List.mem_append.mp hin with hin | hin
      · simp only [registerTwoEvents, List.mem_cons, ServiceEvent.stored.injEq, reduceCtorEq,
          List.not_mem_nil, or_false, false_or] at hin
        rcases hin with ⟨rfl, rfl⟩ | ⟨rfl, rfl⟩
        · exact ⟨hscore_a.symm, by norm_num⟩
        · exact ⟨hscore_b.symm, by norm_num⟩
      · obtain ⟨rfl, rfl⟩ := hstored host sc hin
        exact ⟨hscore_a.symm, by norm_num⟩
  have hhosts := hcyc.schedule.hosts_eq
  exact ⟨{ score := score
           clock := 0
           registration := registerTwo
           registered := s
           registrationEvents := registerTwoEvents
           actions := cycles 1 n
           last := t
           events := fs
           run_registration := hreg
           run_actions := hrun
           steady := hsteady
           mem_hosts := fun host sc hin => by rw [(hstored host sc hin).1, hhosts]; decide
           fresh := hfresh }, hhosts, hscore_a, hscore_b, hanswers⟩

/-- Two hosts of scores `100` and `50`: no bound on the distance from the shares that depends on
the number of hosts only is kept by all interleavings of reports with queries.

**Proof sketch.** After `n` cycles the share of `"a"` is `2 n / 3` and its count is `0`. -/
theorem no_fair_bound : ¬ ∃ B : ℕ → ℚ, ∀ r : SteadyRun,
    NearShares r.score r.hosts (answers r.events) (B r.hosts.card) := by
  rintro ⟨B, hfair⟩
  obtain ⟨n, hn⟩ := exists_nat_gt (3 / 2 * B 2)
  obtain ⟨r, hhosts, hscore_a, hscore_b, hanswers⟩ := exists_starving_steadyRun n
  have hnear := hfair r "a" (by rw [hhosts]; decide)
  rw [hanswers, hhosts, Finset.sum_pair (by decide), Finset.card_pair (by decide)] at hnear
  have hcount : (List.replicate n "b").count "a" = 0 :=
    List.count_eq_zero.mpr fun hin => absurd (List.eq_of_mem_replicate hin) (by decide)
  rw [hcount, List.length_replicate, hscore_a, hscore_b] at hnear
  have hle := (neg_abs_le _).trans' (neg_le_neg hnear)
  norm_num at hle
  linarith

/-- **When the answers are fair**, in any set of runs. While no report calls `GetBestHost` the
answers are within `n` of their shares, `n` being the number of hosts. In any run they are within
`n + D` if the hosts that the reports name for themselves are within `D`. And the answers keep a
bound that depends on the number of hosts only exactly when the reports' own hosts do.

**Proof sketch.** All calls together are within `n` of the shares, and each is made by a query or by
a report, so that either of the two kinds is as near its shares as the other, up to `n`. -/
theorem exists_fair_bound_iff (C : Set SteadyRun) :
    (∀ r ∈ C, (∀ a ∈ r.actions, a.isPick = false) →
      NearShares r.score r.hosts (answers r.events) r.hosts.card) ∧
    (∀ r ∈ C, ∀ D : ℚ, NearShares r.score r.hosts (ownPicks r.events) D →
      NearShares r.score r.hosts (answers r.events) (r.hosts.card + D)) ∧
    ((∃ B : ℕ → ℚ, ∀ r ∈ C, NearShares r.score r.hosts (answers r.events) (B r.hosts.card)) ↔
      ∃ B : ℕ → ℚ, ∀ r ∈ C, NearShares r.score r.hosts (ownPicks r.events) (B r.hosts.card)) := by
  refine ⟨fun r _ hno => ?_, fun r _ D hown => r.nearShares_answers hown, ?_, ?_⟩
  · have hown : NearShares r.score r.hosts (ownPicks r.events) 0 := by
      rw [run_ownPicks_eq_nil r.run_actions hno]
      exact nearShares_nil r.score r.hosts
    exact (r.nearShares_answers hown).mono (add_zero _).le
  · rintro ⟨B, hB⟩
    exact ⟨fun n => n + B n, fun r hr => r.nearShares_ownPicks (hB r hr)⟩
  · rintro ⟨B, hB⟩
    exact ⟨fun n => n + B n, fun r hr => r.nearShares_answers (hB r hr)⟩

/-- Hosts of scores `100` and `50`, and three queries with no report in between: one answer is
`"b"`, and the other two are `"a"`. -/
theorem exists_fair_bound_iff_three_queries : ∃ r : SteadyRun,
    r.hosts = {"a", "b"} ∧ answers r.events = ["b", "a", "a"] ∧
      NearShares r.score r.hosts (answers r.events) r.hosts.card := by
  obtain ⟨s, hreg, hcyc⟩ := run_registerTwo
  have hfree : ∀ q, q ∉ s.queries := fun q => hcyc.queries_eq ▸ AList.notMem_empty q
  obtain ⟨m₁, hstep₁, htwo₁, -⟩ := (hcyc.schedule.select (hfree 0)).2 (by norm_num)
  have hfree₁ : 1 ∉ s.queries.insert 0 "b" := by
    rw [AList.mem_insert]
    exact not_or.mpr ⟨by decide, hfree 1⟩
  obtain ⟨m₂, hstep₂, htwo₂, -⟩ := (@TwoHosts.select _ _
    { s with manager := m₁, queries := s.queries.insert 0 "b" } htwo₁ 1 hfree₁).1 (by norm_num)
  have hfree₂ : 2 ∉ (s.queries.insert 0 "b").insert 1 "a" := by
    rw [AList.mem_insert, AList.mem_insert]
    exact not_or.mpr ⟨by decide, not_or.mpr ⟨by decide, hfree 2⟩⟩
  obtain ⟨m₃, hstep₃, -, -⟩ := (@TwoHosts.select _ _
    { s with manager := m₂, queries := (s.queries.insert 0 "b").insert 1 "a" } htwo₂ 2 hfree₂).1
    (by norm_num)
  have hrun := service.run_cons hstep₁ (service.run_cons hstep₂
    (service.run_cons hstep₃ (service.run_nil _)))
  have hsteady : Steady (fun h => if h = "b" then 50 else 100)
      (registerTwo ++ [.select 0 .stored, .select 1 .stored, .select 2 .stored])
      (registerTwoEvents ++ [.selected 0 "b", .selected 1 "a", .selected 2 "a"]) := by
    refine ⟨fun now hin => by simp [registerTwo, reportActions] at hin, fun host sc hin => ?_⟩
    simp only [registerTwoEvents, List.cons_append, List.nil_append, List.mem_cons,
      ServiceEvent.stored.injEq, reduceCtorEq, List.not_mem_nil, or_false, false_or] at hin
    rcases hin with ⟨rfl, rfl⟩ | ⟨rfl, rfl⟩ <;> exact ⟨by decide, by norm_num⟩
  refine ⟨{ score := fun h => if h = "b" then 50 else 100
            clock := 0
            registration := registerTwo
            registered := s
            registrationEvents := registerTwoEvents
            actions := [.select 0 .stored, .select 1 .stored, .select 2 .stored]
            last := _
            events := _
            run_registration := hreg
            run_actions := hrun
            steady := hsteady
            mem_hosts := by simp
            fresh := by simp }, hcyc.schedule.hosts_eq, rfl, ?_⟩
  exact (exists_fair_bound_iff Set.univ).1 _ (Set.mem_univ _) fun a ha => by
    simp only [List.mem_cons, List.not_mem_nil, or_false] at ha
    rcases ha with rfl | rfl | rfl <;> rfl

end Service

end Monitor
