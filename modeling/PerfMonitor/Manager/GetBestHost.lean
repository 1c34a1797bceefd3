import Mathlib.Data.Finset.Image
import PerfMonitor.Manager.HostManager
import PerfMonitor.RoundRobin.Smooth

set_option relaxedAutoImplicit false
set_option autoImplicit false

/-!
# `GetBestHost` is a round of smooth weighted round-robin

The loop of `GetBestHost` walks `host_scores_` in an arbitrary order, raising every host of
positive weight and keeping the first greatest. On a consistent memory this is one round of
`SmoothRoundRobin` over the hosts of positive weight.

## Main definitions

* `Monitor.HostManager.Consistent` — the two maps of the schedule agree, host by host.
* `Monitor.HostManager.hosts`, `Monitor.HostManager.eligible` — the registered hosts, and those of
  positive weight.

## Main results

* `Monitor.HostManager.getBestHost_isChoice` — the host named is one that a round may choose.
* `Monitor.HostManager.lookup_getBestHost` — the schedule afterwards is the settled one.
* `Monitor.HostManager.getBestHost_mem_hosts`, `Monitor.HostManager.getBestHost_eq_empty_iff` — a
  host is named exactly when one is registered.
-/

namespace Monitor.HostManager

open SmoothRoundRobin

/-- The registered hosts. -/
def hosts (m : HostManager) : Finset String := m.hostScores.keys.toFinset

/-- `base_weight` of a host, `0` if it has no schedule state. -/
def baseWeight (m : HostManager) (h : String) : ℚ :=
  (UnorderedMap.get m.scheduleStates h).baseWeight

/-- `current_weight` of a host, `0` if it has no schedule state. -/
def currentWeight (m : HostManager) (h : String) : ℚ :=
  (UnorderedMap.get m.scheduleStates h).currentWeight

/-- The registered hosts of positive weight. -/
def eligible (m : HostManager) : Finset String := m.hosts.filter (0 < m.baseWeight ·)

/-- A schedule state fits the record stored for the same host. -/
structure WeightFits (r : HostScore) (st : ScheduleState) : Prop where
  score_nonneg : 0 ≤ r.score
  score_le : r.score ≤ 100
  base_le : st.baseWeight ≤ 100
  zero : r.score = 0 → st = { baseWeight := 0, currentWeight := 0 }
  pos : 0 < r.score → 0 < st.baseWeight

/-- `host_scores_` and `schedule_states_` have the same keys and fitting values, and no host is
called `""`, the name that `GetBestHost` answers for none. -/
structure Consistent (m : HostManager) : Prop where
  fits : ∀ h, Option.Rel WeightFits (m.hostScores.lookup h) (m.scheduleStates.lookup h)
  name_ne : "" ∉ m.hostScores

variable {m : HostManager} {h : String}

lemma hosts_congr {m' : HostManager} (hscores : m'.hostScores = m.hostScores) :
    m'.hosts = m.hosts := by
  rw [hosts, hosts, hscores]

lemma baseWeight_congr {m' : HostManager} (hstates : m'.scheduleStates = m.scheduleStates)
    (h : String) : m'.baseWeight h = m.baseWeight h := by
  rw [baseWeight, baseWeight, hstates]

lemma currentWeight_congr {m' : HostManager} (hstates : m'.scheduleStates = m.scheduleStates)
    (h : String) : m'.currentWeight h = m.currentWeight h := by
  rw [currentWeight, currentWeight, hstates]

@[simp] lemma mem_hosts : h ∈ m.hosts ↔ h ∈ m.hostScores := by
  simp [hosts, AList.mem_keys]

lemma mem_eligible : h ∈ m.eligible ↔ h ∈ m.hostScores ∧ 0 < m.baseWeight h := by
  simp [eligible]

lemma Consistent.states_of_record (hm : Consistent m) {r : HostScore}
    (hr : m.hostScores.lookup h = some r) :
    ∃ st, m.scheduleStates.lookup h = some st ∧ WeightFits r st := by
  have hrel := hm.fits h
  rw [hr] at hrel
  cases hst : m.scheduleStates.lookup h with
  | none => rw [hst] at hrel; cases hrel
  | some st =>
    rw [hst] at hrel
    cases hrel with
    | some hfit => exact ⟨st, rfl, hfit⟩

/-- The two maps have the same keys. -/
lemma Consistent.mem_iff (hm : Consistent m) : h ∈ m.scheduleStates ↔ h ∈ m.hostScores := by
  rw [← AList.lookup_isSome, ← AList.lookup_isSome]
  have hrel := hm.fits h
  generalize m.hostScores.lookup h = r at hrel ⊢
  generalize m.scheduleStates.lookup h = st at hrel ⊢
  cases hrel <;> simp

lemma Consistent.fits_of_lookup (hm : Consistent m) {r : HostScore}
    (hr : m.hostScores.lookup h = some r) :
    WeightFits r (UnorderedMap.get m.scheduleStates h) := by
  obtain ⟨st, hst, hfit⟩ := hm.states_of_record hr
  rwa [UnorderedMap.get_of_lookup hst]

/-- A registered host has positive weight exactly when its latest score is positive. -/
lemma Consistent.baseWeight_pos_iff (hm : Consistent m) {r : HostScore}
    (hr : m.hostScores.lookup h = some r) : 0 < m.baseWeight h ↔ 0 < r.score := by
  have hfit := hm.fits_of_lookup hr
  constructor
  · intro hpos
    rcases hfit.score_nonneg.lt_or_eq with hs | hs
    · exact hs
    · unfold baseWeight at hpos
      rw [hfit.zero hs.symm] at hpos
      exact absurd hpos (lt_irrefl _)
  · exact hfit.pos

/-! ## The loop -/

/-- The hosts of positive weight among those walked. -/
def raisedHosts (m : HostManager) (done : List (Σ _ : String, HostScore)) : Finset String :=
  done.keys.toFinset.filter (0 < m.baseWeight ·)

/-- The state of the loop after walking `done`: the hosts of positive weight met so far are
raised and totalled, and the best host is the choice among them. -/
structure Scanned (m : HostManager) (done : List (Σ _ : String, HostScore))
    (scan : BestHostScan) : Prop where
  lookup : ∀ h, scan.scheduleStates.lookup h =
    if h ∈ m.raisedHosts done then
      some { baseWeight := m.baseWeight h, currentWeight := m.currentWeight h + m.baseWeight h }
    else m.scheduleStates.lookup h
  total : scan.totalWeight = totalWeight (m.raisedHosts done) m.baseWeight
  best : (m.raisedHosts done = ∅ ∧ scan.bestCurrentWeight = ⊥ ∧ scan.bestHost = "") ∨
    (IsChoice (m.raisedHosts done) m.baseWeight m.currentWeight scan.bestHost ∧
      scan.bestCurrentWeight =
        ((m.currentWeight scan.bestHost + m.baseWeight scan.bestHost : ℚ) : WithBot ℚ))

lemma raisedHosts_append (m : HostManager) (done : List (Σ _ : String, HostScore))
    (e : Σ _ : String, HostScore) :
    m.raisedHosts (done ++ [e]) =
      if 0 < m.baseWeight e.1 then insert e.1 (m.raisedHosts done) else m.raisedHosts done := by
  ext h
  have hk : (done ++ [e]).keys = done.keys ++ [e.1] := by simp [List.keys]
  simp only [raisedHosts, Finset.mem_filter, List.mem_toFinset, hk, List.mem_append,
    List.mem_singleton]
  split_ifs with hpos
  · simp only [Finset.mem_insert, Finset.mem_filter, List.mem_toFinset]
    constructor
    · rintro ⟨hd | rfl, hb⟩
      · exact Or.inr ⟨hd, hb⟩
      · exact Or.inl rfl
    · rintro (rfl | ⟨hd, hb⟩)
      · exact ⟨Or.inr rfl, hpos⟩
      · exact ⟨Or.inl hd, hb⟩
  · simp only [Finset.mem_filter, List.mem_toFinset]
    constructor
    · rintro ⟨hd | rfl, hb⟩
      · exact ⟨hd, hb⟩
      · exact absurd hb hpos
    · rintro ⟨hd, hb⟩
      exact ⟨Or.inl hd, hb⟩

variable {done : List (Σ _ : String, HostScore)} {scan : BestHostScan}

/-- A host that beats the best one so far is the choice. -/
lemma Scanned.choice_of_lt (hscan : Scanned m done scan)
    (hlt : scan.bestCurrentWeight < ((m.currentWeight h + m.baseWeight h : ℚ) : WithBot ℚ)) :
    IsChoice (insert h (m.raisedHosts done)) m.baseWeight m.currentWeight h := by
  apply isChoice_insert_self
  intro i hi
  rcases hscan.best with ⟨hempty, -, -⟩ | ⟨hchoice, hbest⟩
  · rw [hempty] at hi
    exact absurd hi (Finset.notMem_empty i)
  · rw [hbest, WithBot.coe_lt_coe] at hlt
    exact (hchoice.le i hi).trans hlt.le

/-- The best host so far stays the choice beside one that does not beat it. -/
lemma Scanned.choice_of_not_lt (hscan : Scanned m done scan)
    (hlt : ¬ scan.bestCurrentWeight < ((m.currentWeight h + m.baseWeight h : ℚ) : WithBot ℚ)) :
    IsChoice (insert h (m.raisedHosts done)) m.baseWeight m.currentWeight scan.bestHost ∧
      scan.bestCurrentWeight =
        ((m.currentWeight scan.bestHost + m.baseWeight scan.bestHost : ℚ) : WithBot ℚ) := by
  rcases hscan.best with ⟨-, hbot, -⟩ | ⟨hchoice, hbest⟩
  · rw [hbot] at hlt
    exact absurd (WithBot.bot_lt_coe _) hlt
  · rw [hbest, WithBot.coe_lt_coe, not_lt] at hlt
    exact ⟨hchoice.insert hlt, hbest⟩

/-- A turn of the loop that meets a host of positive weight: the host is raised. -/
lemma Scanned.visit_raised {e : Σ _ : String, HostScore} {st : ScheduleState}
    (hscan : Scanned m done scan) (hnot : e.1 ∉ m.raisedHosts done)
    (hst : m.scheduleStates.lookup e.1 = some st) (hpos : 0 < st.baseWeight) :
    Scanned m (done ++ [e]) (scan.visit e) := by
  have hget : UnorderedMap.get scan.scheduleStates e.1 = st := by
    apply UnorderedMap.get_of_lookup
    rw [hscan.lookup, if_neg hnot, hst]
  have hbase : m.baseWeight e.1 = st.baseWeight := by
    rw [baseWeight, UnorderedMap.get_of_lookup hst]
  have hcur : m.currentWeight e.1 = st.currentWeight := by
    rw [currentWeight, UnorderedMap.get_of_lookup hst]
  have hraised : m.raisedHosts (done ++ [e]) = insert e.1 (m.raisedHosts done) := by
    rw [raisedHosts_append, if_pos (hbase ▸ hpos)]
  have hlookup : ∀ h, (scan.scheduleStates.insert e.1
        { st with currentWeight := st.currentWeight + st.baseWeight }).lookup h =
      if h ∈ insert e.1 (m.raisedHosts done) then
        some { baseWeight := m.baseWeight h
               currentWeight := m.currentWeight h + m.baseWeight h }
      else m.scheduleStates.lookup h := by
    intro h
    rw [UnorderedMap.lookup_insert_ite]
    by_cases hh : h = e.1
    · rw [if_pos hh, hh, if_pos (Finset.mem_insert_self _ _), hbase, hcur]
    · rw [if_neg hh, hscan.lookup]
      simp only [Finset.mem_insert, hh, false_or]
  have htotal : scan.totalWeight + st.baseWeight =
      totalWeight (insert e.1 (m.raisedHosts done)) m.baseWeight := by
    unfold totalWeight
    rw [Finset.sum_insert hnot, hscan.total, totalWeight, hbase, add_comm]
  unfold BestHostScan.visit
  rw [hget]
  simp only [if_neg (not_le.mpr hpos)]
  rw [← hraised] at hlookup htotal
  split_ifs with hlt
  · refine ⟨hlookup, htotal, Or.inr ⟨?_, by rw [hbase, hcur]⟩⟩
    rw [← hcur, ← hbase] at hlt
    rw [hraised]
    exact hscan.choice_of_lt hlt
  · refine ⟨hlookup, htotal, Or.inr ?_⟩
    rw [← hcur, ← hbase] at hlt
    rw [hraised]
    exact hscan.choice_of_not_lt hlt

/-- A turn of the loop that meets a host whose score and weight are zero: its entry is written back
unchanged. -/
lemma Scanned.visit_zero {e : Σ _ : String, HostScore} (hscan : Scanned m done scan)
    (hnot : e.1 ∉ m.raisedHosts done)
    (hst : m.scheduleStates.lookup e.1 = some { baseWeight := 0, currentWeight := 0 })
    (hscore : e.2.score = 0) : Scanned m (done ++ [e]) (scan.visit e) := by
  have hget : UnorderedMap.get scan.scheduleStates e.1 =
      { baseWeight := 0, currentWeight := 0 } := by
    apply UnorderedMap.get_of_lookup
    rw [hscan.lookup, if_neg hnot, hst]
  have hbase : m.baseWeight e.1 = 0 := by
    rw [baseWeight, UnorderedMap.get_of_lookup hst]
  have hraised : m.raisedHosts (done ++ [e]) = m.raisedHosts done := by
    rw [raisedHosts_append, if_neg hbase.not_gt]
  have hweight : calcSchedulingWeight e.2.score = 0 := by
    rw [hscore]
    exact calcSchedulingWeight_of_nonneg le_rfl
  unfold BestHostScan.visit
  rw [hget]
  simp only [le_refl, ↓reduceIte, hweight]
  refine ⟨fun h => ?_, hraised ▸ hscan.total, hraised ▸ hscan.best⟩
  rw [UnorderedMap.lookup_insert_ite, hraised]
  split_ifs with hh hmem hmem
  · exact absurd (hh ▸ hmem) hnot
  · rw [hh, hst]
  · rw [hscan.lookup, if_pos hmem]
  · rw [hscan.lookup, if_neg hmem]

/-- One turn of the loop.

**Proof sketch.** The host's entry is still the one of `m`, since keys are distinct. Its score is
zero exactly when its weight is, so one of the two turns above applies. -/
lemma Scanned.visit (hm : Consistent m) {e : Σ _ : String, HostScore} (hscan : Scanned m done scan)
    (he : m.hostScores.lookup e.1 = some e.2) (hnew : e.1 ∉ done.keys) :
    Scanned m (done ++ [e]) (scan.visit e) := by
  obtain ⟨st, hst, hfit⟩ := hm.states_of_record he
  have hnot : e.1 ∉ m.raisedHosts done := fun hmem =>
    hnew (List.mem_toFinset.mp (Finset.mem_filter.mp hmem).1)
  rcases hfit.score_nonneg.lt_or_eq with hscore | hscore
  · exact hscan.visit_raised hnot hst (hfit.pos hscore)
  · rw [hfit.zero hscore.symm] at hst
    exact hscan.visit_zero hnot hst hscore.symm

/-- The whole loop.

**Proof sketch.** Induction on the part already walked, with `Scanned.visit`; keys are distinct,
so the next pair's key is new. -/
lemma scanned_foldl (hm : Consistent m) :
    ∀ (rest done : List (Σ _ : String, HostScore)) (scan : BestHostScan),
      (done ++ rest).keys.Nodup → (∀ e ∈ rest, m.hostScores.lookup e.1 = some e.2) →
      Scanned m done scan → Scanned m (done ++ rest) (rest.foldl BestHostScan.visit scan) := by
  intro rest
  induction rest with
  | nil => intro done scan _ _ hscan; simpa using hscan
  | cons e rest ih =>
    intro done scan hnodup hlook hscan
    have hsplit : done ++ e :: rest = (done ++ [e]) ++ rest := by simp
    have hnew : e.1 ∉ done.keys := by
      have hk : (done ++ e :: rest).keys = done.keys ++ e.1 :: rest.keys := by simp [List.keys]
      rw [hk, List.nodup_append] at hnodup
      exact fun hmem => hnodup.2.2 e.1 hmem e.1 List.mem_cons_self rfl
    rw [List.foldl_cons, hsplit]
    exact ih (done ++ [e]) _ (hsplit ▸ hnodup)
      (fun e' he' => hlook e' (List.mem_cons_of_mem e he'))
      (hscan.visit hm (hlook e List.mem_cons_self) hnew)

/-- What the loop of `GetBestHost` ends with, whatever the iteration order. -/
lemma scanned_arrange (hm : Consistent m) (ord : HashOrder) :
    Scanned m (ord.arrange m.hostScores.entries)
      ((ord.arrange m.hostScores.entries).foldl BestHostScan.visit
        { scheduleStates := m.scheduleStates }) := by
  have hstart : Scanned m [] { scheduleStates := m.scheduleStates } :=
    ⟨fun h => by simp [raisedHosts], by simp [raisedHosts, totalWeight],
      Or.inl ⟨by simp [raisedHosts], rfl, rfl⟩⟩
  have hloop := scanned_foldl hm (ord.arrange m.hostScores.entries) [] _
    (by simpa using UnorderedMap.nodup_keys_arrange ord m.hostScores)
    (fun e he => (UnorderedMap.mem_arrange ord m.hostScores).mp he) hstart
  simpa using hloop

lemma raisedHosts_arrange (m : HostManager) (ord : HashOrder) :
    m.raisedHosts (ord.arrange m.hostScores.entries) = m.eligible := by
  have hkeys : (ord.arrange m.hostScores.entries).keys.Perm m.hostScores.keys :=
    (ord.perm m.hostScores.entries).map Sigma.fst
  unfold raisedHosts eligible hosts
  rw [List.toFinset_eq_of_perm _ _ hkeys]

/-! ## The fallback -/

/-- The loop of `SelectHighestScoreHostLocked` ends with the start or with a pair it met, and no
pair it met scores more. -/
private lemma highest_foldl (l : List (Σ _ : String, HostScore)) (best : String × ℚ) :
    let res := l.foldl
      (fun (best : String × ℚ) e => if e.2.score > best.2 then (e.1, e.2.score) else best) best
    (res = best ∨ ∃ e ∈ l, res = (e.1, e.2.score)) ∧ best.2 ≤ res.2 ∧
      ∀ e ∈ l, e.2.score ≤ res.2 := by
  induction l generalizing best with
  | nil => simp
  | cons e l ih =>
    obtain ⟨hres, hstart, hall⟩ := ih (if e.2.score > best.2 then (e.1, e.2.score) else best)
    simp only [List.foldl_cons]
    split_ifs at hres hstart hall with hgt
    · simp only [if_pos hgt]
      refine ⟨Or.inr ?_, hgt.le.trans hstart, fun e' he' => ?_⟩
      · rcases hres with hres | ⟨e', he', hres⟩
        · exact ⟨e, List.mem_cons_self, hres⟩
        · exact ⟨e', List.mem_cons_of_mem e he', hres⟩
      · rcases List.mem_cons.mp he' with rfl | he'
        · exact hstart
        · exact hall e' he'
    · simp only [if_neg hgt]
      refine ⟨?_, hstart, fun e' he' => ?_⟩
      · rcases hres with hres | ⟨e', he', hres⟩
        · exact Or.inl hres
        · exact Or.inr ⟨e', List.mem_cons_of_mem e he', hres⟩
      · rcases List.mem_cons.mp he' with rfl | he'
        · exact (not_lt.mp hgt).trans hstart
        · exact hall e' he'

/-- With nonnegative scores the fallback names a registered host whenever there is one. -/
lemma selectHighestScoreHostLocked_mem (hm : Consistent m) (ord : HashOrder)
    (hne : m.hostScores.entries ≠ []) :
    selectHighestScoreHostLocked ord m ∈ m.hostScores := by
  obtain ⟨hres, -, hall⟩ := highest_foldl (ord.arrange m.hostScores.entries) ("", -1)
  have hlist : ord.arrange m.hostScores.entries ≠ [] :=
    fun h => hne ((UnorderedMap.arrange_eq_nil_iff ord m.hostScores).mp h)
  obtain ⟨e, he⟩ := List.exists_mem_of_ne_nil _ hlist
  have hlookup := (UnorderedMap.mem_arrange ord m.hostScores).mp he
  have hge : 0 ≤ e.2.score := (hm.fits_of_lookup hlookup).score_nonneg
  unfold selectHighestScoreHostLocked
  rcases hres with hres | ⟨e', he', hres⟩
  · have hle := hall e he
    rw [hres] at hle
    exact absurd (hge.trans hle) (by norm_num)
  · rw [hres]
    exact UnorderedMap.mem_iff_lookup.mpr
      ⟨e'.2, (UnorderedMap.mem_arrange ord m.hostScores).mp he'⟩

/-! ## The call -/

/-- Without registered hosts the call does nothing. -/
lemma getBestHost_of_empty (ord : HashOrder) (he : m.hostScores.entries = []) :
    m.getBestHost ord = ("", m) := by
  unfold getBestHost
  rw [if_pos he]

lemma entries_eq_nil_iff : m.hostScores.entries = [] ↔ m.hosts = ∅ := by
  rw [hosts, List.toFinset_eq_empty_iff, AList.keys, List.keys, List.map_eq_nil_iff]

lemma hosts_nonempty_of_eligible (hel : m.eligible.Nonempty) : m.hosts.Nonempty :=
  hel.mono (Finset.filter_subset _ _)

/-- The states after the loop, before the host named pays. -/
def RaisedStates (m : HostManager) (states : UnorderedMap String ScheduleState) : Prop :=
  ∀ h, states.lookup h =
    if h ∈ m.eligible then
      some { baseWeight := m.baseWeight h, currentWeight := m.currentWeight h + m.baseWeight h }
    else m.scheduleStates.lookup h

/-- With hosts of positive weight, the call names one that a round may choose and makes it pay the
total weight. -/
lemma getBestHost_of_eligible (hm : Consistent m) (ord : HashOrder) (hel : m.eligible.Nonempty) :
    ∃ best states, IsChoice m.eligible m.baseWeight m.currentWeight best ∧
      RaisedStates m states ∧
      m.getBestHost ord = (best,
        { m with
          scheduleStates := states.insert best
            { UnorderedMap.get states best with
              currentWeight := (UnorderedMap.get states best).currentWeight -
                totalWeight m.eligible m.baseWeight } }) := by
  obtain ⟨hlookup, htotal, hbest⟩ := scanned_arrange hm ord
  set scan := (ord.arrange m.hostScores.entries).foldl BestHostScan.visit
    { scheduleStates := m.scheduleStates } with hscan
  rw [raisedHosts_arrange] at htotal hbest
  simp only [raisedHosts_arrange] at hlookup
  rcases hbest with ⟨hempty, -, -⟩ | ⟨hchoice, -⟩
  · rw [hempty] at hel
    exact absurd hel Finset.not_nonempty_empty
  · have hname : scan.bestHost ≠ "" := fun h => hm.name_ne (h ▸ (mem_eligible.mp hchoice.mem).1)
    have hpos : 0 < scan.totalWeight := by
      rw [htotal]
      exact totalWeight_pos (fun i hi => (mem_eligible.mp hi).2) hchoice.mem
    refine ⟨scan.bestHost, scan.scheduleStates, hchoice, hlookup, ?_⟩
    unfold getBestHost
    rw [if_neg (entries_eq_nil_iff.not.mpr (hosts_nonempty_of_eligible hel).ne_empty), ← hscan]
    dsimp only
    rw [if_neg (by simp [hname, hpos]), htotal]

/-- Without hosts of positive weight the call falls back, and the schedule stays. -/
lemma getBestHost_of_not_eligible (hm : Consistent m) (ord : HashOrder) (hne : m.hosts.Nonempty)
    (hel : m.eligible = ∅) :
    (m.getBestHost ord).1 = selectHighestScoreHostLocked ord m ∧
      ∀ h, (m.getBestHost ord).2.scheduleStates.lookup h = m.scheduleStates.lookup h := by
  obtain ⟨hlookup, -, hbest⟩ := scanned_arrange hm ord
  set scan := (ord.arrange m.hostScores.entries).foldl BestHostScan.visit
    { scheduleStates := m.scheduleStates } with hscan
  rw [raisedHosts_arrange] at hbest
  simp only [raisedHosts_arrange, hel, Finset.notMem_empty, if_false] at hlookup
  rcases hbest with ⟨-, -, hname⟩ | ⟨hchoice, -⟩
  · unfold getBestHost
    rw [if_neg (entries_eq_nil_iff.not.mpr hne.ne_empty), ← hscan]
    dsimp only
    rw [if_pos (Or.inl hname)]
    exact ⟨rfl, hlookup⟩
  · rw [hel] at hchoice
    exact absurd hchoice.mem (Finset.notMem_empty _)

/-- **The host named is one that a round of smooth weighted round-robin may choose.** -/
theorem getBestHost_isChoice (hm : Consistent m) (ord : HashOrder) (hel : m.eligible.Nonempty) :
    IsChoice m.eligible m.baseWeight m.currentWeight (m.getBestHost ord).1 := by
  obtain ⟨best, states, hchoice, -, heq⟩ := getBestHost_of_eligible hm ord hel
  rw [heq]
  exact hchoice

/-- **The schedule after the call** is the settled one: hosts of positive weight are raised, the
one named pays the total weight back, nothing else changes. If there is no host of positive
weight the schedule stays. -/
theorem lookup_getBestHost (hm : Consistent m) (ord : HashOrder) (h : String) :
    (m.getBestHost ord).2.scheduleStates.lookup h =
      (m.scheduleStates.lookup h).map fun st =>
        { st with
          currentWeight := settle m.eligible m.baseWeight m.currentWeight
            (m.getBestHost ord).1 h } := by
  -- a host that is not raised keeps its state
  have hstay : h ∉ m.eligible → ∀ b, m.scheduleStates.lookup h =
      (m.scheduleStates.lookup h).map fun st =>
        { st with currentWeight := settle m.eligible m.baseWeight m.currentWeight b h } := by
    intro hnot b
    cases hst : m.scheduleStates.lookup h with
    | none => rfl
    | some st =>
      rw [Option.map_some, settle, if_neg hnot, currentWeight, UnorderedMap.get_of_lookup hst]
  rcases m.hosts.eq_empty_or_nonempty with hnone | hne
  · have hnot : h ∉ m.eligible := fun hh => by
      have hmem := Finset.mem_of_mem_filter h hh
      rw [hnone] at hmem
      exact absurd hmem (Finset.notMem_empty h)
    rw [getBestHost_of_empty ord (entries_eq_nil_iff.mpr hnone)]
    exact hstay hnot ""
  rcases m.eligible.eq_empty_or_nonempty with hel | hel
  · rw [(getBestHost_of_not_eligible hm ord hne hel).2 h]
    exact hstay (hel ▸ Finset.notMem_empty h) _
  obtain ⟨best, states, hchoice, hraised, heq⟩ := getBestHost_of_eligible hm ord hel
  rw [heq]
  dsimp only
  rw [UnorderedMap.lookup_insert_ite]
  by_cases hh : h ∈ m.eligible
  · obtain ⟨st, hst⟩ := UnorderedMap.mem_iff_lookup.mp (hm.mem_iff.mpr (mem_eligible.mp hh).1)
    have hup := hraised h
    rw [if_pos hh] at hup
    rw [hst, Option.map_some, settle, if_pos hh]
    split_ifs with hb
    · -- the host named
      subst hb
      rw [UnorderedMap.get_of_lookup hup, baseWeight, UnorderedMap.get_of_lookup hst]
    · rw [hup, baseWeight, UnorderedMap.get_of_lookup hst, sub_zero]
  · have hb : h ≠ best := fun hb => hh (hb ▸ hchoice.mem)
    rw [if_neg hb, hraised h, if_neg hh]
    exact hstay hh best

/-- The host named is registered whenever one is. -/
theorem getBestHost_mem_hosts (hm : Consistent m) (ord : HashOrder)
    (hne : m.hosts.Nonempty) : (m.getBestHost ord).1 ∈ m.hostScores := by
  rcases m.eligible.eq_empty_or_nonempty with hel | hel
  · rw [(getBestHost_of_not_eligible hm ord hne hel).1]
    exact selectHighestScoreHostLocked_mem hm ord (entries_eq_nil_iff.not.mpr hne.ne_empty)
  · exact (mem_eligible.mp (getBestHost_isChoice hm ord hel).mem).1

/-- `""` is answered exactly when no host is registered. -/
theorem getBestHost_eq_empty_iff (hm : Consistent m) (ord : HashOrder) :
    (m.getBestHost ord).1 = "" ↔ m.hosts = ∅ := by
  constructor
  · intro hname
    by_contra hne
    exact hm.name_ne (hname ▸ getBestHost_mem_hosts hm ord (Finset.nonempty_iff_ne_empty.mpr hne))
  · intro hempty
    rw [getBestHost_of_empty ord (entries_eq_nil_iff.mpr hempty)]

end Monitor.HostManager
