import Mathlib.Data.Prod.Lex
import Mathlib.Data.String.Basic
import PerfMonitor.Manager.ScheduleInvariant
import PerfMonitor.Ranking.Leader

set_option relaxedAutoImplicit false
set_option autoImplicit false

/-!
# The snapshot of the cluster

`BuildCurrentClusterSnapshot` (`manager/src/rpc/query_service.cpp`) turns the latest score of every
host into a sorted list of records and a summary. It walks a hash map, sorts, and then goes once
over the records with a running best and worst for all hosts and for the online ones.

## Main definitions

* `Monitor.buildCurrentClusterSnapshot` — the snapshot, for a sort and an order of the hash map.
* `Monitor.rankKey` — what the records are ranked by.
* `Monitor.IsSnapshot` — what the snapshot says of the hosts.

## Main results

* `Monitor.Service.run_admissible` — the manager's map of scores is as the summary expects it.
* `Monitor.buildCurrentClusterSnapshot_wellDefined` — there is one snapshot, whatever the sort and
  the order of the hash map, and it says what it should.
-/

namespace Monitor

open Ranking

/-- `ClusterStats`. -/
structure ClusterStats where
  totalServers : ℤ := 0
  onlineServers : ℤ := 0
  offlineServers : ℤ := 0
  avgScore : ℚ := 0
  maxScore : ℚ := 0
  minScore : ℚ := 0
  bestServer : String := ""
  worstServer : String := ""
  deriving DecidableEq, Repr

structure CurrentClusterSnapshot where
  records : List ServerOverviewRecord := []
  stats : ClusterStats := {}
  deriving DecidableEq, Repr

/-- The comparison given to `std::sort`. -/
def overviewBefore (lhs rhs : ServerOverviewRecord) : Bool :=
  if lhs.score ≠ rhs.score then lhs.score > rhs.score
  else if lhs.lastUpdate ≠ rhs.lastUpdate then lhs.lastUpdate > rhs.lastUpdate
  else lhs.serverName < rhs.serverName

/-- `std::sort` with this comparison: afterwards no record comes before an earlier one. -/
structure OverviewSort where
  sort : List ServerOverviewRecord → List ServerOverviewRecord
  perm : ∀ records, (sort records).Perm records
  sorted : ∀ records, (sort records).Pairwise fun a b => ¬ overviewBefore b a

/-- `std::numeric_limits<float>::max()`, the negative of `lowest()`. -/
def floatMax : ℚ := (2 ^ 24 - 1) * 2 ^ 104

/-- The variables of the loop over the records. -/
structure ClusterScan where
  onlineServers : ℤ := 0
  offlineServers : ℤ := 0
  totalScore : ℚ := 0
  maxScore : ℚ := -floatMax
  minScore : ℚ := floatMax
  bestOnlineScore : ℚ := -floatMax
  worstOnlineScore : ℚ := floatMax
  bestServer : String := ""
  worstServer : String := ""
  bestOnlineServer : String := ""
  worstOnlineServer : String := ""
  deriving Repr

namespace ClusterScan

/-- The branch of the loop that depends on the status. -/
def visitStatus (s : ClusterScan) (rec : ServerOverviewRecord) : ClusterScan :=
  if rec.status = .online then
    let s := { s with onlineServers := s.onlineServers + 1 }
    let s :=
      if rec.score > s.bestOnlineScore then
        { s with bestOnlineScore := rec.score, bestOnlineServer := rec.serverName }
      else s
    if rec.score < s.worstOnlineScore then
      { s with worstOnlineScore := rec.score, worstOnlineServer := rec.serverName }
    else s
  else { s with offlineServers := s.offlineServers + 1 }

/-- The branches for the extremes of all records. -/
def visitExtremes (s : ClusterScan) (rec : ServerOverviewRecord) : ClusterScan :=
  let s :=
    if rec.score > s.maxScore then { s with maxScore := rec.score, bestServer := rec.serverName }
    else s
  if rec.score < s.minScore then { s with minScore := rec.score, worstServer := rec.serverName }
  else s

/-- The body of the loop over the records. -/
def visit (s : ClusterScan) (rec : ServerOverviewRecord) : ClusterScan :=
  visitExtremes (visitStatus { s with totalScore := s.totalScore + rec.score } rec) rec

/-- What is stored after the loop. -/
def stats (s : ClusterScan) (totalServers : ℤ) : ClusterStats where
  totalServers := totalServers
  onlineServers := s.onlineServers
  offlineServers := s.offlineServers
  avgScore := s.totalScore / totalServers
  maxScore := s.maxScore
  minScore := s.minScore
  bestServer := if s.bestOnlineServer = "" then s.bestServer else s.bestOnlineServer
  worstServer := if s.worstOnlineServer = "" then s.worstServer else s.worstOnlineServer

end ClusterScan

/-- The records of the hosts, in the order of the walk over the map. -/
def overviewRecords (entries : List (Σ _ : String, HostScore)) (now : Time) :
    List ServerOverviewRecord :=
  entries.map fun e => buildServerOverviewRecord e.1 e.2 now

/-- The part of `BuildCurrentClusterSnapshot` after the sort. -/
def summarize (records : List ServerOverviewRecord) : CurrentClusterSnapshot :=
  let totalServers : ℤ := records.length
  if records = [] then { records := records, stats := { totalServers := totalServers } }
  else
    { records := records
      stats := (records.foldl ClusterScan.visit {}).stats totalServers }

/-- `BuildCurrentClusterSnapshot`, for the current time `now`. -/
def buildCurrentClusterSnapshot (std : OverviewSort) (ord : HashOrder)
    (hostScores : UnorderedMap String HostScore) (now : Time) : CurrentClusterSnapshot :=
  summarize (std.sort (overviewRecords (ord.arrange hostScores.entries) now))

/-! ## What the snapshot should be -/

/-- Records rank by score, the highest first, then by last update, the latest first, then by
name. -/
def rankKey (rec : ServerOverviewRecord) : ℚᵒᵈ ×ₗ Timeᵒᵈ ×ₗ String :=
  toLex (OrderDual.toDual rec.score, toLex (OrderDual.toDual rec.lastUpdate, rec.serverName))

/-- The records that the best and the worst server are chosen from: the online ones, or all if none
is online. -/
def candidates (records : List ServerOverviewRecord) : List ServerOverviewRecord :=
  if records.any (·.status = .online) then records.filter (·.status = .online) else records

/-- The snapshot of a map of hosts at a time. -/
structure IsSnapshot (hostScores : UnorderedMap String HostScore) (now : Time)
    (snapshot : CurrentClusterSnapshot) : Prop where
  /-- There is one record for every host. -/
  perm : snapshot.records.Perm (overviewRecords hostScores.entries now)
  sorted : snapshot.records.Pairwise fun a b => rankKey a < rankKey b
  total : snapshot.stats.totalServers = hostScores.entries.length
  online : snapshot.stats.onlineServers = snapshot.records.countP (·.status = .online)
  total_eq : snapshot.stats.totalServers =
    snapshot.stats.onlineServers + snapshot.stats.offlineServers
  min_le_avg : hostScores.entries ≠ [] → snapshot.stats.minScore ≤ snapshot.stats.avgScore
  avg_le_max : hostScores.entries ≠ [] → snapshot.stats.avgScore ≤ snapshot.stats.maxScore
  min_attained : hostScores.entries ≠ [] →
    ∃ rec ∈ snapshot.records, rec.score = snapshot.stats.minScore
  max_attained : hostScores.entries ≠ [] →
    ∃ rec ∈ snapshot.records, rec.score = snapshot.stats.maxScore
  min_le : ∀ rec ∈ snapshot.records, snapshot.stats.minScore ≤ rec.score
  le_max : ∀ rec ∈ snapshot.records, rec.score ≤ snapshot.stats.maxScore
  /-- The best server is the first candidate, and `""` if there is none. -/
  best : snapshot.stats.bestServer =
    ((candidates snapshot.records).head?.map ServerOverviewRecord.serverName).getD ""
  /-- The worst server is the first candidate of least score, and `""` if there is none. -/
  worst : snapshot.stats.worstServer =
    (((candidates snapshot.records).find? fun rec =>
        ∀ other ∈ candidates snapshot.records, rec.score ≤ other.score).map
      ServerOverviewRecord.serverName).getD ""

/-- What the manager promises of its hosts: they have names, and their scores are below the greatest
`float` in absolute value. -/
structure Admissible (hostScores : UnorderedMap String HostScore) : Prop where
  name_ne : "" ∉ hostScores
  score_lt : ∀ h r, hostScores.lookup h = some r → |r.score| < floatMax

lemma HostManager.Consistent.admissible {m : HostManager} (hm : m.Consistent) :
    Admissible m.hostScores where
  name_ne := hm.name_ne
  score_lt h r hr := by
    obtain ⟨st, -, hfit⟩ := hm.states_of_record hr
    have hlimit : (100 : ℚ) < floatMax := by norm_num [floatMax]
    rw [abs_of_nonneg hfit.score_nonneg]
    exact hfit.score_le.trans_lt hlimit

/-- The manager keeps its promise in every run. -/
theorem Service.run_admissible {clock : Time} {as : List ServiceAction} {s : Service}
    {es : List ServiceEvent} (hrun : service.run (Service.start clock) as = some (s, es)) :
    Admissible s.manager.hostScores :=
  (Service.run_consistent hrun).admissible

/-! ## The sort -/

lemma overviewBefore_iff (a b : ServerOverviewRecord) :
    overviewBefore a b ↔ rankKey a < rankKey b := by
  unfold overviewBefore rankKey
  simp only [Prod.Lex.toLex_lt_toLex, OrderDual.toDual_lt_toDual, OrderDual.toDual_inj]
  split_ifs with hscore htime
  · simp [hscore]
  · simp [not_not.mp hscore, htime]
  · simp [not_not.mp hscore, not_not.mp htime]

/-- A sort that compares the keys. -/
def OverviewSort.stable : OverviewSort where
  sort records := records.insertionSort fun a b => rankKey a ≤ rankKey b
  perm records := List.perm_insertionSort _ records
  sorted records := by
    have htotal : Std.Total fun a b : ServerOverviewRecord => rankKey a ≤ rankKey b :=
      ⟨fun a b => le_total (rankKey a) (rankKey b)⟩
    have htrans : IsTrans ServerOverviewRecord fun a b => rankKey a ≤ rankKey b :=
      ⟨fun _ _ _ hab hbc => hab.trans hbc⟩
    refine (List.pairwise_insertionSort _ records).imp fun {a b} hab => ?_
    rw [overviewBefore_iff]
    exact not_lt.mpr hab

variable {hostScores : UnorderedMap String HostScore} {now : Time}

lemma overviewRecords_perm (ord : HashOrder) (now : Time) :
    (overviewRecords (ord.arrange hostScores.entries) now).Perm
      (overviewRecords hostScores.entries now) :=
  (ord.perm hostScores.entries).map _

lemma nodup_serverName_overviewRecords :
    ((overviewRecords hostScores.entries now).map ServerOverviewRecord.serverName).Nodup := by
  unfold overviewRecords
  rw [List.map_map]
  exact hostScores.nodupKeys

lemma mem_overviewRecords {rec : ServerOverviewRecord} :
    rec ∈ overviewRecords hostScores.entries now ↔
      ∃ h r, hostScores.lookup h = some r ∧ buildServerOverviewRecord h r now = rec := by
  simp only [overviewRecords, List.mem_map, Sigma.exists, UnorderedMap.mem_entries_iff]

/-- A sorted arrangement of the records is strictly sorted, since names differ. -/
lemma OverviewSort.pairwise_rankKey (std : OverviewSort) {records : List ServerOverviewRecord}
    (hnames : (records.map ServerOverviewRecord.serverName).Nodup) :
    (std.sort records).Pairwise fun a b => rankKey a < rankKey b := by
  have hdistinct : (std.sort records).Pairwise fun a b => a.serverName ≠ b.serverName := by
    have h := ((std.perm records).map ServerOverviewRecord.serverName).nodup_iff.mpr hnames
    exact List.pairwise_map.mp h
  refine ((std.sorted records).and hdistinct).imp fun {a b} h => ?_
  rw [overviewBefore_iff, not_lt] at h
  refine lt_of_le_of_ne h.1 fun heq => h.2 ?_
  unfold rankKey at heq
  simp only [toLex_inj, Prod.mk.injEq] at heq
  exact heq.2.2

/-- There is only one way to sort the records. -/
lemma OverviewSort.sort_eq (std std' : OverviewSort) {records records' : List ServerOverviewRecord}
    (hperm : records.Perm records')
    (hnames : (records.map ServerOverviewRecord.serverName).Nodup) :
    std.sort records = std'.sort records' := by
  have hnames' := ((hperm.map ServerOverviewRecord.serverName).nodup_iff).mp hnames
  refine List.Perm.eq_of_pairwise (fun a b _ _ hab hba => absurd hab hba.asymm)
    (std.pairwise_rankKey hnames) (std'.pairwise_rankKey hnames') ?_
  exact (std.perm records).trans (hperm.trans (std'.perm records').symm)

/-! ## The loop -/

namespace ClusterScan

variable (s : ClusterScan) (rec : ServerOverviewRecord) (l : List ServerOverviewRecord)

lemma visit_counts :
    (s.visit rec).totalScore = s.totalScore + rec.score ∧
      (s.visit rec).onlineServers = s.onlineServers + (if rec.status = .online then 1 else 0) ∧
      (s.visit rec).offlineServers =
        s.offlineServers + (if rec.status = .online then 0 else 1) := by
  unfold visit visitExtremes visitStatus
  dsimp only
  split_ifs <;> simp

lemma foldl_visit_counts :
    (l.foldl visit s).totalScore = s.totalScore + (l.map ServerOverviewRecord.score).sum ∧
      (l.foldl visit s).onlineServers = s.onlineServers + l.countP (·.status = .online) ∧
      (l.foldl visit s).onlineServers + (l.foldl visit s).offlineServers =
        s.onlineServers + s.offlineServers + l.length := by
  induction l generalizing s with
  | nil => simp
  | cons rec l ih =>
    obtain ⟨htotal, honline, hoffline⟩ := visit_counts s rec
    obtain ⟨ihtotal, ihonline, ihboth⟩ := ih (s.visit rec)
    rw [List.foldl_cons, ihboth, ihtotal, ihonline, htotal, honline, hoffline]
    refine ⟨by rw [List.map_cons, List.sum_cons, add_assoc], ?_, ?_⟩
    · rw [List.countP_cons]
      by_cases honline : rec.status = .online
      · simp only [honline, if_true, decide_true, Nat.cast_add, Nat.cast_one]
        ring
      · simp only [honline, if_false, decide_false, Bool.false_eq_true, add_zero]
    · rw [List.length_cons]
      split_ifs <;> push_cast <;> ring

/-- The best record so far. -/
def best : ℚ × String := (s.maxScore, s.bestServer)

/-- The worst record so far: scores are compared the other way round. -/
def worst : ℚᵒᵈ × String := (OrderDual.toDual s.minScore, s.worstServer)

/-- The best online record so far. -/
def bestOnline : ℚ × String := (s.bestOnlineScore, s.bestOnlineServer)

/-- The worst online record so far. -/
def worstOnline : ℚᵒᵈ × String := (OrderDual.toDual s.worstOnlineScore, s.worstOnlineServer)

/-- The score of a record in the order of the worst. -/
def lowScore (rec : ServerOverviewRecord) : ℚᵒᵈ := OrderDual.toDual rec.score

lemma visitStatus_frame : (s.visitStatus rec).best = s.best ∧
    (s.visitStatus rec).worst = s.worst := by
  unfold visitStatus best worst
  dsimp only
  split_ifs <;> exact ⟨rfl, rfl⟩

lemma visitExtremes_frame : (s.visitExtremes rec).bestOnline = s.bestOnline ∧
    (s.visitExtremes rec).worstOnline = s.worstOnline := by
  unfold visitExtremes bestOnline worstOnline
  dsimp only
  split_ifs <;> exact ⟨rfl, rfl⟩

lemma visitExtremes_lead :
    (s.visitExtremes rec).best =
        lead ServerOverviewRecord.score ServerOverviewRecord.serverName s.best rec ∧
      (s.visitExtremes rec).worst =
        lead lowScore ServerOverviewRecord.serverName s.worst rec := by
  unfold visitExtremes lead best worst lowScore
  simp only [OrderDual.toDual_lt_toDual, gt_iff_lt]
  split_ifs <;> exact ⟨rfl, rfl⟩

lemma visitStatus_lead :
    (s.visitStatus rec).bestOnline = (if rec.status = .online then
        lead ServerOverviewRecord.score ServerOverviewRecord.serverName s.bestOnline rec
      else s.bestOnline) ∧
    (s.visitStatus rec).worstOnline = (if rec.status = .online then
        lead lowScore ServerOverviewRecord.serverName s.worstOnline rec
      else s.worstOnline) := by
  unfold visitStatus lead bestOnline worstOnline lowScore
  simp only [OrderDual.toDual_lt_toDual, gt_iff_lt]
  split_ifs <;> exact ⟨rfl, rfl⟩

variable {s rec}

lemma foldl_visit_best : (l.foldl visit s).best =
    l.foldl (lead ServerOverviewRecord.score ServerOverviewRecord.serverName) s.best := by
  refine (List.foldl_hom best fun s rec => ?_).symm
  rw [visit, (visitExtremes_lead _ rec).1, (visitStatus_frame _ rec).1]
  rfl

lemma foldl_visit_worst : (l.foldl visit s).worst =
    l.foldl (lead lowScore ServerOverviewRecord.serverName) s.worst := by
  refine (List.foldl_hom worst fun s rec => ?_).symm
  rw [visit, (visitExtremes_lead _ rec).2, (visitStatus_frame _ rec).2]
  rfl

lemma foldl_visit_bestOnline : (l.foldl visit s).bestOnline =
    (l.filter (·.status = .online)).foldl
      (lead ServerOverviewRecord.score ServerOverviewRecord.serverName) s.bestOnline := by
  rw [List.foldl_filter]
  refine (List.foldl_hom bestOnline fun s rec => ?_).symm
  rw [visit, (visitExtremes_frame _ rec).1, (visitStatus_lead _ rec).1]
  simp only [decide_eq_true_eq]
  rfl

lemma foldl_visit_worstOnline : (l.foldl visit s).worstOnline =
    (l.filter (·.status = .online)).foldl
      (lead lowScore ServerOverviewRecord.serverName) s.worstOnline := by
  rw [List.foldl_filter]
  refine (List.foldl_hom worstOnline fun s rec => ?_).symm
  rw [visit, (visitExtremes_frame _ rec).2, (visitStatus_lead _ rec).2]
  simp only [decide_eq_true_eq]
  rfl

/-- With scores in range the loop ends with the leaders. -/
lemma foldl_visit_leader {l : List ServerOverviewRecord} (hl : ∀ rec ∈ l, |rec.score| < floatMax) :
    (l.foldl visit {}).best =
        ((leader ServerOverviewRecord.score l).map fun a => (a.score, a.serverName)).getD
          (-floatMax, "") ∧
      (l.foldl visit {}).worst =
        ((leader lowScore l).map fun a => (lowScore a, a.serverName)).getD
          (OrderDual.toDual floatMax, "") ∧
      (l.foldl visit {}).bestOnline.2 =
        (((leader ServerOverviewRecord.score (l.filter (·.status = .online))).map
          ServerOverviewRecord.serverName).getD "") ∧
      (l.foldl visit {}).worstOnline.2 =
        (((leader lowScore (l.filter (·.status = .online))).map
          ServerOverviewRecord.serverName).getD "") := by
  have hlow : ∀ rec ∈ l, -floatMax < rec.score := fun rec hrec => (abs_lt.mp (hl rec hrec)).1
  have hhigh : ∀ rec ∈ l, OrderDual.toDual floatMax < lowScore rec :=
    fun rec hrec => OrderDual.toDual_lt_toDual.mpr (abs_lt.mp (hl rec hrec)).2
  refine ⟨?_, ?_, ?_, ?_⟩
  · rw [foldl_visit_best]
    exact foldl_lead ServerOverviewRecord.score _ hlow
  · rw [foldl_visit_worst]
    exact foldl_lead lowScore _ hhigh
  · rw [foldl_visit_bestOnline, foldl_lead ServerOverviewRecord.score _ fun rec hrec =>
      hlow rec (List.mem_of_mem_filter hrec)]
    cases leader ServerOverviewRecord.score (l.filter (·.status = .online)) <;> rfl
  · rw [foldl_visit_worstOnline, foldl_lead lowScore _ fun rec hrec =>
      hhigh rec (List.mem_of_mem_filter hrec)]
    cases leader lowScore (l.filter (·.status = .online)) <;> rfl

end ClusterScan

/-- The name of the first record that no other exceeds, `""` if there are none. -/
def leaderName {K : Type} [LinearOrder K] (value : ServerOverviewRecord → K)
    (l : List ServerOverviewRecord) : String :=
  ((leader value l).map ServerOverviewRecord.serverName).getD ""

/-- Falling back to all records when no online one was found chooses among the candidates. -/
lemma leaderName_candidates {K : Type} [LinearOrder K] (value : ServerOverviewRecord → K)
    {l : List ServerOverviewRecord} (hname : ∀ rec ∈ l, rec.serverName ≠ "") :
    (if leaderName value (l.filter (·.status = .online)) = "" then leaderName value l
      else leaderName value (l.filter (·.status = .online))) = leaderName value (candidates l) := by
  unfold candidates
  split_ifs with hempty hany hany
  · exfalso
    obtain ⟨rec, hrec, honline⟩ := List.any_eq_true.mp hany
    cases hlead : leader value (l.filter (·.status = .online)) with
    | none =>
      rw [leader_eq_none_iff, List.filter_eq_nil_iff] at hlead
      exact hlead rec hrec honline
    | some a =>
      rw [leaderName, hlead] at hempty
      exact hname a (List.mem_of_mem_filter (leader_mem hlead)) hempty
  · rfl
  · rfl
  · exfalso
    refine hempty ?_
    have hnone : l.filter (·.status = .online) = [] := by
      rw [List.filter_eq_nil_iff]
      exact fun rec hrec honline => hany (List.any_eq_true.mpr ⟨rec, hrec, honline⟩)
    rw [hnone]
    rfl

/-! ## The snapshot -/

lemma Admissible.of_mem (hadm : Admissible hostScores) {rec : ServerOverviewRecord}
    (hrec : rec ∈ overviewRecords hostScores.entries now) :
    rec.serverName ≠ "" ∧ |rec.score| < floatMax := by
  obtain ⟨h, r, hr, rfl⟩ := mem_overviewRecords.mp hrec
  refine ⟨?_, hadm.score_lt h r hr⟩
  rintro rfl
  exact hadm.name_ne (UnorderedMap.mem_iff_lookup.mpr ⟨r, hr⟩)

lemma candidates_sublist (l : List ServerOverviewRecord) : (candidates l).Sublist l := by
  unfold candidates
  split_ifs
  · exact List.filter_sublist
  · exact List.Sublist.refl l

lemma pairwise_score_of_rankKey {l : List ServerOverviewRecord}
    (hl : l.Pairwise fun a b => rankKey a < rankKey b) :
    l.Pairwise fun a b => b.score ≤ a.score := by
  refine hl.imp fun {a b} hlt => ?_
  rcases Prod.Lex.toLex_lt_toLex.mp hlt with h | h
  · exact (OrderDual.toDual_lt_toDual.mp h).le
  · exact (OrderDual.toDual_inj.mp h.1).ge

/-- The average lies between the extremes. -/
lemma average_mem {l : List ServerOverviewRecord} (hl : l ≠ []) {lo hi : ℚ}
    (hlo : ∀ rec ∈ l, lo ≤ rec.score) (hhi : ∀ rec ∈ l, rec.score ≤ hi) :
    lo ≤ (l.map ServerOverviewRecord.score).sum / l.length ∧
      (l.map ServerOverviewRecord.score).sum / l.length ≤ hi := by
  have hpos : (0 : ℚ) < l.length := by exact_mod_cast List.length_pos_iff.mpr hl
  have hlo' := List.card_nsmul_le_sum (l.map ServerOverviewRecord.score) lo (by simpa using hlo)
  have hhi' := List.sum_le_card_nsmul (l.map ServerOverviewRecord.score) hi (by simpa using hhi)
  rw [List.length_map, nsmul_eq_mul] at hlo' hhi'
  exact ⟨(le_div_iff₀ hpos).mpr (by linarith), (div_le_iff₀ hpos).mpr (by linarith)⟩

/-- What the loop stores for records with names and with scores in range. -/
lemma summarize_stats {l : List ServerOverviewRecord} (hl : l ≠ [])
    (hvalid : ∀ rec ∈ l, rec.serverName ≠ "" ∧ |rec.score| < floatMax) :
    ∃ hi lo, leader ServerOverviewRecord.score l = some hi ∧
      leader ClusterScan.lowScore l = some lo ∧
      summarize l =
        { records := l
          stats :=
            { totalServers := l.length
              onlineServers := l.countP (·.status = .online)
              offlineServers := l.length - l.countP (·.status = .online)
              avgScore := (l.map ServerOverviewRecord.score).sum / l.length
              maxScore := hi.score
              minScore := lo.score
              bestServer := leaderName ServerOverviewRecord.score (candidates l)
              worstServer := leaderName ClusterScan.lowScore (candidates l) } } := by
  have hbestNe : leader ServerOverviewRecord.score l ≠ none := fun h => hl (leader_eq_none_iff.mp h)
  have hworstNe : leader ClusterScan.lowScore l ≠ none := fun h => hl (leader_eq_none_iff.mp h)
  obtain ⟨hi, hhi⟩ := Option.ne_none_iff_exists'.mp hbestNe
  obtain ⟨lo, hlo⟩ := Option.ne_none_iff_exists'.mp hworstNe
  obtain ⟨htotal, honline, hboth⟩ := ClusterScan.foldl_visit_counts {} l
  obtain ⟨hbest, hworst, hbestOnline, hworstOnline⟩ :=
    ClusterScan.foldl_visit_leader fun rec hrec => (hvalid rec hrec).2
  have hname : ∀ rec ∈ l, rec.serverName ≠ "" := fun rec hrec => (hvalid rec hrec).1
  refine ⟨hi, lo, hhi, hlo, ?_⟩
  rw [hhi, Option.map_some, Option.getD_some] at hbest
  rw [hlo, Option.map_some, Option.getD_some] at hworst
  rw [summarize, if_neg hl, ClusterScan.stats, ← leaderName_candidates _ hname,
    ← leaderName_candidates _ hname]
  simp only [CurrentClusterSnapshot.mk.injEq, ClusterStats.mk.injEq]
  refine ⟨trivial, trivial, ?_, ?_, ?_, ?_, ?_, ?_, ?_⟩
  · rw [honline]
    exact zero_add _
  · simp only [zero_add] at honline hboth
    rw [← hboth, honline]
    ring
  · rw [htotal, Int.cast_natCast]
    exact congrArg (· / (l.length : ℚ)) (zero_add _)
  · exact congrArg Prod.fst hbest
  · exact congrArg Prod.fst hworst
  · rw [show (l.foldl ClusterScan.visit {}).bestOnlineServer = _ from hbestOnline,
      show (l.foldl ClusterScan.visit {}).bestServer = _ from congrArg Prod.snd hbest]
    simp only [leaderName, hhi, Option.map_some, Option.getD_some]
  · rw [show (l.foldl ClusterScan.visit {}).worstOnlineServer = _ from hworstOnline,
      show (l.foldl ClusterScan.visit {}).worstServer = _ from congrArg Prod.snd hworst]
    simp only [leaderName, hlo, Option.map_some, Option.getD_some]

/-- The summary of sorted records with names and with scores in range. -/
lemma isSnapshot_summarize {records : List ServerOverviewRecord}
    (hperm : records.Perm (overviewRecords hostScores.entries now))
    (hsorted : records.Pairwise fun a b => rankKey a < rankKey b) (hadm : Admissible hostScores) :
    IsSnapshot hostScores now (summarize records) := by
  have hlength : records.length = hostScores.entries.length := by
    rw [hperm.length_eq, overviewRecords, List.length_map]
  have hvalid : ∀ rec ∈ records, rec.serverName ≠ "" ∧ |rec.score| < floatMax :=
    fun rec hrec => hadm.of_mem (hperm.mem_iff.mp hrec)
  have hhead :
      leader ServerOverviewRecord.score (candidates records) = (candidates records).head? :=
    leader_of_pairwise ((pairwise_score_of_rankKey hsorted).sublist (candidates_sublist records))
  by_cases hempty : records = []
  · have hentries : hostScores.entries = [] :=
      List.length_eq_zero_iff.mp (by rw [← hlength, hempty, List.length_nil])
    subst hempty
    have hnone : ∀ {p : Prop}, hostScores.entries ≠ [] → p := fun h => absurd hentries h
    exact ⟨hperm, hsorted, by rw [hentries]; rfl, rfl, rfl, hnone, hnone, hnone, hnone,
      fun rec hrec => absurd hrec List.not_mem_nil, fun rec hrec => absurd hrec List.not_mem_nil,
      rfl, rfl⟩
  · obtain ⟨hi, lo, hhi, hlo, hstats⟩ := summarize_stats hempty hvalid
    have hle : ∀ rec ∈ records, rec.score ≤ hi.score := value_le_of_leader hhi
    have hge : ∀ rec ∈ records, lo.score ≤ rec.score := value_le_of_leader hlo
    obtain ⟨hlow, hhigh⟩ := average_mem hempty hge hle
    rw [hstats]
    exact
      { perm := hperm
        sorted := hsorted
        total := by rw [← hlength]
        online := rfl
        total_eq := by ring
        min_le_avg := fun _ => hlow
        avg_le_max := fun _ => hhigh
        min_attained := fun _ => ⟨lo, leader_mem hlo, rfl⟩
        max_attained := fun _ => ⟨hi, leader_mem hhi, rfl⟩
        min_le := hge
        le_max := hle
        best := by rw [← hhead]; rfl
        worst := rfl }

/-- **The snapshot is well defined.** For hosts as the manager has them, every sort and every order
of the hash map give the same snapshot: all records by score, last update and name, their counts,
average and extremes, and the best and the worst candidate.

**Proof sketch.** Names differ, so the ranking leaves one order only. The loop keeps four running
leaders. Of sorted records the best leader is the first; the worst is the first of least score. -/
theorem buildCurrentClusterSnapshot_wellDefined (hostScores : UnorderedMap String HostScore)
    (now : Time) (hadm : Admissible hostScores) :
    ∃ snapshot, IsSnapshot hostScores now snapshot ∧
      ∀ std ord, buildCurrentClusterSnapshot std ord hostScores now = snapshot := by
  have hnames : ((overviewRecords hostScores.entries now).map
      ServerOverviewRecord.serverName).Nodup := nodup_serverName_overviewRecords
  refine ⟨summarize (OverviewSort.stable.sort (overviewRecords hostScores.entries now)), ?_, ?_⟩
  · exact isSnapshot_summarize (OverviewSort.stable.perm _)
      (OverviewSort.stable.pairwise_rankKey hnames) hadm
  · intro std ord
    exact congrArg summarize (OverviewSort.sort_eq OverviewSort.stable std
      (overviewRecords_perm ord now).symm hnames).symm

/-- Two hosts of equal score, one online and one not, and a third with less. -/
def threeHosts : UnorderedMap String HostScore :=
  ((AList.singleton "a" ⟨{}, 50, 0⟩).insert "b" ⟨{}, 50, 100 * second⟩).insert "c"
    ⟨{}, 20, 90 * second⟩

/-- Their snapshot. -/
theorem snapshot_threeHosts :
    ∃ snapshot, IsSnapshot threeHosts (100 * second) snapshot ∧
      ∀ std ord, buildCurrentClusterSnapshot std ord threeHosts (100 * second) = snapshot :=
  buildCurrentClusterSnapshot_wellDefined threeHosts (100 * second)
    { name_ne := by decide
      score_lt := fun h r hr => by
        have hall : ∀ e ∈ threeHosts.entries, |e.2.score| < floatMax := by decide +kernel
        exact hall ⟨h, r⟩ (UnorderedMap.mem_entries_iff.mpr hr) }

example : (buildCurrentClusterSnapshot .stable .stored threeHosts (100 * second)).stats =
    ⟨3, 2, 1, 40, 50, 20, "b", "c"⟩ := by decide +kernel

end Monitor
