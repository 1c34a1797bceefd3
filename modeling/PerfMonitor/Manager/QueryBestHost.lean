import PerfMonitor.Manager.HostManager

set_option relaxedAutoImplicit false
set_option autoImplicit false

/-!
# The `QueryBestHost` answer

`QueryServiceImpl::QueryBestHost` (`manager/src/rpc/query_service.cpp`) takes the lock twice:
`GetBestHost` names a host, then `GetAllHostScores` copies the records and the answer is built
from the copy. This file has the part after the first locked section.

## Main definitions

* `Monitor.buildServerOverviewRecord` — the record of a host as the query service reports it.
* `Monitor.HostManager.answerBestHost` — the answer for a host named earlier.
* `Monitor.HostManager.ReportedRecently` — the host's last report is within the expiry window.
-/

namespace Monitor

/-- Status codes of failed calls. -/
inductive StatusCode where
  | unavailable
  | internal
  | invalidArgument
  deriving DecidableEq, Repr

/-- A failed call. -/
structure RpcError where
  code : StatusCode
  message : String
  deriving DecidableEq, Repr

inductive ServerStatus where
  | online
  | offline
  deriving DecidableEq, Repr

/-- The summary of one host's latest report. -/
structure ServerOverviewRecord where
  serverName : String
  score : ℚ
  lastUpdate : Time
  status : ServerStatus
  cpuPercent : ℚ
  memUsedPercent : ℚ
  diskUtilPercent : ℚ
  loadAvg1 : ℚ
  sendRate : ℚ
  rcvRate : ℚ
  deriving DecidableEq, Repr

/-- `kHostOnlineWindow`, in seconds. -/
def kHostOnlineWindow : ℤ := 60

/-- `GetMaxDiskUtilPercent`. -/
def getMaxDiskUtilPercent (info : MonitorInfo) : ℚ :=
  info.diskInfo.foldl (fun m d => max m d.utilPercent) 0

/-- `GetTotalSendRate`. -/
def getTotalSendRate (info : MonitorInfo) : ℚ := (info.netInfo.map NetInfo.sendRate).sum

/-- `GetTotalRcvRate`. -/
def getTotalRcvRate (info : MonitorInfo) : ℚ := (info.netInfo.map NetInfo.rcvRate).sum

/-- `BuildServerOverviewRecord`. The age is cut to whole seconds before the comparison. -/
def buildServerOverviewRecord (serverName : String) (hostScore : HostScore) (now : Time) :
    ServerOverviewRecord :=
  let info := hostScore.info
  { serverName := serverName
    score := hostScore.score
    lastUpdate := hostScore.timestamp
    status :=
      if (now - hostScore.timestamp).tdiv second > kHostOnlineWindow then .offline else .online
    cpuPercent := (info.cpuStat.head?.map CpuStat.cpuPercent).getD 0
    memUsedPercent := (info.memInfo.map MemInfo.usedPercent).getD 0
    diskUtilPercent := getMaxDiskUtilPercent info
    loadAvg1 := (info.cpuLoad.map CpuLoad.loadAvg1).getD 0
    sendRate := getTotalSendRate info
    rcvRate := getTotalRcvRate info }

namespace HostManager

/-- The answer of `QueryBestHost` when its first section named `bestHost`: the second section
looks the record up again. -/
def answerBestHost (m : HostManager) (bestHost : String) (now : Time) :
    Except RpcError ServerOverviewRecord :=
  if bestHost = "" then .error ⟨.unavailable, "No hosts available"⟩
  else
    match m.hostScores.lookup bestHost with
    | none => .error ⟨.internal, "Selected best host not found in host score set"⟩
    | some r => .ok (buildServerOverviewRecord bestHost r now)

/-- The host is registered and its last report is within the expiry window. -/
def ReportedRecently (m : HostManager) (now : Time) (h : String) : Prop :=
  ∃ r, m.hostScores.lookup h = some r ∧ now - r.timestamp ≤ kHostExpireWindow

instance (m : HostManager) (now : Time) (h : String) : Decidable (m.ReportedRecently now h) :=
  decidable_of_iff
    ((m.hostScores.lookup h).any fun r => decide (now - r.timestamp ≤ kHostExpireWindow)) <| by
    simp [ReportedRecently, Option.any_eq_true_iff_get, Option.eq_some_iff_get_eq]

/-- An answer names a host that has reported within the expiry window. -/
def NamesOnlineHost (now : Time) (answer : Except RpcError ServerOverviewRecord) : Prop :=
  ∃ rec, answer = .ok rec ∧ now - rec.lastUpdate ≤ kHostExpireWindow

lemma namesOnlineHost_answerBestHost_iff {m : HostManager} {b : String} {now : Time} :
    NamesOnlineHost now (m.answerBestHost b now) ↔ b ≠ "" ∧ m.ReportedRecently now b := by
  unfold NamesOnlineHost answerBestHost ReportedRecently
  by_cases hb : b = ""
  · simp [hb]
  · cases hr : m.hostScores.lookup b with
    | none => simp [hb]
    | some r => simp [hb, buildServerOverviewRecord]

end HostManager

end Monitor
