import Mathlib.Data.Nat.Notation
import Mathlib.Logic.Function.Basic
import Mathlib.Tactic.Common

set_option relaxedAutoImplicit false
set_option autoImplicit false

/-!
# The TC hooks of the network monitor

`NetEbpfMonitor` (`worker/src/monitor/net_ebpf_monitor.cpp`) attaches a program to the ingress and
the egress hook of every physical interface. The hooks belong to the interface's `clsact` qdisc,
which `InitEbpf` creates where there is none and uses where there is one. `CleanupEbpf`, and
`InitEbpf` where attaching fails, delete the qdisc in either case, with all filters that others
have attached to it.

## Main definitions

* `Monitor.TcState` — the `clsact` qdisc of each interface, and the libbpf calls on it.
* `Monitor.attachTcProgram`, `Monitor.initEbpf`, `Monitor.cleanupEbpf` — the monitor's functions.

## Main results

* `Monitor.cleanup_after_init` — what starting and stopping the monitor leaves.
* `Monitor.tc_restored_iff` — exactly when it leaves everything as it was.
-/

namespace Monitor

/-! ## Traffic control -/

inductive AttachPoint where
  | ingress
  | egress
  deriving DecidableEq

/-- What a filter runs: one of the monitor's programs, or something that others have set up. -/
inductive TcFilter where
  | program (fd : ℕ)
  | foreign (id : ℕ)
  deriving DecidableEq

/-- A `clsact` qdisc: at each hook the filters by handle and priority. -/
abbrev ClsactQdisc := AttachPoint → ℕ × ℕ → Option TcFilter

/-- The `clsact` qdisc of each interface, by interface index. -/
abbrev TcState := ℕ → Option ClsactQdisc

/-- What a libbpf call returns: `0`, `-EEXIST` or another error. -/
inductive TcResult where
  | ok
  | eexist
  | error
  deriving DecidableEq

/-- The handle and the priority of the monitor's filters. -/
def kTcHandle : ℕ := 1
@[inherit_doc kTcHandle] def kTcPriority : ℕ := 1

variable (ifindex : ℕ) (attachPoint : AttachPoint)

/-- `bpf_tc_hook_create` for one of the two hooks. -/
def bpfTcHookCreate (fails : Bool) (tc : TcState) : TcResult × TcState :=
  if fails then (.error, tc)
  else
    match tc ifindex with
    | some _ => (.eexist, tc)
    | none => (.ok, Function.update tc ifindex (some fun _ _ => none))

/-- `bpf_tc_hook_destroy` for both hooks: the qdisc is deleted. -/
def bpfTcHookDestroy (tc : TcState) : TcState := Function.update tc ifindex none

/-- The qdisc with its filter at the monitor's handle and priority replaced. -/
def setFilter (filter : Option TcFilter) (qdisc : ClsactQdisc) : ClsactQdisc :=
  Function.update qdisc attachPoint
    (Function.update (qdisc attachPoint) (kTcHandle, kTcPriority) filter)

/-- `bpf_tc_detach`, whose result is ignored. -/
def bpfTcDetach (tc : TcState) : TcState :=
  Function.update tc ifindex ((tc ifindex).map (setFilter attachPoint none))

/-- `bpf_tc_attach`. -/
def bpfTcAttach (fails : Bool) (fd : ℕ) (tc : TcState) : TcResult × TcState :=
  if fails then (.error, tc)
  else
    match tc ifindex with
    | none => (.error, tc)
    | some qdisc =>
      if (qdisc attachPoint (kTcHandle, kTcPriority)).isSome then (.eexist, tc)
      else
        (.ok, Function.update tc ifindex (some (setFilter attachPoint (some (.program fd)) qdisc)))

/-! ## The monitor -/

/-- The calls of `AttachTcProgram` that fail. -/
structure AttachFailures where
  create : Bool := false
  attach : Bool := false

/-- `AttachTcProgram`. -/
def attachTcProgram (fails : AttachFailures) (fd : ℕ) (tc : TcState) : Bool × TcState :=
  let (err, tc) := bpfTcHookCreate ifindex fails.create tc
  if err ≠ .ok ∧ err ≠ .eexist then (false, tc)
  else
    -- clears what may be left at the hook
    let tc := bpfTcDetach ifindex attachPoint tc
    let (err, tc) := bpfTcAttach ifindex attachPoint fails.attach fd tc
    if err ≠ .ok then (false, tc) else (true, tc)

/-- `DetachTcProgram` for both hooks, then `DestroyClsactQdisc`. -/
def detachAndDestroy (tc : TcState) : TcState :=
  bpfTcHookDestroy ifindex (bpfTcDetach ifindex .egress (bpfTcDetach ifindex .ingress tc))

/-- The interfaces the monitor has attached to, and the system's traffic control. -/
structure NetEbpfMonitor where
  attachedIfindexes : List ℕ := []
  tc : TcState

/-- The calls that fail, by interface and hook. -/
abbrev FailurePattern := ℕ → AttachPoint → AttachFailures

/-- The body of the loop of `InitEbpf`. -/
def NetEbpfMonitor.attach (fails : FailurePattern) (ingressFd egressFd : ℕ) (m : NetEbpfMonitor)
    (ifindex : ℕ) : NetEbpfMonitor :=
  let (ingressOk, tc) := attachTcProgram ifindex .ingress (fails ifindex .ingress) ingressFd m.tc
  let (egressOk, tc) := attachTcProgram ifindex .egress (fails ifindex .egress) egressFd tc
  if ¬ ingressOk ∨ ¬ egressOk then { m with tc := detachAndDestroy ifindex tc }
  else { attachedIfindexes := m.attachedIfindexes ++ [ifindex], tc := tc }

/-- `CleanupEbpf`. -/
def cleanupEbpf (m : NetEbpfMonitor) : NetEbpfMonitor where
  attachedIfindexes := []
  tc := m.attachedIfindexes.foldl (fun tc ifindex => detachAndDestroy ifindex tc) m.tc

/-- `InitEbpf` on the interfaces that `GetAllIfIndexes` lists, `prepared` telling whether the
programs load and the maps and the number of CPUs are there. -/
def initEbpf (prepared : Bool) (fails : FailurePattern) (ingressFd egressFd : ℕ)
    (ifindexes : List ℕ) (tc : TcState) : Bool × NetEbpfMonitor :=
  if ¬ prepared then (false, cleanupEbpf { tc := tc })
  else
    let m := ifindexes.foldl (NetEbpfMonitor.attach fails ingressFd egressFd) { tc := tc }
    if m.attachedIfindexes = [] then (false, cleanupEbpf m) else (true, m)

/-! ## What the calls touch -/

variable {ifindex attachPoint} {tc : TcState} {j : ℕ}

lemma bpfTcDetach_of_ne (h : j ≠ ifindex) : bpfTcDetach ifindex attachPoint tc j = tc j :=
  Function.update_of_ne h _ _

/-- Attaching to an interface leaves the others. -/
lemma attachTcProgram_of_ne {fails : AttachFailures} {fd : ℕ} (h : j ≠ ifindex) :
    (attachTcProgram ifindex attachPoint fails fd tc).2 j = tc j := by
  have hcreate : (bpfTcHookCreate ifindex fails.create tc).2 j = tc j := by
    unfold bpfTcHookCreate
    split_ifs
    · rfl
    · split
      · rfl
      · exact Function.update_of_ne h _ _
  have hattach : ∀ tc : TcState,
      (bpfTcAttach ifindex attachPoint fails.attach fd tc).2 j = tc j := by
    intro tc
    unfold bpfTcAttach
    split_ifs
    · rfl
    · split
      · rfl
      · split_ifs
        · rfl
        · exact Function.update_of_ne h _ _
  simp only [attachTcProgram]
  split_ifs
  · exact hcreate
  · exact ((hattach _).trans (bpfTcDetach_of_ne h)).trans hcreate
  · exact ((hattach _).trans (bpfTcDetach_of_ne h)).trans hcreate

/-- Afterwards the interface has no `clsact` qdisc; the others are left. -/
lemma detachAndDestroy_apply :
    detachAndDestroy ifindex tc j = if j = ifindex then none else tc j := by
  unfold detachAndDestroy bpfTcHookDestroy
  by_cases h : j = ifindex
  · rw [if_pos h, h, Function.update_self]
  · rw [if_neg h, Function.update_of_ne h, bpfTcDetach_of_ne h, bpfTcDetach_of_ne h]

/-- **Cleaning up deletes the qdiscs of the attached interfaces** and touches nothing else. -/
lemma cleanupEbpf_tc (m : NetEbpfMonitor) :
    (cleanupEbpf m).tc j = if j ∈ m.attachedIfindexes then none else m.tc j := by
  obtain ⟨attached, tc⟩ := m
  dsimp only [cleanupEbpf]
  induction attached generalizing tc with
  | nil => simp
  | cons i attached ih =>
    rw [List.foldl_cons, ih, detachAndDestroy_apply]
    by_cases hj : j ∈ attached
    · rw [if_pos hj, if_pos (List.mem_cons_of_mem i hj)]
    · by_cases hi : j = i
      · rw [if_neg hj, if_pos hi, if_pos (hi ▸ List.mem_cons_self)]
      · rw [if_neg hj, if_neg hi, if_neg (List.not_mem_cons_of_ne_of_not_mem hi hj)]

variable {fails : FailurePattern} {ingressFd egressFd : ℕ}

/-! ## Starting and stopping -/

/-- What one interface of the loop does: the interface is attached or without a qdisc afterwards,
and the other interfaces are left. -/
lemma NetEbpfMonitor.attach_cases (m : NetEbpfMonitor) (i : ℕ) :
    (∀ j ≠ i, (m.attach fails ingressFd egressFd i).tc j = m.tc j) ∧
      ((m.attach fails ingressFd egressFd i).attachedIfindexes = m.attachedIfindexes ∧
          (m.attach fails ingressFd egressFd i).tc i = none ∨
        (m.attach fails ingressFd egressFd i).attachedIfindexes = m.attachedIfindexes ++ [i]) := by
  unfold NetEbpfMonitor.attach
  dsimp only
  split_ifs with hfail
  · refine ⟨fun j hj => ?_, Or.inl ⟨rfl, ?_⟩⟩
    · dsimp only
      rw [detachAndDestroy_apply, if_neg hj, attachTcProgram_of_ne hj, attachTcProgram_of_ne hj]
    · dsimp only
      rw [detachAndDestroy_apply, if_pos rfl]
  · refine ⟨fun j hj => ?_, Or.inr rfl⟩
    dsimp only
    rw [attachTcProgram_of_ne hj, attachTcProgram_of_ne hj]

/-- Cleaning up after the loop deletes the qdisc of every interface of the loop and of those that
were attached before.

**Proof sketch.** Induction on the interfaces. An interface that the loop has failed to attach to
is without a qdisc, and an attached one loses it to the cleanup. -/
lemma cleanup_after_loop (ifindexes : List ℕ) (m : NetEbpfMonitor) :
    (cleanupEbpf (ifindexes.foldl (NetEbpfMonitor.attach fails ingressFd egressFd) m)).tc j =
      if j ∈ ifindexes ∨ j ∈ m.attachedIfindexes then none else m.tc j := by
  induction ifindexes generalizing m with
  | nil => simp [cleanupEbpf_tc]
  | cons i ifindexes ih =>
    obtain ⟨hother, hcases⟩ := @NetEbpfMonitor.attach_cases fails ingressFd egressFd m i
    rw [List.foldl_cons, ih]
    by_cases hj : j = i
    · subst hj
      rw [if_pos (Or.inl List.mem_cons_self)]
      rcases hcases with ⟨-, hnone⟩ | hattached
      · rw [hnone, ite_self]
      · exact if_pos (Or.inr (hattached ▸ List.mem_append_right _ List.mem_cons_self))
    · have hmem : j ∈ (m.attach fails ingressFd egressFd i).attachedIfindexes ↔
          j ∈ m.attachedIfindexes := by
        rcases hcases with ⟨hsame, -⟩ | hattached
        · rw [hsame]
        · rw [hattached, List.mem_append, List.mem_singleton, or_iff_left hj]
      simp only [hother j hj, hmem, List.mem_cons, hj, false_or]

/-- **What starting and stopping the monitor leaves.** Unless the preparations failed, no interface
of the loop has a `clsact` qdisc afterwards, whatever has failed in between; the others are as
before. -/
theorem cleanup_after_init (prepared : Bool) (ifindexes : List ℕ) :
    (cleanupEbpf (initEbpf prepared fails ingressFd egressFd ifindexes tc).2).tc j =
      if prepared = true ∧ j ∈ ifindexes then none else tc j := by
  cases prepared with
  | false => simp [initEbpf, cleanupEbpf]
  | true =>
    have hloop := @cleanup_after_loop j fails ingressFd egressFd ifindexes { tc := tc }
    simp only [List.not_mem_nil, or_false] at hloop
    simp only [true_and]
    rw [initEbpf, if_neg (not_not.mpr rfl)]
    dsimp only
    by_cases hnone : (ifindexes.foldl (NetEbpfMonitor.attach fails ingressFd egressFd)
        { tc := tc }).attachedIfindexes = []
    · -- the failed start has already cleaned up
      rw [if_pos hnone]
      exact hloop
    · rw [if_neg hnone]
      exact hloop

/-- **When starting and stopping the monitor restores the TC configuration.** For all interfaces,
initial configurations and failing calls, it does exactly when the start fails before the first
interface or no physical interface has had a `clsact` qdisc. -/
theorem tc_restored_iff (prepared : Bool) (fails : FailurePattern) (ingressFd egressFd : ℕ)
    (ifindexes : List ℕ) (tc : TcState) :
    (cleanupEbpf (initEbpf prepared fails ingressFd egressFd ifindexes tc).2).tc = tc ↔
      prepared = false ∨ ∀ i ∈ ifindexes, tc i = none := by
  constructor
  · intro hsame
    cases prepared with
    | false => exact Or.inl rfl
    | true =>
      refine Or.inr fun i hi => ?_
      rw [← hsame, cleanup_after_init, if_pos ⟨rfl, hi⟩]
  · intro h
    funext j
    rw [cleanup_after_init]
    split_ifs with hj
    · rcases h with hprepared | hnone
      · exact absurd (hj.1.symm.trans hprepared) (by decide)
      · exact (hnone j hj.2).symm
    · rfl

/-- Interface `1` with a filter of somebody else. -/
def sharedTc : TcState :=
  Function.update (fun _ => none) 1 (some fun _ _ => some (.foreign 0))

/-- **Stopping the monitor deletes foreign filters**: it has attached to an interface that had a
`clsact` qdisc, and deletes it. -/
theorem stop_deletes_foreign_filters :
    ¬ ∀ (prepared : Bool) (fails : FailurePattern) (ingressFd egressFd : ℕ) (ifindexes : List ℕ)
      (tc : TcState),
      (cleanupEbpf (initEbpf prepared fails ingressFd egressFd ifindexes tc).2).tc = tc := by
  intro halways
  have hone := congrFun (halways true (fun _ _ => {}) 3 4 [1] sharedTc) 1
  rw [cleanup_after_init, if_pos ⟨rfl, List.mem_cons_self⟩, sharedTc, Function.update_self] at hone
  exact absurd hone (by simp)

end Monitor
