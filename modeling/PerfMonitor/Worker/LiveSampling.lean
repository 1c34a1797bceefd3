import PerfMonitor.Container.KeyWalk
import PerfMonitor.Worker.CallReadings
import PerfMonitor.Worker.NetTraffic

set_option relaxedAutoImplicit false
set_option autoImplicit false

/-!
# Sampling while packets arrive

`UpdateOnce` (`worker/src/monitor/net_ebpf_monitor.cpp`) walks over the counters of the interfaces
with `bpf_map_get_next_key` and copies the slots of each with `bpf_map_lookup_elem`, one counter
after the other, while the TC programs go on counting on all CPUs and create entries for new
interfaces. `Monitor.NetEbpfCaches.updateOnce` is the call as one function, on a map that stands
still. Every run with packets in between is a run of the calls on the maps that they have seen.

## Main definitions

* `Monitor.LiveSampling`, `Monitor.liveSampling` — the TC programs and the calls of `UpdateOnce` as
  an event machine. Asking for the next key and copying a counter are steps of their own.
* `Monitor.LiveSampling.Copied`, `Monitor.LiveSampling.Seen.Genuine` — what a call has seen was
  copied from the map, counter by counter, at moments of the call.
* `Monitor.LiveSampling.Refined` — what a run has in common with a run of the calls.

## Main results

* `Monitor.LiveSampling.run_refined` — every run is a run of the calls on what they have seen, and
  each call has seen every interface that was in the map when it began, and at most 64.
* `Monitor.LiveSampling.packetsOf_eq_arrivals` — the packets of a run are those that arrive.
* `Monitor.LiveSampling.Current.loopSteps_le`, `Monitor.LiveSampling.exists_step` — the loop of a
  call ends.
-/

namespace Monitor

variable {n : ℕ}

/-! ## The machine -/

/-- What a call of `UpdateOnce` meets outside the monitor in the loop over the interfaces. -/
structure NetCall where
  now : ℚ
  ifIndexToName : UInt32 → String
  hasDevice : String → Bool

/-- The call with what it finds in the maps. -/
def NetCall.sampling (call : NetCall)
    (netStatsMap : UnorderedMap UInt32 (Option (Fin n → NetStats))) (procNow : ℚ)
    (procNetMap : UnorderedMap ℕ (ProcEntry n)) : NetSampling n where
  now := call.now
  netStatsMap := netStatsMap
  ifIndexToName := call.ifIndexToName
  hasDevice := call.hasDevice
  procNow := procNow
  procNetMap := procNetMap

/-- The body of the loop over the interfaces, with what the lookup has copied. -/
def NetCall.visit (call : NetCall) (mapFd : ℤ) (w : NetEbpfCaches.NetWalk)
    (e : Σ _ : UInt32, Option (Fin n → NetStats)) : NetEbpfCaches.NetWalk :=
  NetEbpfCaches.visitInterface mapFd (call.sampling ∅ 0 ∅) w e

/-- The counters of an entry in the order in which they are copied. -/
def allFields (n : ℕ) : List (Fin n × NetField) :=
  (List.finRange n).flatMap fun cpu =>
    [(cpu, .rcvBytes), (cpu, .rcvPackets), (cpu, .sndBytes), (cpu, .sndPackets)]

lemma mem_allFields (cpu : Fin n) (c : NetField) : (cpu, c) ∈ allFields n := by
  refine List.mem_flatMap.mpr ⟨cpu, List.mem_finRange cpu, ?_⟩
  cases c <;> simp

/-- Where the thread is that runs `UpdateOnce`. -/
inductive NetPhase (n : ℕ) where
  | idle
  /-- About to ask for the key behind `cursor`. -/
  | walking (call : NetCall) (cursor : Option UInt32) (w : NetEbpfCaches.NetWalk)
  /-- The slots of `k` are copied to `buf`; the counters in `left` are still to come. -/
  | reading (call : NetCall) (k : UInt32) (w : NetEbpfCaches.NetWalk) (buf : Fin n → NetStats)
      (left : List (Fin n × NetField))
  /-- The loop is done. -/
  | collecting (call : NetCall) (w : NetEbpfCaches.NetWalk)

/-- The TC programs with their map, the order in which the map holds its keys, and the monitor. -/
structure LiveSampling (n : ℕ) where
  kernel : NetStatsMap n := {}
  order : List UInt32 := []
  monitor : NetEbpfCaches := {}
  phase : NetPhase n := .idle

inductive LiveAction (n : ℕ) where
  /-- A step of the TC programs. An entry it creates comes to a place in the order of the map. -/
  | kernel (a : NetStatsAction n) (position : ℕ)
  /-- `UpdateOnce` is called. -/
  | begin (call : NetCall)
  /-- `bpf_map_get_next_key`. -/
  | next
  /-- `bpf_map_lookup_elem` copies one more counter. -/
  | copy
  /-- `bpf_map_lookup_elem` fails. -/
  | fail
  /-- The rest of the loop body. -/
  | visit
  /-- `CollectProcessStats`, with what it finds. -/
  | collect (procNow : ℚ) (procNetMap : UnorderedMap ℕ (ProcEntry n))

inductive LiveEvent where
  | packet (p : NetPacket)
  /-- A call begins, with these keys in the map. -/
  | began (now : ℚ) (keys : List UInt32)
  | update (u : NetUpdate)

namespace LiveSampling

/-- The order of the keys with that of a new entry at `position`. -/
def place (order : List UInt32) (m : PerCpuHash n UInt32 NetStats) (position : ℕ) :
    List UInt32 :=
  match m.keys.find? (· ∉ order) with
  | none => order
  | some k => KeyWalk.insertAt order position k

/-- The variables of the loop before its first iteration. -/
def startWalk (m : NetEbpfCaches) : NetEbpfCaches.NetWalk where
  cache := m.cache
  ifnameCache := m.ifnameCache

/-- The buffer with one more counter copied. -/
def copyField (buf slots : Fin n → NetStats) (cpu : Fin n) (c : NetField) : Fin n → NetStats :=
  Function.update buf cpu ((buf cpu).set c ((slots cpu).get c))

/-- A key whose lookup fails. -/
def failed (n : ℕ) (k : UInt32) : Σ _ : UInt32, Option (Fin n → NetStats) := ⟨k, none⟩

/-- One action. -/
def step (std : RateSort) (s : LiveSampling n) :
    LiveAction n → Option (LiveSampling n × List LiveEvent)
  | .kernel a position =>
    ((netStatsMap n).step s.kernel a).map fun (kernel, ps) =>
      ({ s with kernel := kernel, order := place s.order kernel.map position }, ps.map .packet)
  | .begin call =>
    match s.phase with
    | .idle =>
      if s.monitor.loaded = false ∨ s.monitor.mapFd < 0 then
        some (s, [.began call.now s.order, .update {}])
      else
        some ({ s with phase := .walking call none (startWalk s.monitor) },
          [.began call.now s.order])
    | _ => none
  | .next =>
    match s.phase with
    | .walking call cursor w =>
      match KeyWalk.nextKey s.order cursor with
      | some k => some ({ s with phase := .reading call k w (fun _ => {}) (allFields n) }, [])
      | none => some ({ s with phase := .collecting call w }, [])
    | _ => none
  | .copy =>
    match s.phase with
    | .reading call k w buf ((cpu, c) :: left) =>
      (s.kernel.map.lookup k).map fun slots =>
        ({ s with
            phase := .reading call k w (copyField buf slots cpu c) left }, [])
    | _ => none
  | .fail =>
    match s.phase with
    | .reading call k w _ _ =>
      some ({ s with phase := .walking call (some k) (call.visit s.monitor.mapFd w (failed n k)) },
        [])
    | _ => none
  | .visit =>
    match s.phase with
    | .reading call k w buf [] =>
      some ({ s with phase := .walking call (some k) (call.visit s.monitor.mapFd w ⟨k, some buf⟩) },
        [])
    | _ => none
  | .collect procNow procNetMap =>
    match s.phase with
    | .collecting _ w =>
      let p := NetEbpfCaches.collectProcessStats std
        { s.monitor with cache := w.cache, ifnameCache := w.ifnameCache } procNow procNetMap
      some ({ s with monitor := p.1, phase := .idle },
        [.update { p.2 with netSamples := w.samples }])
    | _ => none

/-- Before the first packet and the first call. -/
def start (m : NetEbpfCaches) : LiveSampling n where
  monitor := m

end LiveSampling

/-- Packets and calls of `UpdateOnce`. -/
def liveSampling (std : RateSort) (n : ℕ) :
    EventMachine (LiveSampling n) (LiveAction n) LiveEvent where
  step s a := s.step std a

/-- The packets. -/
def packetsOf (es : List LiveEvent) : List NetPacket :=
  es.filterMap fun | .packet p => some p | _ => none

/-- The calls that have begun: when, and with which keys in the map. -/
def begunOf (es : List LiveEvent) : List (ℚ × List UInt32) :=
  es.filterMap fun | .began now keys => some (now, keys) | _ => none

/-- What the calls have reported. -/
def updatesOf (es : List LiveEvent) : List NetUpdate :=
  es.filterMap fun | .update u => some u | _ => none

/-- The steps of the TC programs. -/
def kernelActions (as : List (LiveAction n)) : List (NetStatsAction n) :=
  as.filterMap fun | .kernel a _ => some a | _ => none

section Events

variable (es fs : List LiveEvent) (ps : List NetPacket)

lemma packetsOf_append : packetsOf (es ++ fs) = packetsOf es ++ packetsOf fs :=
  List.filterMap_append

lemma begunOf_append : begunOf (es ++ fs) = begunOf es ++ begunOf fs := List.filterMap_append

lemma updatesOf_append : updatesOf (es ++ fs) = updatesOf es ++ updatesOf fs :=
  List.filterMap_append

@[simp] lemma packetsOf_packets : packetsOf (ps.map .packet) = ps := by
  simp [packetsOf, List.filterMap_map]

@[simp] lemma begunOf_packets : begunOf (ps.map .packet) = [] := by
  simp [begunOf, List.filterMap_map]

@[simp] lemma updatesOf_packets : updatesOf (ps.map .packet) = [] := by
  simp [updatesOf, List.filterMap_map]

end Events

/-! ## What a step can do -/

namespace LiveSampling

variable {std : RateSort} {s s' : LiveSampling n} {a : LiveAction n} {as : List (LiveAction n)}
  {es fs : List LiveEvent} {m₀ : NetEbpfCaches}

/-- A step. -/
inductive Step (std : RateSort) : LiveSampling n → LiveAction n → LiveSampling n →
    List LiveEvent → Prop where
  | kernel {s : LiveSampling n} (a position kernel ps)
      (hstep : (netStatsMap n).step s.kernel a = some (kernel, ps)) :
      Step std s (.kernel a position)
        { s with kernel := kernel, order := place s.order kernel.map position } (ps.map .packet)
  | beginClosed {s : LiveSampling n} (call) (hphase : s.phase = .idle)
      (hclosed : s.monitor.loaded = false ∨ s.monitor.mapFd < 0) :
      Step std s (.begin call) s [.began call.now s.order, .update {}]
  | begin {s : LiveSampling n} (call) (hphase : s.phase = .idle)
      (hopen : ¬ (s.monitor.loaded = false ∨ s.monitor.mapFd < 0)) :
      Step std s (.begin call)
        { s with phase := .walking call none (startWalk s.monitor) } [.began call.now s.order]
  | next {s : LiveSampling n} (call cursor w k) (hphase : s.phase = .walking call cursor w)
      (hnext : KeyWalk.nextKey s.order cursor = some k) :
      Step std s .next { s with phase := .reading call k w (fun _ => {}) (allFields n) } []
  | nextNone {s : LiveSampling n} (call cursor w) (hphase : s.phase = .walking call cursor w)
      (hnext : KeyWalk.nextKey s.order cursor = none) :
      Step std s .next { s with phase := .collecting call w } []
  | copy {s : LiveSampling n} (call k w buf cpu c left slots)
      (hphase : s.phase = .reading call k w buf ((cpu, c) :: left))
      (hslots : s.kernel.map.lookup k = some slots) :
      Step std s .copy { s with phase := .reading call k w (copyField buf slots cpu c) left } []
  | fail {s : LiveSampling n} (call k w buf left) (hphase : s.phase = .reading call k w buf left) :
      Step std s .fail
        { s with phase := .walking call (some k) (call.visit s.monitor.mapFd w (failed n k)) } []
  | visit {s : LiveSampling n} (call k w buf) (hphase : s.phase = .reading call k w buf []) :
      Step std s .visit
        { s with phase := .walking call (some k) (call.visit s.monitor.mapFd w ⟨k, some buf⟩) } []
  | collect {s : LiveSampling n} (call w procNow)
      (procNetMap : UnorderedMap ℕ (ProcEntry n)) (hphase : s.phase = .collecting call w) :
      Step std s (.collect procNow procNetMap)
        { s with
          monitor := (NetEbpfCaches.collectProcessStats std
            { s.monitor with cache := w.cache, ifnameCache := w.ifnameCache } procNow
              procNetMap).1
          phase := .idle }
        [.update { (NetEbpfCaches.collectProcessStats std
            { s.monitor with cache := w.cache, ifnameCache := w.ifnameCache } procNow
              procNetMap).2 with netSamples := w.samples }]

lemma step_cases (h : (liveSampling std n).step s a = some (s', fs)) : Step std s a s' fs := by
  change s.step std a = _ at h
  cases a with
  | kernel a position =>
    obtain ⟨⟨kernel, ps⟩, hstep, heq⟩ := Option.map_eq_some_iff.mp h
    cases heq
    exact .kernel a position kernel ps hstep
  | begin call =>
    simp only [step] at h
    split at h
    · next hphase =>
      split_ifs at h with hclosed
      · cases h
        exact .beginClosed call hphase hclosed
      · cases h
        exact .begin call hphase hclosed
    · cases h
  | next =>
    simp only [step] at h
    split at h
    · next call cursor w hphase =>
      split at h
      · next k hnext =>
        cases h
        exact .next call cursor w k hphase hnext
      · next hnext =>
        cases h
        exact .nextNone call cursor w hphase hnext
    · cases h
  | copy =>
    simp only [step] at h
    split at h
    · next call k w buf cpu c left hphase =>
      obtain ⟨slots, hslots, heq⟩ := Option.map_eq_some_iff.mp h
      cases heq
      exact .copy call k w buf cpu c left slots hphase hslots
    · cases h
  | fail =>
    simp only [step] at h
    split at h
    · next call k w buf left hphase =>
      cases h
      exact .fail call k w buf left hphase
    · cases h
  | visit =>
    simp only [step] at h
    split at h
    · next call k w buf hphase =>
      cases h
      exact .visit call k w buf hphase
    · cases h
  | collect procNow procNetMap =>
    simp only [step] at h
    split at h
    · next call w hphase =>
      cases h
      exact .collect call w procNow procNetMap hphase
    · cases h

/-- A step of the programs shows the packet they are entered with, any other step shows none. -/
lemma Step.packets (h : Step std s a s' fs) :
    packetsOf fs = arrivals (kernelActions [a]) := by
  cases h with
  | kernel a position kernel ps hkernel =>
    rw [packetsOf_packets, netStatsMap_step_arrival hkernel]
    show _ = [a].filterMap arrival
    cases harrival : arrival a <;> simp [harrival]
  | _ => rfl

/-- **The packets of a run** are those that the programs are entered with and do not ignore. -/
lemma packetsOf_eq_arrivals (hrun : (liveSampling std n).run (start m₀) as = some (s, es)) :
    packetsOf es = arrivals (kernelActions as) := by
  refine (liveSampling std n).run_induction
    (P := fun as _ es => packetsOf es = arrivals (kernelActions as)) rfl ?_ hrun
  intro as s es a s' fs _ ih hstep
  rw [packetsOf_append, ih, (step_cases hstep).packets]
  simp only [arrivals, kernelActions, List.filterMap_append]

/-! ## The order of the map -/

/-- The order holds the keys of the map, which is not overfull. -/
structure Ordered (s : LiveSampling n) : Prop where
  nodup : s.order.Nodup
  mem : ∀ k, k ∈ s.order ↔ k ∈ s.kernel.map
  room : s.kernel.map.entries.length ≤ maxInterfaces

/-- There are no more keys than fit in the map. -/
lemma Ordered.length_le (h : s.Ordered) : s.order.length ≤ maxInterfaces := by
  have hsub : s.order ⊆ s.kernel.map.keys := fun k hk => AList.mem_keys.mp ((h.mem k).mp hk)
  have hkeys : s.kernel.map.keys.length = s.kernel.map.entries.length := List.length_map _
  exact ((h.nodup.subperm hsub).length_le.trans_eq hkeys).trans h.room

/-- The order stays as it is, or a new key comes in. -/
lemma place_cases (order : List UInt32) (m : PerCpuHash n UInt32 NetStats) (position : ℕ) :
    (place order m position = order ∧ ∀ k ∈ m, k ∈ order) ∨
    ∃ k, k ∈ m ∧ k ∉ order ∧ place order m position = KeyWalk.insertAt order position k := by
  unfold place
  cases hfind : m.keys.find? (· ∉ order) with
  | none =>
    refine Or.inl ⟨rfl, fun k hk => ?_⟩
    have hall := List.find?_eq_none.mp hfind k (AList.mem_keys.mp hk)
    simpa using hall
  | some k =>
    refine Or.inr ⟨k, AList.mem_keys.mpr (List.mem_of_find?_eq_some hfind), ?_, rfl⟩
    simpa using List.find?_some hfind

/-- The order goes on holding the keys of the map. -/
lemma Ordered.place {kernel : NetStatsMap n} (h : s.Ordered)
    (hmem : (∀ j, j ∈ kernel.map ↔ j ∈ s.kernel.map) ∨
      ∃ k, k ∉ s.kernel.map ∧ ∀ j, j ∈ kernel.map ↔ j = k ∨ j ∈ s.kernel.map)
    (hroom : kernel.map.entries.length ≤ maxInterfaces) (position : ℕ) :
    ({ s with kernel := kernel,
              order := LiveSampling.place s.order kernel.map position } :
        LiveSampling n).Ordered := by
  rcases place_cases s.order kernel.map position with ⟨hplace, hall⟩ | ⟨k, hk, hnew, hplace⟩
  · refine ⟨by dsimp only; rw [hplace]; exact h.nodup, fun j => ?_, hroom⟩
    dsimp only
    rw [hplace]
    refine ⟨fun hj => ?_, hall j⟩
    rcases hmem with hmem | ⟨i, -, hmem⟩
    · exact (hmem j).mpr ((h.mem j).mp hj)
    · exact (hmem j).mpr (Or.inr ((h.mem j).mp hj))
  · refine ⟨by dsimp only; rw [hplace]; exact KeyWalk.nodup_insertAt h.nodup position hnew,
      fun j => ?_, hroom⟩
    dsimp only
    rw [hplace, KeyWalk.mem_insertAt, h.mem]
    rcases hmem with hmem | ⟨i, -, hmem⟩
    · exact absurd ((h.mem k).mpr ((hmem k).mp hk)) hnew
    · rcases (hmem k).mp hk with rfl | hold
      · exact (hmem j).symm
      · exact absurd ((h.mem k).mpr hold) hnew

/-- A step of the programs creates at most one entry, if there is room. -/
lemma kernel_step {a : NetStatsAction n} {t t' : NetStatsMap n} {ps : List NetPacket}
    (h : (netStatsMap n).step t a = some (t', ps)) :
    ((∀ j, j ∈ t'.map ↔ j ∈ t.map) ∨
      ∃ k, k ∉ t.map ∧ ∀ j, j ∈ t'.map ↔ j = k ∨ j ∈ t.map) ∧
    (t.map.entries.length ≤ maxInterfaces → t'.map.entries.length ≤ maxInterfaces) := by
  rcases NetStats.step_cases h with ⟨rfl, -⟩ | ⟨b, hb, -⟩
  · exact ⟨Or.inl fun _ => Iff.rfl, id⟩
  · exact ⟨PerCpuAccounting.mem_step hb, PerCpuAccounting.length_step hb⟩

/-! ## The calls of a run -/

/-- What the loop has seen. -/
abbrev Seen (n : ℕ) := List (Σ _ : UInt32, Option (Fin n → NetStats))

/-- The variables of the loop after it has visited `seen`. -/
structure Walked (s : LiveSampling n) (call : NetCall) (w : NetEbpfCaches.NetWalk)
    (seen : Seen n) : Prop where
  opened : ¬ (s.monitor.loaded = false ∨ s.monitor.mapFd < 0)
  walk : w = seen.foldl (call.visit s.monitor.mapFd) (startWalk s.monitor)

/-- In the run `as`, the call with `i` calls before it was in the lookup of `k` and copied a counter
of a slot when the map held `v` there. -/
def Copied (std : RateSort) (m₀ : NetEbpfCaches) (as : List (LiveAction n)) (i : ℕ) (k : UInt32)
    (cpu : Fin n) (c : NetField) (v : UInt64) : Prop :=
  ∃ as₁ s₁ es₁ slots, as₁ ++ [.copy] <+: as ∧
    (liveSampling std n).run (start m₀) as₁ = some (s₁, es₁) ∧ (updatesOf es₁).length = i ∧
    (∃ call w buf left, s₁.phase = .reading call k w buf ((cpu, c) :: left)) ∧
    s₁.kernel.map.lookup k = some slots ∧ (slots cpu).get c = v

/-- In the run `as`, the lookup of `k` by the call with `i` calls before it has failed. -/
def LookupFailed (std : RateSort) (m₀ : NetEbpfCaches) (as : List (LiveAction n)) (i : ℕ)
    (k : UInt32) : Prop :=
  ∃ as₁ s₁ es₁, as₁ ++ [.fail] <+: as ∧
    (liveSampling std n).run (start m₀) as₁ = some (s₁, es₁) ∧ (updatesOf es₁).length = i ∧
    ∃ call w buf left, s₁.phase = .reading call k w buf left

/-- What the call with `i` calls before it has seen is what it has copied: every counter at its own
moment. There is nothing of an interface whose lookup has failed, or if the monitor is closed. -/
structure Seen.Genuine (std : RateSort) (m₀ : NetEbpfCaches) (as : List (LiveAction n)) (i : ℕ)
    (seen : Seen n) : Prop where
  copied : ∀ k slots, ⟨k, some slots⟩ ∈ seen → ∀ cpu c,
    Copied std m₀ as i k cpu c ((slots cpu).get c)
  failed : ∀ k, ⟨k, none⟩ ∈ seen →
    (m₀.loaded = false ∨ m₀.mapFd < 0) ∨ LookupFailed std m₀ as i k

/-- The steps of the loop in the last call. -/
def loopSteps (as : List (LiveAction n)) : ℕ :=
  as.foldl (fun steps a =>
    match a with
    | .begin _ => 0
    | .next | .copy | .fail | .visit => steps + 1
    | .kernel _ _ | .collect _ _ => steps) 0

/-- The steps of an iteration: the next key, the counters of all CPUs, and the rest. -/
def iterationSteps (n : ℕ) : ℕ := (allFields n).length + 2

/-- The call in progress, with the keys it has found in the map when it began; `i` calls have ended
before it. -/
inductive Current (std : RateSort) (m₀ : NetEbpfCaches) (as : List (LiveAction n)) (i : ℕ)
    (s : LiveSampling n) : Option (ℚ × List UInt32) → Prop where
  | idle (hphase : s.phase = .idle)
      (hsteps : loopSteps as ≤ maxInterfaces * iterationSteps n + 1) : Current std m₀ as i s none
  | walking (call cursor w keys) (seen : Seen n) (hphase : s.phase = .walking call cursor w)
      (hwalk : s.Walked call w seen) (hgenuine : seen.Genuine std m₀ as i)
      (hkeys : KeyWalk.Progress keys s.order seen.keys cursor)
      (hsteps : loopSteps as ≤ seen.length * iterationSteps n)
      (hshort : seen.length ≤ maxInterfaces) : Current std m₀ as i s (some (call.now, keys))
  | reading (call k w buf left keys) (seen : Seen n)
      (hphase : s.phase = .reading call k w buf left) (hwalk : s.Walked call w seen)
      (hgenuine : seen.Genuine std m₀ as i)
      (hcopied : ∀ cpu c, (cpu, c) ∉ left → Copied std m₀ as i k cpu c ((buf cpu).get c))
      (hnew : k ∉ seen.keys)
      (hkeys : KeyWalk.Progress keys s.order (seen.keys ++ [k]) (some k))
      (hsteps : loopSteps as + left.length + 1 ≤ (seen.length + 1) * iterationSteps n)
      (hshort : seen.length + 1 ≤ maxInterfaces) : Current std m₀ as i s (some (call.now, keys))
  | collecting (call w keys) (seen : Seen n) (hphase : s.phase = .collecting call w)
      (hwalk : s.Walked call w seen) (hgenuine : seen.Genuine std m₀ as i)
      (hnodup : seen.keys.Nodup) (hkeys : ∀ k ∈ keys, k ∈ seen.keys)
      (hsteps : loopSteps as ≤ maxInterfaces * iterationSteps n + 1)
      (hshort : seen.length ≤ maxInterfaces) : Current std m₀ as i s (some (call.now, keys))

/-- The call began when it says, and has seen the keys that were there, but not more than fit in the
map. -/
def SawAll (b : ℚ × List UInt32) (call : NetSampling n) : Prop :=
  call.now = b.1 ∧ (∀ k ∈ b.2, k ∈ call.netStatsMap) ∧
    call.netStatsMap.entries.length ≤ maxInterfaces

/-- What a run has in common with the run of the calls `calls`. -/
structure Refined (std : RateSort) (m₀ : NetEbpfCaches) (as : List (LiveAction n))
    (s : LiveSampling n) (es : List LiveEvent) (calls : List (NetSampling n)) : Prop where
  run : (netEbpfMonitor std n).run m₀ calls = some (s.monitor, updatesOf es)
  ordered : s.Ordered
  begun : ∃ ended current, begunOf es = ended ++ current.toList ∧
    List.Forall₂ SawAll ended calls ∧ s.Current std m₀ as calls.length current
  genuine : ∀ i call, calls[i]? = some call →
    Seen.Genuine std m₀ as i call.netStatsMap.entries
  length_updates : (updatesOf es).length = calls.length
  fds : s.monitor.loaded = m₀.loaded ∧ s.monitor.mapFd = m₀.mapFd

/-! ## Later in the run -/

variable {i : ℕ}

lemma Copied.concat {cpu : Fin n} {c : NetField} {v : UInt64} {k : UInt32}
    (h : Copied std m₀ as i k cpu c v) (a : LiveAction n) :
    Copied std m₀ (as ++ [a]) i k cpu c v := by
  obtain ⟨as₁, s₁, es₁, slots, hprefix, hrest⟩ := h
  exact ⟨as₁, s₁, es₁, slots, hprefix.trans (List.prefix_append as [a]), hrest⟩

lemma LookupFailed.concat {k : UInt32} (h : LookupFailed std m₀ as i k) (a : LiveAction n) :
    LookupFailed std m₀ (as ++ [a]) i k := by
  obtain ⟨as₁, s₁, es₁, hprefix, hrest⟩ := h
  exact ⟨as₁, s₁, es₁, hprefix.trans (List.prefix_append as [a]), hrest⟩

lemma Seen.Genuine.concat {seen : Seen n} (h : seen.Genuine std m₀ as i) (a : LiveAction n) :
    seen.Genuine std m₀ (as ++ [a]) i where
  copied k slots hmem cpu c := (h.copied k slots hmem cpu c).concat a
  failed k hmem := (h.failed k hmem).imp id fun hfailed => hfailed.concat a

/-- One more lookup has failed. -/
lemma Seen.Genuine.snoc_failed {seen : Seen n} {k : UInt32} (h : seen.Genuine std m₀ as i)
    (hfailed : LookupFailed std m₀ as i k) :
    Seen.Genuine std m₀ as i (seen ++ [LiveSampling.failed n k]) := by
  constructor
  · intro j slots hmem
    rcases List.mem_append.mp hmem with hmem | hmem
    · exact h.copied j slots hmem
    · cases List.mem_singleton.mp hmem
  · intro j hmem
    rcases List.mem_append.mp hmem with hmem | hmem
    · exact h.failed j hmem
    · cases List.mem_singleton.mp hmem
      exact Or.inr hfailed

/-- One more interface has been copied. -/
lemma Seen.Genuine.snoc_copied {seen : Seen n} {k : UInt32} {buf : Fin n → NetStats}
    (h : seen.Genuine std m₀ as i)
    (hcopied : ∀ cpu c, Copied std m₀ as i k cpu c ((buf cpu).get c)) :
    Seen.Genuine std m₀ as i (seen ++ [⟨k, some buf⟩]) := by
  constructor
  · intro j slots hmem
    rcases List.mem_append.mp hmem with hmem | hmem
    · exact h.copied j slots hmem
    · cases List.mem_singleton.mp hmem
      exact hcopied
  · intro j hmem
    rcases List.mem_append.mp hmem with hmem | hmem
    · exact h.failed j hmem
    · cases List.mem_singleton.mp hmem

lemma get_copyField (buf slots : Fin n → NetStats) (cpu cpu' : Fin n) (c c' : NetField) :
    ((copyField buf slots cpu c) cpu').get c' =
      if (cpu', c') = (cpu, c) then (slots cpu).get c else (buf cpu').get c' := by
  unfold copyField
  by_cases hcpu : cpu' = cpu
  · subst hcpu
    rw [Function.update_self]
    by_cases hc : c' = c
    · subst hc
      rw [if_pos rfl, NetStats.get_set_self]
    · rw [if_neg fun heq => hc (congrArg Prod.snd heq), NetStats.get_set_of_ne _ _ hc]
  · rw [Function.update_of_ne hcpu, if_neg fun heq => hcpu (congrArg Prod.fst heq)]

lemma loopSteps_concat (as : List (LiveAction n)) (a : LiveAction n) :
    loopSteps (as ++ [a]) =
      match a with
      | .begin _ => 0
      | .next | .copy | .fail | .visit => loopSteps as + 1
      | .kernel _ _ | .collect _ _ => loopSteps as := by
  unfold loopSteps
  rw [List.foldl_append]
  cases a <;> rfl

/-- A step of the programs leaves the call in progress as it is. -/
lemma Current.place {kernel : NetStatsMap n} {current : Option (ℚ × List UInt32)}
    (h : s.Current std m₀ as i current) (a : NetStatsAction n) (position : ℕ) :
    ({ s with kernel := kernel,
              order := LiveSampling.place s.order kernel.map position } :
        LiveSampling n).Current std m₀ (as ++ [.kernel a position]) i current := by
  have hplace : ∀ {keys visited cursor}, KeyWalk.Progress keys s.order visited cursor →
      KeyWalk.Progress keys (LiveSampling.place s.order kernel.map position) visited cursor := by
    intro keys visited cursor hkeys
    rcases place_cases s.order kernel.map position with ⟨hsame, -⟩ | ⟨k, -, hnew, hinsert⟩
    · rwa [hsame]
    · rw [hinsert]
      exact hkeys.insertAt position hnew
  have hsame : loopSteps (as ++ [.kernel a position]) = loopSteps as := loopSteps_concat as _
  cases h with
  | idle hphase hsteps => exact .idle hphase (hsame.trans_le hsteps)
  | walking call cursor w keys seen hphase hwalk hgenuine hkeys hsteps hshort =>
    exact .walking call cursor w keys seen hphase ⟨hwalk.opened, hwalk.walk⟩ (hgenuine.concat _)
      (hplace hkeys) (hsame.trans_le hsteps) hshort
  | reading call k w buf left keys seen hphase hwalk hgenuine hcopied hnew hkeys hsteps hshort =>
    exact .reading call k w buf left keys seen hphase ⟨hwalk.opened, hwalk.walk⟩
      (hgenuine.concat _) (fun cpu c hleft => (hcopied cpu c hleft).concat _) hnew (hplace hkeys)
      (hsame ▸ hsteps) hshort
  | collecting call w keys seen hphase hwalk hgenuine hnodup hkeys hsteps hshort =>
    exact .collecting call w keys seen hphase ⟨hwalk.opened, hwalk.walk⟩ (hgenuine.concat _)
      hnodup hkeys (hsame.trans_le hsteps) hshort

/-- A call that is closed does nothing. -/
lemma updateOnce_closed {m : NetEbpfCaches} (h : m.loaded = false ∨ m.mapFd < 0)
    (call : NetSampling n) : m.updateOnce std call = (m, {}) := if_pos h

/-- A call whose loop has visited what the map of `call` holds. -/
lemma updateOnce_walked {call : NetCall} {w : NetEbpfCaches.NetWalk} {seen : Seen n}
    (h : s.Walked call w seen) (hnodup : seen.keys.Nodup) (procNow : ℚ)
    (procNetMap : UnorderedMap ℕ (ProcEntry n)) :
    s.monitor.updateOnce std (call.sampling ⟨seen, hnodup⟩ procNow procNetMap) =
      ((NetEbpfCaches.collectProcessStats std
          { s.monitor with cache := w.cache, ifnameCache := w.ifnameCache } procNow procNetMap).1,
        { (NetEbpfCaches.collectProcessStats std
            { s.monitor with cache := w.cache, ifnameCache := w.ifnameCache } procNow
              procNetMap).2 with netSamples := w.samples }) := by
  have hwalk : s.monitor.walkInterfaces (call.sampling ⟨seen, hnodup⟩ procNow procNetMap) = w :=
    h.walk.symm
  unfold NetEbpfCaches.updateOnce
  rw [if_neg h.opened, hwalk]
  rfl

/-- One more call. -/
lemma run_concat {calls : List (NetSampling n)} {m : NetEbpfCaches} {us : List NetUpdate}
    (hrun : (netEbpfMonitor std n).run m₀ calls = some (m, us)) (call : NetSampling n) :
    (netEbpfMonitor std n).run m₀ (calls ++ [call]) =
      some ((m.updateOnce std call).1, us ++ [(m.updateOnce std call).2]) :=
  (netEbpfMonitor std n).run_append hrun ((netEbpfMonitor std n).run_singleton m call)

/-- What is genuine of the calls so far and of one more is genuine of all. -/
lemma genuine_concat {calls : List (NetSampling n)} {call : NetSampling n}
    (h : ∀ i call, calls[i]? = some call → Seen.Genuine std m₀ as i call.netStatsMap.entries)
    (hcall : Seen.Genuine std m₀ as calls.length call.netStatsMap.entries) (a : LiveAction n) :
    ∀ i c, (calls ++ [call])[i]? = some c →
      Seen.Genuine std m₀ (as ++ [a]) i c.netStatsMap.entries := by
  intro i c hc
  rw [List.getElem?_append] at hc
  split_ifs at hc with hlt
  · exact (h i c hc).concat a
  · obtain ⟨hle, rfl⟩ : i ≤ calls.length ∧ call = c := by
      rw [List.getElem?_singleton] at hc
      split_ifs at hc with hzero
      · exact ⟨by omega, Option.some.inj hc⟩
    obtain rfl : i = calls.length := by omega
    exact hcall.concat a

/-- Every step goes on with the calls, or ends one. -/
lemma Refined.step {calls : List (NetSampling n)} (h : Refined std m₀ as s es calls)
    (hstep : Step std s a s' fs) (hrun₀ : (liveSampling std n).run (start m₀) as = some (s, es)) :
    ∃ calls', Refined std m₀ (as ++ [a]) s' (es ++ fs) calls' := by
  obtain ⟨hrun, hordered, ⟨ended, current, hbegun, hended, hcurrent⟩, hgenuine, hlength, hfds⟩ := h
  have hquiet : ∀ {t : LiveSampling n} {current' : Option (ℚ × List UInt32)},
      t.monitor = s.monitor → t.Ordered → current'.toList = current.toList →
      t.Current std m₀ (as ++ [a]) calls.length current' →
      Refined std m₀ (as ++ [a]) t (es ++ []) calls := by
    intro t current' hmonitor hordered' hsame ht
    rw [List.append_nil]
    exact ⟨hmonitor ▸ hrun, hordered', ⟨ended, current', by rw [hbegun, hsame], hended, ht⟩,
      fun i call hcall => (hgenuine i call hcall).concat a, hlength, hmonitor ▸ hfds⟩
  have hsteps := loopSteps_concat as a
  cases hstep with
  | kernel a position kernel ps hkernel =>
    refine ⟨calls, ?_, hordered.place (kernel_step hkernel).1
      ((kernel_step hkernel).2 hordered.room) position, ⟨ended, current, ?_,
      hended, hcurrent.place a position⟩, fun i call hcall => (hgenuine i call hcall).concat _, ?_,
      hfds⟩
    · rw [updatesOf_append, updatesOf_packets, List.append_nil]
      exact hrun
    · rw [begunOf_append, begunOf_packets, List.append_nil]
      exact hbegun
    · rw [updatesOf_append, updatesOf_packets, List.append_nil]
      exact hlength
  | beginClosed call hphase hclosed =>
    obtain rfl : current = none := by
      cases hcurrent with
      | idle _ _ => rfl
      | walking _ _ _ _ _ h | reading _ _ _ _ _ _ _ h | collecting _ _ _ _ h =>
        rw [hphase] at h
        cases h
    -- no lookup is made
    have hnodup : (s.order.map fun k => failed n k).keys.Nodup := by
      have hkeys : (s.order.map fun k => failed n k).keys = s.order := by
        rw [List.keys, List.map_map]
        exact List.map_id _
      rw [hkeys]
      exact hordered.nodup
    have hconcat := run_concat hrun (call.sampling ⟨_, hnodup⟩ 0 ∅)
    rw [updateOnce_closed hclosed] at hconcat
    have hnone : Seen.Genuine std m₀ as calls.length (s.order.map fun k => failed n k) := by
      constructor
      · intro k slots hmem
        obtain ⟨j, -, hj⟩ := List.mem_map.mp hmem
        cases hj
      · intro k _
        rw [← hfds.1, ← hfds.2]
        exact Or.inl hclosed
    refine ⟨calls ++ [call.sampling ⟨_, hnodup⟩ 0 ∅], ?_, hordered,
      ⟨ended ++ [(call.now, s.order)], none, ?_, ?_,
        .idle hphase (hsteps.trans_le (Nat.zero_le _))⟩, ?_, ?_, hfds⟩
    · rw [updatesOf_append]
      exact hconcat
    · rw [begunOf_append, hbegun, Option.toList_none, List.append_nil, List.append_nil]
      rfl
    · refine List.rel_append hended (.cons ⟨rfl, fun k hk => ?_, ?_⟩ .nil)
      · exact List.mem_map.mpr ⟨failed n k, List.mem_map_of_mem hk, rfl⟩
      · exact (List.length_map _).trans_le hordered.length_le
    · exact genuine_concat hgenuine hnone _
    · rw [updatesOf_append, List.length_append, List.length_append, hlength]
      rfl
  | begin call hphase hopen =>
    obtain rfl : current = none := by
      cases hcurrent with
      | idle _ _ => rfl
      | walking _ _ _ _ _ h | reading _ _ _ _ _ _ _ h | collecting _ _ _ _ h =>
        rw [hphase] at h
        cases h
    have hgenuine₀ : Seen.Genuine std m₀ (as ++ [.begin call]) calls.length ([] : Seen n) :=
      ⟨fun _ _ hmem => absurd hmem List.not_mem_nil, fun _ hmem => absurd hmem List.not_mem_nil⟩
    refine ⟨calls, ?_, ⟨hordered.nodup, hordered.mem, hordered.room⟩, ⟨ended,
      some (call.now, s.order), ?_, hended,
      .walking call none _ s.order [] rfl ⟨hopen, rfl⟩ hgenuine₀ (.init hordered.nodup)
        (hsteps.trans_le (Nat.zero_le _)) (Nat.zero_le _)⟩,
      fun i call hcall => (hgenuine i call hcall).concat _, ?_, hfds⟩
    · rw [updatesOf_append]
      exact (List.append_nil (updatesOf es)).symm ▸ hrun
    · rw [begunOf_append, hbegun, Option.toList_none, List.append_nil]
      rfl
    · rw [updatesOf_append]
      exact (List.append_nil (updatesOf es)).symm ▸ hlength
  | next call cursor w k hphase hnext =>
    cases hcurrent with
    | walking call' cursor' w' keys seen hphase' hwalk hseen hkeys hsteps' hshort =>
      rw [hphase] at hphase'
      cases hphase'
      obtain ⟨-, hnew, hkeys'⟩ := hkeys.next hnext
      have hroom : seen.length + 1 ≤ maxInterfaces := by
        have hlen := hkeys'.length_le.trans hordered.length_le
        rw [List.length_append, List.length_singleton, List.keys, List.length_map] at hlen
        exact hlen
      have hbound : loopSteps (as ++ [.next]) + (allFields n).length + 1 ≤
          (seen.length + 1) * iterationSteps n := by
        have hone : loopSteps (as ++ [.next]) = loopSteps as + 1 := hsteps
        rw [Nat.add_mul, Nat.one_mul]
        unfold iterationSteps at hsteps' ⊢
        omega
      exact ⟨calls, hquiet rfl ⟨hordered.nodup, hordered.mem, hordered.room⟩ rfl
        (.reading call k w _ _ keys seen rfl ⟨hwalk.opened, hwalk.walk⟩ (hseen.concat _)
          (fun cpu c hleft => absurd (mem_allFields cpu c) hleft) hnew hkeys' hbound hroom)⟩
    | idle h | reading _ _ _ _ _ _ _ h | collecting _ _ _ _ h =>
      rw [hphase] at h
      cases h
  | nextNone call cursor w hphase hnext =>
    cases hcurrent with
    | walking call' cursor' w' keys seen hphase' hwalk hseen hkeys hsteps' hshort =>
      rw [hphase] at hphase'
      cases hphase'
      have hbound : loopSteps (as ++ [.next]) ≤ maxInterfaces * iterationSteps n + 1 := by
        rw [hsteps]
        exact Nat.succ_le_succ (hsteps'.trans (Nat.mul_le_mul_right _ hshort))
      exact ⟨calls, hquiet rfl ⟨hordered.nodup, hordered.mem, hordered.room⟩ rfl
        (.collecting call w keys seen rfl ⟨hwalk.opened, hwalk.walk⟩ (hseen.concat _)
          hkeys.visited_nodup.1 (fun k hk => hkeys.complete hnext hk) hbound hshort)⟩
    | idle h | reading _ _ _ _ _ _ _ h | collecting _ _ _ _ h =>
      rw [hphase] at h
      cases h
  | copy call k w buf cpu c left slots hphase hslots =>
    cases hcurrent with
    | reading call' k' w' buf' left' keys seen hphase' hwalk hseen hcopied hnew hkeys hsteps'
        hshort =>
      rw [hphase] at hphase'
      cases hphase'
      have hthis : Copied std m₀ (as ++ [.copy]) calls.length k cpu c ((slots cpu).get c) :=
        ⟨as, s, es, slots, List.prefix_refl _, hrun₀, hlength, ⟨call, w, buf, left, hphase⟩, hslots,
          rfl⟩
      refine ⟨calls, hquiet rfl ⟨hordered.nodup, hordered.mem, hordered.room⟩ rfl
        (.reading call k w _ _ keys seen rfl ⟨hwalk.opened, hwalk.walk⟩ (hseen.concat _) ?_ hnew
          hkeys ?_ hshort)⟩
      · intro cpu' c' hleft
        rw [get_copyField]
        split_ifs with hsame
        · obtain ⟨rfl, rfl⟩ := Prod.mk.inj hsame
          exact hthis
        · refine (hcopied cpu' c' fun hmem => ?_).concat _
          rcases List.mem_cons.mp hmem with heq | hmem
          · exact hsame heq
          · exact hleft hmem
      · have hone : loopSteps (as ++ [.copy]) = loopSteps as + 1 := hsteps
        rw [List.length_cons] at hsteps'
        omega
    | idle h | walking _ _ _ _ _ h | collecting _ _ _ _ h =>
      rw [hphase] at h
      cases h
  | fail call k w buf left hphase =>
    cases hcurrent with
    | reading call' k' w' buf' left' keys seen hphase' hwalk hseen hcopied hnew hkeys hsteps'
        hshort =>
      rw [hphase] at hphase'
      cases hphase'
      have hthis : LookupFailed std m₀ (as ++ [.fail]) calls.length k :=
        ⟨as, s, es, List.prefix_refl _, hrun₀, hlength, call, w, buf, left, hphase⟩
      refine ⟨calls, hquiet rfl ⟨hordered.nodup, hordered.mem, hordered.room⟩ rfl
        (.walking call (some k) _ keys (seen ++ [failed n k]) rfl ⟨hwalk.opened, ?_⟩
          ((hseen.concat _).snoc_failed hthis) ?_ ?_ ?_)⟩
      · rw [List.foldl_append, ← hwalk.walk]
        rfl
      · rw [List.keys_append]
        exact hkeys
      · have hone : loopSteps (as ++ [.fail]) = loopSteps as + 1 := hsteps
        rw [List.length_append, List.length_singleton]
        omega
      · rw [List.length_append, List.length_singleton]
        exact hshort
    | idle h | walking _ _ _ _ _ h | collecting _ _ _ _ h =>
      rw [hphase] at h
      cases h
  | visit call k w buf hphase =>
    cases hcurrent with
    | reading call' k' w' buf' left' keys seen hphase' hwalk hseen hcopied hnew hkeys hsteps'
        hshort =>
      rw [hphase] at hphase'
      cases hphase'
      refine ⟨calls, hquiet rfl ⟨hordered.nodup, hordered.mem, hordered.room⟩ rfl
        (.walking call (some k) _ keys (seen ++ [⟨k, some buf⟩]) rfl ⟨hwalk.opened, ?_⟩
          ((hseen.concat _).snoc_copied fun cpu c =>
            (hcopied cpu c List.not_mem_nil).concat _) ?_ ?_ ?_)⟩
      · rw [List.foldl_append, ← hwalk.walk]
        rfl
      · rw [List.keys_append]
        exact hkeys
      · have hone : loopSteps (as ++ [.visit]) = loopSteps as + 1 := hsteps
        rw [List.length_nil] at hsteps'
        rw [List.length_append, List.length_singleton]
        omega
      · rw [List.length_append, List.length_singleton]
        exact hshort
    | idle h | walking _ _ _ _ _ h | collecting _ _ _ _ h =>
      rw [hphase] at h
      cases h
  | collect call w procNow procNetMap hphase =>
    cases hcurrent with
    | collecting call' w' keys seen hphase' hwalk hseen hnodup hkeys hsteps' hshort =>
      rw [hphase] at hphase'
      cases hphase'
      have hconcat := run_concat hrun (call.sampling ⟨seen, hnodup⟩ procNow procNetMap)
      rw [updateOnce_walked hwalk hnodup] at hconcat
      obtain ⟨hloaded, hfd, -⟩ := NetEbpfCaches.collectProcessStats_fds std
        { s.monitor with cache := w.cache, ifnameCache := w.ifnameCache } procNow procNetMap
      refine ⟨calls ++ [call.sampling ⟨seen, hnodup⟩ procNow procNetMap], ?_,
        ⟨hordered.nodup, hordered.mem, hordered.room⟩, ⟨ended ++ [(call.now, keys)], none, ?_, ?_,
        .idle rfl (hsteps.trans_le hsteps')⟩, genuine_concat hgenuine hseen _, ?_,
        ⟨hloaded.trans hfds.1, hfd.trans hfds.2⟩⟩
      · rw [updatesOf_append]
        exact hconcat
      · rw [begunOf_append, hbegun]
        rfl
      · exact List.rel_append hended (.cons ⟨rfl, hkeys, hshort⟩ .nil)
      · rw [updatesOf_append, List.length_append, List.length_append, hlength]
        rfl
    | idle h | walking _ _ _ _ _ h | reading _ _ _ _ _ _ _ h =>
      rw [hphase] at h
      cases h

/-- The calls of a run, on the maps that they have seen. -/
lemma exists_calls (hrun : (liveSampling std n).run (start m₀) as = some (s, es)) :
    ∃ calls, Refined std m₀ as s es calls := by
  refine (liveSampling std n).run_induction
    (P := fun as s es => ∃ calls, Refined std m₀ as s es calls) ?_ ?_ hrun
  · have hordered : (start m₀ : LiveSampling n).Ordered :=
      ⟨List.nodup_nil, fun k => iff_of_false List.not_mem_nil (AList.notMem_empty k),
        Nat.zero_le _⟩
    have hnone : ∀ i (call : NetSampling n), ([] : List (NetSampling n))[i]? = some call →
        Seen.Genuine std m₀ [] i call.netStatsMap.entries := fun i call hcall => by cases hcall
    exact ⟨[], rfl, hordered, ⟨[], none, rfl, .nil, .idle rfl (Nat.zero_le _)⟩, hnone, rfl, rfl,
      rfl⟩
  · rintro as s es a s' fs hrun ⟨calls, h⟩ hstep
    exact h.step (step_cases hstep) hrun

/-- The loop of a call takes a bounded number of steps, whatever is created meanwhile. -/
lemma Current.loopSteps_le {current : Option (ℚ × List UInt32)}
    (h : s.Current std m₀ as i current) :
    loopSteps as ≤ maxInterfaces * iterationSteps n + 1 := by
  cases h with
  | idle _ hsteps | collecting _ _ _ _ _ _ _ _ _ hsteps _ => exact hsteps
  | walking _ _ _ _ seen _ _ _ _ hsteps hshort =>
    exact (hsteps.trans (Nat.mul_le_mul_right _ hshort)).trans (Nat.le_succ _)
  | reading _ _ _ _ left _ seen _ _ _ _ _ _ hsteps hshort =>
    have hmul := Nat.mul_le_mul_right (iterationSteps n) hshort
    omega

/-- A step of the thread that runs the call. -/
def IsCallStep (a : LiveAction n) : Prop :=
  a = .next ∨ a = .copy ∨ a = .fail ∨ a = .visit ∨
    ∃ procNow procNetMap, a = .collect procNow procNetMap

/-- A call in progress can go on. -/
lemma exists_step (hphase : s.phase ≠ .idle) :
    ∃ a, IsCallStep a ∧ ((liveSampling std n).step s a).isSome = true := by
  show ∃ a, IsCallStep a ∧ (s.step std a).isSome = true
  cases h : s.phase with
  | idle => exact absurd h hphase
  | walking call cursor w =>
    refine ⟨.next, Or.inl rfl, ?_⟩
    cases hnext : KeyWalk.nextKey s.order cursor <;> simp [LiveSampling.step, h, hnext]
  | reading call k w buf left =>
    exact ⟨.fail, Or.inr (Or.inr (Or.inl rfl)), by simp [LiveSampling.step, h]⟩
  | collecting call w =>
    refine ⟨.collect 0 ∅, Or.inr (Or.inr (Or.inr (Or.inr ⟨0, ∅, rfl⟩))), ?_⟩
    simp [LiveSampling.step, h]

/-- **A run with packets in between is a run of the calls** on the maps that they have seen. The
calls that have ended are those that began, in order and at their times; each has seen every
interface that was in the map when it began, each once, and at most 64. Every counter that it has
seen is what the map held at the moment of the call when it was copied, and it has missed only
interfaces whose lookup has failed. The loop of a call takes at most 64 times the steps of an
iteration and one more, and while the call is in progress it can go on, so that it ends.

**Proof sketch.** By induction on the run. The walk over the keys makes progress
(`KeyWalk.Progress`) whatever entries are created meanwhile, so it comes to every key once and to
all that were there, and there are no more keys than fit in the map; what it has seen is thus a map,
and the loop has done with it what `NetEbpfCaches.walkInterfaces` does. -/
theorem run_refined (hrun : (liveSampling std n).run (start m₀) as = some (s, es)) :
    (∃ calls, (netEbpfMonitor std n).run m₀ calls = some (s.monitor, updatesOf es) ∧
      (∃ ended current, begunOf es = ended ++ current.toList ∧
        List.Forall₂ SawAll ended calls ∧ s.Current std m₀ as calls.length current) ∧
      ∀ i call, calls[i]? = some call →
        Seen.Genuine std m₀ as i call.netStatsMap.entries) ∧
      loopSteps as ≤ maxInterfaces * iterationSteps n + 1 ∧
      (s.phase ≠ .idle →
        ∃ a, IsCallStep a ∧ ((liveSampling std n).step s a).isSome = true) := by
  obtain ⟨calls, hrefined⟩ := exists_calls hrun
  obtain ⟨ended, current, hbegun, hended, hcurrent⟩ := hrefined.begun
  exact ⟨⟨calls, hrefined.run, ⟨ended, current, hbegun, hended, hcurrent⟩, hrefined.genuine⟩,
    hcurrent.loopSteps_le, exists_step⟩

/-! ## A packet in the middle of a lookup -/

/-- A call that meets one physical interface. -/
def oneInterface (now : ℚ) : NetCall := ⟨now, fun _ => "eth0", fun _ => true⟩

/-- The only CPU. -/
def onlyCpu : Fin 1 := ⟨0, Nat.one_pos⟩

/-- A first packet, a call, and a second call in the middle of whose lookup a second packet comes:
its bytes are added before, its number after the counter is copied. -/
def splitPacket : List (LiveAction 1) :=
  [.kernel (.tcIngress onlyCpu ⟨7, 100⟩) 0, .kernel (.advance onlyCpu) 0,
      .kernel (.advance onlyCpu) 0] ++
    [.begin (oneInterface 0), .next, .copy, .copy, .copy, .copy, .visit, .next, .collect 0 ∅] ++
    [.kernel (.tcIngress onlyCpu ⟨7, 50⟩) 0, .begin (oneInterface 2), .next,
      .kernel (.advance onlyCpu) 0, .kernel (.advance onlyCpu) 0, .copy, .copy,
      .kernel (.advance onlyCpu) 0, .copy, .copy, .visit, .next, .collect 2 ∅]

/-- The two calls of the run are calls on what they have seen; the second one has copied the bytes
of both packets, and counted one. -/
theorem run_refined_split_packet : ∃ s es calls,
    (liveSampling .stable 1).run (start {}) splitPacket = some (s, es) ∧
    (begunOf es).map Prod.fst = [0, 2] ∧
    s.monitor.cache.lookup 7 = some ⟨⟨150, 1, 0, 0⟩, 2⟩ ∧
    (netEbpfMonitor .stable 1).run {} calls = some (s.monitor, updatesOf es) ∧
    (∃ ended current, begunOf es = ended ++ current.toList ∧
      List.Forall₂ SawAll ended calls ∧ s.Current .stable {} splitPacket calls.length current) ∧
    (∀ i call, calls[i]? = some call →
      Seen.Genuine .stable {} splitPacket i call.netStatsMap.entries) ∧
    loopSteps splitPacket = 7 := by
  have hend : ((liveSampling .stable 1).run (start {}) splitPacket).map
      (fun p => ((begunOf p.2).map Prod.fst, p.1.monitor.cache.lookup 7)) =
        some ([0, 2], some ⟨⟨150, 1, 0, 0⟩, 2⟩) := by
    decide +kernel
  obtain ⟨⟨s, es⟩, hrun, hvalues⟩ := Option.map_eq_some_iff.mp hend
  obtain ⟨hbegun, hcache⟩ : (begunOf es).map Prod.fst = _ ∧ s.monitor.cache.lookup 7 = _ := by
    simpa only [Prod.mk.injEq] using hvalues
  obtain ⟨⟨calls, hcalls, hseen, hgenuine⟩, -, -⟩ := run_refined hrun
  exact ⟨s, es, calls, hrun, hbegun, hcache, hcalls, hseen, hgenuine, rfl⟩

end LiveSampling

end Monitor
