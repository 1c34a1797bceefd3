import Mathlib.Tactic.FieldSimp
import Mathlib.Tactic.Positivity
import PerfMonitor.Worker.ProcStats

set_option relaxedAutoImplicit false
set_option autoImplicit false

/-!
# Which process has moved the bytes

The name in an entry of the kernel map is that of the process that created it, and the entry stays
until a pass of `CollectProcessStats` finds no process with its `tgid`. If a process ends and
another one takes its `tgid` between two passes, the bytes of the second are added to the entry of
the first. The counters go on growing, so the monitor does not notice, and reports them under the
first one's name.

## Main definitions

* `Monitor.ProcReport.Attributed` — a report counts no more than processes of its name have moved.
* `Monitor.ProcStats.TransfersToOwnName` — a process transfers bytes only while the entry of its
  `tgid` carries its own name.

## Main results

* `Monitor.ProcStats.counterDelta_le` — the growth of a counter is no more than what was added.
* `Monitor.ProcStats.attributed_of_own_names` — runs in which all reports are attributed rightly.
-/

namespace Monitor

/-- The bytes that a rate stands for are bytes that processes with its `tgid` and name have moved
between its two readings. -/
structure MeasuredRate.Attributed (r : MeasuredRate) : Prop where
  sent : r.rate.sndRate * 1024 * r.elapsed ≤ r.moved.sent
  received : r.rate.rcvRate * 1024 * r.elapsed ≤ r.moved.received

/-- The same for a reported rate. -/
structure ProcReport.Attributed (r : ProcReport) : Prop where
  sent : r.info.sendRate * 1024 * r.elapsed ≤ r.moved.sent
  received : r.info.rcvRate * 1024 * r.elapsed ≤ r.moved.received

namespace ProcStats

variable {n : ℕ}

/-! ## Merging the slots -/

lemma foldl_add_right (f : Fin n → UInt64) (l : List (Fin n)) (x d : UInt64) :
    l.foldl (fun sum cpu => sum + f cpu) (x + d) =
      l.foldl (fun sum cpu => sum + f cpu) x + d := by
  induction l generalizing x with
  | nil => rfl
  | cons c l ih =>
    have hswap : x + d + f c = x + f c + d := by
      rw [UInt64.add_assoc, UInt64.add_comm d, ← UInt64.add_assoc]
    rw [List.foldl_cons, List.foldl_cons, hswap, ih]

/-- Adding to one slot adds to the merged counter. -/
lemma mergeBytes_update (f : Fin n → UInt64) (cpu : Fin n) (d : UInt64) :
    mergeBytes (Function.update f cpu (f cpu + d)) = mergeBytes f + d := by
  have hlist : ∀ (l : List (Fin n)) (x : UInt64), l.Nodup → cpu ∈ l →
      l.foldl (fun sum c => sum + Function.update f cpu (f cpu + d) c) x =
        l.foldl (fun sum c => sum + f c) x + d := by
    intro l
    induction l with
    | nil => exact fun _ _ hcpu => absurd hcpu List.not_mem_nil
    | cons c l ih =>
      intro x hnodup hcpu
      obtain ⟨hc, hl⟩ := List.nodup_cons.mp hnodup
      rw [List.foldl_cons, List.foldl_cons]
      by_cases hsame : c = cpu
      · subst hsame
        have hrest : ∀ (y : UInt64), ∀ c' ∈ l,
            y + Function.update f c (f c + d) c' = y + f c' := by
          intro y c' hc'
          rw [Function.update_of_ne]
          rintro rfl
          exact hc hc'
        rw [Function.update_self, List.foldl_ext _ _ _ hrest, ← UInt64.add_assoc, foldl_add_right]
      · rw [Function.update_of_ne hsame]
        exact ih _ hl ((List.mem_cons.mp hcpu).resolve_left (Ne.symm hsame))
  exact hlist _ _ (List.nodup_finRange n) (List.mem_finRange cpu)

/-- The merged name depends on the names only. -/
lemma mergeName_congr {slots slots' : Fin n → ProcNetStats}
    (h : ∀ cpu, (slots' cpu).comm = (slots cpu).comm) : mergeName slots' = mergeName slots := by
  unfold mergeName
  congr 1
  funext name cpu
  rw [h]

/-- A name that only one slot carries is found. -/
lemma mergeName_single {slots : Fin n → ProcNetStats} {cpu : Fin n}
    (h : ∀ c ≠ cpu, (slots c).comm = "") : mergeName slots = (slots cpu).comm := by
  have hlist : ∀ (l : List (Fin n)) (name : String), name = "" ∧ cpu ∈ l ∨ name = (slots cpu).comm →
      l.foldl (fun name c => if name = "" ∧ (slots c).comm ≠ "" then (slots c).comm else name) name =
        (slots cpu).comm := by
    intro l
    induction l with
    | nil => exact fun name hname => hname.resolve_left fun hnil => List.not_mem_nil hnil.2
    | cons c l ih =>
      intro name hname
      rw [List.foldl_cons]
      refine ih _ ?_
      by_cases hc : c = cpu
      · subst hc
        refine Or.inr ?_
        split_ifs with htake
        · rfl
        · rcases hname with ⟨rfl, -⟩ | rfl
          · exact (not_not.mp fun hne => htake ⟨rfl, hne⟩).symm
          · rfl
      · rw [if_neg fun htake => htake.2 (h c hc)]
        exact hname.imp_left fun ⟨hempty, hmem⟩ =>
          ⟨hempty, (List.mem_cons.mp hmem).resolve_left (Ne.symm hc)⟩
  exact hlist _ _ (Or.inl ⟨rfl, List.mem_finRange cpu⟩)

/-! ## Growing counters -/

/-- From one reading to the next the counters have grown by what processes called `name` have
moved. -/
structure Grown (name : String) (r r' : ProcReading) : Prop where
  sent : ∃ d, (r'.moved name).sent = (r.moved name).sent + d ∧
    r'.sndBytes = r.sndBytes + UInt64.ofNat d
  received : ∃ d, (r'.moved name).received = (r.moved name).received + d ∧
    r'.rcvBytes = r.rcvBytes + UInt64.ofNat d

lemma Grown.refl (name : String) (r : ProcReading) : Grown name r r :=
  ⟨⟨0, rfl, (UInt64.add_zero _).symm⟩, ⟨0, rfl, (UInt64.add_zero _).symm⟩⟩

lemma Grown.trans {name : String} {r r' r'' : ProcReading} (h : Grown name r r')
    (h' : Grown name r' r'') : Grown name r r'' := by
  obtain ⟨⟨d, hd, hd'⟩, ⟨e, he, he'⟩⟩ := h
  obtain ⟨⟨d₁, hd₁, hd₁'⟩, ⟨e₁, he₁, he₁'⟩⟩ := h'
  refine ⟨⟨d + d₁, ?_, ?_⟩, ⟨e + e₁, ?_, ?_⟩⟩
  · rw [hd₁, hd, Nat.add_assoc]
  · rw [hd₁', hd', UInt64.ofNat_add, UInt64.add_assoc]
  · rw [he₁, he, Nat.add_assoc]
  · rw [he₁', he', UInt64.ofNat_add, UInt64.add_assoc]

/-- **The growth of a counter is no more than what was added to it**, even if it has wrapped
around. -/
lemma counterDelta_le {now last : UInt64} {d : ℕ} (h : now = last + UInt64.ofNat d) :
    (counterDelta now last).toNat ≤ d := by
  have hnow : now.toNat = (last.toNat + d % 2 ^ 64) % 2 ^ 64 := by
    rw [h, UInt64.toNat_add, UInt64.toNat_ofNat']
  have hlast := last.toNat_lt
  unfold counterDelta
  split_ifs with hge
  · have hle : last.toNat ≤ now.toNat := UInt64.le_iff_toNat_le.mp hge
    rw [UInt64.toNat_sub_of_le _ _ hge]
    omega
  · have hlt : now.toNat < last.toNat := by
      rw [← not_le]
      exact fun hle => hge (UInt64.le_iff_toNat_le.mpr hle)
    omega

/-- The rate between two such readings is attributed rightly. -/
lemma measureRate_attributed {pid : ℕ} {name : String} {elapsed : ℚ} {last now : ProcReading}
    (h : Grown name last now) (helapsed : 0 < elapsed) :
    (measureRate pid name elapsed last now).Attributed := by
  have hrate : ∀ x : ℚ, x / 1024 / elapsed * 1024 * elapsed = x := by
    intro x
    field_simp
  obtain ⟨⟨d, hd, hd'⟩, ⟨e, he, he'⟩⟩ := h
  refine ⟨?_, ?_⟩
  · simp only [measureRate]
    rw [hrate, hd, Nat.add_sub_cancel_left]
    exact_mod_cast counterDelta_le hd'
  · simp only [measureRate]
    rw [hrate, he, Nat.add_sub_cancel_left]
    exact_mod_cast counterDelta_le he'

/-! ## Transfers -/

/-- A process transfers bytes only while the entry of its `tgid`, if there is one, carries its own
name, which is not empty. -/
def TransfersToOwnName (s : ProcStats n) : ProcAction n → Prop
  | .transfer _ tgid _ bytes =>
    bytes = 0 ∨ ∀ name, s.processes.lookup tgid = some name →
      name ≠ "" ∧ ∀ slots, s.procNetMap.lookup tgid = some slots → mergeName slots = name
  | _ => True

variable {s s' : ProcStats n} {a : ProcAction n} {as : List (ProcAction n)}
  {es fs : List ProcReport}

/-- Entries are kept with their names, and their counters grow by what processes of this name
move. -/
def EntriesGrow (s s' : ProcStats n) : Prop :=
  ∀ tgid slots, s.procNetMap.lookup tgid = some slots →
    ∃ slots', s'.procNetMap.lookup tgid = some slots' ∧ mergeName slots' = mergeName slots ∧
      Grown (mergeName slots) (s.readEntry tgid slots) (s'.readEntry tgid slots')

/-- Every entry has a name. -/
def EntriesNamed (s : ProcStats n) : Prop :=
  ∀ tgid slots, s.procNetMap.lookup tgid = some slots → mergeName slots ≠ ""

/-- A reading depends on what has been moved under its `tgid` only. -/
lemma readEntry_congr {tgid : ℕ} (h : s'.moved tgid = s.moved tgid) (slots : Fin n → ProcNetStats) :
    s'.readEntry tgid slots = s.readEntry tgid slots := by
  rw [readEntry, readEntry, h]

lemma EntriesGrow.of_eq (hmap : s'.procNetMap = s.procNetMap) (hmoved : s'.moved = s.moved) :
    EntriesGrow s s' := by
  intro tgid slots hslots
  refine ⟨slots, hmap ▸ hslots, rfl, ?_⟩
  rw [readEntry_congr (congrFun hmoved tgid)]
  exact .refl _ _

section AccountProc

variable {m : ProcNetMap n} {cpu : Fin n} {tgid j : ℕ} {comm : String} {dir : Transfer}
  {bytes : UInt64} {slots new : Fin n → ProcNetStats}

lemma lookup_accountProc_of_ne (hj : j ≠ tgid) :
    (accountProc m cpu tgid comm dir bytes).lookup j = m.lookup j := by
  unfold accountProc
  by_cases hbytes : bytes = 0
  · rw [if_pos hbytes]
  · rw [if_neg hbytes]
    split
    · rw [UnorderedMap.lookup_insert_ite, if_neg hj]
    · split_ifs
      · rfl
      · rw [UnorderedMap.lookup_insert_ite, if_neg hj]

lemma lookup_accountProc_of_some (hbytes : bytes ≠ 0) (h : m.lookup tgid = some slots) :
    (accountProc m cpu tgid comm dir bytes).lookup tgid =
      some (Function.update slots cpu ((slots cpu).add dir bytes)) := by
  rw [accountProc, if_neg hbytes, h]
  exact AList.lookup_insert m

/-- Adding bytes keeps the name. -/
lemma mergeName_add :
    mergeName (Function.update slots cpu ((slots cpu).add dir bytes)) = mergeName slots := by
  refine mergeName_congr fun c => ?_
  by_cases hc : c = cpu
  · subst hc
    rw [Function.update_self]
    cases dir <;> rfl
  · rw [Function.update_of_ne hc]

/-- A new entry carries the name of the process. -/
lemma mergeName_accountProc_of_none (hbytes : bytes ≠ 0) (h : m.lookup tgid = none)
    (hnew : (accountProc m cpu tgid comm dir bytes).lookup tgid = some new) :
    mergeName new = comm := by
  rw [accountProc, if_neg hbytes, h] at hnew
  dsimp only at hnew
  split_ifs at hnew with hfull
  · rw [h] at hnew
    cases hnew
  · rw [AList.lookup_insert] at hnew
    cases hnew
    rw [mergeName_single fun c hc => by rw [Function.update_of_ne hc], Function.update_self]
    cases dir <;> rfl

end AccountProc

/-- The entry that a transfer is added to grows. -/
lemma grown_add (s : ProcStats n) (cpu : Fin n) (tgid : ℕ) (dir : Transfer) (bytes : UInt64)
    (slots : Fin n → ProcNetStats) (name : String) :
    Grown name (s.readEntry tgid slots)
      { sndBytes := mergeBytes fun c =>
          (Function.update slots cpu ((slots cpu).add dir bytes) c).sndBytes
        rcvBytes := mergeBytes fun c =>
          (Function.update slots cpu ((slots cpu).add dir bytes) c).rcvBytes
        moved := Function.update (s.moved tgid) name ((s.moved tgid name).add dir bytes.toNat) } := by
  have hsnd : (fun c => (Function.update slots cpu ((slots cpu).add dir bytes) c).sndBytes) =
      Function.update (fun c => (slots c).sndBytes) cpu ((slots cpu).add dir bytes).sndBytes := by
    funext c
    exact Function.apply_update (fun _ (x : ProcNetStats) => x.sndBytes) slots cpu _ c
  have hrcv : (fun c => (Function.update slots cpu ((slots cpu).add dir bytes) c).rcvBytes) =
      Function.update (fun c => (slots c).rcvBytes) cpu ((slots cpu).add dir bytes).rcvBytes := by
    funext c
    exact Function.apply_update (fun _ (x : ProcNetStats) => x.rcvBytes) slots cpu _ c
  have hmoved : Function.update (s.moved tgid) name ((s.moved tgid name).add dir bytes.toNat) name =
      (s.moved tgid name).add dir bytes.toNat := Function.update_self _ _ _
  have hmore : ∀ f : Fin n → UInt64, mergeBytes (Function.update f cpu (f cpu + bytes)) =
      mergeBytes f + UInt64.ofNat bytes.toNat := by
    intro f
    rw [UInt64.ofNat_toNat]
    exact mergeBytes_update f cpu bytes
  have hsame : ∀ f : Fin n → UInt64, mergeBytes (Function.update f cpu (f cpu)) =
      mergeBytes f + UInt64.ofNat 0 := by
    intro f
    rw [Function.update_eq_self]
    exact (UInt64.add_zero _).symm
  rw [hsnd, hrcv]
  cases dir with
  | send =>
    exact ⟨⟨bytes.toNat, congrArg Traffic.sent hmoved, hmore _⟩,
      ⟨0, (congrArg Traffic.received hmoved :), hsame _⟩⟩
  | receive =>
    exact ⟨⟨0, (congrArg Traffic.sent hmoved :), hsame _⟩,
      ⟨bytes.toNat, congrArg Traffic.received hmoved, hmore _⟩⟩

/-- **A transfer to the process's own name** lets the entries grow and keeps them named.

**Proof sketch.** Only the entry of the process's `tgid` changes. Either it is there, and the bytes
are added to one slot and to what processes of its name have moved; or it is created under the
name of the process; or nothing is accounted, because there are no bytes or no room. -/
lemma transfer_entries {cpu : Fin n} {tgid : ℕ} {dir : Transfer} {bytes : UInt64}
    (hnamed : EntriesNamed s) (hown : TransfersToOwnName s (.transfer cpu tgid dir bytes))
    {name : String} (hname : s.processes.lookup tgid = some name)
    (hmap : s'.procNetMap = accountProc s.procNetMap cpu tgid name dir bytes)
    (hmoved : s'.moved = Function.update s.moved tgid
      (Function.update (s.moved tgid) name ((s.moved tgid name).add dir bytes.toNat))) :
    EntriesGrow s s' ∧ EntriesNamed s' := by
  by_cases hzero : bytes = 0
  · have hadd : (s.moved tgid name).add dir bytes.toNat = s.moved tgid name := by
      rw [hzero]
      cases dir <;> rfl
    rw [hadd, Function.update_eq_self, Function.update_eq_self] at hmoved
    rw [accountProc, if_pos hzero] at hmap
    exact ⟨.of_eq hmap hmoved, fun j new hnew => hnamed j new (hmap ▸ hnew)⟩
  · obtain ⟨hne, hentry⟩ := (hown.resolve_left hzero) name hname
    have hother : ∀ j ≠ tgid, s'.procNetMap.lookup j = s.procNetMap.lookup j := fun j hj => by
      rw [hmap, lookup_accountProc_of_ne hj]
    have hself : ∀ slots, s.procNetMap.lookup tgid = some slots → s'.procNetMap.lookup tgid =
        some (Function.update slots cpu ((slots cpu).add dir bytes)) := fun slots hslots => by
      rw [hmap, lookup_accountProc_of_some hzero hslots]
    constructor
    · intro j slots hslots
      by_cases hj : j = tgid
      · subst hj
        obtain rfl := hentry slots hslots
        refine ⟨_, hself slots hslots, mergeName_add, ?_⟩
        have hread : s'.moved j = Function.update (s.moved j) (mergeName slots)
            ((s.moved j (mergeName slots)).add dir bytes.toNat) := by
          rw [hmoved, Function.update_self]
        have hgrown := grown_add s cpu j dir bytes slots (mergeName slots)
        rw [← hread] at hgrown
        exact hgrown
      · have hread : s'.moved j = s.moved j := by rw [hmoved, Function.update_of_ne hj]
        refine ⟨slots, (hother j hj).trans hslots, rfl, ?_⟩
        rw [readEntry_congr hread]
        exact .refl _ _
    · intro j new hnew
      by_cases hj : j = tgid
      · subst hj
        cases hlookup : s.procNetMap.lookup j with
        | some slots =>
          obtain rfl := UnorderedMap.lookup_unique (hself slots hlookup) hnew
          rw [mergeName_add]
          exact hnamed j slots hlookup
        | none =>
          rw [mergeName_accountProc_of_none hzero hlookup (hmap ▸ hnew)]
          exact hne
      · exact hnamed j new ((hother j hj).symm.trans hnew)

/-! ## Passes -/

/-- The rates measured so far are attributed rightly, and the dead entries are out of the cache. -/
structure PassOk (s : ProcStats n) (pass : ProcPass) : Prop where
  rates : ∀ r ∈ pass.rates, r.Attributed
  dead : ∀ tgid ∈ pass.deadPids, s.procCache.lookup tgid = none
  visited : ∀ tgid ∈ pass.deadPids, tgid ∈ pass.visited

/-- What has been read of an entry is what the entry held some time after its last reading, and the
entry has grown since. -/
structure ReadingOk (s : ProcStats n) (tgid : ℕ) (name : String) (reading : ProcReading) : Prop where
  entry : ∃ slots, s.procNetMap.lookup tgid = some slots ∧ mergeName slots = name ∧
    Grown name reading (s.readEntry tgid slots)
  last : ∀ last, s.procCache.lookup tgid = some last → Grown name last.reading reading

/-- What holds in each phase of the monitor's thread. -/
def PhaseOk (s : ProcStats n) : PassPhase → Prop
  | .idle => True
  | .walking pass => PassOk s pass
  | .probing pass tgid name reading =>
    PassOk s pass ∧ tgid ∈ pass.visited ∧ tgid ∉ pass.deadPids ∧ ReadingOk s tgid name reading
  | .deleting pass => PassOk s pass

/-- The invariant: entries are named and have grown since they were last read. -/
structure NamesHold (s : ProcStats n) : Prop where
  named : EntriesNamed s
  cached : ∀ tgid last, s.procCache.lookup tgid = some last →
    ∃ slots, s.procNetMap.lookup tgid = some slots ∧
      Grown (mergeName slots) last.reading (s.readEntry tgid slots)
  phase : PhaseOk s s.phase

lemma PassOk.of_cache {pass : ProcPass} (h : PassOk s pass) (hcache : s'.procCache = s.procCache) :
    PassOk s' pass :=
  ⟨h.rates, fun tgid htgid => hcache ▸ h.dead tgid htgid, h.visited⟩

/-- What the entries and the processes do does not disturb the monitor. -/
lemma NamesHold.of_grow (h : NamesHold s) (hgrow : EntriesGrow s s') (hnamed : EntriesNamed s')
    (hcache : s'.procCache = s.procCache) (hphase : s'.phase = s.phase) : NamesHold s' := by
  refine ⟨hnamed, fun tgid last hlast => ?_, ?_⟩
  · obtain ⟨slots, hslots, hgrown⟩ := h.cached tgid last (hcache ▸ hlast)
    obtain ⟨slots', hslots', hname, hmore⟩ := hgrow tgid slots hslots
    exact ⟨slots', hslots', hname ▸ hgrown.trans hmore⟩
  · have hold := h.phase
    rw [hphase]
    cases hp : s.phase with
    | idle => trivial
    | walking pass =>
      rw [hp] at hold
      exact PassOk.of_cache hold hcache
    | deleting pass =>
      rw [hp] at hold
      exact PassOk.of_cache hold hcache
    | probing pass tgid name reading =>
      rw [hp] at hold
      obtain ⟨hpass, hvisited, hdead, ⟨slots, hslots, rfl, hgrown⟩, hlast⟩ := hold
      obtain ⟨slots', hslots', hname, hmore⟩ := hgrow tgid slots hslots
      refine ⟨hpass.of_cache hcache, hvisited, hdead, ⟨slots', hslots', hname, ?_⟩, ?_⟩
      · exact hgrown.trans hmore
      · rw [hcache]
        exact hlast

/-- A visit reads what the entry holds. -/
lemma NamesHold.visit (h : NamesHold s) {pass : ProcPass} (hphase : s.phase = .walking pass)
    {tgid : ℕ} {slots : Fin n → ProcNetStats} (hslots : s.procNetMap.lookup tgid = some slots)
    (hnew : tgid ∉ pass.visited) :
    NamesHold { s with
      phase := .probing { pass with visited := pass.visited ++ [tgid] } tgid (mergeName slots)
        (s.readEntry tgid slots) } := by
  have hpass : PassOk s pass := by
    have hold := h.phase
    rwa [hphase] at hold
  refine ⟨h.named, h.cached, ⟨hpass.rates, hpass.dead, fun j hj => ?_⟩, ?_, ?_, ?_⟩
  · exact List.mem_append_left _ (hpass.visited j hj)
  · exact List.mem_append_right _ List.mem_cons_self
  · exact fun hdead => hnew (hpass.visited tgid hdead)
  · refine ⟨⟨slots, hslots, rfl, .refl _ _⟩, fun last hlast => ?_⟩
    obtain ⟨slots', hslots', hgrown⟩ := h.cached tgid last hlast
    obtain rfl := UnorderedMap.lookup_unique hslots hslots'
    exact hgrown

/-- A live process's reading becomes its last one, after its rate has been measured. -/
lemma NamesHold.visitLive (h : NamesHold s) {pass : ProcPass} {tgid : ℕ} {name : String}
    {reading : ProcReading} (hphase : s.phase = .probing pass tgid name reading) :
    NamesHold (s.visitLive pass tgid name reading) := by
  have hold := h.phase
  rw [hphase] at hold
  obtain ⟨hpass, -, hdead, ⟨slots, hslots, rfl, hgrown⟩, hlast⟩ := hold
  have hcached : ∀ j last, (s.procCache.insert tgid ⟨reading, pass.now⟩).lookup j = some last →
      ∃ slots, s.procNetMap.lookup j = some slots ∧
        Grown (mergeName slots) last.reading (s.readEntry j slots) := by
    intro j last hj
    rw [UnorderedMap.lookup_insert_ite] at hj
    split_ifs at hj with hsame
    · cases hj
      exact ⟨slots, hsame ▸ hslots, hsame ▸ hgrown⟩
    · exact h.cached j last hj
  have hstill : ∀ j ∈ pass.deadPids,
      (s.procCache.insert tgid ⟨reading, pass.now⟩).lookup j = none := by
    intro j hj
    rw [UnorderedMap.lookup_insert_ite, if_neg]
    · exact hpass.dead j hj
    · rintro rfl
      exact hdead hj
  unfold ProcStats.visitLive
  rw [if_neg (h.named tgid slots hslots)]
  cases hcache : s.procCache.lookup tgid with
  | none => exact ⟨h.named, hcached, hpass.rates, hstill, hpass.visited⟩
  | some last =>
    dsimp only
    split_ifs with helapsed
    · exact ⟨h.named, h.cached, hpass.of_cache rfl⟩
    · refine ⟨h.named, hcached, fun r hr => ?_, hstill, hpass.visited⟩
      rcases List.mem_append.mp hr with hr | hr
      · exact hpass.rates r hr
      · rw [List.mem_singleton.mp hr]
        exact measureRate_attributed (hlast last hcache) (not_le.mp helapsed)

/-- A dead process is dropped from the cache. -/
lemma NamesHold.visitDead (h : NamesHold s) {pass : ProcPass} {tgid : ℕ} {name : String}
    {reading : ProcReading} (hphase : s.phase = .probing pass tgid name reading) :
    NamesHold { s with
      procCache := s.procCache.erase tgid
      phase := .walking { pass with deadPids := pass.deadPids ++ [tgid] } } := by
  have hold := h.phase
  rw [hphase] at hold
  obtain ⟨hpass, hvisited, -, -⟩ := hold
  refine ⟨h.named, fun j last hj => ?_, hpass.rates, fun j hj => ?_, fun j hj => ?_⟩
  · dsimp only at hj
    rw [UnorderedMap.lookup_erase_ite] at hj
    split_ifs at hj
    exact h.cached j last hj
  · dsimp only
    rw [UnorderedMap.lookup_erase_ite]
    split_ifs with hsame
    · rfl
    · rcases List.mem_append.mp hj with hj | hj
      · exact hpass.dead j hj
      · exact absurd (List.mem_singleton.mp hj) hsame
  · rcases List.mem_append.mp hj with hj | hj
    · exact hpass.visited j hj
    · exact List.mem_singleton.mp hj ▸ hvisited

/-- Only entries that are not in the cache are deleted. -/
lemma NamesHold.deleteDead (h : NamesHold s) {pass : ProcPass} {tgid : ℕ} {rest : List ℕ}
    (hphase : s.phase = .deleting pass) (hdead : pass.deadPids = tgid :: rest) :
    NamesHold { s with
      procNetMap := s.procNetMap.erase tgid
      phase := .deleting { pass with deadPids := rest } } := by
  have hpass : PassOk s pass := by
    have hold := h.phase
    rwa [hphase] at hold
  have hrest : ∀ j ∈ rest, j ∈ pass.deadPids := fun j hj =>
    hdead ▸ List.mem_cons_of_mem tgid hj
  refine ⟨fun j slots hj => ?_, fun j last hj => ?_, hpass.rates, fun j hj => ?_, fun j hj => ?_⟩
  · dsimp only at hj
    rw [UnorderedMap.lookup_erase_ite] at hj
    split_ifs at hj
    exact h.named j slots hj
  · obtain ⟨slots, hslots, hgrown⟩ := h.cached j last hj
    refine ⟨slots, ?_, hgrown⟩
    dsimp only
    rw [UnorderedMap.lookup_erase_ite, if_neg]
    · exact hslots
    · rintro rfl
      have hnone := hpass.dead j (hdead ▸ List.mem_cons_self)
      exact absurd (hnone.symm.trans hj) (by simp)
  · exact hpass.dead j (hrest j hj)
  · exact hpass.visited j (hrest j hj)

/-- Only measured rates are reported. -/
lemma attributed_procReports {rates sorted : List MeasuredRate} (hperm : sorted.Perm rates)
    (hrates : ∀ r ∈ rates, r.Attributed) : ∀ r ∈ procReports rates sorted, r.Attributed := by
  intro r hr
  obtain ⟨m, hm, rfl⟩ := List.mem_map.mp hr
  obtain ⟨hsent, hreceived⟩ := hrates m (hperm.mem_iff.mp (List.mem_of_mem_take hm))
  exact ⟨hsent, hreceived⟩

/-- Every step in which processes transfer to their own names keeps the invariant, and what it
reports is attributed rightly. -/
lemma NamesHold.step (h : NamesHold s) (hown : TransfersToOwnName s a)
    (hstep : s.step a = some (s', fs)) : NamesHold s' ∧ ∀ r ∈ fs, r.Attributed := by
  have hquiet : ∀ r ∈ ([] : List ProcReport), r.Attributed := fun r hr =>
    absurd hr List.not_mem_nil
  cases a with
  | startProcess tgid name =>
    simp only [ProcStats.step] at hstep
    split_ifs at hstep
    cases hstep
    exact ⟨h.of_grow (.of_eq rfl rfl) h.named rfl rfl, hquiet⟩
  | exitProcess tgid =>
    simp only [ProcStats.step] at hstep
    split_ifs at hstep
    cases hstep
    exact ⟨h.of_grow (.of_eq rfl rfl) h.named rfl rfl, hquiet⟩
  | transfer cpu tgid dir bytes =>
    simp only [ProcStats.step] at hstep
    split at hstep
    · cases hstep
    · next name hname =>
      obtain ⟨hs', rfl⟩ := Prod.ext_iff.mp (Option.some.inj hstep)
      dsimp only at hs'
      obtain ⟨hgrow, hnamed⟩ := @transfer_entries n s s' cpu tgid dir bytes h.named hown name hname
        (by rw [← hs']) (by rw [← hs'])
      exact ⟨h.of_grow hgrow hnamed (by rw [← hs']) (by rw [← hs']), hquiet⟩
  | beginPass now =>
    simp only [ProcStats.step] at hstep
    split at hstep
    · cases hstep
      refine ⟨⟨h.named, h.cached, ?_, ?_, ?_⟩, hquiet⟩ <;> simp
    · cases hstep
  | visit tgid =>
    simp only [ProcStats.step] at hstep
    split at hstep
    · next pass slots hphase hslots =>
      split_ifs at hstep with hnew
      cases hstep
      exact ⟨h.visit hphase hslots hnew, hquiet⟩
    · cases hstep
  | probe =>
    simp only [ProcStats.step] at hstep
    split at hstep
    · next pass tgid name reading hphase =>
      split_ifs at hstep with hlive
      · cases hstep
        exact ⟨h.visitLive hphase, hquiet⟩
      · cases hstep
        exact ⟨h.visitDead hphase, hquiet⟩
    · cases hstep
  | endWalk =>
    simp only [ProcStats.step] at hstep
    split at hstep
    · next pass hphase =>
      split_ifs at hstep
      cases hstep
      have hold := h.phase
      rw [hphase] at hold
      exact ⟨⟨h.named, h.cached, PassOk.of_cache hold rfl⟩, hquiet⟩
    · cases hstep
  | deleteDead =>
    simp only [ProcStats.step] at hstep
    split at hstep
    · next pass hphase =>
      split at hstep
      · next tgid rest hdead =>
        cases hstep
        exact ⟨h.deleteDead hphase hdead, hquiet⟩
      · cases hstep
    · cases hstep
  | report sorted =>
    simp only [ProcStats.step] at hstep
    split at hstep
    · next pass hphase =>
      split_ifs at hstep with hsorted
      cases hstep
      have hold := h.phase
      rw [hphase] at hold
      exact ⟨⟨h.named, h.cached, trivial⟩, attributed_procReports hsorted.2.1 hold.rates⟩
    · cases hstep

/-- The system before the first transfer, with processes running. -/
def start (processes : UnorderedMap ℕ String) : ProcStats n := { processes := processes }

/-- **When bytes are attributed to the process that moved them.** In every run of processes,
transfers and passes in which a process transfers bytes only while the entry of its `tgid`, if
there is one, carries its own name, which is not empty: every report counts only bytes that
processes with its name have moved under its `tgid` since the reading before.

**Proof sketch.** An entry then grows by the bytes of processes of its name (`transfer_entries`). It
is in the cache only with a reading of its own lifetime, as an entry that is to be deleted leaves
the cache first; so what is measured is its growth between two readings. -/
theorem attributed_of_own_names {processes : UnorderedMap ℕ String}
    (hrun : (procStats n).run (start processes) as = some (s, es))
    (hown : (procStats n).Meets TransfersToOwnName (start processes) as) :
    ∀ r ∈ es, r.Attributed := by
  refine ((procStats n).run_induction (P := fun as s es =>
    (procStats n).Meets TransfersToOwnName (start processes) as →
      NamesHold s ∧ ∀ r ∈ es, r.Attributed) ?_ ?_ hrun hown).2
  · intro _
    refine ⟨⟨fun tgid slots hslots => ?_, fun tgid last hlast => ?_, trivial⟩, fun r hr => ?_⟩
    · cases hslots
    · cases hlast
    · cases hr
  · intro as s es a s' fs hbefore ih hstep hown
    obtain ⟨hnames, hreports⟩ := ih hown.of_append
    obtain ⟨hnames', hnew⟩ := hnames.step (hown.last hbefore) hstep
    exact ⟨hnames', List.forall_mem_append.mpr ⟨hreports, hnew⟩⟩

/-! ## Two processes, one `tgid` -/

/-- A pass over the only entry. -/
def passActions (now : ℚ) (sorted : List MeasuredRate) : List (ProcAction 1) :=
  [.beginPass now, .visit 5, .probe, .endWalk, .report sorted]

/-- A process called `a` sends 100 bytes, which a first pass reads. -/
def firstActions : List (ProcAction 1) :=
  [.startProcess 5 "a"] ++ .transfer 0 5 .send 100 :: passActions 0 []

/-- 50 bytes in one second, under the name `a`. -/
def rateOfA (moved : Traffic) : MeasuredRate := ⟨⟨5, "a", 50 / 1024, 0⟩, 1, moved⟩

/-- The same process sends 50 bytes. -/
def sameProcess : List (ProcAction 1) := [.transfer 0 5 .send 50]

/-- The process exits, and another one with its `tgid` sends 50 bytes. -/
def otherProcess : List (ProcAction 1) :=
  [.exitProcess 5, .startProcess 5 "b", .transfer 0 5 .send 50]

/-- The name of the running process and that of its entry decide the condition. -/
lemma transfersToOwnName_of_lookup {cpu : Fin n} {tgid : ℕ} {dir : Transfer} {bytes : UInt64}
    {name : String} (hname : s.processes.lookup tgid = some name) (hne : name ≠ "")
    (hentry : ∀ comm ∈ (s.procNetMap.lookup tgid).map mergeName, comm = name) :
    TransfersToOwnName s (.transfer cpu tgid dir bytes) := by
  refine Or.inr fun name' hname' => ?_
  obtain rfl := UnorderedMap.lookup_unique hname hname'
  exact ⟨hne, fun slots hslots => hentry _ (by rw [hslots]; exact rfl)⟩

/-- A process that keeps its `tgid` is measured rightly. -/
theorem attributed_of_own_names_same_process :
    ∃ s es, (procStats 1).run (start ∅)
        (firstActions ++ sameProcess ++ passActions 1 [rateOfA ⟨50, 0⟩]) = some (s, es) ∧
      (procStats 1).Meets TransfersToOwnName (start ∅)
        (firstActions ++ sameProcess ++ passActions 1 [rateOfA ⟨50, 0⟩]) ∧
      ∀ r ∈ es, r.Attributed := by
  have hpass : ∀ now sorted, ∀ a ∈ passActions now sorted, ∀ t, TransfersToOwnName t a := by
    intro now sorted a ha t
    simp only [passActions, List.mem_cons, List.not_mem_nil, or_false] at ha
    rcases ha with rfl | rfl | rfl | rfl | rfl <;> trivial
  have hsome : ((procStats 1).run (start ∅)
      (firstActions ++ sameProcess ++ passActions 1 [rateOfA ⟨50, 0⟩])).isSome = true := by
    decide +kernel
  obtain ⟨⟨s, es⟩, hrun⟩ := Option.isSome_iff_exists.mp hsome
  have hown : (procStats 1).Meets TransfersToOwnName (start ∅)
      (firstActions ++ sameProcess ++ passActions 1 [rateOfA ⟨50, 0⟩]) := by
    refine EventMachine.meets_append (EventMachine.meets_append (EventMachine.meets_append
      ?_ ?_) ?_) fun _ _ _ => EventMachine.meets_of_forall (hpass _ _)
    · exact EventMachine.meets_cons trivial fun _ _ _ => EventMachine.meets_nil _ _
    · intro t fs ht
      have hnames : ((procStats 1).run (start ∅) [.startProcess 5 "a"]).map (fun p =>
          (p.1.processes.lookup 5, (p.1.procNetMap.lookup 5).map mergeName)) =
          some (some "a", none) := by decide +kernel
      rw [ht] at hnames
      obtain ⟨hname, hentry⟩ := Prod.ext_iff.mp (Option.some.inj hnames)
      dsimp only at hentry
      refine EventMachine.meets_cons (transfersToOwnName_of_lookup hname (by decide) ?_)
        fun _ _ _ => EventMachine.meets_of_forall (hpass _ _)
      intro comm hcomm
      rw [hentry] at hcomm
      cases hcomm
    · intro t fs ht
      have hnames : ((procStats 1).run (start ∅) firstActions).map (fun p =>
          (p.1.processes.lookup 5, (p.1.procNetMap.lookup 5).map mergeName)) =
          some (some "a", some "a") := by decide +kernel
      rw [ht] at hnames
      obtain ⟨hname, hentry⟩ := Prod.ext_iff.mp (Option.some.inj hnames)
      dsimp only at hentry
      refine EventMachine.meets_cons (transfersToOwnName_of_lookup hname (by decide) ?_)
        fun _ _ _ => EventMachine.meets_nil _ _
      intro comm hcomm
      rw [hentry] at hcomm
      exact (Option.some.inj hcomm).symm
  exact ⟨s, es, hrun, hown, attributed_of_own_names hrun hown⟩

/-- **Bytes are attributed to a process that is gone**: the second process's 50 bytes are reported
under the first one's name, although nobody of this name has moved anything since the reading
before. -/
theorem reuse_attributed_to_old_name :
    ¬ ∀ (n : ℕ) (processes : UnorderedMap ℕ String) (as : List (ProcAction n)) (s : ProcStats n)
      (es : List ProcReport), (procStats n).run (start processes) as = some (s, es) →
      ∀ r ∈ es, r.Attributed := by
  intro halways
  have hend : ((procStats 1).run (start ∅)
      (firstActions ++ otherProcess ++ passActions 1 [rateOfA {}])).map (fun p => p.2) =
      some (procReports [rateOfA {}] [rateOfA {}]) := by decide +kernel
  obtain ⟨⟨s, es⟩, hrun, hes⟩ := Option.map_eq_some_iff.mp hend
  dsimp only at hes
  have hall := halways 1 ∅ _ s es hrun
  rw [hes] at hall
  have hsent := (hall _ List.mem_cons_self).sent
  exact absurd hsent (by decide +kernel)

end ProcStats

end Monitor
