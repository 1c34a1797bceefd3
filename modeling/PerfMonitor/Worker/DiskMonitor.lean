import Mathlib.Algebra.Order.Field.Basic
import Mathlib.Algebra.Order.Ring.Rat
import Mathlib.Data.UInt
import PerfMonitor.Automaton.Run
import PerfMonitor.Container.UnorderedMap
import PerfMonitor.Counter.Growth
import PerfMonitor.Proto.MonitorInfo
import PerfMonitor.Text.Extraction

set_option relaxedAutoImplicit false
set_option autoImplicit false

/-!
# The disk monitor

`DiskMonitor` (`worker/src/monitor/disk_monitor.cpp`): a call of `UpdateOnce` reads
`/proc/diskstats` line by line, remembers the counters of every disk with the time of the call in
whole seconds, and turns what the counters have changed by since the last reading into rates.
Numbers of type `double` are exact.

## Main definitions

* `Monitor.DiskSample`, `Monitor.parseDiskLine` — the counters in a line.
* `Monitor.DiskMonitor.updateOnce` — one call, with what it reports.
* `Monitor.diskMonitor` — the calls as an event machine.
* `Monitor.diskReadings` — the readings in the contents that a run meets.

## Main results

* `Monitor.parseDiskLine_diskLine` — a line with given counters is read back.
* `Monitor.DiskMonitor.run_reading` — a run reports exactly the readings in the contents.
* `Monitor.DiskMonitor.run_recorded` — every reading of a disk is compared with the one before it.
-/

namespace Monitor

/-! ## The lines -/

/-- `DiskSample`. -/
structure DiskSample where
  reads : UInt64 := 0
  writes : UInt64 := 0
  sectorsRead : UInt64 := 0
  sectorsWritten : UInt64 := 0
  readTimeMs : UInt64 := 0
  writeTimeMs : UInt64 := 0
  ioInProgress : UInt64 := 0
  ioTimeMs : UInt64 := 0
  weightedIoTimeMs : UInt64 := 0
  deriving DecidableEq, Repr

/-- The extractions from a line. -/
def diskFields : Extractor (String × DiskSample) := do
  let _major ← Extraction.int
  let _minor ← Extraction.int
  let name ← Extraction.word
  let reads ← Extraction.uint64
  let _readsMerged ← Extraction.uint64
  let sectorsRead ← Extraction.uint64
  let readTimeMs ← Extraction.uint64
  let writes ← Extraction.uint64
  let _writesMerged ← Extraction.uint64
  let sectorsWritten ← Extraction.uint64
  let writeTimeMs ← Extraction.uint64
  let ioInProgress ← Extraction.uint64
  let ioTimeMs ← Extraction.uint64
  let weightedIoTimeMs ← Extraction.uint64
  return (name,
    { reads := reads
      writes := writes
      sectorsRead := sectorsRead
      sectorsWritten := sectorsWritten
      readTimeMs := readTimeMs
      writeTimeMs := writeTimeMs
      ioInProgress := ioInProgress
      ioTimeMs := ioTimeMs
      weightedIoTimeMs := weightedIoTimeMs })

/-- The name and the counters in a line; `none` if an extraction fails. -/
def parseDiskLine (line : String) : Option (String × DiskSample) := diskFields.run' line.toList

/-- The names that `UpdateOnce` skips. -/
def isVirtualDisk (name : String) : Bool :=
  ["loop", "ram", "fd", "sr"].any fun stem => stem.toList.isPrefixOf name.toList

/-- A line as the kernel writes it, without the padding. -/
def diskLine (name : String) (readsMerged writesMerged : UInt64) (s : DiskSample) : String :=
  String.ofList <| Extraction.numberField 8 ++ (Extraction.numberField 0 ++
    (Extraction.wordField name ++ (Extraction.numberField s.reads.toNat ++
    (Extraction.numberField readsMerged.toNat ++ (Extraction.numberField s.sectorsRead.toNat ++
    (Extraction.numberField s.readTimeMs.toNat ++ (Extraction.numberField s.writes.toNat ++
    (Extraction.numberField writesMerged.toNat ++ (Extraction.numberField s.sectorsWritten.toNat ++
    (Extraction.numberField s.writeTimeMs.toNat ++ (Extraction.numberField s.ioInProgress.toNat ++
    (Extraction.numberField s.ioTimeMs.toNat ++ (Extraction.numberField s.weightedIoTimeMs.toNat ++
    [])))))))))))))

open Extraction in
/-- A line with given counters is read back.

**Proof sketch.** Field by field: each is extracted from its text, and the next one starts with a
space. -/
theorem parseDiskLine_diskLine {name : String} (hne : name.toList ≠ [])
    (hname : ∀ c ∈ name.toList, isSpace c = false) (readsMerged writesMerged : UInt64)
    (s : DiskSample) :
    parseDiskLine (diskLine name readsMerged writesMerged s) = some (name, s) := by
  rw [parseDiskLine, diskLine, String.toList_ofList]
  apply Reads.run'
  refine (reads_int (n := 8) (by decide)).bind ?_ (ends_numberField 0)
  refine (reads_int (n := 0) (by decide)).bind ?_ (ends_wordField name)
  refine (reads_word hne hname).bind ?_ (ends_numberField s.reads.toNat)
  refine (reads_uint64 s.reads).bind ?_ (ends_numberField readsMerged.toNat)
  refine (reads_uint64 readsMerged).bind ?_ (ends_numberField s.sectorsRead.toNat)
  refine (reads_uint64 s.sectorsRead).bind ?_ (ends_numberField s.readTimeMs.toNat)
  refine (reads_uint64 s.readTimeMs).bind ?_ (ends_numberField s.writes.toNat)
  refine (reads_uint64 s.writes).bind ?_ (ends_numberField writesMerged.toNat)
  refine (reads_uint64 writesMerged).bind ?_ (ends_numberField s.sectorsWritten.toNat)
  refine (reads_uint64 s.sectorsWritten).bind ?_ (ends_numberField s.writeTimeMs.toNat)
  refine (reads_uint64 s.writeTimeMs).bind ?_ (ends_numberField s.ioInProgress.toNat)
  refine (reads_uint64 s.ioInProgress).bind ?_ (ends_numberField s.ioTimeMs.toNat)
  refine (reads_uint64 s.ioTimeMs).bind ?_ (ends_numberField s.weightedIoTimeMs.toNat)
  refine (reads_uint64 s.weightedIoTimeMs).bind ?_ ends_nil
  exact reads_pure _

example : parseDiskLine "   8       0 sda 5 0 40 7 6 0 48 9 0 11 16" =
    some ("sda", ⟨5, 6, 40, 48, 7, 9, 0, 11, 16⟩) := by decide +kernel

/-! ## The monitor -/

/-- The counters of a disk, with the value of `time(nullptr)` in the call that has read them. -/
structure DiskReading where
  now : ℤ
  name : String
  sample : DiskSample
  deriving DecidableEq, Repr

/-- What a call adds to the message for one line: the rates, and the raw counters, which are those
of the reading. -/
structure DiskReport where
  reading : DiskReading
  info : DiskInfo
  deriving DecidableEq, Repr

/-- `DiskMonitor`. The maps are ordered ones, but nothing walks over them. -/
structure DiskMonitor where
  lastSamples : UnorderedMap String DiskSample := ∅
  lastTime : UnorderedMap String ℤ := ∅

/-- The message of a disk, `last` being its entry in `last_samples_` and `dt` the time since
then. -/
def diskInfo (name : String) (curr : DiskSample) (last : Option DiskSample) (dt : ℚ) : DiskInfo :=
  match last with
  | none => { name := name }
  | some last =>
    if dt > 0 then
      let readIos : ℚ := (curr.reads - last.reads).toNat
      let writeIos : ℚ := (curr.writes - last.writes).toNat
      let readBytes : ℚ := (curr.sectorsRead - last.sectorsRead).toNat * 512
      let writeBytes : ℚ := (curr.sectorsWritten - last.sectorsWritten).toNat * 512
      let readTime : ℚ := (curr.readTimeMs - last.readTimeMs).toNat
      let writeTime : ℚ := (curr.writeTimeMs - last.writeTimeMs).toNat
      let ioTime : ℚ := (curr.ioTimeMs - last.ioTimeMs).toNat
      { name := name
        readBytesPerSec := readBytes / dt
        writeBytesPerSec := writeBytes / dt
        readIops := readIos / dt
        writeIops := writeIos / dt
        avgReadLatencyMs := if readIos > 0 then readTime / readIos else 0
        avgWriteLatencyMs := if writeIos > 0 then writeTime / writeIos else 0
        utilPercent := ioTime / (dt * 10) }
    else { name := name }

/-- The line of a disk that is not skipped, read at `now`. -/
def readDiskLine (now : ℤ) (line : String) : Option DiskReading :=
  match parseDiskLine line with
  | none => none
  | some (name, curr) => if isVirtualDisk name then none else some ⟨now, name, curr⟩

namespace DiskMonitor

/-- The rest of the body of the loop: what is done with the line of a disk. -/
def addReading (m : DiskMonitor) (r : DiskReading) : DiskMonitor × DiskReport :=
  let dt : ℚ := (r.now - m.lastTime.get r.name : ℤ)
  ({ lastSamples := m.lastSamples.insert r.name r.sample
     lastTime := m.lastTime.insert r.name r.now },
    ⟨r, diskInfo r.name r.sample (m.lastSamples.lookup r.name) dt⟩)

/-- The body of the loop, with what is reported so far. -/
def visitLine (now : ℤ) (p : DiskMonitor × List DiskReport) (line : String) :
    DiskMonitor × List DiskReport :=
  match readDiskLine now line with
  | none => p
  | some r => ((p.1.addReading r).1, p.2 ++ [(p.1.addReading r).2])

/-- `UpdateOnce`, when `time(nullptr)` is `now` and `/proc/diskstats` has the given lines. -/
def updateOnce (m : DiskMonitor) (now : ℤ) (lines : List String) : DiskMonitor × List DiskReport :=
  lines.foldl (visitLine now) (m, [])

end DiskMonitor

/-- The calls of `UpdateOnce`. An action is the time and the lines of one call. -/
def diskMonitor : EventMachine DiskMonitor (ℤ × List String) DiskReport where
  step m call := some (m.updateOnce call.1 call.2)

/-- The readings of one call. -/
def callReadings (call : ℤ × List String) : List DiskReading :=
  call.2.filterMap (readDiskLine call.1)

/-- The readings of a run. -/
def diskReadings (calls : List (ℤ × List String)) : List DiskReading := calls.flatMap callReadings

/-- The reports of one disk. -/
def reportsOf (name : String) (reports : List DiskReport) : List DiskReport :=
  reports.filter fun r => r.reading.name = name

/-- The readings of one disk. -/
def readingsOf (name : String) (readings : List DiskReading) : List DiskReading :=
  readings.filter fun r => r.name = name

/-! ## Whole runs -/

/-- The message of a reading is computed from the reading before it. -/
def DiskReport.Against (last : Option DiskReading) (r : DiskReport) : Prop :=
  match last with
  | none => r.info = { name := r.reading.name }
  | some last => r.info = diskInfo r.reading.name r.reading.sample (some last.sample)
      ((r.reading.now - last.now : ℤ) : ℚ)

namespace DiskMonitor

lemma visitLine_of_none {now : ℤ} {line : String} (h : readDiskLine now line = none)
    (p : DiskMonitor × List DiskReport) : visitLine now p line = p := by
  unfold visitLine
  rw [h]

lemma visitLine_of_some {now : ℤ} {line : String} {r : DiskReading}
    (h : readDiskLine now line = some r) (p : DiskMonitor × List DiskReport) :
    visitLine now p line = ((p.1.addReading r).1, p.2 ++ [(p.1.addReading r).2]) := by
  unfold visitLine
  rw [h]

/-- What the monitor remembers of a disk. -/
def baseline (m : DiskMonitor) (name : String) : Option DiskReading :=
  (m.lastSamples.lookup name).map fun s => ⟨m.lastTime.get name, name, s⟩

/-- Every report of a disk was computed from the reading before it, and the last reading is what
the monitor remembers. -/
def Recorded (p : DiskMonitor × List DiskReport) : Prop :=
  ∀ name, Counter.Recorded DiskReport.Against DiskReport.reading (reportsOf name p.2)
    (p.1.baseline name)

lemma baseline_addReading (m : DiskMonitor) (r : DiskReading) (name : String) :
    (m.addReading r).1.baseline name = if name = r.name then some r else m.baseline name := by
  unfold baseline addReading
  dsimp only
  rw [UnorderedMap.lookup_insert_ite, UnorderedMap.get_insert_ite]
  split_ifs with h
  · subst h; rfl
  · rfl

lemma addReading_against (m : DiskMonitor) (r : DiskReading) :
    (m.addReading r).2.Against (m.baseline r.name) := by
  unfold baseline DiskReport.Against addReading
  cases m.lastSamples.lookup r.name with
  | none => rfl
  | some last => rfl

lemma reportsOf_append (name : String) (rs rs' : List DiskReport) :
    reportsOf name (rs ++ rs') = reportsOf name rs ++ reportsOf name rs' := List.filter_append ..

/-- One line keeps the records. -/
lemma Recorded.visitLine {p : DiskMonitor × List DiskReport} (h : Recorded p) (now : ℤ)
    (line : String) : Recorded (visitLine now p line) := by
  cases hline : readDiskLine now line with
  | none => rwa [visitLine_of_none hline]
  | some r =>
    rw [visitLine_of_some hline]
    intro name
    dsimp only
    rw [reportsOf_append, baseline_addReading]
    by_cases hname : name = r.name
    · subst hname
      have hlast : reportsOf r.name [(p.1.addReading r).2] = [(p.1.addReading r).2] :=
        List.filter_cons_of_pos (decide_eq_true rfl)
      rw [if_pos rfl, hlast]
      exact (h r.name).concat (addReading_against p.1 r)
    · have hlast : reportsOf name [(p.1.addReading r).2] = [] :=
        List.filter_cons_of_neg (by simpa [addReading] using Ne.symm hname)
      rw [if_neg hname, hlast, List.append_nil]
      exact h name

/-- The lines of a call only append to what is reported so far. -/
lemma foldl_visitLine (now : ℤ) (lines : List String) (m : DiskMonitor) (es fs : List DiskReport) :
    lines.foldl (visitLine now) (m, es ++ fs) =
      ((lines.foldl (visitLine now) (m, fs)).1, es ++ (lines.foldl (visitLine now) (m, fs)).2) := by
  induction lines generalizing m fs with
  | nil => rfl
  | cons line lines ih =>
    rw [List.foldl_cons, List.foldl_cons]
    cases hline : readDiskLine now line with
    | none =>
      rw [visitLine_of_none hline, visitLine_of_none hline]
      exact ih m fs
    | some r =>
      rw [visitLine_of_some hline, visitLine_of_some hline, List.append_assoc]
      exact ih _ _

lemma foldl_visitLine_eq (now : ℤ) (lines : List String) (m : DiskMonitor) (es : List DiskReport) :
    lines.foldl (visitLine now) (m, es) =
      ((m.updateOnce now lines).1, es ++ (m.updateOnce now lines).2) := by
  have h := foldl_visitLine now lines m es []
  rwa [List.append_nil] at h

lemma Recorded.updateOnce {m : DiskMonitor} {es : List DiskReport} (h : Recorded (m, es)) (now : ℤ)
    (lines : List String) :
    Recorded ((m.updateOnce now lines).1, es ++ (m.updateOnce now lines).2) := by
  rw [← foldl_visitLine_eq]
  generalize (m, es) = p at h ⊢
  induction lines generalizing p with
  | nil => exact h
  | cons line lines ih => exact ih (DiskMonitor.visitLine now p line) (h.visitLine now line)

/-- A call reports the readings in its lines. -/
lemma reading_updateOnce (m : DiskMonitor) (now : ℤ) (lines : List String) :
    (m.updateOnce now lines).2.map DiskReport.reading = callReadings (now, lines) := by
  induction lines generalizing m with
  | nil => rfl
  | cons line lines ih =>
    unfold callReadings DiskMonitor.updateOnce
    rw [List.foldl_cons]
    cases hline : readDiskLine now line with
    | none =>
      rw [visitLine_of_none hline, List.filterMap_cons_none hline]
      exact ih m
    | some r =>
      rw [visitLine_of_some hline, List.filterMap_cons_some hline, foldl_visitLine_eq]
      dsimp only
      rw [List.map_append, ih]
      rfl

variable {m : DiskMonitor} {calls : List (ℤ × List String)} {reports : List DiskReport}

/-- Every sequence of calls is a run. -/
lemma exists_run (m : DiskMonitor) (calls : List (ℤ × List String)) :
    ∃ p, diskMonitor.run m calls = some p :=
  diskMonitor.exists_run (fun _ _ => ⟨_, rfl⟩) m calls

/-- A run reports exactly the readings in the contents. -/
theorem run_reading (hrun : diskMonitor.run {} calls = some (m, reports)) :
    reports.map DiskReport.reading = diskReadings calls := by
  refine diskMonitor.run_induction
    (P := fun calls _ reports => reports.map DiskReport.reading = diskReadings calls) rfl ?_ hrun
  rintro calls m es call m' es' - ih hstep
  obtain ⟨rfl, rfl⟩ := Prod.ext_iff.mp (Option.some.inj hstep)
  rw [List.map_append, ih, reading_updateOnce, diskReadings, diskReadings, List.flatMap_append,
    List.flatMap_singleton]

/-- In a run, every reading of a disk is compared with the one before it. -/
theorem run_recorded (hrun : diskMonitor.run {} calls = some (m, reports)) :
    Recorded (m, reports) := by
  refine diskMonitor.run_induction (P := fun _ m reports => Recorded (m, reports)) ?_ ?_ hrun
  · exact fun _ => Counter.Recorded.nil
  · rintro calls m es call m' es' - ih hstep
    obtain ⟨rfl, rfl⟩ := Prod.ext_iff.mp (Option.some.inj hstep)
    exact ih.updateOnce call.1 call.2

lemma run_reportsOf (hrun : diskMonitor.run {} calls = some (m, reports)) (name : String) :
    (reportsOf name reports).map DiskReport.reading = readingsOf name (diskReadings calls) := by
  rw [← run_reading hrun, readingsOf, List.filter_map]
  rfl

end DiskMonitor

end Monitor
