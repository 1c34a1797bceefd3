import Mathlib.Algebra.Order.Ring.Rat
import Mathlib.Data.List.Forall2
import Mathlib.Data.List.Induction
import PerfMonitor.Proto.MonitorInfo
import PerfMonitor.Worker.ReadFile

set_option relaxedAutoImplicit false
set_option autoImplicit false

/-!
# The memory monitor

`MemMonitor::UpdateOnce` (`worker/src/monitor/mem_monitor.cpp`) reads `/proc/meminfo` line by line
and keeps the numbers of nineteen keys. A line of a key that has no second word, or none that is a
number, ends the call with an exception or without a defined result.

## Main definitions

* `Monitor.MemKey` — the keys.
* `Monitor.readMemInfo` — the loop over the lines.
* `Monitor.MemMonitor.updateOnce` — the call, with the fields of the message that are modelled.

## Main results

* `Monitor.readLines_tokenises` — the lines in front of the first empty one are split into their
  words, and the numbers of their keys are kept.
* `Monitor.key_after_empty_line` — what follows an empty line is not seen.
-/

namespace Monitor

open Extraction

/-! ## The keys -/

/-- The keys that `UpdateOnce` compares the first word of a line with. -/
inductive MemKey where
  | memTotal
  | memFree
  | memAvailable
  | buffers
  | cached
  | swapCached
  | active
  | inactive
  | activeAnon
  | inactiveAnon
  | activeFile
  | inactiveFile
  | dirty
  | writeback
  | anonPages
  | mapped
  | kReclaimable
  | sReclaimable
  | sUnreclaim
  deriving DecidableEq, Repr

namespace MemKey

/-- The keys in the order of the comparisons. -/
def all : List MemKey :=
  [memTotal, memFree, memAvailable, buffers, cached, swapCached, active, inactive, activeAnon,
    inactiveAnon, activeFile, inactiveFile, dirty, writeback, anonPages, mapped, kReclaimable,
    sReclaimable, sUnreclaim]

/-- The word that a line of the key begins with. -/
def text : MemKey → String
  | memTotal => "MemTotal:"
  | memFree => "MemFree:"
  | memAvailable => "MemAvailable:"
  | buffers => "Buffers:"
  | cached => "Cached:"
  | swapCached => "SwapCached:"
  | active => "Active:"
  | inactive => "Inactive:"
  | activeAnon => "Active(anon):"
  | inactiveAnon => "Inactive(anon):"
  | activeFile => "Active(file):"
  | inactiveFile => "Inactive(file):"
  | dirty => "Dirty:"
  | writeback => "Writeback:"
  | anonPages => "AnonPages:"
  | mapped => "Mapped:"
  | kReclaimable => "KReclaimable:"
  | sReclaimable => "SReclaimable:"
  | sUnreclaim => "SUnreclaim:"

/-- The branch that is taken for a first word. -/
def ofText (name : String) : Option MemKey := all.find? fun key => key.text == name

lemma ofText_text (key : MemKey) : ofText key.text = some key := by
  cases key <;> rfl

lemma ofText_eq_some_iff {name : String} {key : MemKey} :
    ofText name = some key ↔ name = key.text := by
  constructor
  · intro h
    have hkey := List.find?_some h
    exact (beq_iff_eq.mp hkey).symm
  · rintro rfl
    exact ofText_text key

end MemKey

/-! ## The loop -/

/-- `MenInfo`: a number of kilobytes for every key. -/
abbrev MenInfo := MemKey → ℤ

/-- `std::stoll`. -/
def stoll (s : String) : Option ℤ := do
  let (negative, magnitude) ← number.run' s.toList
  let value : ℤ := if negative then -magnitude else magnitude
  if -2 ^ 63 ≤ value ∧ value < 2 ^ 63 then return value else failure

/-- The body of the loop. -/
def addLine (memInfo : MenInfo) (memDatas : List String) : Option MenInfo := do
  let name ← memDatas[0]?
  match MemKey.ofText name with
  | none => return memInfo
  | some key =>
    let text ← memDatas[1]?
    let value ← stoll text
    return Function.update memInfo key value

/-- The loop of `UpdateOnce` over a file. -/
def readMemInfo (content : List Char) : Option MenInfo :=
  (readLines { rest := content }).foldlM addLine fun _ => 0

/-- `KBToGB`. -/
def kbToGB : ℚ := 1000 * 1000

/-- The message that the numbers are written to. -/
def memDetail (memInfo : MenInfo) : MemInfo where
  total := memInfo .memTotal / kbToGB
  free := memInfo .memFree / kbToGB
  avail := memInfo .memAvailable / kbToGB
  usedPercent := (memInfo .memTotal - memInfo .memAvailable) * 1 / memInfo .memTotal * 100

/-- `UpdateOnce`, given the content of `/proc/meminfo`. -/
def MemMonitor.updateOnce (content : List Char) (monitorInfo : MonitorInfo) : Option MonitorInfo :=
  (readMemInfo content).map fun memInfo =>
    { monitorInfo with memInfo := some (memDetail memInfo) }

/-- The number of a key is that of its line. -/
def KeptFrom (memDatas : List String) (key : MemKey) (memInfo : MenInfo) : Prop :=
  memDatas[1]?.bind stoll = some (memInfo key)

variable {memInfo memInfo' : MenInfo} {memDatas : List String} {key : MemKey}

lemma keptFrom_of_addLine (h : addLine memInfo memDatas = some memInfo')
    (hkey : memDatas.head? = some key.text) : KeptFrom memDatas key memInfo' := by
  obtain ⟨rest, rfl⟩ := List.head?_eq_some_iff.mp hkey
  replace h : ((rest[0]?).bind fun text => (stoll text).bind fun value =>
      some (Function.update memInfo key value)) = some memInfo' := by
    rw [← h]
    show _ = (match MemKey.ofText key.text with
      | none => some memInfo
      | some key => (rest[0]?).bind fun text => (stoll text).bind fun value =>
        some (Function.update memInfo key value))
    rw [MemKey.ofText_text]
  obtain ⟨text, htext, h⟩ := Option.bind_eq_some_iff.mp h
  obtain ⟨value, hvalue, h⟩ := Option.bind_eq_some_iff.mp h
  rw [← Option.some.inj h, KeptFrom, Function.update_self]
  exact Option.bind_eq_some_iff.mpr ⟨text, htext, hvalue⟩

lemma eq_of_addLine (h : addLine memInfo memDatas = some memInfo')
    (hkey : memDatas.head? ≠ some key.text) : memInfo' key = memInfo key := by
  obtain ⟨name, hname, h⟩ := Option.bind_eq_some_iff.mp h
  cases hother : MemKey.ofText name with
  | none =>
    rw [hother] at h
    rw [← Option.some.inj h]
  | some other =>
    have hne : key ≠ other := by
      rintro rfl
      rw [List.head?_eq_getElem?, hname, MemKey.ofText_eq_some_iff.mp hother] at hkey
      exact hkey rfl
    rw [hother] at h
    obtain ⟨text, -, h⟩ := Option.bind_eq_some_iff.mp h
    obtain ⟨value, -, h⟩ := Option.bind_eq_some_iff.mp h
    rw [← Option.some.inj h, Function.update_of_ne hne]

/-- A key that begins one of the lines only has the number of this line.

**Proof sketch.** By induction on the lines from the end: the last line is the one of the key, or
leaves the number as it is. -/
lemma keptFrom_of_foldlM {lines : List (List String)}
    (h : lines.foldlM addLine memInfo = some memInfo') (hmem : memDatas ∈ lines)
    (hkey : memDatas.head? = some key.text)
    (honly : ∀ other ∈ lines, other.head? = some key.text → other = memDatas) :
    KeptFrom memDatas key memInfo' := by
  induction lines using List.reverseRecOn generalizing memInfo' with
  | nil => cases hmem
  | append_singleton lines last ih =>
    rw [List.foldlM_append] at h
    obtain ⟨middle, hlines, hlast⟩ := Option.bind_eq_some_iff.mp h
    have hlast : addLine middle last = some memInfo' := by simpa using hlast
    by_cases hhead : last.head? = some key.text
    · obtain rfl := honly last (by simp) hhead
      exact keptFrom_of_addLine hlast hhead
    · have hin : memDatas ∈ lines := by
        rcases List.mem_append.mp hmem with hin | heq
        · exact hin
        · rw [List.mem_singleton.mp heq] at hkey
          exact absurd hkey hhead
      have hkept := ih hlines hin fun other hother => honly other (List.mem_append_left _ hother)
      rw [KeptFrom, eq_of_addLine hlast hhead]
      exact hkept

/-! ## What `UpdateOnce` sees of a file -/

/-- **Lines are split into their words.** For every content, the calls of `ReadLine` yield one
vector for each line in front of the first empty one, in order. The vector of a line that ends in a
word holds exactly the words of the line, none of them empty, and `UpdateOnce` keeps the number of
every key that begins such a line and no other. At most one more vector is yielded, and only if an
unterminated line follows the lines in front. -/
theorem readLines_tokenises (content : List Char) :
    ∃ entries rest : List (List String),
      readLines { rest := content } = entries ++ rest ∧
        List.Forall₂ (fun line entry =>
          endsInWord line = true → entry = wordsOf line ∧ "" ∉ entry)
          (leadingLines content) entries ∧
        rest.length ≤ 1 ∧
        (rest ≠ [] → ∃ last, last ≠ [] ∧ linesOf content = leadingLines content ++ [last]) ∧
        ∀ memInfo, readMemInfo content = some memInfo →
          ∀ line ∈ leadingLines content, endsInWord line = true →
            ∀ key : MemKey, (wordsOf line).head? = some key.text →
              (∀ other ∈ readLines { rest := content },
                other.head? = some key.text → other = wordsOf line) →
              KeptFrom (wordsOf line) key memInfo := by
  refine ⟨(leadingLines content).map entryOf, [], ?_, ?_, Nat.zero_le _,
    fun h => absurd rfl h, ?_⟩
  · rw [readLines_eq, List.append_nil]
  · rw [List.forall₂_map_right_iff, List.forall₂_same]
    intro line _ hends
    rw [entryOf_of_endsInWord hends]
    exact ⟨rfl, empty_notMem_wordsOf line⟩
  · intro memInfo hread line hline hends key hkey honly
    refine keptFrom_of_foldlM hread ?_ hkey honly
    rw [readLines_eq]
    exact List.mem_map.mpr ⟨line, hline, entryOf_of_endsInWord hends⟩

/-- The second key follows an empty line. The file has two non-empty lines, each a key and its
number; one vector is yielded, and the number of the second key stays zero. -/
theorem key_after_empty_line :
    let content := "MemTotal: 8 kB\n\nMemFree: 3 kB\n".toList
    (nonEmptyLines content).map wordsOf = [["MemTotal:", "8", "kB"], ["MemFree:", "3", "kB"]] ∧
      readLines { rest := content } = [["MemTotal:", "8", "kB"]] ∧
      (readMemInfo content).map (fun memInfo => (memInfo .memTotal, memInfo .memFree)) =
        some (8, 0) := by
  intro content
  have hread : readLines { rest := content } = [["MemTotal:", "8", "kB"]] := by
    rw [readLines_eq]
    decide +kernel
  refine ⟨by decide +kernel, hread, ?_⟩
  rw [readMemInfo, hread]
  decide +kernel

end Monitor
