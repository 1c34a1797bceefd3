import Mathlib.Data.List.Dedup
import Mathlib.Data.List.Perm.Basic
import PerfMonitor.Ranking.Leader

set_option relaxedAutoImplicit false
set_option autoImplicit false

/-!
# The newest sample by its stamp

Rows belong to samples taken at certain times. What is stored of the time is a stamp, and the newest
sample is looked up as the rows with the greatest stamp.

## Main definitions

* `Latest.latest` — the rows with the greatest stamp.
* `Latest.IsNewest` — no row was taken later.
* `Latest.latestPerGroup`, `Latest.OnePerGroup` — the same for the groups of a table, when each is
  to show one row.

## Main results

* `Latest.latest_perm_sample_iff` — when the rows with the greatest stamp are those of a certain
  sample.
* `Latest.onePerGroup_latestPerGroup_iff` — when each group shows one row, the newest.
-/

namespace Latest

variable {α ι δ τ : Type*} [LinearOrder δ] [LinearOrder τ] [DecidableEq ι]

section Lookup

variable (stamp : α → δ) (time : α → τ) (sample : α → ι)

/-- The rows with the greatest stamp. -/
def latest (rows : List α) : List α := rows.filter fun a => ∀ b ∈ rows, stamp b ≤ stamp a

/-- No row was taken later. -/
def IsNewest (rows : List α) (a : α) : Prop := a ∈ rows ∧ ∀ b ∈ rows, time b ≤ time a

variable {stamp time sample} {rows : List α}

lemma mem_latest {a : α} : a ∈ latest stamp rows ↔ a ∈ rows ∧ ∀ b ∈ rows, stamp b ≤ stamp a := by
  simp [latest]

variable (time) in
/-- Some row is the newest. -/
lemma exists_isNewest (hrows : rows ≠ []) : ∃ a, IsNewest time rows a := by
  have hleader : Ranking.leader time rows ≠ none := fun h => hrows (Ranking.leader_eq_none_iff.mp h)
  obtain ⟨a, ha⟩ := Option.ne_none_iff_exists'.mp hleader
  exact ⟨a, Ranking.leader_mem ha, Ranking.value_le_of_leader ha⟩

/-- Rows of one stamp are all shown, or none of them. -/
lemma mem_latest_of_stamp_eq {a b : α} (ha : a ∈ latest stamp rows) (hb : b ∈ rows)
    (hstamp : stamp b = stamp a) : b ∈ latest stamp rows := by
  rw [mem_latest] at ha ⊢
  exact ⟨hb, fun c hc => (ha.2 c hc).trans_eq hstamp.symm⟩

/-- A row that is not shown has a smaller stamp than one that is. -/
lemma stamp_lt_of_notMem {a b : α} (ha : a ∈ latest stamp rows) (hb : b ∈ rows)
    (hnot : b ∉ latest stamp rows) : stamp b < stamp a := by
  refine lt_of_le_of_ne ((mem_latest.mp ha).2 b hb) fun heq => hnot ?_
  exact mem_latest_of_stamp_eq ha hb heq

variable (stamp sample rows) in
/-- **When the rows with the greatest stamp are those of a certain sample.** Exactly when there is
a row of the sample, and its stamp is that of all rows of the sample and greater than those of all
others; or when there are no rows at all.

**Proof sketch.** If the rows shown are those of the sample, they share the greatest stamp and no
other row has it. -/
theorem latest_perm_sample_iff (i : ι) :
    (latest stamp rows).Perm (rows.filter fun b => sample b = i) ↔
      rows = [] ∨ ∃ a ∈ rows, sample a = i ∧ ∀ b ∈ rows,
        (sample b = i → stamp b = stamp a) ∧ (sample b ≠ i → stamp b < stamp a) := by
  constructor
  · intro hshown
    have hmem : ∀ x, x ∈ latest stamp rows ↔ x ∈ rows ∧ sample x = i := by
      intro x
      rw [hshown.mem_iff, List.mem_filter, decide_eq_true_iff]
    refine or_iff_not_imp_left.mpr fun hrows => ?_
    obtain ⟨a, ha, hmax⟩ := exists_isNewest stamp hrows
    have halatest : a ∈ latest stamp rows := mem_latest.mpr ⟨ha, hmax⟩
    refine ⟨a, ha, ((hmem a).mp halatest).2, fun b hb => ⟨fun hsame => ?_, fun hother => ?_⟩⟩
    · have hblatest := (hmem b).mpr ⟨hb, hsame⟩
      exact le_antisymm (hmax b hb) ((mem_latest.mp hblatest).2 a ha)
    · exact stamp_lt_of_notMem halatest hb fun hblatest => hother ((hmem b).mp hblatest).2
  · rintro (rfl | ⟨a, ha, hsample, hstamp⟩)
    · exact List.Perm.refl []
    · refine List.Perm.of_eq (List.filter_congr fun b hb => ?_)
      rw [decide_eq_decide]
      constructor
      · intro hmax
        by_contra hother
        exact absurd (hmax a ha) (not_le.mpr ((hstamp b hb).2 hother))
      · intro hsame c hc
        rw [(hstamp b hb).1 hsame]
        by_cases hc' : sample c = i
        · exact ((hstamp c hc).1 hc').le
        · exact ((hstamp c hc).2 hc').le

end Lookup

/-! ## Groups -/

section Groups

variable {γ : Type*} [DecidableEq γ] (group : α → γ) (stamp : α → δ) (time : α → τ)

/-- The rows with the greatest stamp of their group. -/
def latestPerGroup (rows : List α) : List α :=
  rows.filter fun a => ∀ b ∈ rows, group b = group a → stamp b ≤ stamp a

/-- No row of its group was taken later. -/
def IsNewestOfGroup (rows : List α) (a : α) : Prop :=
  a ∈ rows ∧ ∀ b ∈ rows, group b = group a → time b ≤ time a

/-- Every group shows exactly one row, and it is the newest. -/
structure OnePerGroup (rows shown : List α) : Prop where
  nodup : (shown.map group).Nodup
  covers : ∀ a ∈ rows, ∃ c ∈ shown, group c = group a
  newest : ∀ c ∈ shown, IsNewestOfGroup group time rows c

variable {group stamp time} {rows : List α}

lemma mem_latestPerGroup {a : α} : a ∈ latestPerGroup group stamp rows ↔
    a ∈ rows ∧ ∀ b ∈ rows, group b = group a → stamp b ≤ stamp a := by
  simp [latestPerGroup]

omit [DecidableEq γ] in
lemma OnePerGroup.perm {shown shown' : List α} (h : OnePerGroup group time rows shown)
    (hperm : shown.Perm shown') : OnePerGroup group time rows shown' where
  nodup := ((hperm.map group).nodup_iff).mp h.nodup
  covers a ha := by
    obtain ⟨c, hc, hca⟩ := h.covers a ha
    exact ⟨c, hperm.mem_iff.mp hc, hca⟩
  newest c hc := h.newest c (hperm.mem_iff.mpr hc)

/-- As many rows are shown as there are groups. -/
lemma OnePerGroup.length_eq {shown : List α} (h : OnePerGroup group time rows shown) :
    shown.length = (rows.map group).dedup.length := by
  have hperm : (shown.map group).Perm (rows.map group).dedup := by
    refine (List.perm_ext_iff_of_nodup h.nodup (List.nodup_dedup _)).mpr fun g => ?_
    rw [List.mem_dedup, List.mem_map, List.mem_map]
    constructor
    · rintro ⟨c, hc, rfl⟩
      exact ⟨c, (h.newest c hc).1, rfl⟩
    · rintro ⟨a, ha, rfl⟩
      exact h.covers a ha
  rw [← hperm.length_eq, List.length_map]

variable (group time) in
/-- The group of a row has a newest row. -/
lemma exists_isNewestOfGroup {a : α} (ha : a ∈ rows) :
    ∃ c, IsNewestOfGroup group time rows c ∧ group c = group a := by
  have hne : rows.filter (group · = group a) ≠ [] :=
    List.ne_nil_of_mem (List.mem_filter.mpr ⟨ha, decide_eq_true rfl⟩)
  obtain ⟨c, hc, hmax⟩ := exists_isNewest time hne
  rw [List.mem_filter, decide_eq_true_iff] at hc
  refine ⟨c, ⟨hc.1, fun b hb hgroup => hmax b ?_⟩, hc.2⟩
  exact List.mem_filter.mpr ⟨hb, decide_eq_true (hgroup.trans hc.2)⟩

/-- **When each group shows one row, the newest.** Exactly when the stamp of the newest row of a
group is greater than those of all its other rows.

**Proof sketch.** The newest row of a group and the row shown for it were taken at one time, so they
share a stamp and both are shown: they are the same. A row with the same stamp would be shown
too. -/
theorem onePerGroup_latestPerGroup_iff (hrows : rows.Nodup)
    (hstamp : ∀ a ∈ rows, ∀ b ∈ rows, time a = time b → stamp a = stamp b) :
    OnePerGroup group time rows (latestPerGroup group stamp rows) ↔
      ∀ a, IsNewestOfGroup group time rows a → ∀ b ∈ rows, group b = group a → b ≠ a →
        stamp b < stamp a := by
  constructor
  · intro h a ha b hb hgroup hne
    have hinj := List.inj_on_of_nodup_map h.nodup
    obtain ⟨c, hc, hca⟩ := h.covers a ha.1
    have hcnew := h.newest c hc
    have htime : time a = time c :=
      le_antisymm (hcnew.2 a ha.1 hca.symm) (ha.2 c hcnew.1 hca)
    have hmax : ∀ x ∈ rows, group x = group c → stamp x ≤ stamp a := by
      rw [hstamp a ha.1 c hcnew.1 htime]
      exact (mem_latestPerGroup.mp hc).2
    refine lt_of_le_of_ne (hmax b hb (hgroup.trans hca.symm)) fun heq => hne ?_
    have hmem : ∀ x ∈ rows, group x = group c → stamp x = stamp a →
        x ∈ latestPerGroup group stamp rows := by
      intro x hx hxc hxa
      refine mem_latestPerGroup.mpr ⟨hx, fun y hy hyx => ?_⟩
      rw [hxa]
      exact hmax y hy (hyx.trans hxc)
    exact hinj (hmem b hb (hgroup.trans hca.symm) heq) (hmem a ha.1 hca.symm rfl) hgroup
  · intro h
    -- a row shown is the newest row of its group
    have hshown : ∀ {a c}, IsNewestOfGroup group time rows a →
        c ∈ latestPerGroup group stamp rows → group c = group a → c = a := by
      intro a c ha hc hgroup
      by_contra hne
      obtain ⟨hcrows, hmax⟩ := mem_latestPerGroup.mp hc
      exact absurd (hmax a ha.1 hgroup.symm) (not_le.mpr (h a ha c hcrows hgroup hne))
    refine ⟨?_, fun a ha => ?_, fun c hc => ?_⟩
    · refine List.Nodup.map_on (fun x hx y hy hxy => ?_) (hrows.filter _)
      obtain ⟨a, ha, hax⟩ := exists_isNewestOfGroup group time (mem_latestPerGroup.mp hx).1
      rw [hshown ha hx hax.symm, hshown ha hy (hxy.symm.trans hax.symm)]
    · obtain ⟨c, hc, hca⟩ := exists_isNewestOfGroup group time ha
      refine ⟨c, mem_latestPerGroup.mpr ⟨hc.1, fun b hb hbc => ?_⟩, hca⟩
      by_cases hb' : b = c
      · rw [hb']
      · exact (h c hc b hb hbc hb').le
    · obtain ⟨a, ha, hac⟩ := exists_isNewestOfGroup group time (mem_latestPerGroup.mp hc).1
      rw [hshown ha hc hac.symm]
      exact ha

end Groups

end Latest
