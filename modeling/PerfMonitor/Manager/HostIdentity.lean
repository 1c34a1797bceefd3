import PerfMonitor.Manager.HostManager

set_option relaxedAutoImplicit false
set_option autoImplicit false

/-!
# The identity of a host

`OnDataReceived` files a report under its hostname and IP address joined by an underscore, or under
one of them if the other is empty. Addresses contain no underscore, so two joined names do not
collide; but a bare hostname may look like an address or like a joined name.

## Main definitions

* `Monitor.IsDottedIpv4` — an IPv4 address in dotted notation.
* `Monitor.HostInfo.Collected` — host information as the worker collects it.
* `Monitor.HostInfo.PosesAs` — a bare hostname reads like the name of another host.

## Main results

* `Monitor.HostInfo.Collected.key_eq_iff` — when two hosts share a key.
* `Monitor.hostName_separates_iff` — when the key tells two hosts apart.
* `Monitor.joined_name_collides` — hosts `a_10.0.0.1` and `a` share a key.
-/

namespace Monitor

/-- An IPv4 address in dotted notation, as `inet_ntop` writes it. -/
def IsDottedIpv4 (s : String) : Prop :=
  ∃ a b c d : Fin 256, s = toString a.val ++ "." ++ toString b.val ++ "." ++ toString c.val ++
    "." ++ toString d.val

/-- A string without the separator of joined names. -/
def NoUnderscore (s : String) : Prop := '_' ∉ s.toList

lemma noUnderscore_toString (n : ℕ) : NoUnderscore (toString n) := by
  unfold NoUnderscore
  rw [Nat.toString_eq_repr, Nat.toList_repr]
  exact Nat.underscore_not_in_toDigits

lemma noUnderscore_append {s t : String} (hs : NoUnderscore s) (ht : NoUnderscore t) :
    NoUnderscore (s ++ t) := by
  unfold NoUnderscore at *
  rw [String.toList_append, List.mem_append, not_or]
  exact ⟨hs, ht⟩

lemma IsDottedIpv4.noUnderscore {s : String} (h : IsDottedIpv4 s) : NoUnderscore s := by
  obtain ⟨a, b, c, d, rfl⟩ := h
  have hdot : ∀ {s : String}, NoUnderscore s → ∀ n : ℕ, NoUnderscore (s ++ "." ++ toString n) :=
    fun hs n => noUnderscore_append (noUnderscore_append hs (by unfold NoUnderscore; decide))
      (noUnderscore_toString n)
  exact hdot (hdot (hdot (noUnderscore_toString _) _) _) _

/-- Two texts that end in a separator and a part without one are equal only in both parts. -/
lemma append_cons_inj_of_notMem_right {α : Type} {x y b d : List α} {sep : α} (hb : sep ∉ b)
    (hd : sep ∉ d) (h : x ++ sep :: b = y ++ sep :: d) : x = y ∧ b = d := by
  rcases List.append_eq_append_iff.mp h with ⟨c, rfl, hc⟩ | ⟨c, rfl, hc⟩
  · cases c with
    | nil => exact ⟨(List.append_nil x).symm, (List.cons.inj hc).2⟩
    | cons a c =>
      have hmem : sep ∈ b := by
        rw [(List.cons.inj hc).2]
        exact List.mem_append_right c List.mem_cons_self
      exact absurd hmem hb
  · cases c with
    | nil => exact ⟨List.append_nil y, (List.cons.inj hc).2.symm⟩
    | cons a c =>
      have hmem : sep ∈ d := by
        rw [(List.cons.inj hc).2]
        exact List.mem_append_right c List.mem_cons_self
      exact absurd hmem hd

lemma append_underscore_inj {h₁ h₂ ip₁ ip₂ : String} (hip₁ : NoUnderscore ip₁)
    (hip₂ : NoUnderscore ip₂) (h : h₁ ++ "_" ++ ip₁ = h₂ ++ "_" ++ ip₂) : h₁ = h₂ ∧ ip₁ = ip₂ := by
  have hlist := congrArg String.toList h
  simp only [String.toList_append, List.append_assoc] at hlist
  obtain ⟨hname, hip⟩ := append_cons_inj_of_notMem_right hip₁ hip₂ hlist
  exact ⟨String.toList_injective hname, String.toList_injective hip⟩

/-! ## What the worker collects -/

namespace HostInfo

/-- Host information as `HostInfoMonitor` collects it: the address is a dotted one or empty, and not
both fields are empty. -/
structure Collected (info : HostInfo) : Prop where
  ipAddress : info.ipAddress = "" ∨ IsDottedIpv4 info.ipAddress
  named : info.hostname ≠ "" ∨ info.ipAddress ≠ ""

/-- A host without an address has a hostname that reads like the address of another host, if that
has no hostname, and like the hostname and the address, if it has. -/
def PosesAs (info other : HostInfo) : Prop :=
  info.ipAddress = "" ∧ other.ipAddress ≠ "" ∧
    (other.hostname = "" ∧ info.hostname = other.ipAddress ∨
      other.hostname ≠ "" ∧ info.hostname = other.hostname ++ "_" ++ other.ipAddress)

/-- The key made of the two fields. -/
def key (info : HostInfo) : String :=
  if info.ipAddress = "" then info.hostname
  else if info.hostname = "" then info.ipAddress
  else info.hostname ++ "_" ++ info.ipAddress

variable {a b : HostInfo}

lemma Collected.noUnderscore (ha : a.Collected) : NoUnderscore a.ipAddress := by
  rcases ha.ipAddress with h | h
  · rw [h]
    unfold NoUnderscore
    decide
  · exact h.noUnderscore

lemma Collected.key_ne (ha : a.Collected) : a.key ≠ "" := by
  unfold key
  split_ifs with hip hname
  · exact ha.named.resolve_right (not_not_intro hip)
  · exact hip
  · intro h
    have hlist := congrArg String.toList h
    simp [String.toList_append] at hlist

/-- Two hosts with an address share a key only if they agree in both fields. -/
lemma Collected.eq_of_key_eq (ha : a.Collected) (hb : b.Collected) (hipa : a.ipAddress ≠ "")
    (hipb : b.ipAddress ≠ "") (h : a.key = b.key) : a = b := by
  have hjoined : ∀ {x y : HostInfo}, y.Collected → y.ipAddress ≠ "" →
      x.hostname ++ "_" ++ x.ipAddress ≠ y.ipAddress := by
    intro x y hy hip heq
    refine hy.noUnderscore ?_
    rw [← heq]
    simp [String.toList_append]
  cases a with
  | mk hosta ipa =>
    cases b with
    | mk hostb ipb =>
      unfold key at h
      rw [if_neg hipa, if_neg hipb] at h
      split_ifs at h with hnamea hnameb hnameb
      · dsimp only at *
        rw [hnamea, hnameb, h]
      · exact absurd h.symm (hjoined (x := ⟨hostb, ipb⟩) ha hipa)
      · exact absurd h (hjoined (x := ⟨hosta, ipa⟩) hb hipb)
      · obtain ⟨rfl, rfl⟩ := append_underscore_inj ha.noUnderscore hb.noUnderscore h
        rfl

/-- A host without an address shares a key with one that has an address when it poses as it. -/
lemma key_eq_iff_posesAs (hipa : a.ipAddress = "") (hipb : b.ipAddress ≠ "") :
    a.key = b.key ↔ a.PosesAs b := by
  unfold key PosesAs
  rw [if_pos hipa, if_neg hipb]
  split_ifs with hname
  · simp [hipa, hipb, hname]
  · simp [hipa, hipb, hname]

/-- When two hosts share a key. -/
lemma Collected.key_eq_iff (ha : a.Collected) (hb : b.Collected) :
    a.key = b.key ↔ a = b ∨ a.PosesAs b ∨ b.PosesAs a := by
  constructor
  · intro h
    by_cases hipa : a.ipAddress = "" <;> by_cases hipb : b.ipAddress = ""
    · refine Or.inl ?_
      unfold key at h
      rw [if_pos hipa, if_pos hipb] at h
      cases a with
      | mk hosta ipa =>
        cases b with
        | mk hostb ipb =>
          dsimp only at *
          rw [h, hipa, hipb]
    · exact Or.inr (Or.inl ((key_eq_iff_posesAs hipa hipb).mp h))
    · exact Or.inr (Or.inr ((key_eq_iff_posesAs hipb hipa).mp h.symm))
    · exact Or.inl (ha.eq_of_key_eq hb hipa hipb h)
  · rintro (rfl | h | h)
    · rfl
    · exact (key_eq_iff_posesAs h.1 h.2.1).mpr h
    · exact ((key_eq_iff_posesAs h.1 h.2.1).mpr h).symm

end HostInfo

/-! ## The key of a report -/

/-- A report with collected host information is filed under its key. -/
lemma hostName_eq_key {info : MonitorInfo} {host : HostInfo} (hinfo : info.hostInfo = some host)
    (hhost : host.Collected) : hostName info = host.key := by
  have hne := hhost.key_ne
  unfold hostName
  rw [hinfo]
  dsimp only
  have hkey : (if host.hostname ≠ "" ∧ host.ipAddress ≠ "" then
        host.hostname ++ "_" ++ host.ipAddress
      else if host.hostname ≠ "" then host.hostname
      else if host.ipAddress ≠ "" then host.ipAddress
      else "") = host.key := by
    unfold HostInfo.key
    by_cases hname : host.hostname = "" <;> by_cases hip : host.ipAddress = "" <;>
      simp [hname, hip]
  rw [hkey, if_neg hne]

variable {a b : MonitorInfo} {x y : HostInfo}

/-- **When the key tells two hosts apart.** For any two reports with collected host information, to
be filed under the same key takes the same hostname and the same address if and only if neither
host poses as the other.

**Proof sketch.** Addresses contain no underscore, so a joined name gives back its parts and is no
address. What is left is a bare hostname against the name of a host with an address. -/
theorem hostName_separates_iff (ha : a.hostInfo = some x) (hb : b.hostInfo = some y)
    (hx : x.Collected) (hy : y.Collected) :
    (hostName a = hostName b → x.hostname = y.hostname ∧ x.ipAddress = y.ipAddress) ↔
      ¬ x.PosesAs y ∧ ¬ y.PosesAs x := by
  rw [hostName_eq_key ha hx, hostName_eq_key hb hy, hx.key_eq_iff hy]
  constructor
  · intro h
    refine ⟨fun hpose => ?_, fun hpose => ?_⟩
    · have hip := (h (Or.inr (Or.inl hpose))).2
      exact hpose.2.1 (hip ▸ hpose.1)
    · have hip := (h (Or.inr (Or.inr hpose))).2
      exact hpose.2.1 (hip.symm ▸ hpose.1)
  · rintro ⟨hxy, hyx⟩ (rfl | hpose | hpose)
    · exact ⟨rfl, rfl⟩
    · exact absurd hpose hxy
    · exact absurd hpose hyx

lemma isDottedIpv4_ten : IsDottedIpv4 "10.0.0.1" := ⟨10, 0, 0, 1, rfl⟩

/-- Hosts with different names on one address: neither poses as the other, so they are told
apart. -/
theorem hostName_separates_two :
    (hostName { hostInfo := some ⟨"a", "10.0.0.1"⟩ } =
        hostName { hostInfo := some ⟨"b", "10.0.0.1"⟩ } →
      "a" = "b" ∧ "10.0.0.1" = "10.0.0.1") ↔
      ¬ HostInfo.PosesAs ⟨"a", "10.0.0.1"⟩ ⟨"b", "10.0.0.1"⟩ ∧
        ¬ HostInfo.PosesAs ⟨"b", "10.0.0.1"⟩ ⟨"a", "10.0.0.1"⟩ :=
  hostName_separates_iff (a := { hostInfo := some ⟨"a", "10.0.0.1"⟩ })
    (b := { hostInfo := some ⟨"b", "10.0.0.1"⟩ }) rfl rfl
    ⟨Or.inr isDottedIpv4_ten, Or.inl (by decide)⟩
    ⟨Or.inr isDottedIpv4_ten, Or.inl (by decide)⟩

/-- Host `a_10.0.0.1` without an address and host `a` at `10.0.0.1` are filed under one key, and so
are host `10.0.0.1` without an address and the host at `10.0.0.1` without a name. -/
theorem joined_name_collides :
    hostName { hostInfo := some ⟨"a_10.0.0.1", ""⟩ } =
        hostName { hostInfo := some ⟨"a", "10.0.0.1"⟩ } ∧
      hostName { hostInfo := some ⟨"10.0.0.1", ""⟩ } =
        hostName { hostInfo := some ⟨"", "10.0.0.1"⟩ } ∧
      IsDottedIpv4 "10.0.0.1" ∧ "a_10.0.0.1" ≠ "a" :=
  ⟨by decide, by decide, isDottedIpv4_ten, by decide⟩

end Monitor
