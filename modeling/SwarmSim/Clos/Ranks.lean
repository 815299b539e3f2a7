import SwarmSim.Clos.Placement

namespace SwarmSim.Clos

namespace TopologyDescriptor

structure Placed (p : TopologyDescriptor) (m : MpiParams) : Prop where
  cores : ∃ ids, p.createCoreMPI m = .ok ids ∧ ∀ id ∈ ids, id < m.systemCount
  pods : ∃ s, p.createPodMPI m = .ok s ∧
    (∀ ids ∈ s.aggSwitches, ∀ id ∈ ids, id < m.systemCount) ∧
    ∀ ids ∈ s.edgeSwitches, ∀ id ∈ ids, id < m.systemCount
  servers : ∃ s, p.createServers m.podProcs = .ok s ∧
    ∀ tor n id, s.servers tor = some (n, id) → n ≠ 0 → id < m.systemCount

def stepOf (p : TopologyDescriptor) (procs : ℕ) : ℕ :=
  if p.h * p.numPods / procs = 0 then 1 else p.h * p.numPods / procs

def lastCounter (p : TopologyDescriptor) : ℕ :=
  if 2 ≤ p.numPods ∧ 2 ≤ p.h then p.h * p.numPods - 2 else p.h * p.numPods - 1

/-- No division by zero, a rank for the cores that are offloaded, and no rounding past the last
rank. -/
structure RanksSuffice (p : TopologyDescriptor) (m : MpiParams) : Prop where
  podProcs : m.podProcs ≠ 0
  halves : m.offloadAggs = true → 2 ≤ m.podProcs
  coreRank : m.offloadCore = true → m.podProcs < m.systemCount
  servers : p.h * p.numPods ≠ 0 → p.numServers ≠ 0 →
    (p.h * p.numPods - 1) / p.stepOf m.podProcs < m.systemCount
  together : m.offloadAggs = false → p.h * p.numPods ≠ 0 →
    (p.h * p.numPods - 1) / p.stepOf m.podProcs < m.systemCount
  apart : m.offloadAggs = true → p.h * p.numPods ≠ 0 →
    p.lastCounter / p.stepOf (m.podProcs / 2) + m.podProcs / 2 < m.systemCount

section Placing

variable {p : TopologyDescriptor} {m : MpiParams} {procs i j : ℕ}

lemma sysIdStep_eq (h : procs ≠ 0) : p.sysIdStep procs = .ok (p.stepOf procs) := if_neg h

lemma stepOf_pos : 0 < p.stepOf procs := by
  unfold stepOf
  split_ifs with h
  · exact Nat.one_pos
  · exact Nat.pos_of_ne_zero h

lemma counter_lt (hi : i < p.numPods) (hj : j < p.h) : i * p.h + j < p.h * p.numPods := by
  calc i * p.h + j < i * p.h + p.h := by omega
    _ = (i + 1) * p.h := by ring
    _ ≤ p.numPods * p.h := Nat.mul_le_mul_right p.h hi
    _ = p.h * p.numPods := Nat.mul_comm _ _

lemma last_counter (h : p.h * p.numPods ≠ 0) :
    (p.numPods - 1) * p.h + (p.h - 1) = p.h * p.numPods - 1 ∧ p.numPods - 1 < p.numPods ∧
      p.h - 1 < p.h := by
  obtain ⟨hh, hpods⟩ := mul_ne_zero_iff.mp h
  obtain ⟨n, hn⟩ := Nat.exists_eq_succ_of_ne_zero hpods
  obtain ⟨k, hk⟩ := Nat.exists_eq_succ_of_ne_zero hh
  refine ⟨?_, by omega, by omega⟩
  rw [hn, hk]
  simp only [Nat.succ_sub_one]
  have hmul : (k + 1) * (n + 1) = n * (k + 1) + k + 1 := by ring
  simp only [Nat.succ_eq_add_one, hmul]
  omega

lemma createCore_placed : (∃ ids, p.createCoreMPI m = .ok ids ∧ ∀ id ∈ ids, id < m.systemCount) ↔
    (m.offloadCore = true → m.podProcs < m.systemCount) := by
  have hranks := m.ranks
  unfold createCoreMPI
  cases hc : m.offloadCore with
  | false =>
    refine iff_of_true ⟨_, rfl, fun id hid => ?_⟩ (by simp)
    obtain ⟨i, -, rfl⟩ := List.mem_map.mp hid
    exact Nat.mod_lt _ hranks
  | true =>
    by_cases hlt : m.systemCount > m.podProcs
    · refine iff_of_true ⟨_, if_neg (not_not.mpr hlt), fun id hid => ?_⟩ fun _ => hlt
      obtain ⟨i, -, rfl⟩ := List.mem_map.mp hid
      split_ifs
      · exact hranks
      · have hmod := Nat.mod_lt i (by omega : 0 < m.systemCount - m.podProcs)
        omega
    · refine iff_of_false ?_ fun h => hlt (h rfl)
      rintro ⟨ids, hids, -⟩
      simp [hlt] at hids

lemma createServers_placed : (∃ s, p.createServers m.podProcs = .ok s ∧
      ∀ tor n id, s.servers tor = some (n, id) → n ≠ 0 → id < m.systemCount) ↔
    m.podProcs ≠ 0 ∧ (p.h * p.numPods ≠ 0 → p.numServers ≠ 0 →
      (p.h * p.numPods - 1) / p.stepOf m.podProcs < m.systemCount) := by
  by_cases hzero : m.podProcs = 0
  · refine iff_of_false ?_ fun h => h.1 hzero
    rintro ⟨s, hs, -⟩
    rw [createServers, hzero] at hs
    cases hs
  rw [createServers, sysIdStep_eq hzero]
  have hall := (@createServersWith_upto p (p.stepOf m.podProcs)).servers
  constructor
  · rintro ⟨s, hs, hids⟩
    obtain rfl := Except.ok.inj hs
    refine ⟨hzero, fun hne hn => hids (p.h * p.numPods - 1) p.numServers _ ?_ hn⟩
    rw [hall, if_pos]
    rw [Nat.mul_comm p.numPods]
    omega
  · rintro ⟨-, hlast⟩
    refine ⟨_, rfl, fun tor n id hid hn => ?_⟩
    rw [hall] at hid
    split_ifs at hid with htor
    obtain ⟨rfl, rfl⟩ := Prod.mk.inj (Option.some.inj hid)
    rw [Nat.mul_comm] at htor
    refine lt_of_le_of_lt (Nat.div_le_div_right ?_) (hlast (by omega) hn)
    omega

lemma podCounter_le (ho : m.offloadAggs = true) (hi : i < p.numPods) (hj : j < p.h)
    (hskip : ¬(i = 1 ∧ j = 1)) : p.podCounter m i j ≤ p.lastCounter := by
  have hlt := counter_lt hi hj
  unfold podCounter lastCounter
  simp only [ho, true_and]
  split_ifs with hpast htwo htwo
  · omega
  · omega
  · have hmul : p.h * 2 ≤ p.h * p.numPods := Nat.mul_le_mul_left p.h htwo.1
    rcases Nat.lt_trichotomy i 1 with hi' | rfl | hi'
    · obtain rfl : i = 0 := by omega
      omega
    · obtain rfl : j = 0 := by omega
      omega
    · exact absurd (Or.inl ⟨hi', htwo.2⟩) hpast
  · omega

lemma podCounter_last (ho : m.offloadAggs = true) (hne : p.h * p.numPods ≠ 0) :
    ∃ i < p.numPods, ∃ j < p.h, ¬(i = 1 ∧ j = 1) ∧ p.podCounter m i j = p.lastCounter := by
  obtain ⟨hlast, hpods, hh⟩ := last_counter hne
  unfold podCounter lastCounter
  simp only [ho, true_and]
  by_cases htwo : 2 ≤ p.numPods ∧ 2 ≤ p.h
  · by_cases hfour : p.numPods = 2 ∧ p.h = 2
    · refine ⟨1, by omega, 0, by omega, by omega, ?_⟩
      rw [hfour.1, hfour.2]
      rfl
    · refine ⟨p.numPods - 1, hpods, p.h - 1, hh, by omega, ?_⟩
      rw [hlast, if_pos htwo, if_pos (by omega), Nat.sub_sub]
  · refine ⟨p.numPods - 1, hpods, p.h - 1, hh, by omega, ?_⟩
    rw [hlast, if_neg htwo, if_neg (by omega), Nat.sub_zero]

lemma podCounter_skipped (hi : i < p.numPods) (hj : j < p.h) (hskip : i = 1 ∧ j = 1) :
    p.podCounter m i j ≤ p.lastCounter + 1 := by
  obtain ⟨rfl, rfl⟩ := hskip
  have hmul : p.h * 2 ≤ p.h * p.numPods := Nat.mul_le_mul_left p.h (by omega)
  rw [podCounter, lastCounter, if_pos (⟨by omega, by omega⟩ : 2 ≤ p.numPods ∧ 2 ≤ p.h)]
  omega

lemma podIds_lt {step S : ℕ} (hstep : 0 < step) (hhalf : m.offloadAggs = true → 2 ≤ m.podProcs) :
    (∀ i < p.numPods, ∀ j < p.h, p.aggId m step i j < S ∧ p.edgeId m step i j < S) ↔
      (m.offloadAggs = false → p.h * p.numPods ≠ 0 → (p.h * p.numPods - 1) / step < S) ∧
      (m.offloadAggs = true → p.h * p.numPods ≠ 0 → p.lastCounter / step + m.podProcs / 2 < S) := by
  cases ho : m.offloadAggs with
  | false =>
    simp only [aggId, edgeId, podCounter, ho, Bool.false_eq_true, false_and, if_false, Nat.sub_zero,
      Nat.add_zero, and_self, false_implies, and_true, true_implies]
    constructor
    · intro h hne
      obtain ⟨hlast, hpods, hh⟩ := last_counter hne
      rw [← hlast]
      exact h _ hpods _ hh
    · intro h i hi j hj
      have hlt := counter_lt hi hj
      exact lt_of_le_of_lt (Nat.div_le_div_right (by omega)) (h (by omega))
  | true =>
    simp only [Bool.true_eq_false, false_implies, true_implies, true_and]
    constructor
    · intro h hne
      obtain ⟨i, hi, j, hj, hskip, hcounter⟩ := podCounter_last ho hne
      have hagg := (h i hi j hj).1
      rwa [aggId, hcounter, if_pos ⟨ho, hskip⟩] at hagg
    · intro h i hi j hj
      have hlt := counter_lt hi hj
      have hbound := h (by omega)
      by_cases hskip : i = 1 ∧ j = 1
      · -- passed over: one behind the last counter at most, and not moved to the other half
        have hcounter : p.podCounter m i j ≤ p.lastCounter + 1 := podCounter_skipped hi hj hskip
        have hdiv : p.podCounter m i j / step ≤ p.lastCounter / step + 1 := by
          calc p.podCounter m i j / step ≤ (p.lastCounter + step) / step :=
                Nat.div_le_div_right (by omega)
            _ = p.lastCounter / step + 1 := Nat.add_div_right _ hstep
        have hprocs := hhalf ho
        rw [aggId, edgeId, if_neg fun hc => hc.2 hskip]
        omega
      · have hdiv := Nat.div_le_div_right (c := step) (podCounter_le ho hi hj hskip)
        rw [aggId, edgeId, if_pos ⟨ho, hskip⟩]
        omega

lemma createPods_placed : (∃ s, p.createPodMPI m = .ok s ∧
      (∀ ids ∈ s.aggSwitches, ∀ id ∈ ids, id < m.systemCount) ∧
      ∀ ids ∈ s.edgeSwitches, ∀ id ∈ ids, id < m.systemCount) ↔
    (if m.offloadAggs then m.podProcs / 2 else m.podProcs) ≠ 0 ∧
      ∀ i < p.numPods, ∀ j < p.h,
        p.aggId m (p.stepOf (if m.offloadAggs then m.podProcs / 2 else m.podProcs)) i j < m.systemCount ∧
        p.edgeId m (p.stepOf (if m.offloadAggs then m.podProcs / 2 else m.podProcs)) i j <
          m.systemCount := by
  unfold createPodMPI
  generalize (if m.offloadAggs = true then m.podProcs / 2 else m.podProcs) = procs
  by_cases hzero : procs = 0
  · refine iff_of_false ?_ fun h => h.1 hzero
    rintro ⟨s, hs, -⟩
    rw [hzero] at hs
    cases hs
  rw [sysIdStep_eq hzero]
  have hmem : ∀ f : ℕ → ℕ → ℕ,
      (∀ ids ∈ (List.range p.numPods).map (fun i => (List.range p.h).map (f i)), ∀ id ∈ ids,
        id < m.systemCount) ↔ ∀ i < p.numPods, ∀ j < p.h, f i j < m.systemCount := by
    intro f
    simp only [List.forall_mem_map, List.mem_range]
  constructor
  · rintro ⟨s, hs, haggs, hedges⟩
    obtain rfl := Except.ok.inj hs
    rw [createPods_eq] at haggs hedges
    exact ⟨hzero, fun i hi j hj => ⟨(hmem _).mp haggs i hi j hj, (hmem _).mp hedges i hi j hj⟩⟩
  · rintro ⟨-, hids⟩
    refine ⟨_, rfl, ?_⟩
    rw [createPods_eq]
    exact ⟨(hmem _).mpr fun i hi j hj => (hids i hi j hj).1,
      (hmem _).mpr fun i hi j hj => (hids i hi j hj).2⟩

/-- Every node belongs to an existing rank exactly if the ranks suffice for these parameters. -/
theorem placed_iff (p : TopologyDescriptor) (m : MpiParams) : p.Placed m ↔ p.RanksSuffice m := by
  have hsplit : p.Placed m ↔ (m.offloadCore = true → m.podProcs < m.systemCount) ∧
      ((if m.offloadAggs then m.podProcs / 2 else m.podProcs) ≠ 0 ∧ ∀ i < p.numPods, ∀ j < p.h,
        p.aggId m (p.stepOf (if m.offloadAggs then m.podProcs / 2 else m.podProcs)) i j < m.systemCount ∧
        p.edgeId m (p.stepOf (if m.offloadAggs then m.podProcs / 2 else m.podProcs)) i j <
          m.systemCount) ∧
      (m.podProcs ≠ 0 ∧ (p.h * p.numPods ≠ 0 → p.numServers ≠ 0 →
        (p.h * p.numPods - 1) / p.stepOf m.podProcs < m.systemCount)) := by
    rw [← createCore_placed, ← createPods_placed, ← createServers_placed]
    exact ⟨fun h => ⟨h.cores, h.pods, h.servers⟩, fun h => ⟨h.1, h.2.1, h.2.2⟩⟩
  have hhalf : (if m.offloadAggs then m.podProcs / 2 else m.podProcs) ≠ 0 →
      m.offloadAggs = true → 2 ≤ m.podProcs := by
    intro h ho
    rw [if_pos ho] at h
    omega
  rw [hsplit]
  constructor
  · rintro ⟨hcore, ⟨hprocs, hids⟩, hzero, hservers⟩
    rw [podIds_lt stepOf_pos (hhalf hprocs)] at hids
    refine ⟨hzero, hhalf hprocs, hcore, hservers, fun ho => ?_, fun ho => ?_⟩
    · have htogether := hids.1 ho
      simpa only [ho, Bool.false_eq_true, if_false] using htogether
    · have hapart := hids.2 ho
      simpa only [ho, if_true] using hapart
  · intro h
    have hprocs : (if m.offloadAggs then m.podProcs / 2 else m.podProcs) ≠ 0 := by
      split_ifs with ho
      · have hle := h.halves ho
        omega
      · exact h.podProcs
    refine ⟨h.coreRank, ⟨hprocs, ?_⟩, h.podProcs, h.servers⟩
    rw [podIds_lt stepOf_pos h.halves]
    refine ⟨fun ho => ?_, fun ho => ?_⟩
    · simpa only [ho, Bool.false_eq_true, if_false] using h.together ho
    · simpa only [ho, if_true] using h.apart ho

end Placing

def fourPods : TopologyDescriptor := ⟨4, 2, 4, false⟩

def threeRanks : MpiParams := ⟨3, 3, false, false, 3, by decide⟩

theorem placed_threeRanks : threeRanks.Accepts fourPods ∧
    (∃ s, fourPods.createPodMPI threeRanks = .ok s ∧
      s.edgeSwitches = [[0, 0], [1, 1], [2, 2], [3, 3]]) ∧
    ¬fourPods.Placed threeRanks := by
  refine ⟨by decide, ⟨_, rfl, by decide⟩, fun h => ?_⟩
  obtain ⟨s, hs, -, hedges⟩ := h.pods
  obtain rfl := Except.ok.inj hs
  exact absurd (hedges [3, 3] (by decide) 3 (by decide)) (by decide)

end TopologyDescriptor

end SwarmSim.Clos
