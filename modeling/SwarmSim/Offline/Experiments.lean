import Mathlib.Data.Multiset.Bind
import SwarmSim.Machine.Share
import SwarmSim.Offline.ReadAllCsv

namespace SwarmSim.Offline

open Machine

section Tables

variable {κ α β γ : Type} [DecidableEq κ] {pick : ℕ → Bool} {key : β → κ} {run : β → List α}
  {inputs : List β} {n : ℕ}

def Results.cells (t : Results κ α) : List (κ × α) := t.entries.flatMap fun e => e.2.map (Prod.mk e.1)

def cellsOf (key : β → κ) (run : β → List α) (x : β) : List (κ × α) := (run x).map (Prod.mk (key x))

lemma mem_experiments {k : κ} (h : k ∈ (experiments pick key run inputs).2) : k ∈ inputs.map key := by
  induction inputs using List.reverseRecOn with
  | nil => exact absurd h (AList.notMem_empty k)
  | append_singleton inputs x ih =>
    rw [experiments_concat] at h
    rw [List.map_append, List.mem_append, List.map_singleton, List.mem_singleton]
    dsimp only at h
    split at h
    · rcases (AList.mem_insert _).mp h with rfl | h
      · exact Or.inr rfl
      · exact Or.inl (ih h)
    · exact Or.inl (ih h)

lemma cells_experiments (h : (inputs.map key).Nodup) : (experiments pick key run inputs).2.cells.Perm
    ((inputs.zipIdx.filter fun x => pick x.2).flatMap fun x => cellsOf key run x.1) := by
  induction inputs using List.reverseRecOn with
  | nil => exact List.Perm.refl _
  | append_singleton inputs x ih =>
    rw [List.map_append, List.nodup_append] at h
    obtain ⟨hinputs, -, hfresh⟩ := h
    have hnew : key x ∉ (experiments pick key run inputs).2 := fun hmem =>
      hfresh _ (mem_experiments hmem) _ (List.mem_singleton.mpr rfl) rfl
    rw [experiments_concat, experiments_counter, List.zipIdx_append, List.filter_append,
      List.flatMap_append, List.zipIdx_singleton, Nat.zero_add, List.filter_singleton]
    dsimp only
    split
    · rename_i hpick
      rw [Results.cells, AList.entries_insert_of_notMem hnew, List.flatMap_cons, hpick,
        cond_true, List.flatMap_singleton]
      exact (List.perm_append_comm.trans ((ih hinputs).append_right _))
    · rename_i hpick
      rw [Bool.eq_false_iff.mpr hpick, cond_false, List.flatMap_nil, List.append_nil]
      exact ih hinputs

lemma flatMap_swap (l : List β) (l' : List γ) (f : β → γ → List α) :
    (l.flatMap fun x => l'.flatMap fun y => f x y).Perm (l'.flatMap fun y => l.flatMap fun x => f x y) := by
  have hswap := Multiset.bind_bind (l : Multiset β) (l' : Multiset γ) (f := fun x y => (f x y : Multiset α))
  simpa only [Multiset.coe_bind, Multiset.coe_eq_coe] using hswap

lemma flatMap_zipIdx (l : List β) (f : β → List α) : (l.zipIdx.flatMap fun x => f x.1) = l.flatMap f := by
  rw [← List.flatMap_map, List.zipIdx_map_fst]

lemma cells_scenarios_shared (h : (inputs.map key).Nodup) (hn : 1 ≤ n) (limit : ℕ → Bool)
    (run : ℕ → β → List α) :
    ((List.range n).flatMap fun i =>
      (experiments (fun k => decide (k % n = i) && limit k) key (run i) inputs).2.cells).Perm
    ((inputs.zipIdx.filter fun x => limit x.2).flatMap fun x => cellsOf key (run (x.2 % n)) x.1) := by
  have hrank : ∀ i, (experiments (fun k => decide (k % n = i) && limit k) key (run i) inputs).2.cells.Perm
      ((sharedTo (fun x : β × ℕ => x.2 % n) i (inputs.zipIdx.filter fun x => limit x.2)).flatMap fun x =>
        cellsOf key (run (x.2 % n)) x.1) := by
    intro i
    apply (cells_experiments h).trans
    rw [sharedTo, List.filter_filter]
    apply List.Perm.of_eq
    apply List.flatMap_congr
    intro x hx
    obtain ⟨-, hpick⟩ := List.mem_filter.mp hx
    rw [Bool.and_eq_true, decide_eq_true_eq] at hpick
    rw [hpick.1]
  apply (List.Perm.flatMap_left _ fun i _ => hrank i).trans
  rw [← List.flatMap_assoc]
  exact (shares_perm fun x _ => Nat.mod_lt _ hn).flatMap_right _

lemma cells_repetitions_shared (h : (inputs.map key).Nodup) (hn : 1 ≤ n) (pick : ℕ → Bool) (repeats : ℕ)
    (run : ℕ → β → ℕ → List α) :
    ((List.range n).flatMap fun i => (experiments pick key (fun x =>
      ((List.range repeats).filter fun j => decide (j % n = i)).flatMap (run i x)) inputs).2.cells).Perm
    ((inputs.zipIdx.filter fun x => pick x.2).flatMap fun x =>
      (List.range repeats).flatMap fun j => (run (j % n) x.1 j).map (Prod.mk (key x.1))) := by
  apply (List.Perm.flatMap_left _ fun i _ => cells_experiments h).trans
  apply (flatMap_swap _ _ _).trans
  apply List.Perm.flatMap_left
  intro x _
  have hrank : ∀ i, cellsOf key (fun x => ((List.range repeats).filter fun j =>
      decide (j % n = i)).flatMap (run i x)) x.1 = (sharedTo (· % n) i (List.range repeats)).flatMap
        fun j => (run (j % n) x.1 j).map (Prod.mk (key x.1)) := by
    intro i
    rw [cellsOf, List.map_flatMap, sharedTo]
    apply List.flatMap_congr
    intro j hj
    rw [of_decide_eq_true (List.mem_filter.mp hj).2]
  simp only [hrank]
  rw [← List.flatMap_assoc]
  exact (shares_perm fun j _ => Nat.mod_lt _ hn).flatMap_right _

end Tables

section Tests

variable {n : ℕ}

lemma inputPacketDrops_nodup : inputPacketDrops.Nodup := by decide +kernel

lemma inputUtilizations_nodup : inputUtilizations.Nodup := by decide +kernel

lemma scenarioN_injective : Function.Injective Process.scenarioN := by
  intro i j h
  have hval : ∀ i, Process.scenarioN i = 225 * i + 1000 := fun _ => rfl
  rw [hval, hval] at h
  omega

lemma throughputKeys_nodup : ((inputPacketDrops ×ˢ inputRtts).map toLex).Nodup :=
  (inputPacketDrops_nodup.product (by decide)).map toLex.injective

lemma rttKeys_nodup : ((inputPacketDrops ×ˢ (inputRtts ×ˢ inputFlowSizes)).map fun x =>
    toLex (x.1, toLex x.2)).Nodup := by
  apply (inputPacketDrops_nodup.product (List.Nodup.product (by decide) (by decide))).map
  intro x y h
  have hpair := toLex.injective h
  exact Prod.ext (congrArg Prod.fst hpair) (toLex.injective (congrArg Prod.snd hpair))

lemma delayKeys_nodup : ((inputUtilizations ×ˢ List.range numN).map fun x =>
    toLex (Process.scenarioN x.2, x.1)).Nodup := by
  apply (inputUtilizations_nodup.product List.nodup_range).map
  intro x y h
  have hpair := toLex.injective h
  exact Prod.ext (congrArg Prod.snd hpair) (scenarioN_injective (congrArg Prod.fst hpair))

lemma throughputs_rank (hn : 1 ≤ n) (m : ℕ → Measurements) (u : ℕ) :
    ((List.range n).flatMap fun i => ((rank n u i).throughputs (m i)).cells).Perm
    ((sharedTo Prod.snd u (inputPacketDrops ×ˢ inputRtts).zipIdx).flatMap fun x =>
      (List.range numberOfExperimentRepeatsLong).map fun j =>
        (toLex x.1, (m (j % n)).throughput x.1.1 x.1.2 j)) := by
  have hshared := cells_repetitions_shared throughputKeys_nodup hn (fun k => decide (k = u))
    numberOfExperimentRepeatsLong fun i x j => [(m i).throughput x.1 x.2 j]
  simp only [← List.map_eq_flatMap, List.map_singleton] at hshared
  exact hshared

/-- All the ranks of all users measure every repetition of every experiment once: the throughputs in
the process of the user whose id is the number of the experiment, the delays up to the number that is
the id of the user. The script that puts the tables together leaves out the rows of rank 0. -/
theorem experiments_shared (hn : 1 ≤ n) (m : ℕ → ℕ → Measurements) (userId : ℕ) :
    ((List.range 12).flatMap fun u => (List.range n).flatMap fun i =>
        ((rank n u i).throughputs (m u i)).cells).Perm
      ((inputPacketDrops ×ˢ inputRtts).zipIdx.flatMap fun x =>
        (List.range numberOfExperimentRepeatsLong).map fun j =>
          (toLex x.1, (m x.2 (j % n)).throughput x.1.1 x.1.2 j)) ∧
    ((List.range n).flatMap fun i => ((rank n userId i).rttCounts (m userId i)).cells).Perm
      ((inputPacketDrops ×ˢ (inputRtts ×ˢ inputFlowSizes)).flatMap fun x =>
        (List.range numberOfExperimentRepeatsShort).flatMap fun j =>
          ((m userId (j % n)).rttCounts x.1 x.2.1 x.2.2 j).map (Prod.mk (toLex (x.1, toLex x.2)))) ∧
    ((List.range n).flatMap fun i => ((rank n userId i).queueDelays (m userId i)).cells).Perm
      (((inputUtilizations ×ˢ List.range numN).zipIdx.filter fun x => !decide (userId < x.2)).flatMap
        fun x => ((m userId (x.2 % n)).delays (Process.scenarioN x.1.2)
          (Process.getMFromN (Process.scenarioN x.1.2) x.1.1)).map
            (Prod.mk (toLex (Process.scenarioN x.1.2, x.1.1)))) ∧
    ∀ (t : DoubleText) (dir : List Char) (files : List Char → Option (List Char)) (order : List ℕ),
      (∀ i < n, i ∈ order) →
      (MergesAll (runTest dir tpStem n userId (fun i => doTpTest t (m userId i)) order files)
        ⟨dir, tpStem, n⟩ tpHeader (fun i => tpRows t (m userId i) (rank n userId i)) ↔ 12 ≤ userId) ∧
      ¬ MergesAll (runTest dir rttStem n userId (fun i => doRttTest t (m userId i)) order files)
        ⟨dir, rttStem, n⟩ rttHeader (fun i => rttRows t (m userId i) (rank n userId i)) ∧
      ¬ MergesAll (runTest dir delayStem n userId (fun i => doDelayTest t (m userId i)) order files)
        ⟨dir, delayStem, n⟩ delayHeader (fun i => delayRows t (m userId i) (rank n userId i)) := by
  refine ⟨?_, ?_, ?_, ?_⟩
  · have howner : ∀ x ∈ (inputPacketDrops ×ˢ inputRtts).zipIdx, x.2 < 12 := by
      intro x hx
      have hlt := (List.mem_zipIdx hx).2.1
      exact hlt
    have husers := List.Perm.flatMap_left (List.range 12) fun u _ => throughputs_rank hn (m u) u
    apply husers.trans
    have hown : ∀ u, (sharedTo Prod.snd u (inputPacketDrops ×ˢ inputRtts).zipIdx).flatMap (fun x =>
        (List.range numberOfExperimentRepeatsLong).map fun j =>
          (toLex x.1, (m u (j % n)).throughput x.1.1 x.1.2 j)) =
        (sharedTo Prod.snd u (inputPacketDrops ×ˢ inputRtts).zipIdx).flatMap (fun x =>
        (List.range numberOfExperimentRepeatsLong).map fun j =>
          (toLex x.1, (m x.2 (j % n)).throughput x.1.1 x.1.2 j)) := by
      intro u
      apply List.flatMap_congr
      intro x hx
      rw [(mem_sharedTo.mp hx).2]
    simp only [hown]
    rw [← List.flatMap_assoc]
    exact (shares_perm howner).flatMap_right _
  · have hshared := cells_repetitions_shared rttKeys_nodup hn (fun _ => true)
      numberOfExperimentRepeatsShort fun i x j => (m userId i).rttCounts x.1 x.2.1 x.2.2 j
    rw [List.filter_true] at hshared
    apply hshared.trans
    exact List.Perm.of_eq (flatMap_zipIdx _ fun x : ℚ × ℕ × ℕ =>
      (List.range numberOfExperimentRepeatsShort).flatMap fun j =>
        ((m userId (j % n)).rttCounts x.1 x.2.1 x.2.2 j).map (Prod.mk (toLex (x.1, toLex x.2))))
  · exact cells_scenarios_shared delayKeys_nodup hn (fun k => !decide (userId < k)) fun i x =>
      (m userId i).delays (Process.scenarioN x.2) (Process.getMFromN (Process.scenarioN x.2) x.1)
  · intro t dir files order horder
    exact ⟨throughputs_mergesAll_iff t (m userId) hn horder, rtts_not_mergesAll t (m userId) hn horder,
      delays_not_mergesAll t (m userId) hn horder⟩

def echoed : Measurements := ⟨fun _ _ j => j, fun _ _ _ j => [j], fun n m => [n, m]⟩

/-- As `std::ofstream` prints the utilizations, which have two places at most. -/
def twoPlaces : DoubleText where
  text q :=
    let n := ⌊100 * q + 1 / 2⌋₊
    digits (n / 100) ++ if n % 100 = 0 then [] else
      '.' :: (digits (n / 10 % 10) ++ if n % 10 = 0 then [] else digits (n % 10))
  line q := by
    dsimp only
    apply IsLine.append (isLine_digits _)
    split_ifs
    · exact List.forall_mem_nil _
    · exact List.forall_mem_cons.mpr ⟨by decide, (isLine_digits _).append (List.forall_mem_nil _)⟩
    · exact List.forall_mem_cons.mpr ⟨by decide, (isLine_digits _).append (isLine_digits _)⟩


theorem experiments_shared_three :
    ((List.range 3).flatMap fun i => ((rank 3 5 i).queueDelays echoed).cells).Perm
      (((inputUtilizations ×ˢ List.range numN).zipIdx.filter fun x => !decide (5 < x.2)).flatMap
        fun x => (echoed.delays (Process.scenarioN x.1.2)
          (Process.getMFromN (Process.scenarioN x.1.2) x.1.1)).map
            (Prod.mk (toLex (Process.scenarioN x.1.2, x.1.1)))) ∧
    ¬ MergesAll (runTest ['.'] delayStem 3 5 (fun _ => doDelayTest twoPlaces echoed) [2, 0, 1]
        fun _ => none)
      ⟨['.'], delayStem, 3⟩ delayHeader (fun i => delayRows twoPlaces echoed (rank 3 5 i)) := by
  obtain ⟨-, -, hdelays, hmerged⟩ := experiments_shared (n := 3) (by decide) (fun _ _ => echoed) 5
  exact ⟨hdelays, (hmerged twoPlaces ['.'] (fun _ => none) [2, 0, 1] (by decide)).2.2⟩

end Tests

end SwarmSim.Offline
