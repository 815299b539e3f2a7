import SwarmSim.Clos.LinkEffect
import SwarmSim.Clos.Ranks

/-! Which rank owns a host, as it is looked up and as the nodes were created, and which switches
are pinned to one rank. -/

namespace SwarmSim.Clos

open Machine Ns3

namespace TopologyDescriptor

def getSystemIdOfServer (p : TopologyDescriptor) (mpi : Bool) (podProcs hostIdx : ℕ) : ℕ :=
  if !mpi then 0
  else
    let sysIdStep := if p.h * p.numPods > podProcs then p.h * p.numPods / podProcs else 1
    hostIdx / p.numServers / sysIdStep

/-- A host is local to one rank only; any other rank gets a null pointer. -/
def getLocalHost (p : TopologyDescriptor) (mpi : Bool) (podProcs systemId hostIdx : ℕ) :
    Option Node :=
  if systemId ≠ p.getSystemIdOfServer mpi podProcs hostIdx then none
  else some (.server (hostIdx / p.numServers) (hostIdx % p.numServers))

structure OwnedAlike (p : TopologyDescriptor) (mpi : Bool) (podProcs : ℕ) (s : Servers) : Prop where
  lookup : ∀ hostIdx < p.numPods * p.h * p.numServers, s.servers (hostIdx / p.numServers) =
    some (p.numServers, p.getSystemIdOfServer mpi podProcs hostIdx)
  /-- The assertion of `printSystemIds`. -/
  printed : ∀ i n id, s.servers i = some (n, id) → ∀ j < n,
    id = p.getSystemIdOfServer mpi podProcs (p.numServers * i + j)
  applications : ∀ hostIdx < p.numPods * p.h * p.numServers, ∀ n id,
    s.servers (hostIdx / p.numServers) = some (n, id) →
      ∀ rank, (p.getLocalHost mpi podProcs rank hostIdx).isSome ↔ rank = id

section Owners

variable {p : TopologyDescriptor} {mpi : Bool} {podProcs tor hostIdx : ℕ}

lemma getSystemIdOfServer_eq (h : 1 ≤ podProcs) :
    p.getSystemIdOfServer true podProcs hostIdx = hostIdx / p.numServers / p.stepOf podProcs := by
  have hstep : (if p.h * p.numPods > podProcs then p.h * p.numPods / podProcs else 1) =
      p.stepOf podProcs := by
    rw [stepOf]
    by_cases hgt : p.h * p.numPods > podProcs
    · have hpos := Nat.div_pos hgt.le h
      rw [if_pos hgt, if_neg hpos.ne']
    · rw [if_neg hgt]
      rcases (not_lt.mp hgt).lt_or_eq with hlt | heq
      · rw [if_pos (Nat.div_eq_of_lt hlt)]
      · rw [heq, Nat.div_self h, if_neg Nat.one_ne_zero]
  rw [← hstep]
  rfl

lemma getLocalHost_isSome (rank : ℕ) : (p.getLocalHost mpi podProcs rank hostIdx).isSome ↔
    rank = p.getSystemIdOfServer mpi podProcs hostIdx := by
  rw [getLocalHost]
  split_ifs with h
  · simpa using h
  · simpa using not_not.mp h

lemma ownedAlike_of_tors {s : Servers} (hs : p.CreatedUpto (p.stepOf podProcs) (p.numPods * p.h) s)
    (h : ∀ hostIdx < p.numPods * p.h * p.numServers,
      p.getSystemIdOfServer mpi podProcs hostIdx = hostIdx / p.numServers / p.stepOf podProcs) :
    p.OwnedAlike mpi podProcs s := by
  have hlookup : ∀ hostIdx < p.numPods * p.h * p.numServers, s.servers (hostIdx / p.numServers) =
      some (p.numServers, p.getSystemIdOfServer mpi podProcs hostIdx) := by
    intro hostIdx hlt
    rw [hs.servers, if_pos (Nat.div_lt_of_lt_mul (by rwa [Nat.mul_comm])), h hostIdx hlt]
  refine ⟨hlookup, fun i n id hid j hj => ?_, fun hostIdx hlt n id hid rank => ?_⟩
  · rw [hs.servers] at hid
    split_ifs at hid with htor
    obtain ⟨rfl, rfl⟩ := Prod.mk.inj (Option.some.inj hid)
    have hdiv : (p.numServers * i + j) / p.numServers = i := by
      rw [Nat.mul_add_div (by omega), Nat.div_eq_of_lt hj, Nat.add_zero]
    have hlt : p.numServers * i + j < p.numPods * p.h * p.numServers := by
      calc
        _ < p.numServers * i + p.numServers := by omega
        _ = (i + 1) * p.numServers := by ring
        _ ≤ p.numPods * p.h * p.numServers := Nat.mul_le_mul_right _ htor
    rw [h _ hlt, hdiv]
  · rw [hlookup hostIdx hlt] at hid
    obtain ⟨-, rfl⟩ := Prod.mk.inj (Option.some.inj hid)
    exact getLocalHost_isSome rank

/-- Without MPI every host is looked up on rank 0, and the nodes have the ids of several ranks
unless there is one process or one ToR. -/
theorem ownedAlike_iff (p : TopologyDescriptor) (mpi : Bool) {podProcs : ℕ} (h : 1 ≤ podProcs) :
    (∃ s, p.createServers podProcs = .ok s ∧ p.OwnedAlike mpi podProcs s) ↔
      mpi = true ∨ podProcs = 1 ∨ p.h * p.numPods ≤ 1 ∨ p.numServers = 0 := by
  have hcreated := @createServersWith_upto p (p.stepOf podProcs)
  rw [createServers, sysIdStep_eq (by omega)]
  constructor
  · rintro ⟨s, hs, howned⟩
    obtain rfl := Except.ok.inj hs
    by_contra hnot
    simp only [not_or, Bool.not_eq_true] at hnot
    obtain ⟨rfl, hprocs, htors, hservers⟩ := hnot
    -- The last ToR is created with another id than 0.
    have hlast : p.h * p.numPods - 1 < p.numPods * p.h := by
      rw [Nat.mul_comm p.numPods]
      omega
    have hprinted := howned.printed (p.h * p.numPods - 1) p.numServers _
      (by rw [hcreated.servers, if_pos hlast]) 0 (Nat.pos_of_ne_zero hservers)
    rw [getSystemIdOfServer] at hprinted
    have hlt : p.h * p.numPods - 1 < p.stepOf podProcs := by
      rcases (Nat.div_eq_zero_iff).mp hprinted with hzero | hlt
      · exact absurd hzero stepOf_pos.ne'
      · exact hlt
    have hhalf : p.h * p.numPods / podProcs ≤ p.h * p.numPods / 2 :=
      Nat.div_le_div_left (by omega) (by norm_num)
    rw [stepOf] at hlt
    split_ifs at hlt <;> omega
  · intro hcond
    refine ⟨_, rfl, ownedAlike_of_tors hcreated fun hostIdx hlt => ?_⟩
    cases mpi with
    | true => exact getSystemIdOfServer_eq h
    | false =>
      have htor : hostIdx / p.numServers < p.h * p.numPods :=
        Nat.div_lt_of_lt_mul (by rwa [Nat.mul_comm p.numServers, Nat.mul_comm p.h])
      have hzero : hostIdx / p.numServers / p.stepOf podProcs = 0 := by
        rcases hcond with hmpi | rfl | hone | hnone
        · cases hmpi
        · rw [stepOf, Nat.div_one, if_neg (Nat.zero_lt_of_lt htor).ne']
          exact Nat.div_eq_of_lt htor
        · have hfirst : hostIdx / p.numServers = 0 := Nat.lt_one_iff.mp (htor.trans_le hone)
          rw [hfirst, Nat.zero_div]
        · rw [hnone, Nat.mul_zero] at hlt
          exact absurd hlt (Nat.not_lt_zero _)
      rw [hzero]
      rfl

theorem ownedAlike_iff_mpi :
    (∃ s, fourPods.createServers 3 = .ok s ∧ fourPods.OwnedAlike true 3 s) ↔
      true = true ∨ 3 = 1 ∨ fourPods.h * fourPods.numPods ≤ 1 ∨ fourPods.numServers = 0 :=
  ownedAlike_iff fourPods true (by norm_num)

theorem ownedAlike_without_mpi :
    ¬ ∀ (p : TopologyDescriptor) (mpi : Bool) (podProcs : ℕ), 1 ≤ podProcs →
      ∃ s, p.createServers podProcs = .ok s ∧ p.OwnedAlike mpi podProcs s := by
  intro h
  obtain ⟨s, hs, howned⟩ := h fourPods false 2 (by norm_num)
  obtain rfl := Except.ok.inj hs
  have hlast := howned.lookup 15 (by decide)
  revert hlast
  decide

end Owners

def getSystemId (cores : List ℕ) (pods : PodSwitches) (s : Servers) : Node → ℕ
  | .core idx => cores.getD idx 0
  | .aggregate pod idx => (pods.aggSwitches.getD pod []).getD idx 0
  | .edge pod idx => (pods.edgeSwitches.getD pod []).getD idx 0
  | .server tor _ => ((s.servers tor).map Prod.snd).getD 0

structure Pinned (p : TopologyDescriptor) (systemId : Node → ℕ) : Prop where
  first : systemId (.core 0) = systemId (.aggregate 0 0)
  second : ∀ agg edge, p.getAggregate (p.switchRadix / 2 + 1) = .ok agg →
    p.getEdge (p.switchRadix / 2 + 1) = .ok edge → systemId agg = systemId edge
  firstLink : ∃ props, p.localLink systemId .aggregate 0 .core 0 = .ok props
  secondLink : ∃ props, p.localLink systemId .edge (p.switchRadix / 2 + 1) .aggregate
    (p.switchRadix / 2 + 1) = .ok props

section Pinning

variable {p : TopologyDescriptor} {m : MpiParams} {cores : List ℕ} {pods : PodSwitches}
  {s : Servers}

lemma core_zero (hcores : p.createCoreMPI m = .ok cores) : cores.getD 0 0 = 0 := by
  rw [createCoreMPI] at hcores
  have hhead : ∀ (n : ℕ) (f : ℕ → ℕ), f 0 = 0 → ((List.range n).map f).getD 0 0 = 0 := by
    intro n f hf
    cases n with
    | zero => rfl
    | succ n => rw [List.range_succ_eq_map, List.map_cons, List.getD_cons_zero, hf]
  split_ifs at hcores
  · cases Except.ok.inj hcores
    exact hhead _ _ rfl
  · cases Except.ok.inj hcores
    exact hhead _ _ (Nat.zero_mod _)

lemma pod_ids (hpods : p.createPodMPI m = .ok pods) : ∃ step,
    (m.offloadAggs = true → 1 ≤ m.podProcs / 2) ∧ ∀ i < p.numPods, ∀ j < p.h,
      getSystemId cores pods s (.aggregate i j) = p.aggId m step i j ∧
      getSystemId cores pods s (.edge i j) = p.edgeId m step i j := by
  rw [createPodMPI] at hpods
  by_cases hzero : (if m.offloadAggs then m.podProcs / 2 else m.podProcs) = 0
  · rw [hzero] at hpods
    cases hpods
  rw [sysIdStep_eq hzero] at hpods
  refine ⟨p.stepOf (if m.offloadAggs then m.podProcs / 2 else m.podProcs), fun ho => ?_,
    fun i hi j hj => ?_⟩
  · rw [if_pos ho] at hzero
    omega
  · cases Except.ok.inj hpods
    rw [createPods_eq]
    simp [getSystemId, hi, hj]

lemma localLink_sameSystem {systemId : Node → ℕ} {l l' : TopologyLevel} {i j : ℕ}
    {props : LinkInterfaces} (h : p.getLinkInterfaceIndices l i l' j = .ok props)
    (hsame : systemId props.src = systemId props.dst) : p.localLink systemId l i l' j = .ok props := by
  rw [localLink, h]
  exact if_pos hsame

lemma second_pinned (hh : 2 ≤ p.h) (hnum : 2 ≤ p.numPods) (hpods : p.createPodMPI m = .ok pods) :
    getSystemId cores pods s (.aggregate 1 1) = getSystemId cores pods s (.edge 1 1) := by
  obtain ⟨step, -, hids⟩ := @pod_ids p m cores pods s hpods
  obtain ⟨ha, he⟩ := hids 1 (by omega) 1 (by omega)
  rw [ha, he]
  simp [aggId, edgeId]

lemma first_pinned_iff (hh : 2 ≤ p.h) (hnum : 2 ≤ p.numPods)
    (hcores : p.createCoreMPI m = .ok cores) (hpods : p.createPodMPI m = .ok pods) :
    getSystemId cores pods s (.core 0) = getSystemId cores pods s (.aggregate 0 0) ↔
      m.offloadAggs = false := by
  obtain ⟨step, hhalf, hids⟩ := @pod_ids p m cores pods s hpods
  have hcore : getSystemId cores pods s (.core 0) = 0 := core_zero hcores
  rw [hcore, (hids 0 (by omega) 0 (by omega)).1]
  cases ho : m.offloadAggs with
  | false => simp [aggId, podCounter, ho]
  | true =>
    have hpos := hhalf ho
    have hne : 0 ≠ m.podProcs / 2 := by omega
    simpa [aggId, podCounter, ho] using hne

lemma pinned_of_created (hradix : 2 ≤ p.switchRadix / 2) (hnum : 2 ≤ p.numPods)
    (hcores : p.createCoreMPI m = .ok cores) (hpods : p.createPodMPI m = .ok pods) :
    p.Pinned (getSystemId cores pods s) ↔ m.offloadAggs = false := by
  have hh : 2 ≤ p.h := hradix
  have hidx : p.switchRadix / 2 + 1 = 1 * p.h + 1 := by rw [Nat.one_mul, h]
  have hsecond := @second_pinned p m cores pods s hh hnum hpods
  rw [← @first_pinned_iff p m cores pods s hh hnum hcores hpods]
  refine ⟨fun hpinned => hpinned.first, fun hfirst => ?_⟩
  have hcorelink := @coreLink_eq p 0 0 0 (by omega) (by omega) (by omega)
  have hedgelink := @edgeLink_eq p 1 1 1 (by omega) (by omega) (by omega)
  rw [Nat.zero_mul, Nat.zero_add] at hcorelink
  rw [← hidx] at hedgelink
  refine ⟨hfirst, fun agg edge ha he => ?_, ⟨_, localLink_sameSystem hcorelink hfirst.symm⟩,
    ⟨_, localLink_sameSystem hedgelink hsecond.symm⟩⟩
  rw [hidx, getAggregate_eq (by omega) (by omega)] at ha
  rw [hidx, getEdge_eq (by omega) (by omega)] at he
  cases ha
  cases he
  exact hsecond

/-- The switches are created and both pairs are where they should be exactly if the aggregates are
not offloaded, there is a process for the pods and, when the cores are offloaded, one for them. -/
theorem pinned_iff (p : TopologyDescriptor) (m : MpiParams) (hradix : 2 ≤ p.switchRadix / 2)
    (hnum : 2 ≤ p.numPods) (s : Servers) :
    (∃ cores pods, p.createCoreMPI m = .ok cores ∧ p.createPodMPI m = .ok pods ∧
      p.Pinned (getSystemId cores pods s)) ↔
      m.offloadAggs = false ∧ m.podProcs ≠ 0 ∧
        (m.offloadCore = true → m.podProcs < m.systemCount) := by
  constructor
  · rintro ⟨cores, pods, hcores, hpods, hpinned⟩
    have haggs := (pinned_of_created hradix hnum hcores hpods).mp hpinned
    refine ⟨haggs, fun hzero => ?_, fun hcore => ?_⟩
    · rw [createPodMPI, haggs, hzero] at hpods
      cases hpods
    · by_contra hlt
      rw [createCoreMPI, if_pos hcore, if_pos hlt] at hcores
      cases hcores
  · rintro ⟨haggs, hprocs, hcore⟩
    have hcores : ∃ cores, p.createCoreMPI m = .ok cores := by
      rw [createCoreMPI]
      split_ifs with hoffload hlt
      · exact ⟨_, rfl⟩
      · exact absurd (hcore hoffload) hlt
      · exact ⟨_, rfl⟩
    have hpods : ∃ pods, p.createPodMPI m = .ok pods := by
      rw [createPodMPI, haggs]
      simp only [Bool.false_eq_true, if_false, sysIdStep_eq hprocs]
      exact ⟨_, rfl⟩
    obtain ⟨cores, hcores⟩ := hcores
    obtain ⟨pods, hpods⟩ := hpods
    exact ⟨cores, pods, hcores, hpods, (pinned_of_created hradix hnum hcores hpods).mpr haggs⟩

def radixFour : TopologyDescriptor := ⟨4, 2, 2, false⟩

def twoRanks (offloadAggs : Bool) : MpiParams := ⟨2, 2, false, offloadAggs, 2, by norm_num⟩

def someServers : Servers := radixFour.createServersWith 2

theorem pinned_iff_together :
    (∃ cores pods, radixFour.createCoreMPI (twoRanks false) = .ok cores ∧
      radixFour.createPodMPI (twoRanks false) = .ok pods ∧
      radixFour.Pinned (getSystemId cores pods someServers)) ↔
      (twoRanks false).offloadAggs = false ∧ (twoRanks false).podProcs ≠ 0 ∧
        ((twoRanks false).offloadCore = true →
          (twoRanks false).podProcs < (twoRanks false).systemCount) :=
  pinned_iff radixFour (twoRanks false) (by decide) (by decide) someServers

theorem pinned_not_offloaded :
    ¬ ∀ (p : TopologyDescriptor) (m : MpiParams), 2 ≤ p.switchRadix / 2 → 2 ≤ p.numPods →
      m.Accepts p → ∀ cores pods s, p.createCoreMPI m = .ok cores → p.createPodMPI m = .ok pods →
        p.createServers m.podProcs = .ok s → p.Pinned (getSystemId cores pods s) := by
  intro h
  have hfirst := (h radixFour (twoRanks true) (by decide) (by decide) (by decide) _ _ _ rfl rfl rfl).first
  revert hfirst
  decide

end Pinning

end TopologyDescriptor

end SwarmSim.Clos
