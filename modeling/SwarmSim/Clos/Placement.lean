import SwarmSim.Clos.Setup

namespace SwarmSim.Clos

open Machine Ns3

inductive PlacementFault
  | assertion
  | divisionByZero
  deriving DecidableEq

structure MpiParams where
  podProcs : ℕ
  coreProcs : ℕ
  offloadCore : Bool
  offloadAggs : Bool
  systemCount : ℕ
  ranks : 0 < systemCount

def paramFirstCore0 : Bool := true

def paramFirstAgg0 : Bool := false

def paramSecondAgg0 : Bool := true

namespace MpiParams

variable (m : MpiParams)

/-- The assertions of `setupSwarmSimulator`, on `uint32_t` sums, and the one of `logDescriptors`. -/
def Accepts (p : TopologyDescriptor) : Prop :=
  (if m.offloadCore ∧ ¬m.offloadAggs then m.systemCount = (m.coreProcs + m.podProcs) % 2 ^ 32
    else if ¬m.offloadCore ∧ m.offloadAggs then
      (if m.podProcs > m.coreProcs then m.podProcs else m.coreProcs) ≠ 0 ∧ m.podProcs % 2 = 0
    else if m.offloadCore ∧ m.offloadAggs then m.systemCount = (m.coreProcs + m.podProcs) % 2 ^ 32
    else m.systemCount = if m.podProcs > m.coreProcs then m.podProcs else m.coreProcs) ∧
  p.switchRadix ≥ p.numPods

instance (p : TopologyDescriptor) : Decidable (m.Accepts p) := by
  unfold Accepts
  infer_instance

end MpiParams

structure PodSwitches where
  sysIdCounter : ℕ
  aggSwitches : List (List ℕ)
  edgeSwitches : List (List ℕ)

structure Servers where
  sysIdCounter : ℕ
  servers : ℕ → Option (ℕ × ℕ)
  /-- `serverApplications.size()`. -/
  applications : ℕ
  portMap : ℕ → Option ℕ

def tcpLocalStartPort : ℕ := 20

namespace TopologyDescriptor

variable (p : TopologyDescriptor) (m : MpiParams)

def createCoreMPI : Except PlacementFault (List ℕ) :=
  if m.offloadCore then
    if ¬m.systemCount > m.podProcs then .error .assertion
    else .ok ((List.range p.numCores).map fun i =>
      if paramFirstCore0 && i = 0 then 0 else m.podProcs + i % (m.systemCount - m.podProcs))
  else .ok ((List.range p.numCores).map (· % m.systemCount))

def sysIdStep (procs : ℕ) : Except PlacementFault ℕ :=
  if procs = 0 then .error .divisionByZero
  else .ok (if p.h * p.numPods / procs = 0 then 1 else p.h * p.numPods / procs)

/-- The body of the inner loop of `createPodMPI`, on the counter and the switches of the pod. -/
def createPodSwitch (step i j : ℕ) (s : ℕ × List ℕ × List ℕ) : ℕ × List ℕ × List ℕ :=
  let (sysIdCounter, aggs, edges) := s
  let id := sysIdCounter / step
  if ¬m.offloadAggs then (sysIdCounter + 1, aggs ++ [id], edges ++ [id])
  else if i = 1 ∧ j = 0 ∧ paramFirstAgg0 then (sysIdCounter, aggs ++ [id], edges ++ [id])
  else if i = 1 ∧ j = 1 ∧ paramSecondAgg0 then (sysIdCounter, aggs ++ [id], edges ++ [id])
  else (sysIdCounter + 1, aggs ++ [id + m.podProcs / 2], edges ++ [id])

def createPods (step : ℕ) : PodSwitches :=
  forRange (fun i s =>
    let (sysIdCounter, aggs, edges) :=
      forRange (fun j s => createPodSwitch m step i j s) p.h (s.sysIdCounter, [], [])
    ⟨sysIdCounter, s.aggSwitches ++ [aggs], s.edgeSwitches ++ [edges]⟩) p.numPods ⟨0, [], []⟩

def createPodMPI : Except PlacementFault PodSwitches :=
  (p.sysIdStep (if m.offloadAggs then m.podProcs / 2 else m.podProcs)).map (p.createPods m)

def hostIndex (pod edge i : ℕ) : ℕ := (pod * p.switchRadix / 2 + edge) * p.numServers + i

def addHostToPortMap (pod edge i : ℕ) (s : Servers) : Servers :=
  { s with portMap := Function.update s.portMap (p.hostIndex pod edge i) (some tcpLocalStartPort) }

def createEdgeServers (step pod edge : ℕ) (s : Servers) : Servers :=
  let edgeServers := (p.numServers, s.sysIdCounter / step)
  let s := { s with servers := Function.update s.servers (pod * p.h + edge) (some edgeServers) }
  let s := forRange (fun i s =>
    p.addHostToPortMap pod edge i { s with applications := s.applications + 1 }) p.numServers s
  { s with sysIdCounter := s.sysIdCounter + 1 }

def createServersWith (step : ℕ) : Servers :=
  forRange (fun pod s => forRange (fun edge s => p.createEdgeServers step pod edge s) p.h s) p.numPods
    ⟨0, fun _ => none, 0, fun _ => none⟩

def createServers (podProcs : ℕ) : Except PlacementFault Servers :=
  (p.sysIdStep podProcs).map p.createServersWith

section Loops

variable {p : TopologyDescriptor} {m : MpiParams} {step i j n : ℕ}

/-- The value of `sysIdCounter` at switch `j` of pod `i`. With the aggregates offloaded, the second
switch of the second pod is passed over. -/
def podCounter (p : TopologyDescriptor) (m : MpiParams) (i j : ℕ) : ℕ :=
  i * p.h + j - if m.offloadAggs = true ∧ (1 < i ∧ 1 < p.h ∨ i = 1 ∧ 1 < j) then 1 else 0

def edgeId (p : TopologyDescriptor) (m : MpiParams) (step i j : ℕ) : ℕ := p.podCounter m i j / step

def aggId (p : TopologyDescriptor) (m : MpiParams) (step i j : ℕ) : ℕ :=
  p.podCounter m i j / step + if m.offloadAggs = true ∧ ¬(i = 1 ∧ j = 1) then m.podProcs / 2 else 0

lemma createPodSwitch_eq (hj : j < p.h) (aggs edges : List ℕ) :
    createPodSwitch m step i j (p.podCounter m i j, aggs, edges) =
      (p.podCounter m i (j + 1), aggs ++ [p.aggId m step i j], edges ++ [p.edgeId m step i j]) := by
  cases ho : m.offloadAggs with
  | false => simp [createPodSwitch, aggId, edgeId, podCounter, ho, Nat.add_assoc]
  | true =>
    by_cases hskip : i = 1 ∧ j = 1
    · obtain ⟨rfl, rfl⟩ := hskip
      simp [createPodSwitch, aggId, edgeId, podCounter, ho, paramFirstAgg0, paramSecondAgg0]
    · have hcounter : p.podCounter m i (j + 1) = p.podCounter m i j + 1 := by
        have hmul : 1 < i → 0 < i * p.h := fun hi => Nat.mul_pos (by omega) (by omega)
        simp only [podCounter, ho, true_and]
        split_ifs <;> omega
      simp only [createPodSwitch, aggId, edgeId, ho, hcounter, paramFirstAgg0, and_false,
        Bool.false_eq_true, not_true_eq_false, if_false]
      rw [if_neg fun h => hskip ⟨h.1, h.2.1⟩, if_pos ⟨trivial, hskip⟩]

lemma createPodSwitches_eq (hn : n ≤ p.h) :
    forRange (fun j s => createPodSwitch m step i j s) n (p.podCounter m i 0, [], []) =
      (p.podCounter m i n, (List.range n).map (p.aggId m step i),
        (List.range n).map (p.edgeId m step i)) := by
  induction n with
  | zero => rfl
  | succ n ih =>
    rw [forRange_succ, ih (by omega), createPodSwitch_eq hn, List.range_succ, List.map_append,
      List.map_append]
    rfl

lemma podCounter_next : p.podCounter m i p.h = p.podCounter m (i + 1) 0 := by
  have hmul : (i + 1) * p.h = i * p.h + p.h := Nat.succ_mul i p.h
  simp only [podCounter, hmul]
  have hiff : (1 < i ∧ 1 < p.h ∨ i = 1 ∧ 1 < p.h) ↔ (1 < i + 1 ∧ 1 < p.h ∨ i + 1 = 1 ∧ 1 < 0) := by
    omega
  simp only [hiff, Nat.add_zero]

lemma createPods_eq : p.createPods m step = ⟨p.podCounter m p.numPods 0,
    (List.range p.numPods).map (fun i => (List.range p.h).map (p.aggId m step i)),
    (List.range p.numPods).map (fun i => (List.range p.h).map (p.edgeId m step i))⟩ := by
  unfold createPods
  generalize p.numPods = n
  induction n with
  | zero => simp [podCounter]
  | succ n ih =>
    rw [forRange_succ, ih]
    dsimp only
    rw [createPodSwitches_eq le_rfl, podCounter_next]
    simp only [List.range_succ, List.map_append]
    rfl

lemma edgeServers_loop (pod edge : ℕ) (s : Servers) :
    forRange (fun i s => p.addHostToPortMap pod edge i { s with applications := s.applications + 1 })
        n s =
      { s with
        applications := s.applications + n
        portMap := fun k =>
          if ∃ i < n, k = p.hostIndex pod edge i then some tcpLocalStartPort else s.portMap k } := by
  induction n with
  | zero => simp
  | succ n ih =>
    rw [forRange_succ, ih, addHostToPortMap]
    congr 1
    funext k
    by_cases hk : k = p.hostIndex pod edge n
    · subst hk
      rw [Function.update_self, if_pos ⟨n, n.lt_succ_self, rfl⟩]
    · have hiff : (∃ i < n, k = p.hostIndex pod edge i) ↔ ∃ i < n + 1, k = p.hostIndex pod edge i := by
        constructor
        · rintro ⟨i, hi, rfl⟩
          exact ⟨i, hi.trans n.lt_succ_self, rfl⟩
        · rintro ⟨i, hi, rfl⟩
          rcases Nat.lt_succ_iff_lt_or_eq.mp hi with hi | rfl
          · exact ⟨i, hi, rfl⟩
          · exact absurd rfl hk
      rw [Function.update_of_ne hk]
      simp only [hiff]

structure CreatedUpto (p : TopologyDescriptor) (step t : ℕ) (s : Servers) : Prop where
  counter : s.sysIdCounter = t
  servers (tor : ℕ) : s.servers tor = if tor < t then some (p.numServers, tor / step) else none
  applications : s.applications = t * p.numServers
  portMap (k : ℕ) : 2 ∣ p.switchRadix ∨ t = 0 → ((s.portMap k).isSome ↔ k < t * p.numServers)

lemma CreatedUpto.next {pod edge : ℕ} {s : Servers} (h : p.CreatedUpto step (pod * p.h + edge) s) :
    p.CreatedUpto step (pod * p.h + (edge + 1)) (p.createEdgeServers step pod edge s) := by
  unfold createEdgeServers
  dsimp only
  rw [edgeServers_loop]
  refine ⟨?_, fun tor => ?_, ?_, fun k hor => ?_⟩
  · change s.sysIdCounter + 1 = _
    rw [h.counter, Nat.add_assoc]
  · change Function.update s.servers (pod * p.h + edge) (some (p.numServers, s.sysIdCounter / step)) tor = _
    by_cases htor : tor = pod * p.h + edge
    · rw [htor, Function.update_self, h.counter, if_pos (by omega)]
    · have hiff : tor < pod * p.h + edge ↔ tor < pod * p.h + (edge + 1) := by omega
      rw [Function.update_of_ne htor, h.servers]
      simp only [hiff]
  · change s.applications + p.numServers = _
    rw [h.applications, ← Nat.add_assoc, Nat.succ_mul]
  · have heven : 2 ∣ p.switchRadix := hor.resolve_right (by omega)
    have hindex : ∀ i, p.hostIndex pod edge i = (pod * p.h + edge) * p.numServers + i := by
      intro i
      rw [hostIndex, Nat.mul_div_assoc _ heven, ← TopologyDescriptor.h]
    have hkeys := h.portMap k (Or.inl heven)
    change (if ∃ i < p.numServers, k = p.hostIndex pod edge i then some tcpLocalStartPort
      else s.portMap k).isSome ↔ _
    have hmul : (pod * p.h + (edge + 1)) * p.numServers =
        (pod * p.h + edge) * p.numServers + p.numServers := by rw [← Nat.add_assoc, Nat.succ_mul]
    rw [hmul]
    split_ifs with hk
    · obtain ⟨i, hi, rfl⟩ := hk
      rw [hindex]
      simpa using hi
    · rw [hkeys]
      refine ⟨fun hlt => hlt.trans_le (Nat.le_add_right _ _), fun hlt => ?_⟩
      by_contra hge
      refine hk ⟨k - (pod * p.h + edge) * p.numServers, by omega, ?_⟩
      rw [hindex]
      omega

lemma createServersWith_upto : p.CreatedUpto step (p.numPods * p.h) (p.createServersWith step) := by
  unfold createServersWith
  refine forRange_invariant (P := fun pod s => p.CreatedUpto step (pod * p.h) s) ?_ ?_
  · refine ⟨?_, fun tor => ?_, ?_, fun k _ => ?_⟩ <;> simp
  · intro pod s _ hs
    rw [Nat.succ_mul]
    exact forRange_invariant (P := fun edge s => p.CreatedUpto step (pod * p.h + edge) s) hs
      fun edge s _ hs => hs.next

end Loops

end TopologyDescriptor

end SwarmSim.Clos
