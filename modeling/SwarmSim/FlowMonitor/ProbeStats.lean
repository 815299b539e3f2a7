import SwarmSim.FlowMonitor.Monitor

namespace SwarmSim.FlowMonitor

namespace FlowStats

def countDrop (packetSize reasonCode : ℕ) (packetsDropped : List (BitVec 32))
    (bytesDropped : List (BitVec 64)) : List (BitVec 32) × List (BitVec 64) :=
  let (packetsDropped, bytesDropped) :=
    if packetsDropped.length < reasonCode + 1 then
      (resize packetsDropped (reasonCode + 1), resize bytesDropped (reasonCode + 1))
    else (packetsDropped, bytesDropped)
  (packetsDropped.modify reasonCode (· + 1),
    bytesDropped.modify reasonCode (· + BitVec.ofNat 64 packetSize))

lemma drop_countDrop (packetSize reasonCode : ℕ) (stats : FlowStats) :
    ((stats.drop packetSize reasonCode).packetsDropped,
        (stats.drop packetSize reasonCode).bytesDropped) =
      countDrop packetSize reasonCode stats.packetsDropped stats.bytesDropped := by
  dsimp only [drop, countDrop]
  split_ifs <;> rfl

variable {n : ℕ} {l : List (BitVec n)} {size : ℕ}

lemma resize_of_le (h : size ≤ l.length) : resize l size = l := by
  rw [resize, Nat.sub_eq_zero_of_le h, List.replicate_zero, List.append_nil]

lemma resize_length (l : List (BitVec n)) (size : ℕ) :
    (resize l size).length = max l.length size := by
  rw [resize, List.length_append, List.length_replicate]
  omega

lemma resize_getD (l : List (BitVec n)) (size i : ℕ) : (resize l size).getD i 0 = l.getD i 0 := by
  rw [resize]
  by_cases hi : i < l.length
  · exact List.getD_append _ _ _ _ hi
  · rw [List.getD_append_right _ _ _ _ (not_lt.mp hi), List.getD_eq_default l 0 (not_lt.mp hi)]
    by_cases hr : i - l.length < size - l.length
    · exact List.getD_replicate 0 hr
    · exact List.getD_eq_default _ _ (by simpa using hr)

lemma modify_getD (l : List (BitVec n)) {i : ℕ} (hi : i < l.length) (k : BitVec n) (j : ℕ) :
    (l.modify i (· + k)).getD j 0 = if j = i then l.getD j 0 + k else l.getD j 0 := by
  rw [List.getD_eq_getElem?_getD, List.getD_eq_getElem?_getD, List.getElem?_modify]
  split_ifs with h h' h'
  · subst h
    rw [List.getElem?_eq_getElem hi]
    rfl
  · exact absurd h.symm h'
  · exact absurd h'.symm h
  · rw [id_map']

end FlowStats

structure Counts (packets bytes : ℕ → ℕ) (packetsDropped : List (BitVec 32))
    (bytesDropped : List (BitVec 64)) : Prop where
  length_eq : packetsDropped.length = bytesDropped.length
  packets : ∀ reason, packetsDropped.getD reason 0 = BitVec.ofNat 32 (packets reason)
  bytes : ∀ reason, bytesDropped.getD reason 0 = BitVec.ofNat 64 (bytes reason)

namespace Counts

open FlowStats

variable {packets bytes : ℕ → ℕ} {packetsDropped : List (BitVec 32)}
  {bytesDropped : List (BitVec 64)}

lemma empty : Counts (fun _ => 0) (fun _ => 0) [] [] := ⟨rfl, fun _ => rfl, fun _ => rfl⟩

lemma countDrop (h : Counts packets bytes packetsDropped bytesDropped)
    (packetSize reasonCode : ℕ) :
    Counts (fun reason => packets reason + if reason = reasonCode then 1 else 0)
      (fun reason => bytes reason + if reason = reasonCode then packetSize else 0)
      (FlowStats.countDrop packetSize reasonCode packetsDropped bytesDropped).1
      (FlowStats.countDrop packetSize reasonCode packetsDropped bytesDropped).2 := by
  have hdrop : FlowStats.countDrop packetSize reasonCode packetsDropped bytesDropped =
      ((resize packetsDropped (reasonCode + 1)).modify reasonCode (· + 1),
        (resize bytesDropped (reasonCode + 1)).modify reasonCode
          (· + BitVec.ofNat 64 packetSize)) := by
    dsimp only [FlowStats.countDrop]
    split_ifs with hlt
    · rfl
    · rw [resize_of_le (not_lt.mp hlt), resize_of_le (h.length_eq ▸ not_lt.mp hlt)]
  have hpackets : reasonCode < (resize packetsDropped (reasonCode + 1)).length := by
    rw [resize_length]
    omega
  have hbytes : reasonCode < (resize bytesDropped (reasonCode + 1)).length := by
    rw [resize_length]
    omega
  rw [hdrop]
  refine ⟨?_, fun reason => ?_, fun reason => ?_⟩
  · simp only [List.length_modify, resize_length, h.length_eq]
  · rw [modify_getD _ hpackets, resize_getD, h.packets]
    split_ifs
    · rw [BitVec.ofNat_add]
      rfl
    · rfl
  · rw [modify_getD _ hbytes, resize_getD, h.bytes]
    split_ifs
    · rw [BitVec.ofNat_add]
    · rfl

end Counts

structure ProbeFlowStats where
  packetsDropped : List (BitVec 32) := []
  bytesDropped : List (BitVec 64) := []
  delayFromFirstProbeSum : ℤ := 0
  bytes : BitVec 64 := 0
  packets : BitVec 32 := 0
  deriving DecidableEq

structure MpiFlowProbe where
  stats : Map FlowId ProbeFlowStats := ∅

namespace MpiFlowProbe

def statsOf (flowId : FlowId) (probe : MpiFlowProbe) : ProbeFlowStats :=
  (probe.stats.lookup flowId).getD {}

def addPacketStats (flowId : FlowId) (packetSize : ℕ) (delayFromFirstProbe : ℤ)
    (probe : MpiFlowProbe) : MpiFlowProbe :=
  let flow := probe.statsOf flowId
  { probe with
    stats := probe.stats.insert flowId
      { flow with
        delayFromFirstProbeSum := flow.delayFromFirstProbeSum + delayFromFirstProbe
        bytes := flow.bytes + BitVec.ofNat 64 packetSize
        packets := flow.packets + 1 } }

def addPacketDropStats (flowId : FlowId) (packetSize reasonCode : ℕ) (probe : MpiFlowProbe) :
    MpiFlowProbe :=
  let flow := probe.statsOf flowId
  let (packetsDropped, bytesDropped) :=
    FlowStats.countDrop packetSize reasonCode flow.packetsDropped flow.bytesDropped
  { probe with stats := probe.stats.insert flowId { flow with packetsDropped, bytesDropped } }

variable (flowId x : FlowId) (probe : MpiFlowProbe) (packetSize reasonCode : ℕ) (delay : ℤ)

lemma statsOf_insert (flow : ProbeFlowStats) :
    statsOf x { probe with stats := probe.stats.insert flowId flow } =
      if x = flowId then flow else probe.statsOf x := by
  unfold statsOf
  split_ifs with hx
  · rw [hx, AList.lookup_insert]
    rfl
  · rw [AList.lookup_insert_ne hx]

lemma addPacketStats_bytes : ((probe.addPacketStats flowId packetSize delay).statsOf x).bytes =
    (probe.statsOf x).bytes + BitVec.ofNat 64 (if x = flowId then packetSize else 0) := by
  rw [addPacketStats, statsOf_insert]
  split_ifs with hx
  · rw [hx]
  · exact (BitVec.add_zero _).symm

lemma addPacketStats_drops :
    ((probe.addPacketStats flowId packetSize delay).statsOf x).packetsDropped =
        (probe.statsOf x).packetsDropped ∧
      ((probe.addPacketStats flowId packetSize delay).statsOf x).bytesDropped =
        (probe.statsOf x).bytesDropped := by
  rw [addPacketStats, statsOf_insert]
  split_ifs with hx
  · rw [hx]
    exact ⟨rfl, rfl⟩
  · exact ⟨rfl, rfl⟩

lemma addPacketStats_delay :
    ((probe.addPacketStats flowId packetSize delay).statsOf x).delayFromFirstProbeSum =
      (probe.statsOf x).delayFromFirstProbeSum + if x = flowId then delay else 0 := by
  rw [addPacketStats, statsOf_insert]
  split_ifs with hx
  · rw [hx]
  · exact (Int.add_zero _).symm

lemma addPacketDropStats_delay :
    ((probe.addPacketDropStats flowId packetSize reasonCode).statsOf x).delayFromFirstProbeSum =
      (probe.statsOf x).delayFromFirstProbeSum := by
  rw [addPacketDropStats, statsOf_insert]
  split_ifs with hx
  · rw [hx]
  · rfl

lemma addPacketDropStats_bytes :
    ((probe.addPacketDropStats flowId packetSize reasonCode).statsOf x).bytes =
      (probe.statsOf x).bytes := by
  rw [addPacketDropStats, statsOf_insert]
  split_ifs with hx
  · rw [hx]
  · rfl

lemma addPacketDropStats_drops :
    (((probe.addPacketDropStats flowId packetSize reasonCode).statsOf x).packetsDropped,
        ((probe.addPacketDropStats flowId packetSize reasonCode).statsOf x).bytesDropped) =
      if x = flowId then FlowStats.countDrop packetSize reasonCode (probe.statsOf x).packetsDropped
        (probe.statsOf x).bytesDropped
      else ((probe.statsOf x).packetsDropped, (probe.statsOf x).bytesDropped) := by
  rw [addPacketDropStats, statsOf_insert]
  split_ifs with hx
  · rw [hx]
  · rfl

end MpiFlowProbe

end SwarmSim.FlowMonitor
