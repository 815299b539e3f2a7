import SwarmSim.FlowMonitor.Classifier

/-! The monitor of one rank: the statistics that it keeps by flow id, and what each report of a
probe does to the statistics of its flow. -/

namespace SwarmSim.FlowMonitor

open Ns3

structure FlowStats where
  timeFirstTxPacket : ℕ := 0
  timeFirstRxPacket : ℕ := 0
  timeLastTxPacket : ℕ := 0
  timeLastRxPacket : ℕ := 0
  txBytes : BitVec 64 := 0
  rxBytes : BitVec 64 := 0
  packetsDropped : List (BitVec 32) := []
  bytesDropped : List (BitVec 64) := []
  deriving DecidableEq

namespace FlowStats

def firstTx (now packetSize : ℕ) (stats : FlowStats) : FlowStats :=
  let stats := if stats.txBytes = 0 then { stats with timeFirstTxPacket := now } else stats
  { stats with
    txBytes := stats.txBytes + BitVec.ofNat 64 packetSize
    timeLastTxPacket := now }

def lastRx (now packetSize tStart : ℕ) (stats : FlowStats) : FlowStats :=
  let stats :=
    if stats.timeFirstTxPacket = 0 then { stats with timeFirstTxPacket := tStart } else stats
  let stats := if stats.rxBytes = 1 then { stats with timeFirstRxPacket := now } else stats
  { stats with
    rxBytes := stats.rxBytes + BitVec.ofNat 64 packetSize
    timeLastRxPacket := now }

/-- `std::vector::resize`, which the code calls to grow only. -/
def resize {n : ℕ} (l : List (BitVec n)) (size : ℕ) : List (BitVec n) :=
  l ++ List.replicate (size - l.length) 0

def drop (packetSize reasonCode : ℕ) (stats : FlowStats) : FlowStats :=
  let stats :=
    if stats.packetsDropped.length < reasonCode + 1 then
      { stats with
        packetsDropped := resize stats.packetsDropped (reasonCode + 1)
        bytesDropped := resize stats.bytesDropped (reasonCode + 1) }
    else stats
  { stats with
    packetsDropped := stats.packetsDropped.modify reasonCode (· + 1)
    bytesDropped := stats.bytesDropped.modify reasonCode (· + BitVec.ofNat 64 packetSize) }

variable (now packetSize tStart reasonCode : ℕ) (stats : FlowStats)

@[simp] lemma firstTx_txBytes :
    (stats.firstTx now packetSize).txBytes = stats.txBytes + BitVec.ofNat 64 packetSize := by
  dsimp only [firstTx]
  split_ifs <;> rfl

@[simp] lemma firstTx_rxBytes : (stats.firstTx now packetSize).rxBytes = stats.rxBytes := by
  dsimp only [firstTx]
  split_ifs <;> rfl

@[simp] lemma firstTx_timeLastRxPacket :
    (stats.firstTx now packetSize).timeLastRxPacket = stats.timeLastRxPacket := by
  dsimp only [firstTx]
  split_ifs <;> rfl

@[simp] lemma firstTx_timeFirstTxPacket :
    (stats.firstTx now packetSize).timeFirstTxPacket =
      if stats.txBytes = 0 then now else stats.timeFirstTxPacket := by
  dsimp only [firstTx]
  split_ifs <;> rfl

@[simp] lemma firstTx_timeFirstRxPacket :
    (stats.firstTx now packetSize).timeFirstRxPacket = stats.timeFirstRxPacket := by
  dsimp only [firstTx]
  split_ifs <;> rfl

@[simp] lemma firstTx_packetsDropped :
    (stats.firstTx now packetSize).packetsDropped = stats.packetsDropped := by
  dsimp only [firstTx]
  split_ifs <;> rfl

@[simp] lemma firstTx_bytesDropped :
    (stats.firstTx now packetSize).bytesDropped = stats.bytesDropped := by
  dsimp only [firstTx]
  split_ifs <;> rfl

@[simp] lemma lastRx_txBytes : (stats.lastRx now packetSize tStart).txBytes = stats.txBytes := by
  dsimp only [lastRx]
  split_ifs <;> rfl

@[simp] lemma lastRx_rxBytes :
    (stats.lastRx now packetSize tStart).rxBytes = stats.rxBytes + BitVec.ofNat 64 packetSize := by
  dsimp only [lastRx]
  split_ifs <;> rfl

@[simp] lemma lastRx_timeLastRxPacket :
    (stats.lastRx now packetSize tStart).timeLastRxPacket = now := rfl

@[simp] lemma lastRx_timeFirstTxPacket :
    (stats.lastRx now packetSize tStart).timeFirstTxPacket =
      if stats.timeFirstTxPacket = 0 then tStart else stats.timeFirstTxPacket := by
  dsimp only [lastRx]
  split_ifs <;> rfl

@[simp] lemma lastRx_timeLastTxPacket :
    (stats.lastRx now packetSize tStart).timeLastTxPacket = stats.timeLastTxPacket := by
  dsimp only [lastRx]
  split_ifs <;> rfl

@[simp] lemma lastRx_timeFirstRxPacket :
    (stats.lastRx now packetSize tStart).timeFirstRxPacket =
      if stats.rxBytes = 1 then now else stats.timeFirstRxPacket := by
  dsimp only [lastRx]
  split_ifs <;> rfl

@[simp] lemma lastRx_packetsDropped :
    (stats.lastRx now packetSize tStart).packetsDropped = stats.packetsDropped := by
  dsimp only [lastRx]
  split_ifs <;> rfl

@[simp] lemma lastRx_bytesDropped :
    (stats.lastRx now packetSize tStart).bytesDropped = stats.bytesDropped := by
  dsimp only [lastRx]
  split_ifs <;> rfl

@[simp] lemma drop_txBytes : (stats.drop packetSize reasonCode).txBytes = stats.txBytes := by
  dsimp only [drop]
  split_ifs <;> rfl

@[simp] lemma drop_rxBytes : (stats.drop packetSize reasonCode).rxBytes = stats.rxBytes := by
  dsimp only [drop]
  split_ifs <;> rfl

@[simp] lemma drop_timeLastRxPacket :
    (stats.drop packetSize reasonCode).timeLastRxPacket = stats.timeLastRxPacket := by
  dsimp only [drop]
  split_ifs <;> rfl

@[simp] lemma drop_timeLastTxPacket :
    (stats.drop packetSize reasonCode).timeLastTxPacket = stats.timeLastTxPacket := by
  dsimp only [drop]
  split_ifs <;> rfl

@[simp] lemma drop_timeFirstRxPacket :
    (stats.drop packetSize reasonCode).timeFirstRxPacket = stats.timeFirstRxPacket := by
  dsimp only [drop]
  split_ifs <;> rfl

@[simp] lemma drop_timeFirstTxPacket :
    (stats.drop packetSize reasonCode).timeFirstTxPacket = stats.timeFirstTxPacket := by
  dsimp only [drop]
  split_ifs <;> rfl

end FlowStats

structure TrackedPacket where
  firstSeenTime : ℕ
  lastSeenTime : ℕ

structure MpiFlowMonitor where
  flowStats : Map FlowId FlowStats := ∅
  trackedPackets : Map (FlowId × FlowPacketId) TrackedPacket := ∅
  enabled : Bool := false

namespace MpiFlowMonitor

def startRightNow (m : MpiFlowMonitor) : MpiFlowMonitor := { m with enabled := true }

def stopRightNow (m : MpiFlowMonitor) : MpiFlowMonitor := { m with enabled := false }

def getStatsForFlow (flowId : FlowId) (m : MpiFlowMonitor) : FlowStats :=
  (m.flowStats.lookup flowId).getD {}

def reportFirstTx (now : ℕ) (flowId : FlowId) (packetId : FlowPacketId) (packetSize : ℕ)
    (m : MpiFlowMonitor) : MpiFlowMonitor :=
  if !m.enabled then m
  else
    { m with
      trackedPackets := m.trackedPackets.insert (flowId, packetId) ⟨now, now⟩
      flowStats := m.flowStats.insert flowId ((m.getStatsForFlow flowId).firstTx now packetSize) }

def reportLastRx (now : ℕ) (flowId : FlowId) (packetId : FlowPacketId) (packetSize tStart : ℕ)
    (m : MpiFlowMonitor) : MpiFlowMonitor :=
  if !m.enabled then m
  else
    { m with
      trackedPackets := m.trackedPackets.erase (flowId, packetId)
      flowStats := m.flowStats.insert flowId
        ((m.getStatsForFlow flowId).lastRx now packetSize tStart) }

def reportDrop (flowId : FlowId) (packetId : FlowPacketId) (packetSize reasonCode : ℕ)
    (m : MpiFlowMonitor) : MpiFlowMonitor :=
  if !m.enabled then m
  else
    { m with
      trackedPackets := m.trackedPackets.erase (flowId, packetId)
      flowStats := m.flowStats.insert flowId
        ((m.getStatsForFlow flowId).drop packetSize reasonCode) }

def shownFlows (m : MpiFlowMonitor) : List (FlowId × FlowStats) :=
  let shown := m.flowStats.entries.filter fun flow =>
    ¬(flow.2.timeFirstTxPacket = 0 ∨ flow.2.timeLastRxPacket = 0)
  shown.map fun flow => (flow.1, flow.2)

variable {now packetSize tStart reasonCode : ℕ} {flowId x : FlowId} {packetId : FlowPacketId}
  {stats : FlowStats} {m : MpiFlowMonitor}

lemma getStatsForFlow_insert {m' : MpiFlowMonitor}
    (h : m'.flowStats = m.flowStats.insert flowId stats) :
    m'.getStatsForFlow x = if x = flowId then stats else m.getStatsForFlow x := by
  unfold getStatsForFlow
  rw [h]
  split_ifs with hx
  · rw [hx, AList.lookup_insert]
    rfl
  · rw [AList.lookup_insert_ne hx]

@[simp] lemma reportFirstTx_enabled :
    (m.reportFirstTx now flowId packetId packetSize).enabled = m.enabled := by
  unfold reportFirstTx
  split <;> rfl

@[simp] lemma reportLastRx_enabled :
    (m.reportLastRx now flowId packetId packetSize tStart).enabled = m.enabled := by
  unfold reportLastRx
  split <;> rfl

@[simp] lemma reportDrop_enabled :
    (m.reportDrop flowId packetId packetSize reasonCode).enabled = m.enabled := by
  unfold reportDrop
  split <;> rfl

lemma reportFirstTx_getStatsForFlow (h : m.enabled = true) :
    (m.reportFirstTx now flowId packetId packetSize).getStatsForFlow x =
      if x = flowId then (m.getStatsForFlow x).firstTx now packetSize
      else m.getStatsForFlow x := by
  rw [getStatsForFlow_insert (by rw [reportFirstTx, h]; rfl)]
  split_ifs with hx
  · rw [hx]
  · rfl

lemma reportLastRx_getStatsForFlow (h : m.enabled = true) :
    (m.reportLastRx now flowId packetId packetSize tStart).getStatsForFlow x =
      if x = flowId then (m.getStatsForFlow x).lastRx now packetSize tStart
      else m.getStatsForFlow x := by
  rw [getStatsForFlow_insert (by rw [reportLastRx, h]; rfl)]
  split_ifs with hx
  · rw [hx]
  · rfl

lemma reportDrop_getStatsForFlow (h : m.enabled = true) :
    (m.reportDrop flowId packetId packetSize reasonCode).getStatsForFlow x =
      if x = flowId then (m.getStatsForFlow x).drop packetSize reasonCode
      else m.getStatsForFlow x := by
  rw [getStatsForFlow_insert (by rw [reportDrop, h]; rfl)]
  split_ifs with hx
  · rw [hx]
  · rfl

lemma mem_shownFlows : (flowId, stats) ∈ m.shownFlows ↔
    m.getStatsForFlow flowId = stats ∧ stats.timeFirstTxPacket ≠ 0 ∧ stats.timeLastRxPacket ≠ 0 := by
  unfold getStatsForFlow
  simp only [shownFlows, List.mem_map, List.mem_filter, decide_eq_true_eq, not_or]
  constructor
  · rintro ⟨⟨y, st⟩, ⟨hmem, hz⟩, he⟩
    cases he
    rw [AList.mem_lookup_iff.mpr hmem]
    exact ⟨rfl, hz⟩
  · rintro ⟨he, hz⟩
    cases hl : m.flowStats.lookup flowId with
    | none =>
      rw [hl] at he
      exact absurd (he ▸ rfl) hz.1
    | some st =>
      obtain rfl : st = stats := by simpa only [hl, Option.getD_some] using he
      exact ⟨⟨flowId, st⟩, ⟨AList.mem_lookup_iff.mp hl, hz⟩, rfl⟩

lemma shownFlows_nodup : (m.shownFlows.map Prod.fst).Nodup := by
  simp only [shownFlows, List.map_map]
  exact (List.filter_sublist.map Sigma.fst).nodup m.flowStats.keys_nodup

end MpiFlowMonitor

end SwarmSim.FlowMonitor
