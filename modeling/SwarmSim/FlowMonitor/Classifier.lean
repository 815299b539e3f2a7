import Mathlib.Data.List.AList
import SwarmSim.Ns3.Ipv4

/-! The flow classifier of one rank: the five-tuples that the rank has sent from, the flow id
that each was given and the number of its packets so far. -/

namespace SwarmSim.FlowMonitor

open Ns3

/-- `std::map`. -/
abbrev Map (κ α : Type) := AList (fun _ : κ => α)

lemma lookup_insert_concat {κ α : Type} [DecidableEq κ] {m : Map κ α} {l : List κ} {f g : κ → α}
    {k : κ} (h : ∀ j, m.lookup j = if j ∈ l then some (f j) else none)
    (hfg : ∀ j ∈ l, f j = g j) (j : κ) :
    (m.insert k (g k)).lookup j = if j ∈ l ++ [k] then some (g j) else none := by
  by_cases hj : j = k
  · subst hj
    rw [AList.lookup_insert, if_pos (List.mem_append_right _ (List.mem_singleton_self j))]
  · rw [AList.lookup_insert_ne hj, h]
    by_cases hl : j ∈ l
    · rw [if_pos hl, if_pos (List.mem_append_left _ hl), hfg j hl]
    · rw [if_neg hl, if_neg (by simpa [hl] using hj)]

abbrev FlowId := BitVec 32
abbrev FlowPacketId := BitVec 32

structure Ipv4Header where
  source : Ipv4Address
  destination : Ipv4Address
  protocol : BitVec 8
  fragmentOffset : BitVec 16
  deriving DecidableEq

def Ipv4Header.getSerializedSize (_ : Ipv4Header) : ℕ := 20

/-- One packet on its way, `uid` telling it from packets of the same contents. The total
length field of the header has 16 bits. -/
structure Packet where
  uid : ℕ
  ipHeader : Ipv4Header
  ipPayload : List (BitVec 8)
  size_lt : ipPayload.length + ipHeader.getSerializedSize < 2 ^ 16
  deriving DecidableEq

namespace Packet

def size (p : Packet) : ℕ := p.ipPayload.length + p.ipHeader.getSerializedSize

lemma size_pos (p : Packet) : 0 < p.size := Nat.add_pos_right _ (Nat.succ_pos 19)

def tcpSourcePort (p : Packet) : BitVec 16 :=
  match p.ipPayload with
  | d₀ :: d₁ :: _ => d₀ ++ d₁
  | _ => 0

end Packet

structure FiveTuple where
  sourceAddress : Ipv4Address
  destinationAddress : Ipv4Address
  protocol : BitVec 8
  sourcePort : BitVec 16
  destinationPort : BitVec 16
  deriving DecidableEq

def tcpProtNumber : BitVec 8 := 6
def udpProtNumber : BitVec 8 := 17

/-- The first half of `Classify`: the ports are the first four bytes for TCP and for UDP. -/
def FiveTuple.ofPacket (p : Packet) : Option FiveTuple :=
  if p.ipHeader.fragmentOffset > 0 then none
  else if p.ipHeader.protocol ≠ udpProtNumber ∧ p.ipHeader.protocol ≠ tcpProtNumber then none
  else
    match p.ipPayload with
    | d₀ :: d₁ :: d₂ :: d₃ :: _ =>
      some ⟨p.ipHeader.source, p.ipHeader.destination, p.ipHeader.protocol, d₀ ++ d₁, d₂ ++ d₃⟩
    | _ => none

/-- `m_sourcePortToFilter`, `m_monitorUntil` and the interfaces' answer to `IsUnicast`. -/
structure Config where
  sourcePortToFilter : BitVec 16
  monitorUntil : ℕ
  isUnicast : Ipv4Address → Ipv4Address → Bool

structure Ipv4MpiFlowClassifier where
  lastNewFlowId : FlowId
  flowMap : Map FiveTuple FlowId
  flowPktIdMap : Map FlowId FlowPacketId

namespace Ipv4MpiFlowClassifier

def setSystemId (systemId : BitVec 32) (c : Ipv4MpiFlowClassifier) : Ipv4MpiFlowClassifier :=
  { c with lastNewFlowId := systemId <<< 26 }

def create : Ipv4MpiFlowClassifier := ⟨0, ∅, ∅⟩

def getNewFlowId (c : Ipv4MpiFlowClassifier) : FlowId × Ipv4MpiFlowClassifier :=
  (c.lastNewFlowId + 1, { c with lastNewFlowId := c.lastNewFlowId + 1 })

def classify (cfg : Config) (now : ℕ) (p : Packet) (c : Ipv4MpiFlowClassifier) :
    Option (FlowId × FlowPacketId) × Ipv4MpiFlowClassifier :=
  match FiveTuple.ofPacket p with
  | none => (none, c)
  | some tuple =>
    if tuple.sourcePort = cfg.sourcePortToFilter then (none, c)
    else
      match c.flowMap.lookup tuple with
      | none =>
        if now > cfg.monitorUntil then (none, c)
        else
          let (newFlowId, c) := c.getNewFlowId
          (some (newFlowId, 0),
            { c with
              flowMap := c.flowMap.insert tuple newFlowId
              flowPktIdMap := c.flowPktIdMap.insert newFlowId 0 })
      | some flowId =>
        let packetId := (c.flowPktIdMap.lookup flowId).getD 0 + 1
        (some (flowId, packetId), { c with flowPktIdMap := c.flowPktIdMap.insert flowId packetId })

end Ipv4MpiFlowClassifier

def monitored (cfg : Config) (p : Packet) : Option FiveTuple :=
  (FiveTuple.ofPacket p).filter fun tuple => tuple.sourcePort ≠ cfg.sourcePortToFilter

section

variable {cfg : Config} {now : ℕ} {p : Packet} {c : Ipv4MpiFlowClassifier} {tuple : FiveTuple}

lemma monitored_sourceAddress (h : monitored cfg p = some tuple) :
    tuple.sourceAddress = p.ipHeader.source ∧ tuple.destinationAddress = p.ipHeader.destination := by
  obtain ⟨h, -⟩ := Option.filter_eq_some_iff.mp h
  unfold FiveTuple.ofPacket at h
  split_ifs at h
  split at h
  · cases h
    exact ⟨rfl, rfl⟩
  · cases h

lemma monitored_tcpSourcePort (h : monitored cfg p = some tuple) :
    p.tcpSourcePort ≠ cfg.sourcePortToFilter := by
  obtain ⟨h, hport⟩ := Option.filter_eq_some_iff.mp h
  unfold FiveTuple.ofPacket at h
  split_ifs at h
  split at h
  · rename_i he
    cases h
    simpa only [Packet.tcpSourcePort, he, decide_eq_true_eq] using hport
  · cases h

lemma classify_unmonitored (h : monitored cfg p = none) : c.classify cfg now p = (none, c) := by
  unfold Ipv4MpiFlowClassifier.classify
  cases ht : FiveTuple.ofPacket p with
  | none => rfl
  | some tuple =>
    have hport : tuple.sourcePort = cfg.sourcePortToFilter := by
      simpa [monitored, ht, Option.filter_some] using h
    exact if_pos hport

lemma classify_known (now : ℕ) {flowId : FlowId} (h : monitored cfg p = some tuple)
    (hl : c.flowMap.lookup tuple = some flowId) :
    c.classify cfg now p =
      (some (flowId, (c.flowPktIdMap.lookup flowId).getD 0 + 1),
        { c with flowPktIdMap :=
            c.flowPktIdMap.insert flowId ((c.flowPktIdMap.lookup flowId).getD 0 + 1) }) := by
  obtain ⟨ht, hport⟩ := Option.filter_eq_some_iff.mp h
  simp only [Ipv4MpiFlowClassifier.classify, ht, if_neg (of_decide_eq_true hport), hl]

lemma classify_new (h : monitored cfg p = some tuple) (hl : c.flowMap.lookup tuple = none)
    (hnow : now ≤ cfg.monitorUntil) :
    c.classify cfg now p =
      (some (c.lastNewFlowId + 1, 0),
        { lastNewFlowId := c.lastNewFlowId + 1
          flowMap := c.flowMap.insert tuple (c.lastNewFlowId + 1)
          flowPktIdMap := c.flowPktIdMap.insert (c.lastNewFlowId + 1) 0 }) := by
  obtain ⟨ht, hport⟩ := Option.filter_eq_some_iff.mp h
  simp only [Ipv4MpiFlowClassifier.classify, ht, if_neg (of_decide_eq_true hport), hl,
    if_neg (not_lt.mpr hnow), Ipv4MpiFlowClassifier.getNewFlowId]

lemma classify_late (h : monitored cfg p = some tuple) (hl : c.flowMap.lookup tuple = none)
    (hnow : cfg.monitorUntil < now) : c.classify cfg now p = (none, c) := by
  obtain ⟨ht, hport⟩ := Option.filter_eq_some_iff.mp h
  simp only [Ipv4MpiFlowClassifier.classify, ht, if_neg (of_decide_eq_true hport), hl, if_pos hnow]

end

end SwarmSim.FlowMonitor
