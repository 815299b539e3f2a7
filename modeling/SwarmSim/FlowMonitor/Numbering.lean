import SwarmSim.FlowMonitor.Classifier
import SwarmSim.Machine.Fold

/-! A sequence of packets at the classifier of one rank: the flows are numbered in the order in
which they are first seen by the deadline, and the packets of a flow in the order of the calls. -/

namespace SwarmSim.FlowMonitor

open Ns3 Machine

def Packet.fiveTuple (p : Packet) : FiveTuple where
  sourceAddress := p.ipHeader.source
  destinationAddress := p.ipHeader.destination
  protocol := p.ipHeader.protocol
  sourcePort := p.ipPayload.getD 0 0 ++ p.ipPayload.getD 1 0
  destinationPort := p.ipPayload.getD 2 0 ++ p.ipPayload.getD 3 0

structure Call where
  now : ℕ
  packet : Packet

structure Classified where
  packet : Packet
  flowId : FlowId
  packetId : FlowPacketId

def Classified.tuple (a : Classified) : FiveTuple := a.packet.fiveTuple

def classifyNext (cfg : Config) (s : List Classified × Ipv4MpiFlowClassifier) (call : Call) :
    List Classified × Ipv4MpiFlowClassifier :=
  match s.2.classify cfg call.now call.packet with
  | (none, c) => (s.1, c)
  | (some (flowId, packetId), c) => (s.1 ++ [⟨call.packet, flowId, packetId⟩], c)

def classifyAll (cfg : Config) (systemId : BitVec 32) (calls : List Call) :
    List Classified × Ipv4MpiFlowClassifier :=
  calls.foldl (classifyNext cfg) ([], Ipv4MpiFlowClassifier.create.setSystemId systemId)

def Call.newFlow (cfg : Config) (call : Call) : Option FiveTuple :=
  if call.now ≤ cfg.monitorUntil then monitored cfg call.packet else none

def newFlows (cfg : Config) (calls : List Call) : List FiveTuple :=
  firstSeen (calls.filterMap (Call.newFlow cfg))

section

variable {cfg : Config} {p : Packet} {tuple : FiveTuple} {calls : List Call} {call : Call}

lemma monitored_eq_some : monitored cfg p = some tuple ↔
    p.ipHeader.fragmentOffset = 0 ∧
      (p.ipHeader.protocol = udpProtNumber ∨ p.ipHeader.protocol = tcpProtNumber) ∧
      4 ≤ p.ipPayload.length ∧ tuple.sourcePort ≠ cfg.sourcePortToFilter ∧ p.fiveTuple = tuple := by
  rw [monitored, Option.filter_eq_some_iff, decide_eq_true_eq]
  rcases p with ⟨uid, ⟨source, destination, protocol, fragmentOffset⟩, payload, hsize⟩
  by_cases hf : fragmentOffset = 0
  · by_cases hp : protocol = udpProtNumber ∨ protocol = tcpProtNumber
    · have hn : ¬(protocol ≠ udpProtNumber ∧ protocol ≠ tcpProtNumber) := by tauto
      rcases payload with _ | ⟨d₀, _ | ⟨d₁, _ | ⟨d₂, _ | ⟨d₃, rest⟩⟩⟩⟩
      · simp [FiveTuple.ofPacket]
      · simp [FiveTuple.ofPacket]
      · simp [FiveTuple.ofPacket]
      · simp [FiveTuple.ofPacket]
      · simp only [FiveTuple.ofPacket, hf, gt_iff_lt, if_neg hn, Packet.fiveTuple]
        simp [hp, and_comm]
    · have hn : protocol ≠ udpProtNumber ∧ protocol ≠ tcpProtNumber := not_or.mp hp
      simp [FiveTuple.ofPacket, hf, hn]
  · change ¬fragmentOffset = 0#16 at hf
    simp [FiveTuple.ofPacket, hf]

lemma monitored_fiveTuple (h : monitored cfg p = some tuple) : p.fiveTuple = tuple :=
  (monitored_eq_some.mp h).2.2.2.2

lemma newFlows_monitored (h : tuple ∈ newFlows cfg calls) :
    (tuple.protocol = udpProtNumber ∨ tuple.protocol = tcpProtNumber) ∧
      tuple.sourcePort ≠ cfg.sourcePortToFilter := by
  obtain ⟨call, -, hc⟩ := List.mem_filterMap.mp (mem_firstSeen.mp h)
  obtain ⟨-, hprotocol, -, hport, rfl⟩ :=
    monitored_eq_some.mp (Option.ite_none_right_eq_some.mp hc).2
  exact ⟨hprotocol, hport⟩

lemma newFlows_concat : newFlows cfg (calls ++ [call]) =
    match call.newFlow cfg with
    | none => newFlows cfg calls
    | some tuple =>
      if tuple ∈ newFlows cfg calls then newFlows cfg calls else newFlows cfg calls ++ [tuple] := by
  unfold newFlows
  rw [List.filterMap_append]
  cases h : call.newFlow cfg with
  | none => simp [h]
  | some tuple =>
    simp only [List.filterMap_cons_some h, List.filterMap_nil, firstSeen_concat]

lemma newFlows_known (h : ∀ tuple, call.newFlow cfg = some tuple → tuple ∈ newFlows cfg calls) :
    newFlows cfg (calls ++ [call]) = newFlows cfg calls := by
  rw [newFlows_concat]
  cases hc : call.newFlow cfg with
  | none => rfl
  | some tuple => exact if_pos (h tuple hc)

lemma newFlows_new (h : call.newFlow cfg = some tuple) (hn : tuple ∉ newFlows cfg calls) :
    newFlows cfg (calls ++ [call]) = newFlows cfg calls ++ [tuple] := by
  rw [newFlows_concat, h]
  exact if_neg hn

lemma newFlows_length_le : (newFlows cfg calls).length ≤ (newFlows cfg (calls ++ [call])).length := by
  obtain ⟨new, hnew⟩ := firstSeen_append (calls.filterMap (Call.newFlow cfg))
    ([call].filterMap (Call.newFlow cfg))
  rw [newFlows, newFlows, List.filterMap_append, hnew, List.length_append]
  exact Nat.le_add_right _ _

end

section

variable {base : FlowId} {flows : List FiveTuple} {tuple other : FiveTuple}

def idOf (base : FlowId) (flows : List FiveTuple) (tuple : FiveTuple) : FlowId :=
  base + BitVec.ofNat 32 (flows.idxOf tuple + 1)

lemma ofNat_succ_inj {n i j : ℕ} (hn : n ≤ 2 ^ 32) (hi : i < n) (hj : j < n) :
    BitVec.ofNat 32 (i + 1) = BitVec.ofNat 32 (j + 1) ↔ i = j := by
  refine ⟨fun h => ?_, fun h => h ▸ rfl⟩
  have h := congrArg BitVec.toNat h
  simp only [BitVec.toNat_ofNat] at h
  omega

lemma idOf_inj (h : flows.length ≤ 2 ^ 32) (ht : tuple ∈ flows) (ho : other ∈ flows) :
    idOf base flows tuple = idOf base flows other ↔ tuple = other := by
  rw [idOf, idOf, BitVec.add_right_inj, ofNat_succ_inj h (List.idxOf_lt_length_of_mem ht)
    (List.idxOf_lt_length_of_mem ho), List.idxOf_inj ht]

lemma idOf_append (ht : tuple ∈ flows) (new : List FiveTuple) :
    idOf base (flows ++ new) tuple = idOf base flows tuple := by
  rw [idOf, List.idxOf_append_of_mem ht, idOf]

lemma idOf_new (ht : tuple ∉ flows) :
    idOf base (flows ++ [tuple]) tuple = base + BitVec.ofNat 32 flows.length + 1 := by
  rw [idOf, List.idxOf_append_of_notMem ht, List.idxOf_cons_self, BitVec.ofNat_add, BitVec.add_assoc]
  rfl

end

/-- What the calls have left: every flow of `newFlows` has its id and the count of its packets. -/
structure Numbers (cfg : Config) (base : FlowId) (calls : List Call)
    (s : List Classified × Ipv4MpiFlowClassifier) : Prop where
  flows : firstSeen (s.1.map Classified.tuple) = newFlows cfg calls
  lastNewFlowId : s.2.lastNewFlowId = base + BitVec.ofNat 32 (newFlows cfg calls).length
  flowMap : ∀ tuple, s.2.flowMap.lookup tuple =
    if tuple ∈ newFlows cfg calls then some (idOf base (newFlows cfg calls) tuple) else none
  flowPktIdMap : ∀ tuple ∈ newFlows cfg calls,
    s.2.flowPktIdMap.lookup (idOf base (newFlows cfg calls) tuple) =
      some (BitVec.ofNat 32 ((s.1.map Classified.tuple).count tuple - 1))
  flowId : ∀ a ∈ s.1, a.flowId = idOf base (newFlows cfg calls) a.tuple
  packetId : ∀ pre a post, s.1 = pre ++ a :: post →
    a.packetId = BitVec.ofNat 32 ((pre.map Classified.tuple).count a.tuple)

namespace Numbers

variable {cfg : Config} {base : FlowId} {calls : List Call} {call : Call}
  {s : List Classified × Ipv4MpiFlowClassifier} {tuple : FiveTuple}

lemma start (systemId : BitVec 32) : Numbers cfg (systemId <<< 26) []
    ([], Ipv4MpiFlowClassifier.create.setSystemId systemId) where
  flows := rfl
  lastNewFlowId := (BitVec.add_zero _).symm
  flowMap _ := rfl
  flowPktIdMap _ ht := absurd ht List.not_mem_nil
  flowId _ ha := absurd ha List.not_mem_nil
  packetId pre a post h := by simp at h

lemma mem_newFlows (h : Numbers cfg base calls s) :
    tuple ∈ newFlows cfg calls ↔ ∃ a ∈ s.1, a.tuple = tuple := by
  rw [← h.flows, mem_firstSeen, List.mem_map]

lemma rejected (h : Numbers cfg base calls s)
    (hc : s.2.classify cfg call.now call.packet = (none, s.2))
    (hn : newFlows cfg (calls ++ [call]) = newFlows cfg calls) :
    Numbers cfg base (calls ++ [call]) (classifyNext cfg s call) := by
  have hs : classifyNext cfg s call = s := by rw [classifyNext, hc]
  rw [hs]
  refine ⟨?_, ?_, ?_, ?_, ?_, h.packetId⟩
  · exact hn ▸ h.flows
  · exact hn ▸ h.lastNewFlowId
  · exact hn ▸ h.flowMap
  · exact hn ▸ h.flowPktIdMap
  · exact hn ▸ h.flowId

lemma packetId_concat (h : Numbers cfg base calls s) {b : Classified}
    (hb : b.packetId = BitVec.ofNat 32 ((s.1.map Classified.tuple).count b.tuple))
    (pre : List Classified) (a : Classified) (post : List Classified)
    (he : s.1 ++ [b] = pre ++ a :: post) :
    a.packetId = BitVec.ofNat 32 ((pre.map Classified.tuple).count a.tuple) := by
  induction post using List.reverseRecOn with
  | nil =>
    obtain ⟨hpre, he⟩ := List.append_inj' he rfl
    obtain rfl := List.singleton_inj.mp he
    exact hpre ▸ hb
  | append_singleton post b' _ =>
    rw [← List.cons_append, ← List.append_assoc] at he
    exact h.packetId pre a post (List.append_inj' he rfl).1

lemma accepted (h : Numbers cfg base calls s) {b : Classified} {c : Ipv4MpiFlowClassifier}
    (hlen : (newFlows cfg (calls ++ [call])).length ≤ 2 ^ 32)
    (hnew : newFlows cfg (calls ++ [call]) =
      if b.tuple ∈ newFlows cfg calls then newFlows cfg calls else newFlows cfg calls ++ [b.tuple])
    (hlast : c.lastNewFlowId = base + BitVec.ofNat 32 (newFlows cfg (calls ++ [call])).length)
    (hmap : ∀ t, c.flowMap.lookup t = if t ∈ newFlows cfg (calls ++ [call]) then
      some (idOf base (newFlows cfg (calls ++ [call])) t) else none)
    (hid : b.flowId = idOf base (newFlows cfg (calls ++ [call])) b.tuple)
    (hpacketId : b.packetId = BitVec.ofNat 32 ((s.1.map Classified.tuple).count b.tuple))
    (hids : c.flowPktIdMap = s.2.flowPktIdMap.insert b.flowId b.packetId) :
    Numbers cfg base (calls ++ [call]) (s.1 ++ [b], c) := by
  have hmem : ∀ t, t ∈ newFlows cfg (calls ++ [call]) ↔ t ∈ newFlows cfg calls ∨ t = b.tuple := by
    intro t
    rw [hnew]
    split_ifs with hb
    · exact ⟨.inl, fun ht => ht.elim id fun he => he ▸ hb⟩
    · rw [List.mem_append, List.mem_singleton]
  have hstable : ∀ t ∈ newFlows cfg calls,
      idOf base (newFlows cfg (calls ++ [call])) t = idOf base (newFlows cfg calls) t := by
    intro t ht
    rw [hnew]
    split_ifs
    · rfl
    · exact idOf_append ht _
  refine ⟨?_, hlast, hmap, ?_, ?_, h.packetId_concat hpacketId⟩
  · rw [List.map_append, List.map_singleton, firstSeen_concat, h.flows, hnew]
  · intro t ht
    change c.flowPktIdMap.lookup _ = _
    rw [List.map_append, List.map_singleton, List.count_append, hids]
    by_cases he : t = b.tuple
    · subst he
      rw [← hid, AList.lookup_insert, hpacketId, List.count_singleton_self, Nat.add_sub_cancel]
    · have hold : t ∈ newFlows cfg calls := ((hmem t).mp ht).resolve_right he
      have hne : idOf base (newFlows cfg (calls ++ [call])) t ≠ b.flowId := by
        rw [hid]
        exact mt (idOf_inj hlen ht ((hmem _).mpr (.inr rfl))).mp he
      have hcount : [b.tuple].count t = 0 := List.count_eq_zero.mpr (by simpa using he)
      rw [AList.lookup_insert_ne hne, hstable t hold, h.flowPktIdMap t hold, hcount, Nat.add_zero]
  · intro a ha
    rcases List.mem_append.mp ha with ha | ha
    · rw [hstable _ (h.mem_newFlows.mpr ⟨a, ha, rfl⟩)]
      exact h.flowId a ha
    · obtain rfl := List.mem_singleton.mp ha
      exact hid

lemma known (h : Numbers cfg base calls s) (hlen : (newFlows cfg calls).length ≤ 2 ^ 32)
    (hm : monitored cfg call.packet = some tuple) (ht : tuple ∈ newFlows cfg calls) :
    Numbers cfg base (calls ++ [call]) (classifyNext cfg s call) := by
  have hn : newFlows cfg (calls ++ [call]) = newFlows cfg calls := by
    apply newFlows_known
    intro t hc
    obtain rfl : tuple = t := Option.some.inj (hm.symm.trans (Option.ite_none_right_eq_some.mp hc).2)
    exact ht
  obtain rfl : call.packet.fiveTuple = tuple := monitored_fiveTuple hm
  let count := (s.1.map Classified.tuple).count call.packet.fiveTuple
  have hpos : 0 < count := by
    rw [List.count_pos_iff, List.mem_map]
    exact h.mem_newFlows.mp ht
  have hnum : (BitVec.ofNat 32 (count - 1) + 1 : FlowPacketId) = BitVec.ofNat 32 count := by
    rw [← Nat.sub_add_cancel hpos, BitVec.ofNat_add, Nat.add_sub_cancel]
    rfl
  rw [classifyNext, classify_known call.now hm ((h.flowMap _).trans (if_pos ht)),
    h.flowPktIdMap _ ht, Option.getD_some, hnum]
  exact h.accepted (hn ▸ hlen) (hn.trans (if_pos ht).symm) (hn ▸ h.lastNewFlowId) (hn ▸ h.flowMap)
    (congrArg (idOf base · call.packet.fiveTuple) hn.symm) rfl rfl

lemma new (h : Numbers cfg base calls s)
    (hlen : (newFlows cfg (calls ++ [call])).length ≤ 2 ^ 32)
    (hm : monitored cfg call.packet = some tuple) (ht : tuple ∉ newFlows cfg calls)
    (hnow : call.now ≤ cfg.monitorUntil) :
    Numbers cfg base (calls ++ [call]) (classifyNext cfg s call) := by
  have hn : newFlows cfg (calls ++ [call]) = newFlows cfg calls ++ [tuple] :=
    newFlows_new ((if_pos hnow).trans hm) ht
  obtain rfl : call.packet.fiveTuple = tuple := monitored_fiveTuple hm
  have hid : s.2.lastNewFlowId + 1 =
      idOf base (newFlows cfg (calls ++ [call])) call.packet.fiveTuple := by
    rw [h.lastNewFlowId, hn, idOf_new ht]
  have hcount : (s.1.map Classified.tuple).count call.packet.fiveTuple = 0 := by
    rw [List.count_eq_zero, List.mem_map]
    exact mt h.mem_newFlows.mpr ht
  rw [classifyNext, classify_new hm ((h.flowMap _).trans (if_neg ht)) hnow, hid]
  apply h.accepted hlen (hn.trans (if_neg ht).symm) _ _ rfl _ rfl
  · rw [hn, idOf_new ht, List.length_append, List.length_singleton, BitVec.ofNat_add, BitVec.add_assoc]
    rfl
  · rw [hn]
    exact lookup_insert_concat h.flowMap fun t hold => (idOf_append hold _).symm
  · exact congrArg (BitVec.ofNat 32) hcount.symm

lemma step (h : Numbers cfg base calls s)
    (hlen : (newFlows cfg (calls ++ [call])).length ≤ 2 ^ 32) :
    Numbers cfg base (calls ++ [call]) (classifyNext cfg s call) := by
  cases hm : monitored cfg call.packet with
  | none =>
    refine h.rejected (classify_unmonitored hm) (newFlows_known fun t ht => ?_)
    exact absurd (hm.symm.trans (Option.ite_none_right_eq_some.mp ht).2) (Option.some_ne_none t).symm
  | some tuple =>
    by_cases ht : tuple ∈ newFlows cfg calls
    · exact h.known (newFlows_length_le.trans hlen) hm ht
    · by_cases hnow : call.now ≤ cfg.monitorUntil
      · exact h.new hlen hm ht hnow
      · refine h.rejected (classify_late hm ((h.flowMap tuple).trans (if_neg ht)) (not_le.mp hnow))
          (newFlows_known fun t ht => ?_)
        exact absurd (Option.ite_none_right_eq_some.mp ht).1 hnow

end Numbers

lemma classifyAll_concat (cfg : Config) (systemId : BitVec 32) (calls : List Call) (call : Call) :
    classifyAll cfg systemId (calls ++ [call]) =
      classifyNext cfg (classifyAll cfg systemId calls) call := by
  rw [classifyAll, List.foldl_append, List.foldl_cons, List.foldl_nil, classifyAll]

lemma classifyAll_numbers {cfg : Config} {calls : List Call} (systemId : BitVec 32)
    (hlen : (newFlows cfg calls).length ≤ 2 ^ 32) :
    Numbers cfg (systemId <<< 26) calls (classifyAll cfg systemId calls) := by
  induction calls using List.reverseRecOn with
  | nil => exact Numbers.start systemId
  | append_singleton calls call ih =>
    rw [classifyAll_concat]
    exact (ih (newFlows_length_le.trans hlen)).step hlen

def unfiltered : Config := ⟨0, 1000, fun _ _ => true⟩

def datagram (source : Ipv4Address) : Packet where
  uid := 0
  ipHeader := ⟨source, 0, udpProtNumber, 0⟩
  ipPayload := [0, 7, 0, 9]
  size_lt := by norm_num [Ipv4Header.getSerializedSize]

end SwarmSim.FlowMonitor
