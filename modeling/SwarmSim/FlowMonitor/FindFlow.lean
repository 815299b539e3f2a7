import Mathlib.Data.List.Sort
import Mathlib.Data.Prod.Lex
import SwarmSim.FlowMonitor.Numbering

/-! The order of the five-tuples in the flow map, the way back from an id to its flow, and what
`Classify` and `FindFlow` answer over a sequence of packets. -/

namespace SwarmSim.FlowMonitor

open Ns3 Machine

namespace FiveTuple

def lt (t1 t2 : FiveTuple) : Bool :=
  if t1.sourceAddress < t2.sourceAddress then true
  else if t1.sourceAddress ≠ t2.sourceAddress then false
  else if t1.destinationAddress < t2.destinationAddress then true
  else if t1.destinationAddress ≠ t2.destinationAddress then false
  else if t1.protocol < t2.protocol then true
  else if t1.protocol ≠ t2.protocol then false
  else if t1.sourcePort < t2.sourcePort then true
  else if t1.sourcePort ≠ t2.sourcePort then false
  else if t1.destinationPort < t2.destinationPort then true
  else if t1.destinationPort ≠ t2.destinationPort then false
  else false

def key (t : FiveTuple) : ℕ ×ₗ ℕ ×ₗ ℕ ×ₗ ℕ ×ₗ ℕ :=
  toLex (t.sourceAddress.toNat, toLex (t.destinationAddress.toNat, toLex (t.protocol.toNat,
    toLex (t.sourcePort.toNat, t.destinationPort.toNat))))

variable {t1 t2 : FiveTuple}

lemma key_injective : Function.Injective key := by
  rintro ⟨s1, d1, p1, sp1, dp1⟩ ⟨s2, d2, p2, sp2, dp2⟩ h
  simpa only [key, toLex_inj, Prod.mk.injEq, BitVec.toNat_inj, FiveTuple.mk.injEq] using h

lemma field_lt_iff {w : ℕ} (a b : BitVec w) (rest : Bool) :
    (if a < b then true else if a ≠ b then false else rest) = true ↔
      a.toNat < b.toNat ∨ a.toNat = b.toNat ∧ rest = true := by
  rw [BitVec.toNat_inj, ← BitVec.lt_def]
  by_cases hlt : a < b
  · exact iff_of_true (if_pos hlt) (.inl hlt)
  · rw [if_neg hlt, or_iff_right hlt]
    by_cases he : a = b
    · rw [if_neg (not_not_intro he), and_iff_right he]
    · rw [if_pos he]
      exact iff_of_false Bool.false_ne_true fun h => he h.1

lemma lt_iff : t1.lt t2 = true ↔ t1.key < t2.key := by
  rw [lt, key, key, Prod.Lex.toLex_lt_toLex, Prod.Lex.toLex_lt_toLex, Prod.Lex.toLex_lt_toLex,
    Prod.Lex.toLex_lt_toLex]
  simp only [field_lt_iff, Bool.false_eq_true, and_false, or_false]

lemma lt_eq_false : t1.lt t2 = false ↔ t2.key ≤ t1.key := by
  rw [← Bool.not_eq_true, lt_iff, not_lt]

lemma not_lt_iff_eq : t1.lt t2 = false ∧ t2.lt t1 = false ↔ t1 = t2 := by
  rw [lt_eq_false, lt_eq_false, and_comm, ← le_antisymm_iff, key_injective.eq_iff]

lemma lt_of_ne (h : t1.lt t2 = false) (hne : t1 ≠ t2) : t2.lt t1 = true := by
  rw [← Bool.not_eq_false]
  exact fun h' => hne (not_lt_iff_eq.mp ⟨h, h'⟩)

end FiveTuple

abbrev FlowEntry := Σ _ : FiveTuple, FlowId

def FlowEntry.NotAfter (a b : FlowEntry) : Prop := b.1.lt a.1 = false

instance : DecidableRel FlowEntry.NotAfter := fun a b => decEq (b.1.lt a.1) false

instance : Std.Total FlowEntry.NotAfter :=
  ⟨fun a b => by
    simp only [FlowEntry.NotAfter, FiveTuple.lt_eq_false]
    exact le_total a.1.key b.1.key⟩

instance : IsTrans FlowEntry FlowEntry.NotAfter :=
  ⟨fun a b c => by
    simp only [FlowEntry.NotAfter, FiveTuple.lt_eq_false]
    exact le_trans⟩

namespace Ipv4MpiFlowClassifier

/-- `m_flowMap` as its iterators pass over it. -/
def flowsInOrder (c : Ipv4MpiFlowClassifier) : List FlowEntry :=
  c.flowMap.entries.insertionSort FlowEntry.NotAfter

def findFlow (flowId : FlowId) (c : Ipv4MpiFlowClassifier) : Except Fault FiveTuple :=
  match c.flowsInOrder.find? fun flow => flow.2 = flowId with
  | some flow => .ok flow.1
  | none => .error (.abort s!"Could not find the flow with ID {flowId.toNat}")

variable {c : Ipv4MpiFlowClassifier} {tuple : FiveTuple} {flowId : FlowId}

lemma mem_flowsInOrder :
    (⟨tuple, flowId⟩ : FlowEntry) ∈ c.flowsInOrder ↔ c.flowMap.lookup tuple = some flowId :=
  (List.mem_insertionSort _).trans AList.mem_lookup_iff.symm

lemma flowsInOrder_keys_nodup : (c.flowsInOrder.map Sigma.fst).Nodup :=
  ((List.perm_insertionSort _ c.flowMap.entries).map Sigma.fst).nodup_iff.mpr c.flowMap.keys_nodup

lemma flowsInOrder_pairwise : c.flowsInOrder.Pairwise fun a b => a.1.lt b.1 = true := by
  have hsorted := List.pairwise_insertionSort FlowEntry.NotAfter c.flowMap.entries
  have hne := List.pairwise_map.mp (flowsInOrder_keys_nodup (c := c))
  exact (hsorted.and hne).imp fun h => FiveTuple.lt_of_ne h.1 (Ne.symm h.2)

lemma find_flowsInOrder :
    c.flowsInOrder.find? (fun flow => !flow.1.lt tuple && !tuple.lt flow.1) =
      (c.flowMap.lookup tuple).map fun flowId => ⟨tuple, flowId⟩ := by
  have hkey : ∀ flow : FlowEntry, (!flow.1.lt tuple && !tuple.lt flow.1) = true ↔ flow.1 = tuple := by
    intro flow
    rw [Bool.and_eq_true, Bool.not_eq_true', Bool.not_eq_true', FiveTuple.not_lt_iff_eq]
  cases hl : c.flowMap.lookup tuple with
  | none =>
    apply List.find?_eq_none.mpr
    rintro ⟨t, flowId⟩ hmem ht
    obtain rfl : t = tuple := (hkey _).mp ht
    exact Option.some_ne_none _ ((mem_flowsInOrder.mp hmem).symm.trans hl)
  | some flowId =>
    have hmem : (⟨tuple, flowId⟩ : FlowEntry) ∈ c.flowsInOrder := mem_flowsInOrder.mpr hl
    have hsome : (c.flowsInOrder.find? fun flow => !flow.1.lt tuple && !tuple.lt flow.1).isSome :=
      List.find?_isSome.mpr ⟨_, hmem, (hkey ⟨tuple, flowId⟩).mpr rfl⟩
    obtain ⟨⟨t, x⟩, hfind⟩ := Option.isSome_iff_exists.mp hsome
    have ht := List.find?_some hfind
    obtain rfl : t = tuple := (hkey ⟨t, x⟩).mp ht
    have hx := mem_flowsInOrder.mp (List.mem_of_find?_eq_some hfind)
    obtain rfl : x = flowId := Option.some.inj (hx.symm.trans hl)
    exact hfind

lemma findFlow_eq (hl : c.flowMap.lookup tuple = some flowId)
    (h : ∀ t, c.flowMap.lookup t = some flowId → t = tuple) : c.findFlow flowId = .ok tuple := by
  have hmem : (⟨tuple, flowId⟩ : FlowEntry) ∈ c.flowsInOrder := mem_flowsInOrder.mpr hl
  have hsome : (c.flowsInOrder.find? fun flow => flow.2 = flowId).isSome :=
    List.find?_isSome.mpr ⟨_, hmem, decide_eq_true rfl⟩
  obtain ⟨⟨t, x⟩, hfind⟩ := Option.isSome_iff_exists.mp hsome
  obtain rfl : x = flowId := by simpa using List.find?_some hfind
  have ht : t = tuple := h t (mem_flowsInOrder.mp (List.mem_of_find?_eq_some hfind))
  rw [findFlow, hfind, ht]

end Ipv4MpiFlowClassifier

lemma idOf_toNat {base : FlowId} {flows : List FiveTuple} {tuple : FiveTuple}
    (h : base.toNat + flows.length < 2 ^ 32) (ht : tuple ∈ flows) :
    (idOf base flows tuple).toNat = base.toNat + 1 + flows.idxOf tuple := by
  have hlt := List.idxOf_lt_length_of_mem ht
  rw [idOf, BitVec.toNat_add, BitVec.toNat_ofNat]
  omega

namespace Numbers

variable {cfg : Config} {base : FlowId} {calls : List Call}
  {s : List Classified × Ipv4MpiFlowClassifier} {a b : Classified} {p : Packet}

lemma tuple_mem (h : Numbers cfg base calls s) (ha : a ∈ s.1) : a.tuple ∈ newFlows cfg calls :=
  h.mem_newFlows.mpr ⟨a, ha, rfl⟩

lemma lookup_tuple (h : Numbers cfg base calls s) (ha : a ∈ s.1) :
    s.2.flowMap.lookup a.tuple = some a.flowId := by
  rw [h.flowMap, if_pos (h.tuple_mem ha), h.flowId a ha]

lemma flowId_eq_iff (h : Numbers cfg base calls s) (hlen : (newFlows cfg calls).length ≤ 2 ^ 32)
    (ha : a ∈ s.1) (hb : b ∈ s.1) : a.flowId = b.flowId ↔ a.tuple = b.tuple := by
  rw [h.flowId a ha, h.flowId b hb, idOf_inj hlen (h.tuple_mem ha) (h.tuple_mem hb)]

lemma packetId_toNat (h : Numbers cfg base calls s) (hlen : (newFlows cfg calls).length ≤ 2 ^ 32)
    {pre post : List Classified} (hs : s.1 = pre ++ a :: post)
    (hcount : (s.1.map Classified.tuple).count a.tuple ≤ 2 ^ 32) :
    a.packetId.toNat = pre.countP fun b => b.flowId = a.flowId := by
  have hlt : (pre.map Classified.tuple).count a.tuple < 2 ^ 32 := by
    rw [hs, List.map_append, List.map_cons, List.count_append, List.count_cons_self] at hcount
    omega
  have hsame : ∀ b ∈ pre, (b.flowId = a.flowId ↔ b.tuple = a.tuple) := by
    intro b hb
    apply h.flowId_eq_iff hlen
    · exact hs ▸ List.mem_append_left _ hb
    · exact hs ▸ List.mem_append_right _ List.mem_cons_self
  rw [h.packetId pre a post hs, BitVec.toNat_ofNat, Nat.mod_eq_of_lt hlt, List.count,
    List.countP_map]
  apply List.countP_congr
  intro b hb
  simp [hsame b hb]

lemma ids_consecutive (h : Numbers cfg base calls s)
    (hwrap : base.toNat + (newFlows cfg calls).length < 2 ^ 32) :
    firstSeen (s.1.map fun a => a.flowId.toNat) =
      List.range' (base.toNat + 1) (newFlows cfg calls).length := by
  let flows := newFlows cfg calls
  let id := fun tuple => base.toNat + 1 + flows.idxOf tuple
  have hids : (s.1.map fun a => a.flowId.toNat) = (s.1.map Classified.tuple).map id := by
    rw [List.map_map]
    apply List.map_congr_left
    intro a ha
    rw [h.flowId a ha, idOf_toNat hwrap (h.tuple_mem ha)]
    rfl
  have hinj : ∀ t ∈ s.1.map Classified.tuple, ∀ t' ∈ s.1.map Classified.tuple,
      id t = id t' → t = t' := by
    intro t ht t' _ he
    obtain ⟨a, ha, rfl⟩ := List.mem_map.mp ht
    exact (List.idxOf_inj (h.tuple_mem ha)).mp (Nat.add_left_cancel he)
  have hnodup : flows.Nodup := firstSeen_nodup _
  rw [hids, firstSeen_map hinj, h.flows]
  calc flows.map id
      = (flows.map fun t => flows.idxOf t).map (base.toNat + 1 + ·) := by
        rw [List.map_map]
        rfl
    _ = (List.range' 0 flows.length).map (base.toNat + 1 + ·) := by
        rw [map_idxOf hnodup, List.range_eq_range']
    _ = List.range' (base.toNat + 1) flows.length := List.map_add_range' _ _ _

lemma findFlow (h : Numbers cfg base calls s) (hlen : (newFlows cfg calls).length ≤ 2 ^ 32)
    (ha : a ∈ s.1) : s.2.findFlow a.flowId = .ok a.tuple := by
  apply Ipv4MpiFlowClassifier.findFlow_eq (h.lookup_tuple ha)
  intro t ht
  rw [h.flowMap] at ht
  obtain ⟨hmem, hid⟩ := Option.ite_none_right_eq_some.mp ht
  rw [Option.some.injEq, h.flowId a ha] at hid
  exact (idOf_inj hlen hmem (h.tuple_mem ha)).mp hid

lemma accepts (h : Numbers cfg base calls s) (ha : a ∈ s.1) (now : ℕ)
    (hf : p.ipHeader.fragmentOffset = 0) (hp : 4 ≤ p.ipPayload.length) (ht : p.fiveTuple = a.tuple) :
    ∃ packetId, (s.2.classify cfg now p).1 = some (a.flowId, packetId) := by
  obtain ⟨hprotocol, hport⟩ := newFlows_monitored (h.tuple_mem ha)
  have hm : monitored cfg p = some a.tuple := by
    refine monitored_eq_some.mpr ⟨hf, ?_, hp, hport, ht⟩
    rwa [← ht] at hprotocol
  rw [classify_known now hm (h.lookup_tuple ha)]
  exact ⟨_, rfl⟩

end Numbers

lemma classify_rejected {cfg : Config} {now : ℕ} {p : Packet} {c : Ipv4MpiFlowClassifier}
    (h : (c.classify cfg now p).1 = none) : (c.classify cfg now p).2 = c := by
  cases hm : monitored cfg p with
  | none => rw [classify_unmonitored hm]
  | some tuple =>
    cases hl : c.flowMap.lookup tuple with
    | some flowId =>
      rw [classify_known now hm hl] at h
      cases h
    | none =>
      by_cases hnow : now ≤ cfg.monitorUntil
      · rw [classify_new hm hl hnow] at h
        cases h
      · rw [classify_late hm hl (not_le.mp hnow)]

/-- The accepted packets `log`, in the order of the calls, and the classifier that they leave, whose
map is kept in the order of `operator<` and searched by it. -/
structure Faithful (cfg : Config) (systemId : BitVec 32) (log : List Classified)
    (c : Ipv4MpiFlowClassifier) : Prop where
  flowId_eq_iff : ∀ a ∈ log, ∀ b ∈ log,
    a.flowId = b.flowId ↔ a.packet.fiveTuple = b.packet.fiveTuple
  packetId_toNat : ∀ pre a post, log = pre ++ a :: post →
    a.packetId.toNat = pre.countP fun b => b.flowId = a.flowId
  ids_consecutive : firstSeen (log.map fun a => a.flowId.toNat) =
    List.range' ((systemId <<< 26).toNat + 1) (firstSeen (log.map Classified.tuple)).length
  findFlow : ∀ a ∈ log, c.findFlow a.flowId = .ok a.packet.fiveTuple
  accepts : ∀ a ∈ log, ∀ now (p : Packet), p.ipHeader.fragmentOffset = 0 →
    4 ≤ p.ipPayload.length → p.fiveTuple = a.packet.fiveTuple →
    ∃ packetId, (c.classify cfg now p).1 = some (a.flowId, packetId)
  rejects : ∀ now p, (c.classify cfg now p).1 = none → (c.classify cfg now p).2 = c
  ordered : c.flowsInOrder.Pairwise fun a b => a.1.lt b.1 = true
  found : ∀ tuple, c.flowsInOrder.find? (fun flow => !flow.1.lt tuple && !tuple.lt flow.1) =
    (c.flowMap.lookup tuple).map fun flowId => ⟨tuple, flowId⟩

/-- Classification numbers the flows and the packets of each flow, below the wrap of the id and of
the packet counters. -/
theorem classifyAll_faithful (cfg : Config) (systemId : BitVec 32) (calls : List Call)
    (hflows : (systemId <<< 26).toNat + (newFlows cfg calls).length < 2 ^ 32)
    (hpackets : ∀ tuple,
      ((classifyAll cfg systemId calls).1.map Classified.tuple).count tuple ≤ 2 ^ 32) :
    Faithful cfg systemId (classifyAll cfg systemId calls).1 (classifyAll cfg systemId calls).2 := by
  have hlen : (newFlows cfg calls).length ≤ 2 ^ 32 := (Nat.le_add_left _ _).trans hflows.le
  have h : Numbers cfg (systemId <<< 26) calls (classifyAll cfg systemId calls) :=
    classifyAll_numbers systemId hlen
  exact
    { flowId_eq_iff := fun a ha b hb => h.flowId_eq_iff hlen ha hb
      packetId_toNat := fun pre a post hs => h.packetId_toNat hlen hs (hpackets a.tuple)
      ids_consecutive := h.flows.symm ▸ h.ids_consecutive hflows
      findFlow := fun a ha => h.findFlow hlen ha
      accepts := fun a ha now p hf hp ht => h.accepts ha now hf hp ht
      rejects := fun now p => classify_rejected
      ordered := Ipv4MpiFlowClassifier.flowsInOrder_pairwise
      found := fun tuple => Ipv4MpiFlowClassifier.find_flowsInOrder }

theorem classifyAll_faithful_three :
    let s := classifyAll unfiltered 3 [⟨1, datagram 1⟩, ⟨2, datagram 2⟩, ⟨2000, datagram 1⟩]
    s.1.map (fun a => (a.packet, a.flowId.toNat, a.packetId.toNat)) =
        [(datagram 1, 3 * 2 ^ 26 + 1, 0), (datagram 2, 3 * 2 ^ 26 + 2, 0),
          (datagram 1, 3 * 2 ^ 26 + 1, 1)] ∧
      Faithful unfiltered 3 s.1 s.2 := by
  intro s
  refine ⟨by decide, classifyAll_faithful _ _ _ (by decide) fun tuple => ?_⟩
  exact List.count_le_length.trans (by decide)

end SwarmSim.FlowMonitor
