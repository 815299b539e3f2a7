import SwarmSim.FlowMonitor.Numbering

/-! The classifiers of all ranks, with their calls interleaved in any order: every rank counts its
flow ids up from its own number shifted left by 26 bits, of which only six fit in the id. -/

namespace SwarmSim.FlowMonitor

open Ns3 Machine

section

variable {R : ℕ}

def callsOf (r : Fin R) (calls : List (Fin R × Call)) : List Call :=
  (calls.filter fun c => c.1 = r).map Prod.snd

def classifyRanks (cfg : Config) (calls : List (Fin R × Call)) :
    Fin R → List Classified × Ipv4MpiFlowClassifier :=
  calls.foldl (fun s c => Function.update s c.1 (classifyNext cfg (s c.1) c.2)) fun r =>
    ([], Ipv4MpiFlowClassifier.create.setSystemId (BitVec.ofNat 32 r))

def UniqueFlowIds (s : Fin R → List Classified × Ipv4MpiFlowClassifier) : Prop :=
  ∀ r r', ∀ a ∈ (s r).1, ∀ b ∈ (s r').1, a.flowId = b.flowId →
    r = r' ∧ a.packet.fiveTuple = b.packet.fiveTuple

variable {cfg : Config} {calls : List (Fin R × Call)} {r r' : Fin R} {a : Classified}
  {flows : List FiveTuple} {tuple : FiveTuple}

lemma classifyRanks_apply (cfg : Config) (calls : List (Fin R × Call)) (r : Fin R) :
    classifyRanks cfg calls r = classifyAll cfg (BitVec.ofNat 32 r) (callsOf r calls) :=
  foldl_update_apply (classifyNext cfg) calls _ r

lemma classifyRanks_numbers (hfew : (newFlows cfg (callsOf r calls)).length < 2 ^ 26) :
    Numbers cfg (BitVec.ofNat 32 r <<< 26) (callsOf r calls) (classifyRanks cfg calls r) := by
  rw [classifyRanks_apply]
  exact classifyAll_numbers _ (by omega)

lemma idOf_rank_toNat (hfew : flows.length < 2 ^ 26) (ht : tuple ∈ flows) :
    (idOf (BitVec.ofNat 32 r <<< 26) flows tuple).toNat =
      2 ^ 26 * (r % 64) + flows.idxOf tuple + 1 := by
  have hlt := List.idxOf_lt_length_of_mem ht
  rw [idOf, BitVec.toNat_add, BitVec.toNat_shiftLeft, BitVec.toNat_ofNat, BitVec.toNat_ofNat,
    Nat.shiftLeft_eq]
  omega

lemma flowId_toNat (hfew : (newFlows cfg (callsOf r calls)).length < 2 ^ 26)
    (ha : a ∈ (classifyRanks cfg calls r).1) :
    a.tuple ∈ newFlows cfg (callsOf r calls) ∧
      (newFlows cfg (callsOf r calls)).idxOf a.tuple < 2 ^ 26 - 1 ∧
      a.flowId.toNat =
        2 ^ 26 * (r % 64) + (newFlows cfg (callsOf r calls)).idxOf a.tuple + 1 := by
  have h := classifyRanks_numbers hfew
  have hmem : a.tuple ∈ newFlows cfg (callsOf r calls) := h.mem_newFlows.mpr ⟨a, ha, rfl⟩
  have hlt := List.idxOf_lt_length_of_mem hmem
  refine ⟨hmem, by omega, ?_⟩
  rw [h.flowId a ha, idOf_rank_toNat hfew hmem]

lemma first_flowId (hfew : (newFlows cfg (callsOf r calls)).length < 2 ^ 26)
    (hne : newFlows cfg (callsOf r calls) ≠ []) :
    ∃ a ∈ (classifyRanks cfg calls r).1, a.flowId.toNat = 2 ^ 26 * (r % 64) + 1 := by
  obtain ⟨tuple, flows, hflows⟩ := List.exists_cons_of_ne_nil hne
  have hmem : tuple ∈ newFlows cfg (callsOf r calls) := hflows ▸ List.mem_cons_self
  obtain ⟨a, ha, rfl⟩ := (classifyRanks_numbers hfew).mem_newFlows.mp hmem
  obtain ⟨-, -, hid⟩ := flowId_toNat hfew ha
  rw [hflows, List.idxOf_cons_self] at hid
  exact ⟨a, ha, hid⟩

lemma uniqueFlowIds_of_apart
    (hfew : ∀ r, (newFlows cfg (callsOf r calls)).length < 2 ^ 26)
    (hapart : ∀ r r', newFlows cfg (callsOf r calls) ≠ [] → newFlows cfg (callsOf r' calls) ≠ [] →
      (r : ℕ) % 64 = r' % 64 → r = r') : UniqueFlowIds (classifyRanks cfg calls) := by
  intro r r' a ha b hb he
  obtain ⟨hmem, hlt, hid⟩ := flowId_toNat (hfew r) ha
  obtain ⟨hmem', hlt', hid'⟩ := flowId_toNat (hfew r') hb
  have hsum := hid.symm.trans ((congrArg BitVec.toNat he).trans hid')
  have hmod : (r : ℕ) % 64 = r' % 64 := by omega
  obtain rfl := hapart r r' (List.ne_nil_of_mem hmem) (List.ne_nil_of_mem hmem') hmod
  have hidx : (newFlows cfg (callsOf r calls)).idxOf a.tuple =
      (newFlows cfg (callsOf r calls)).idxOf b.tuple := by omega
  exact ⟨rfl, (List.idxOf_inj hmem).mp hidx⟩

lemma apart_of_uniqueFlowIds
    (hfew : ∀ r, (newFlows cfg (callsOf r calls)).length < 2 ^ 26)
    (h : UniqueFlowIds (classifyRanks cfg calls)) (hr : newFlows cfg (callsOf r calls) ≠ [])
    (hr' : newFlows cfg (callsOf r' calls) ≠ []) (hmod : (r : ℕ) % 64 = r' % 64) : r = r' := by
  obtain ⟨a, ha, hid⟩ := first_flowId (hfew r) hr
  obtain ⟨b, hb, hid'⟩ := first_flowId (hfew r') hr'
  have he : a.flowId = b.flowId := BitVec.eq_of_toNat_eq (by rw [hid, hid', hmod])
  exact (h r r' a ha b hb he).1

/-- The flow ids are unique exactly if the ranks that see a new flow differ modulo 64. -/
theorem uniqueFlowIds_iff (cfg : Config) (calls : List (Fin R × Call))
    (hfew : ∀ r, (newFlows cfg (callsOf r calls)).length < 2 ^ 26) :
    UniqueFlowIds (classifyRanks cfg calls) ↔
      ∀ r r', newFlows cfg (callsOf r calls) ≠ [] → newFlows cfg (callsOf r' calls) ≠ [] →
        (r : ℕ) % 64 = r' % 64 → r = r' :=
  ⟨fun h _ _ => apart_of_uniqueFlowIds hfew h, uniqueFlowIds_of_apart hfew⟩

end

lemma newFlows_few {R : ℕ} (cfg : Config) {calls : List (Fin R × Call)} (h : calls.length < 2 ^ 26)
    (r : Fin R) : (newFlows cfg (callsOf r calls)).length < 2 ^ 26 := by
  apply lt_of_le_of_lt _ h
  calc (newFlows cfg (callsOf r calls)).length
      ≤ ((callsOf r calls).filterMap (Call.newFlow cfg)).length := firstSeen_length_le _
    _ ≤ (callsOf r calls).length := List.length_filterMap_le _ _
    _ = (calls.filter fun c => c.1 = r).length := List.length_map _
    _ ≤ calls.length := List.length_filter_le _ _

theorem uniqueFlowIds_iff_two :
    UniqueFlowIds (classifyRanks unfiltered [((0 : Fin 2), ⟨1, datagram 1⟩), (1, ⟨1, datagram 2⟩)]) := by
  apply (uniqueFlowIds_iff unfiltered _ (newFlows_few unfiltered (by decide))).mpr
  intro r r' _ _ hmod
  omega

theorem flowIds_clash_sixtyFive :
    let calls : List (Fin 65 × Call) := [(0, ⟨1, datagram 1⟩), (64, ⟨1, datagram 2⟩)]
    (∀ r, (newFlows unfiltered (callsOf r calls)).length < 2 ^ 26) ∧
      (datagram 1).fiveTuple ≠ (datagram 2).fiveTuple ∧
      (classifyRanks unfiltered calls 0).1 = [⟨datagram 1, 1, 0⟩] ∧
      (classifyRanks unfiltered calls 64).1 = [⟨datagram 2, 1, 0⟩] ∧
      ¬UniqueFlowIds (classifyRanks unfiltered calls) := by
  intro calls
  have hfirst : (classifyRanks unfiltered calls 0).1 = [⟨datagram 1, 1, 0⟩] := by
    rw [classifyRanks_apply]
    rfl
  have hlast : (classifyRanks unfiltered calls 64).1 = [⟨datagram 2, 1, 0⟩] := by
    rw [classifyRanks_apply]
    rfl
  refine ⟨newFlows_few unfiltered (by decide), by decide, hfirst, hlast, fun h => ?_⟩
  have hmem : (⟨datagram 1, 1, 0⟩ : Classified) ∈ (classifyRanks unfiltered calls 0).1 := by
    rw [hfirst]
    exact List.mem_cons_self
  have hmem' : (⟨datagram 2, 1, 0⟩ : Classified) ∈ (classifyRanks unfiltered calls 64).1 := by
    rw [hlast]
    exact List.mem_cons_self
  exact absurd (h 0 64 _ hmem _ hmem' rfl).1 (by decide)

end SwarmSim.FlowMonitor
