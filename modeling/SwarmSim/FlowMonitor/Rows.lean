import Mathlib.Data.List.FinRange
import SwarmSim.FlowMonitor.Run

namespace SwarmSim.FlowMonitor

open Ns3 Machine

variable {cfg : Config} {place : Placement} {T : Trace cfg} {r r' : Fin 64} {s : System}
  {tuple other : FiveTuple} {row : FlowRow} {e : Event}

namespace Trace

def heldRow (place : Placement) (T : Trace cfg) (r : Fin 64) (tuple : FiveTuple) : FlowRow :=
  let x := flowId cfg place T.events tuple
  let delivered := deliveriesOf cfg (deliveredHere place T r x) T.events
  { tuple := tuple
    timeFirstTxPacket :=
      headSendTime T.events (sendsOf cfg (sentHere place T r x) T.events ++ delivered)
    timeLastRxPacket := lastTime delivered
    rxBytes := BitVec.ofNat 64 (bytes delivered) }

def HeldAt (place : Placement) (T : Trace cfg) (r : Fin 64) (tuple : FiveTuple) : Prop :=
  tuple ∈ sentFlows cfg T.events ∧
    deliveriesOf cfg (deliveredHere place T r (flowId cfg place T.events tuple)) T.events ≠ []

lemma mem_sentFlows : tuple ∈ sentFlows cfg T.events ↔
    ∃ e ∈ T.events, e.sentFlow cfg = some tuple := List.mem_filterMap

lemma delivered_sent (he : e ∈ T.events) (hd : e.deliveredFlow cfg = some tuple) :
    tuple ∈ sentFlows cfg T.events := by
  cases e with
  | deliver now p =>
    obtain ⟨es, post, hT⟩ := List.append_of_mem he
    obtain ⟨t, ht⟩ := T.follows_send es now p post hT
    exact mem_sentFlows.mpr ⟨.send t p, hT ▸ List.mem_append_left _ ht, hd⟩
  | _ => cases hd

lemma deliveries_ne_nil : T.deliveries tuple ≠ [] ↔
    ∃ e ∈ T.events, e.deliveredFlow cfg = some tuple := by
  constructor
  · intro hne
    obtain ⟨e, he⟩ := List.exists_mem_of_ne_nil _ hne
    obtain ⟨hmem, t, ht, hsel⟩ := mem_deliveriesOf.mp he
    exact ⟨e, hmem, (of_decide_eq_true hsel) ▸ ht⟩
  · rintro ⟨e, hmem, ht⟩
    exact List.ne_nil_of_mem (mem_deliveriesOf.mpr ⟨hmem, tuple, ht, decide_eq_true rfl⟩)

lemma sent_of_deliveries (h : T.deliveries tuple ≠ []) : tuple ∈ sentFlows cfg T.events := by
  obtain ⟨e, he, hd⟩ := deliveries_ne_nil.mp h
  exact delivered_sent he hd

lemma heldAt_of_deliveries (h : T.deliveries tuple ≠ [])
    (hr : place tuple.destinationAddress = r) : T.HeldAt place r tuple := by
  obtain ⟨e, he, hd⟩ := deliveries_ne_nil.mp h
  exact ⟨sent_of_deliveries h, List.ne_nil_of_mem (mem_deliveriesOf.mpr
    ⟨he, tuple, hd, decide_eq_true ⟨hr, rfl⟩⟩)⟩

lemma lastTime_ne_zero {l : List Event} (hl : l ≠ []) (h : ∀ e ∈ l, e ∈ T.events) :
    lastTime l ≠ 0 := by
  rw [lastTime, List.getLast?_eq_some_getLast hl]
  exact (T.time_pos _ (h _ (List.getLast_mem hl))).ne'

end Trace

lemma System.mem_rows : row ∈ s.rows ↔ ∃ r, row ∈ s.rankRows r := by
  simp only [System.rows, List.mem_flatMap, List.mem_finRange, true_and]

namespace Follows

variable {x : FlowId} {flow : FiveTuple × FlowId}

lemma mem_flowMap (h : Follows place T T.events s) :
    (⟨tuple, x⟩ : Σ _ : FiveTuple, FlowId) ∈ (s.ranks r).classifier.flowMap.entries ↔
      tuple ∈ sentFlows cfg T.events ∧ place tuple.sourceAddress = r ∧
        flowId cfg place T.events tuple = x := by
  rw [← AList.mem_lookup_iff, (h.ranks r).flowMap, Option.mem_def, Option.ite_none_right_eq_some,
    mem_flowsFrom, Option.some.injEq, and_assoc]

lemma mem_flowIds (h : Follows place T T.events s) : flow ∈ s.flowIds ↔
    flow.1 ∈ sentFlows cfg T.events ∧ flowId cfg place T.events flow.1 = flow.2 := by
  simp only [System.flowIds, List.mem_flatMap, List.mem_finRange, true_and, List.mem_map]
  constructor
  · rintro ⟨r, ⟨tuple, x⟩, hmem, rfl⟩
    obtain ⟨hsent, -, hid⟩ := h.mem_flowMap.mp hmem
    exact ⟨hsent, hid⟩
  · rintro ⟨hsent, hid⟩
    exact ⟨_, ⟨flow.1, flow.2⟩, h.mem_flowMap.mpr ⟨hsent, rfl, hid⟩, rfl⟩

lemma flowIds_nodup (h : Follows place T T.events s) : s.flowIds.Nodup := by
  apply List.nodup_flatMap.mpr
  constructor
  · intro r _
    apply List.Nodup.map
    · rintro ⟨t, x⟩ ⟨t', x'⟩ he
      cases he
      rfl
    · exact List.Nodup.of_map _ (s.ranks r).classifier.flowMap.keys_nodup
  · apply (List.nodup_finRange 64).imp
    intro r r' hne flow hr hr'
    obtain ⟨⟨tuple, x⟩, hmem, rfl⟩ := List.mem_map.mp hr
    obtain ⟨⟨tuple', x'⟩, hmem', he⟩ := List.mem_map.mp hr'
    cases he
    exact hne ((h.mem_flowMap.mp hmem).2.1.symm.trans (h.mem_flowMap.mp hmem').2.1)

lemma mem_shownFlows (h : Follows place T T.events s) {stats : FlowStats} :
    (x, stats) ∈ (s.ranks r).monitor.shownFlows ↔
      (s.ranks r).monitor.getStatsForFlow x = stats ∧
        deliveriesOf cfg (deliveredHere place T r x) T.events ≠ [] := by
  rw [MpiFlowMonitor.mem_shownFlows]
  apply and_congr_right
  rintro rfl
  have ht := (h.ranks r).tallies x
  rw [ht.timeFirstTxPacket, ht.timeLastRxPacket]
  constructor
  · rintro ⟨-, hlast⟩ hnil
    exact hlast (by rw [hnil]; rfl)
  · intro hne
    refine ⟨RankFollows.headSendTime_ne_zero (List.append_nil T.events).symm x ?_,
      Trace.lastTime_ne_zero hne fun e he => (mem_deliveriesOf.mp he).1⟩
    exact List.append_ne_nil_of_right_ne_nil _ hne

lemma mem_rankRows (h : Follows place T T.events s) : row ∈ s.rankRows r ↔
    T.HeldAt place r row.tuple ∧ T.heldRow place r row.tuple = row := by
  simp only [System.rankRows, List.mem_flatMap, List.mem_map, List.mem_filter, decide_eq_true_eq]
  constructor
  · rintro ⟨⟨x, stats⟩, hshown, ⟨tuple, y⟩, ⟨hmem, rfl⟩, rfl⟩
    obtain ⟨rfl, hne⟩ := h.mem_shownFlows.mp hshown
    obtain ⟨hsent, hid⟩ := h.mem_flowIds.mp hmem
    obtain rfl : flowId cfg place T.events tuple = y := hid
    have ht := (h.ranks r).tallies (flowId cfg place T.events tuple)
    refine ⟨⟨hsent, hne⟩, ?_⟩
    rw [Trace.heldRow, ht.timeFirstTxPacket, ht.timeLastRxPacket, ht.rxBytes]
  · rintro ⟨⟨hsent, hne⟩, hrow⟩
    have ht := (h.ranks r).tallies (flowId cfg place T.events row.tuple)
    refine ⟨_, h.mem_shownFlows.mpr ⟨rfl, hne⟩, (row.tuple, _),
      ⟨h.mem_flowIds.mpr ⟨hsent, rfl⟩, rfl⟩, ?_⟩
    rw [ht.timeFirstTxPacket, ht.timeLastRxPacket, ht.rxBytes]
    exact hrow

lemma heldRow_mem (h : Follows place T T.events s) (hheld : T.HeldAt place r tuple) :
    T.heldRow place r tuple ∈ s.rankRows r :=
  h.mem_rankRows.mpr ⟨hheld, rfl⟩

lemma rankRows_nodup (h : Follows place T T.events s) (r : Fin 64) : (s.rankRows r).Nodup := by
  apply List.nodup_flatMap.mpr
  constructor
  · rintro ⟨x, stats⟩ -
    apply (h.flowIds_nodup.filter _).map_on
    rintro ⟨t, y⟩ hy ⟨t', y'⟩ hy' he
    obtain rfl : t = t' := congrArg FlowRow.tuple he
    have hy : y = x := of_decide_eq_true (List.mem_filter.mp hy).2
    have hy' : y' = x := of_decide_eq_true (List.mem_filter.mp hy').2
    rw [hy, hy']
  · apply (List.pairwise_map.mp (s.ranks r).monitor.shownFlows_nodup).imp
    rintro ⟨x, stats⟩ ⟨x', stats'⟩ hne row hrow hrow'
    obtain ⟨⟨t, y⟩, hmem, rfl⟩ := List.mem_map.mp hrow
    obtain ⟨⟨t', y'⟩, hmem', he⟩ := List.mem_map.mp hrow'
    obtain rfl : t' = t := congrArg FlowRow.tuple he
    obtain ⟨hflow, hy⟩ := List.mem_filter.mp hmem
    obtain ⟨hflow', hy'⟩ := List.mem_filter.mp hmem'
    apply hne
    calc x = y := (of_decide_eq_true hy).symm
      _ = flowId cfg place T.events t' := (h.mem_flowIds.mp hflow).2.symm
      _ = y' := (h.mem_flowIds.mp hflow').2
      _ = x' := of_decide_eq_true hy'

end Follows

end SwarmSim.FlowMonitor
